import Footage.Json.Literal

namespace Footage.Json

-- The words and marks of a text, each with all that it was written with.
inductive Token
  | openArray
  | closeArray
  | openObject
  | closeObject
  | comma
  | colon
  | null
  | bool (b : Bool)
  | number (n : Numeral)
  | string (pieces : List Piece)
  | bad
deriving DecidableEq, Repr

namespace Token

def isBlank (c : Char) : Bool := c == ' ' || c == '\t' || c == '\n' || c == '\r'

def mark? (c : Char) : Option Token :=
  if c = '[' then some .openArray
  else if c = ']' then some .closeArray
  else if c = '\x7b' then some .openObject
  else if c = '\x7d' then some .closeObject
  else if c = ',' then some .comma
  else if c = ':' then some .colon
  else none

def word? : List Char → Option (Token × List Char)
  | 'n' :: 'u' :: 'l' :: 'l' :: rest => some (.null, rest)
  | 't' :: 'r' :: 'u' :: 'e' :: rest => some (.bool true, rest)
  | 'f' :: 'a' :: 'l' :: 's' :: 'e' :: rest => some (.bool false, rest)
  | _ => none

-- The character named by one letter after a backslash.
def escape? (c : Char) : Option Char :=
  if c = '"' then some '"'
  else if c = '\\' then some '\\'
  else if c = '/' then some '/'
  else if c = 'b' then some '\x08'
  else if c = 'f' then some '\x0c'
  else if c = 'n' then some '\n'
  else if c = 'r' then some '\r'
  else if c = 't' then some '\t'
  else none

-- The UTF-16 unit named by four hexadecimal digits.
def unit? (a b c d : Char) : Option Nat := do
  let a ← Hex.digit? a
  let b ← Hex.digit? b
  let c ← Hex.digit? c
  let d ← Hex.digit? d
  return ((a.val * 16 + b.val) * 16 + c.val) * 16 + d.val

-- A string up to its closing quote, and what comes after it.
def string? : List Char → Option (List Piece × List Char)
  | [] => none
  | '"' :: rest => some ([], rest)
  | '\\' :: 'u' :: a :: b :: c :: d :: rest =>
    match unit? a b c d, string? rest with
    | some u, some (pieces, after) => some (.unit u :: pieces, after)
    | _, _ => none
  | '\\' :: e :: rest =>
    match escape? e, string? rest with
    | some c, some (pieces, after) => some (.char c :: pieces, after)
    | _, _ => none
  | c :: rest =>
    if c.toNat < 32 then none
    else match string? rest with
      | some (pieces, after) => some (.char c :: pieces, after)
      | none => none

theorem string?_shorter {cs after : List Char} {pieces : List Piece}
    (h : string? cs = some (pieces, after)) : after.length < cs.length := by
  fun_induction string? cs generalizing pieces after with
  | case1 => simp at h
  | case2 rest =>
    obtain ⟨rfl, rfl⟩ := by simpa using h
    simp
  | case3 a b c d rest u ps more hr hu ih =>
    obtain ⟨rfl, rfl⟩ := by simpa using h
    have := ih hr
    simp only [List.length_cons]
    omega
  | case4 => simp at h
  | case5 e rest _ c ps more hr he ih =>
    obtain ⟨rfl, rfl⟩ := by simpa using h
    have := ih hr
    simp only [List.length_cons]
    omega
  | case6 => simp at h
  | case7 => simp at h
  | case8 c rest _ _ _ _ ps more hr ih =>
    obtain ⟨rfl, rfl⟩ := by simpa using h
    have := ih hr
    simp only [List.length_cons]
    omega
  | case9 => simp at h

def digits : List Char → List Nat × List Char
  | [] => ([], [])
  | c :: cs =>
    match Decimal.digit? c with
    | some d => (d :: (digits cs).1, (digits cs).2)
    | none => ([], c :: cs)

theorem length_digits (cs : List Char) :
    (digits cs).1.length + (digits cs).2.length = cs.length := by
  fun_induction digits cs with
  | case1 => rfl
  | case2 c cs d h ih =>
    simp only [List.length_cons]
    omega
  | case3 => simp

-- A point has a digit after it.
def fraction? : List Char → Option (List Nat × List Char)
  | '.' :: rest =>
    let (ds, after) := digits rest
    if ds.isEmpty then none else some (ds, after)
  | rest => some ([], rest)

def sign : List Char → Bool × List Char
  | '-' :: rest => (true, rest)
  | '+' :: rest => (false, rest)
  | rest => (false, rest)

def exponentOf (rest : List Char) : Option (Option Int × List Char) :=
  let (negative, rest) := sign rest
  let (ds, after) := digits rest
  let size : Int := Decimal.value ds
  if ds.isEmpty then none else some (some (if negative then -size else size), after)

def exponent? : List Char → Option (Option Int × List Char)
  | 'e' :: rest => exponentOf rest
  | 'E' :: rest => exponentOf rest
  | rest => some (none, rest)

def minus : List Char → Bool × List Char
  | '-' :: rest => (true, rest)
  | rest => (false, rest)

-- No number starts with a zero that is followed by another digit.
def numeral? (cs : List Char) : Option (Numeral × List Char) :=
  let (negative, cs) := minus cs
  let (whole, cs) := digits cs
  if whole.isEmpty || (whole.head? == some 0 && whole.length != 1) then none
  else
    match fraction? cs with
    | none => none
    | some (fraction, cs) =>
      match exponent? cs with
      | none => none
      | some (exponent, cs) => some (⟨negative, whole, fraction, exponent⟩, cs)

theorem fraction?_no_longer {cs after : List Char} {ds : List Nat}
    (h : fraction? cs = some (ds, after)) : after.length ≤ cs.length := by
  unfold fraction? at h
  split at h
  · rename_i rest
    have := length_digits rest
    dsimp only at h
    split at h
    · simp at h
    · simp only [Option.some.injEq, Prod.mk.injEq] at h
      rw [← h.2, List.length_cons]
      omega
  · simp only [Option.some.injEq, Prod.mk.injEq] at h
    exact Nat.le_of_eq (congrArg List.length h.2.symm)

theorem length_sign (cs : List Char) : (sign cs).2.length ≤ cs.length := by
  unfold sign
  split <;> simp

theorem exponentOf_no_longer {cs after : List Char} {e : Option Int}
    (h : exponentOf cs = some (e, after)) : after.length ≤ cs.length := by
  have hs := length_sign cs
  have hd := length_digits (sign cs).2
  simp only [exponentOf] at h
  split at h
  · simp at h
  · simp only [Option.some.injEq, Prod.mk.injEq] at h
    rw [← h.2]
    omega

theorem exponent?_no_longer {cs after : List Char} {e : Option Int}
    (h : exponent? cs = some (e, after)) : after.length ≤ cs.length := by
  unfold exponent? at h
  split at h
  · have := exponentOf_no_longer h
    simp only [List.length_cons]
    omega
  · have := exponentOf_no_longer h
    simp only [List.length_cons]
    omega
  · obtain ⟨-, rfl⟩ := by simpa using h
    exact Nat.le_refl _

theorem length_minus (cs : List Char) : (minus cs).2.length ≤ cs.length := by
  unfold minus
  split <;> simp

theorem numeral?_shorter {cs after : List Char} {n : Numeral}
    (h : numeral? cs = some (n, after)) : after.length < cs.length := by
  have hm := length_minus cs
  have hd := length_digits (minus cs).2
  simp only [numeral?] at h
  split at h
  · simp at h
  · rename_i hw
    have hpos : 0 < (digits (minus cs).2).1.length := by
      cases hl : (digits (minus cs).2).1 with
      | nil => simp [hl] at hw
      | cons => simp
    split at h
    · simp at h
    · rename_i hf
      have := fraction?_no_longer hf
      split at h
      · simp at h
      · rename_i he
        have := exponent?_no_longer he
        obtain ⟨-, rfl⟩ := by simpa using h
        omega

-- The token a text begins with, and what comes after it.
def next? : List Char → Option (Token × List Char)
  | [] => none
  | c :: cs =>
    match mark? c with
    | some t => some (t, cs)
    | none =>
      if c = '"' then (string? cs).map fun (pieces, rest) => (.string pieces, rest)
      else match word? (c :: cs) with
        | some found => some found
        | none => (numeral? (c :: cs)).map fun (n, rest) => (.number n, rest)

theorem word?_shorter {cs after : List Char} {t : Token}
    (h : word? cs = some (t, after)) : after.length < cs.length := by
  unfold word? at h
  split at h <;> simp at h <;> obtain ⟨-, rfl⟩ := h <;> simp only [List.length_cons] <;> omega

theorem next?_shorter {cs after : List Char} {t : Token}
    (h : next? cs = some (t, after)) : after.length < cs.length := by
  unfold next? at h
  split at h
  · simp at h
  · split at h
    · obtain ⟨-, rfl⟩ := by simpa using h
      simp
    · split at h
      · obtain ⟨⟨ps, rest⟩, hs, he⟩ := Option.map_eq_some_iff.1 h
        obtain ⟨-, rfl⟩ := by simpa using he
        have := string?_shorter hs
        simp only [List.length_cons]
        omega
      · split at h
        · rename_i hw
          obtain rfl := by simpa using h
          exact word?_shorter hw
        · obtain ⟨⟨n, rest⟩, hn, he⟩ := Option.map_eq_some_iff.1 h
          obtain ⟨-, rfl⟩ := by simpa using he
          exact numeral?_shorter hn

-- All tokens of a text. What is no token ends it as a bad one.
def all : List Char → List Token
  | [] => []
  | c :: cs =>
    if isBlank c then all cs
    else match _h : next? (c :: cs) with
      | none => [.bad]
      | some (t, rest) => t :: all rest
termination_by cs => cs.length
decreasing_by
  · simp
  · exact next?_shorter _h

end Token

end Footage.Json
