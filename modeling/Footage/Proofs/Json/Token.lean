import Footage.Json.Token
import Footage.Json.Printer
import Footage.Proofs.Json.Literal

namespace Footage.Json.Token

theorem all_cons_of_next? {c : Char} {cs rest : List Char} {t : Token} (hb : isBlank c = false)
    (h : next? (c :: cs) = some (t, rest)) : all (c :: cs) = t :: all rest := by
  rw [all, if_neg (by simp [hb])]
  split
  · rename_i hn
    rw [h] at hn
    contradiction
  · rename_i t' rest' hn
    rw [h] at hn
    cases hn
    rfl

theorem all_cons_of_mark? {c : Char} {t : Token} (hb : isBlank c = false)
    (h : mark? c = some t) (cs : List Char) : all (c :: cs) = t :: all cs := by
  apply all_cons_of_next? hb
  rw [next?, h]

theorem all_null (cs : List Char) : all ("null".toList ++ cs) = .null :: all cs :=
  all_cons_of_next? rfl rfl

theorem all_true (cs : List Char) : all ("true".toList ++ cs) = .bool true :: all cs :=
  all_cons_of_next? rfl rfl

theorem all_false (cs : List Char) : all ("false".toList ++ cs) = .bool false :: all cs :=
  all_cons_of_next? rfl rfl

section Strings

theorem unit?_of_lt {n : Nat} (h : n < 32) :
    unit? '0' '0' (Nat.digitChar (n / 16)) (Nat.digitChar (n % 16)) = some n := by
  revert n
  decide

-- Puts a piece in front of what was read of a string.
def withPiece (p : Piece) (found : Option (List Piece × List Char)) :
    Option (List Piece × List Char) :=
  found.map fun (pieces, rest) => (p :: pieces, rest)

variable (cs : List Char)

theorem string?_letter {e c : Char} (hu : e ≠ 'u') (he : escape? e = some c) :
    string? ('\\' :: e :: cs) = withPiece (.char c) (string? cs) := by
  rw [string?, he]
  · cases string? cs <;> rfl
  · intro _ _ _ _ _ h
    exact absurd h hu

theorem string?_unit {a b c d : Char} {u : Nat} (hu : unit? a b c d = some u) :
    string? ('\\' :: 'u' :: a :: b :: c :: d :: cs) = withPiece (.unit u) (string? cs) := by
  rw [string?, hu]
  cases string? cs <;> rfl

theorem string?_self {c : Char} (hq : c ≠ '"') (hb : c ≠ '\\') (hc : ¬c.toNat < 32) :
    string? (c :: cs) = withPiece (.char c) (string? cs) := by
  rw [string?, if_neg hc]
  · cases string? cs <;> rfl
  · exact hq
  · intro _ _ _ _ _ h
    exact absurd h hb
  · intro _ _ h
    exact absurd h hb

-- A printed character is read as one piece, in each of the ways it can be printed.
theorem string?_escaped (c : Char) :
    string? (escaped c ++ cs) = withPiece (Piece.ofChar c) (string? cs) := by
  unfold escaped
  -- the quote, the backslash and the five that have a letter
  iterate 7
    split
    · subst_vars
      exact string?_letter cs (by decide) rfl
  split
  · rename_i hc
    have hnumber : Piece.ofChar c = .unit c.toNat := if_pos ⟨hc, by simp_all⟩
    rw [hnumber]
    exact string?_unit cs (unit?_of_lt hc)
  · rename_i hq hb _ _ _ _ _ hc
    have hself : Piece.ofChar c = .char c := if_neg fun h => hc h.1
    rw [hself]
    exact string?_self cs hq hb hc

theorem string?_quoted (s : List Char) :
    string? (s.flatMap escaped ++ '"' :: cs) = some (s.map Piece.ofChar, cs) := by
  induction s with
  | nil => rfl
  | cons c s ih =>
      rw [List.flatMap_cons, List.append_assoc, string?_escaped, ih]
      rfl

theorem all_quoted (s : String) :
    all ((quoted s).toList ++ cs) = .string (s.toList.map Piece.ofChar) :: all cs := by
  have htext : (quoted s).toList ++ cs = '"' :: (s.toList.flatMap escaped ++ '"' :: cs) := by
    simp [quoted]
  rw [htext]
  apply all_cons_of_next? rfl
  show (string? (s.toList.flatMap escaped ++ '"' :: cs)).map _ = _
  rw [string?_quoted]
  rfl

end Strings

section Numbers

-- A text in which no number that was read so far goes on.
def Ends (cs : List Char) : Prop :=
  ∀ c, cs.head? = some c → c.isDigit = false ∧ c ≠ '.' ∧ c ≠ 'e' ∧ c ≠ 'E'

theorem ends_cons {c : Char} (h : c.isDigit = false ∧ c ≠ '.' ∧ c ≠ 'e' ∧ c ≠ 'E')
    (cs : List Char) : Ends (c :: cs) := by
  intro d hd
  cases hd
  exact h

variable {cs : List Char}

theorem digit?_eq_none {c : Char} (h : c.isDigit = false) : Decimal.digit? c = none := by
  cases hd : Decimal.digit? c with
  | none => rfl
  | some d =>
      have hc := (Decimal.digit?_eq_some_iff.mp hd).1
      rw [h] at hc
      contradiction

-- Digits are read up to the first character that is none.
theorem digits_append {ds : List Char} (hd : ∀ c ∈ ds, c.isDigit = true) (he : Ends cs) :
    digits (ds ++ cs) = (ds.map fun c => c.toNat - 48, cs) := by
  induction ds with
  | nil =>
      cases cs with
      | nil => rfl
      | cons c cs =>
          have hc := digit?_eq_none (he c rfl).1
          rw [List.nil_append, digits, hc]
          rfl
  | cons c ds ih =>
      rw [List.forall_mem_cons] at hd
      have hc := Decimal.digit?_eq_some_iff.mpr ⟨hd.1, rfl⟩
      rw [List.cons_append, digits, hc]
      simp only [ih hd.2, List.map_cons]

theorem fraction?_of_ends (he : Ends cs) : fraction? cs = some ([], cs) := by
  unfold fraction?
  split
  · exact absurd rfl (he '.' rfl).2.1
  · rfl

theorem exponent?_of_ends (he : Ends cs) : exponent? cs = some (none, cs) := by
  unfold exponent?
  split
  · exact absurd rfl (he 'e' rfl).2.2.1
  · exact absurd rfl (he 'E' rfl).2.2.2
  · rfl

theorem eq_zero_of_isDigit {c : Char} (hd : c.isDigit = true) (h : c.toNat - 48 = 0) : c = '0' := by
  rw [Char.isDigit_iff_toNat] at hd
  have h0 : '0'.toNat = 48 := rfl
  exact Char.toNat_inj.mp (by omega)

-- The digits of a number are not empty, and only zero starts with a zero.
theorem whole_ok (n : Nat) :
    let whole := (Decimal.digits n).map fun c => c.toNat - 48
    (whole.isEmpty || (whole.head? == some 0 && whole.length != 1)) = false := by
  intro whole
  have hne : whole.isEmpty = false := by
    simpa [whole] using Decimal.digits_ne_nil n
  rw [hne, Bool.false_or, Bool.and_eq_false_iff]
  by_cases hn : 0 < n
  · left
    have hhead := Decimal.head?_digits hn
    simp only [whole, List.head?_map]
    cases hd : (Decimal.digits n).head? with
    | none => rfl
    | some c =>
        have hdigit := Decimal.isDigit_of_mem_digits (List.mem_of_head? hd)
        rw [Option.map_some, Option.some_beq_some, beq_eq_false_iff_ne]
        intro hzero
        exact hhead (by rw [hd, eq_zero_of_isDigit hdigit hzero])
  · right
    obtain rfl : n = 0 := by omega
    rfl

theorem numeral?_of_minus {negative : Bool} {text : List Char} {n : Nat}
    (hm : minus text = (negative, Decimal.digits n ++ cs)) (he : Ends cs) :
    numeral? text =
      some (⟨negative, (Decimal.digits n).map fun c => c.toNat - 48, [], none⟩, cs) := by
  have hd := digits_append (fun _ hc => Decimal.isDigit_of_mem_digits (n := n) hc) he
  unfold numeral?
  simp only [hm, hd, whole_ok, fraction?_of_ends he, exponent?_of_ends he]
  rfl

theorem minus_digits (n : Nat) (cs : List Char) :
    minus (Decimal.digits n ++ cs) = (false, Decimal.digits n ++ cs) := by
  unfold minus
  split
  · rename_i rest h
    cases hd : Decimal.digits n with
    | nil => exact absurd hd (Decimal.digits_ne_nil n)
    | cons c ds =>
        rw [hd, List.cons_append] at h
        have hdash := Decimal.not_mem_digits (c := '-') rfl n
        rw [hd, (List.cons.inj h).1] at hdash
        exact absurd List.mem_cons_self hdash
  · rfl

theorem numeral?_ofInt (n : Int) (he : Ends cs) :
    numeral? ((Decimal.ofInt n).toList ++ cs) = some (Numeral.ofInt n, cs) := by
  unfold Numeral.ofInt
  by_cases hn : n < 0
  · rw [Decimal.toList_ofInt_of_neg hn, decide_eq_true hn]
    exact numeral?_of_minus rfl he
  · rw [Decimal.toList_ofInt_of_nonneg (by omega), decide_eq_false hn]
    exact numeral?_of_minus (minus_digits n.natAbs cs) he

theorem exists_start (n : Int) :
    ∃ c text, (Decimal.ofInt n).toList = c :: text ∧ (c.isDigit = true ∨ c = '-') := by
  by_cases hn : n < 0
  · exact ⟨_, _, Decimal.toList_ofInt_of_neg hn, Or.inr rfl⟩
  · rw [Decimal.toList_ofInt_of_nonneg (by omega)]
    cases hd : Decimal.digits n.natAbs with
    | nil => exact absurd hd (Decimal.digits_ne_nil n.natAbs)
    | cons c text =>
        have hc := Decimal.isDigit_of_mem_digits (hd ▸ List.mem_cons_self)
        exact ⟨c, text, rfl, Or.inl hc⟩

-- No blank and no other token starts like a number.
theorem next?_of_numeral? {c : Char} {text rest : List Char} {n : Numeral}
    (hc : c.isDigit = true ∨ c = '-') (h : numeral? (c :: text) = some (n, rest)) :
    isBlank c = false ∧ next? (c :: text) = some (.number n, rest) := by
  have hne : ∀ d : Char, d.isDigit = false → d ≠ '-' → c ≠ d := by
    rintro d hd hdash rfl
    rcases hc with hc | hc
    · rw [hd] at hc
      contradiction
    · exact hdash hc
  have hblank : isBlank c = false := by
    simp only [isBlank, Bool.or_eq_false_iff, beq_eq_false_iff_ne]
    exact ⟨⟨⟨hne ' ' rfl (by decide), hne '\t' rfl (by decide)⟩, hne '\n' rfl (by decide)⟩,
      hne '\r' rfl (by decide)⟩
  have hmark : mark? c = none := by
    simp only [mark?, hne '[' rfl (by decide), hne ']' rfl (by decide), hne '\x7b' rfl (by decide),
      hne '\x7d' rfl (by decide), hne ',' rfl (by decide), hne ':' rfl (by decide), if_false]
  have hword : word? (c :: text) = none := by
    unfold word?
    split
    · exact absurd (List.cons.inj ‹_›).1 (hne 'n' rfl (by decide))
    · exact absurd (List.cons.inj ‹_›).1 (hne 't' rfl (by decide))
    · exact absurd (List.cons.inj ‹_›).1 (hne 'f' rfl (by decide))
    · rfl
  refine ⟨hblank, ?_⟩
  rw [next?, hmark]
  simp only [hne '"' rfl (by decide), if_false, hword, h, Option.map_some]

theorem all_ofInt (n : Int) (he : Ends cs) :
    all ((Decimal.ofInt n).toList ++ cs) = .number (Numeral.ofInt n) :: all cs := by
  have hn := numeral?_ofInt n he
  obtain ⟨c, text, htext, hc⟩ := exists_start n
  rw [htext, List.cons_append] at hn ⊢
  obtain ⟨hb, hnext⟩ := next?_of_numeral? hc hn
  exact all_cons_of_next? hb hnext

end Numbers

end Footage.Json.Token
