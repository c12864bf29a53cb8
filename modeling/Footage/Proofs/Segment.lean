import Footage.Proofs.Decimal
import Footage.Proofs.Text
import Footage.Segment

namespace Footage.Segment

open Text

-- A number, as one or more decimal digits.
structure Row (cs : List Char) (n : Int) : Prop where
  ne_nil : cs ≠ []
  isDigit : ∀ c ∈ cs, c.isDigit = true
  value : (Nat.ofDigitChars 10 cs 0 : Int) = n

-- A number that may be left out.
inductive OptionalRow : List Char → Option Int → Prop
  | absent : OptionalRow [] none
  | present {cs : List Char} {n : Int} : Row cs n → OptionalRow cs (some n)

-- `START_ID[-END_ID]`
inductive Run : List Char → Int → Option Int → Prop
  | single {cs : List Char} {n : Int} : Row cs n → Run cs n none
  | several {cs ds : List Char} {m n : Int} : Row cs m → Row ds n → Run (cs ++ '-' :: ds) m (some n)

-- `[.[REL_START]-[REL_END]]`
inductive Part : List Char → Option Int → Option Int → Prop
  | whole : Part [] none none
  | between {cs ds : List Char} {m n : Option Int} :
      OptionalRow cs m → OptionalRow ds n → Part ('.' :: (cs ++ '-' :: ds)) m n

-- `START_ID[-END_ID]@OPEN_ID[.[REL_START]-[REL_END]]`
inductive Form : List Char → Segment → Prop
  | intro {run opening part : List Char} {startId openId : Int}
      {endId relStart relEnd : Option Int} :
      Run run startId endId → Row opening openId → Part part relStart relEnd →
      Form (run ++ '@' :: (opening ++ part)) ⟨startId, endId, openId, relStart, relEnd⟩

def row? (cs : List Char) : Option Int :=
  if cs.isEmpty then none else (Decimal.read? cs).map Int.ofNat

def optionalRow? (cs : List Char) : Option (Option Int) :=
  if cs.isEmpty then some none else (row? cs).map some

def run? (cs : List Char) : Option (Int × Option Int) :=
  match cut? '-' cs with
  | none => (row? cs).map fun n => (n, none)
  | some (l, r) => do return (← row? l, some (← row? r))

def between? (cs : List Char) : Option (Option Int × Option Int) := do
  let (l, r) ← cut? '-' cs
  return (← optionalRow? l, ← optionalRow? r)

def opening? (cs : List Char) : Option (Int × Option Int × Option Int) :=
  match cut? '.' cs with
  | none => (row? cs).map fun n => (n, none, none)
  | some (l, r) => do return (← row? l, ← between? r)

-- Reads the form above: it is cut at `@`, and then each half on its own.
def parse? (text : String) : Option Segment := do
  let (run, rest) ← cut? '@' text.toList
  let (startId, endId) ← run? run
  let (openId, relStart, relEnd) ← opening? rest
  return ⟨startId, endId, openId, relStart, relEnd⟩

theorem row?_eq_some_iff {cs : List Char} {n : Int} : row? cs = some n ↔ Row cs n := by
  unfold row?
  by_cases hcs : cs = []
  · subst hcs
    constructor
    · intro h
      contradiction
    · intro h
      exact absurd rfl h.ne_nil
  · have he : cs.isEmpty = false := by simpa using hcs
    rw [he, if_neg Bool.false_ne_true, Option.map_eq_some_iff]
    constructor
    · rintro ⟨m, hm, rfl⟩
      obtain ⟨hall, rfl⟩ := Decimal.read?_eq_some_iff.mp hm
      exact ⟨hcs, hall, rfl⟩
    · intro h
      exact ⟨_, Decimal.read?_eq_some_iff.mpr ⟨h.isDigit, rfl⟩, h.value⟩

-- What is no digit does not stand in a number, nor between the numbers of a run but for
-- the dash.
theorem Row.notMem {cs : List Char} {n : Int} (h : Row cs n) {c : Char}
    (hc : c.isDigit = false) : c ∉ cs := Decimal.notMem_of_isDigit h.isDigit hc

theorem OptionalRow.notMem {cs : List Char} {n : Option Int} (h : OptionalRow cs n) {c : Char}
    (hc : c.isDigit = false) : c ∉ cs := by
  cases h with
  | absent => exact List.not_mem_nil
  | present hr => exact hr.notMem hc

theorem Run.notMem {cs : List Char} {m : Int} {n : Option Int} (h : Run cs m n) {c : Char}
    (hc : c.isDigit = false) (hdash : c ≠ '-') : c ∉ cs := by
  cases h with
  | single hr => exact hr.notMem hc
  | several hm hn =>
      rw [List.mem_append, List.mem_cons, not_or, not_or]
      exact ⟨hm.notMem hc, hdash, hn.notMem hc⟩

theorem optionalRow?_eq_some_iff {cs : List Char} {n : Option Int} :
    optionalRow? cs = some n ↔ OptionalRow cs n := by
  unfold optionalRow?
  by_cases hcs : cs = []
  · subst hcs
    constructor
    · intro h
      cases h
      exact .absent
    · intro h
      cases h with
      | absent => rfl
      | present hr => exact absurd rfl hr.ne_nil
  · have he : cs.isEmpty = false := by simpa using hcs
    rw [he, if_neg Bool.false_ne_true, Option.map_eq_some_iff]
    constructor
    · rintro ⟨m, hm, rfl⟩
      exact .present (row?_eq_some_iff.mp hm)
    · intro h
      cases h with
      | absent => contradiction
      | present hr => exact ⟨_, row?_eq_some_iff.mpr hr, rfl⟩

theorem run?_eq_some_iff {cs : List Char} {m : Int} {n : Option Int} :
    run? cs = some (m, n) ↔ Run cs m n := by
  unfold run?
  constructor
  · intro h
    split at h
    · obtain ⟨_, hr, he⟩ := Option.map_eq_some_iff.mp h
      cases he
      exact .single (row?_eq_some_iff.mp hr)
    · rename_i l r hcut
      obtain ⟨rfl, -⟩ := cut?_eq_some_iff.mp hcut
      simp only [bind, pure, Option.bind_eq_some_iff, row?_eq_some_iff] at h
      obtain ⟨_, hm, _, hn, he⟩ := h
      cases he
      exact .several hm hn
  · intro h
    cases h with
    | single hr =>
        rw [cut?_eq_none_iff.mpr (hr.notMem rfl)]
        exact Option.map_eq_some_iff.mpr ⟨m, row?_eq_some_iff.mpr hr, rfl⟩
    | several hm hn =>
        rw [cut?_eq_some_iff.mpr ⟨rfl, hm.notMem rfl⟩]
        simp only [bind, pure, row?_eq_some_iff.mpr hm, row?_eq_some_iff.mpr hn,
          Option.bind_some]

theorem between?_eq_some_iff {cs : List Char} {m n : Option Int} :
    between? cs = some (m, n) ↔ Part ('.' :: cs) m n := by
  simp only [between?, bind, pure, Option.bind_eq_some_iff, optionalRow?_eq_some_iff]
  constructor
  · rintro ⟨⟨l, r⟩, hcut, _, hm, _, hn, he⟩
    cases he
    obtain ⟨rfl, -⟩ := cut?_eq_some_iff.mp hcut
    exact .between hm hn
  · intro h
    cases h with
    | between hm hn => exact ⟨_, cut?_eq_some_iff.mpr ⟨rfl, hm.notMem rfl⟩, _, hm, _, hn, rfl⟩

theorem opening?_eq_some_iff {cs : List Char} {n : Int} {relStart relEnd : Option Int} :
    opening? cs = some (n, relStart, relEnd) ↔
      ∃ opening part, cs = opening ++ part ∧ Row opening n ∧ Part part relStart relEnd := by
  unfold opening?
  constructor
  · intro h
    split at h
    · obtain ⟨_, hr, he⟩ := Option.map_eq_some_iff.mp h
      cases he
      exact ⟨cs, [], (List.append_nil cs).symm, row?_eq_some_iff.mp hr, .whole⟩
    · rename_i l r hcut
      obtain ⟨rfl, -⟩ := cut?_eq_some_iff.mp hcut
      simp only [bind, pure, Option.bind_eq_some_iff, row?_eq_some_iff] at h
      obtain ⟨_, hn, ⟨_, _⟩, hb, he⟩ := h
      cases he
      exact ⟨l, '.' :: r, rfl, hn, between?_eq_some_iff.mp hb⟩
  · rintro ⟨opening, part, rfl, hr, hp⟩
    cases part with
    | nil =>
        cases hp
        rw [List.append_nil, cut?_eq_none_iff.mpr (hr.notMem rfl)]
        exact Option.map_eq_some_iff.mpr ⟨n, row?_eq_some_iff.mpr hr, rfl⟩
    | cons c rest =>
        have hc : c = '.' := by
          cases hp
          rfl
        subst hc
        rw [cut?_eq_some_iff.mpr ⟨rfl, hr.notMem rfl⟩]
        simp only [bind, pure, row?_eq_some_iff.mpr hr, between?_eq_some_iff.mpr hp,
          Option.bind_some]

-- The reader takes exactly the texts of the form, each as the one segment it stands for.
theorem parse?_eq_some_iff {text : String} {g : Segment} :
    parse? text = some g ↔ Form text.toList g := by
  simp only [parse?, bind, pure, Option.bind_eq_some_iff]
  constructor
  · rintro ⟨⟨run, rest⟩, hcut, ⟨_, _⟩, hrun, ⟨_, _, _⟩, hrest, he⟩
    cases he
    obtain ⟨hcs, -⟩ := cut?_eq_some_iff.mp hcut
    obtain ⟨opening, part, rfl, ho, hp⟩ := opening?_eq_some_iff.mp hrest
    rw [hcs]
    exact .intro (run?_eq_some_iff.mp hrun) ho hp
  · intro h
    generalize text.toList = cs at h ⊢
    cases h with
    | intro hrun ho hp =>
        have hat := hrun.notMem (c := '@') rfl (by decide)
        exact ⟨_, cut?_eq_some_iff.mpr ⟨rfl, hat⟩, _, run?_eq_some_iff.mpr hrun, _,
          opening?_eq_some_iff.mpr ⟨_, _, rfl, ho, hp⟩, rfl⟩

-- A segment whose numbers are all at least 0.
structure Counted (g : Segment) : Prop where
  startId : 0 ≤ g.startId
  endId : ∀ n, g.endId = some n → 0 ≤ n
  openId : 0 ≤ g.openId
  relStart : ∀ n, g.relStart = some n → 0 ≤ n
  relEnd : ∀ n, g.relEnd = some n → 0 ≤ n

theorem row_ofInt {n : Int} (h : 0 ≤ n) : Row (Decimal.ofInt n).toList n := by
  rw [Decimal.toList_ofInt_of_nonneg h]
  obtain ⟨hall, hvalue⟩ := Decimal.read?_eq_some_iff.mp (Decimal.read?_digits n.natAbs)
  refine ⟨Decimal.digits_ne_nil _, hall, ?_⟩
  rw [hvalue]
  omega

theorem optionalRow_optional {n : Option Int} (h : ∀ k, n = some k → 0 ≤ k) :
    OptionalRow (optional n).toList n := by
  cases n with
  | none => exact .absent
  | some k => exact .present (row_ofInt (h k rfl))

theorem run_text {m : Int} {n : Option Int} (hm : 0 ≤ m) :
    (∀ k, n = some k → 0 ≤ k) →
      Run (Decimal.ofInt m ++ (match n with
        | some k => "-" ++ Decimal.ofInt k
        | none => "")).toList m n := by
  intro hn
  cases n with
  | none =>
      rw [String.append_empty]
      exact .single (row_ofInt hm)
  | some k =>
      rw [String.toList_append, String.toList_append]
      exact .several (row_ofInt hm) (row_ofInt (hn k rfl))

theorem part_text {m n : Option Int} (hm : ∀ k, m = some k → 0 ≤ k)
    (hn : ∀ k, n = some k → 0 ≤ k) :
    Part (if m.isSome || n.isSome then "." ++ optional m ++ "-" ++ optional n else "").toList
      m n := by
  by_cases h : (m.isSome || n.isSome) = true
  · rw [if_pos h, String.toList_append, String.toList_append, String.toList_append,
      List.append_assoc, List.append_assoc]
    exact .between (optionalRow_optional hm) (optionalRow_optional hn)
  · rw [if_neg h]
    rw [Bool.or_eq_true, not_or, Option.not_isSome_iff_eq_none, Option.not_isSome_iff_eq_none] at h
    rw [h.1, h.2]
    exact .whole

-- A segment is written in its form, whichever of its parts are left out.
theorem Counted.form_text {g : Segment} (h : g.Counted) : Form g.text.toList g := by
  have hrun := run_text h.startId h.endId
  have hpart := part_text h.relStart h.relEnd
  have hform := Form.intro hrun (row_ofInt h.openId) hpart
  unfold text
  rw [String.toList_append, String.toList_append, String.toList_append, List.append_assoc,
    List.append_assoc]
  exact hform

theorem Counted.parse?_text {g : Segment} (h : g.Counted) : parse? g.text = some g :=
  parse?_eq_some_iff.mpr h.form_text

theorem Counted.text_inj {g k : Segment} (hg : g.Counted) (hk : k.Counted) :
    g.text = k.text ↔ g = k := by
  constructor
  · intro h
    have hread := hg.parse?_text
    rw [h, hk.parse?_text] at hread
    exact (Option.some.inj hread).symm
  · intro h
    rw [h]

-- A lone dash after the dot leaves both ends out, as no dot at all does.
example : parse? "4-9@1.-" = some ⟨4, some 9, 1, none, none⟩ := by decide

end Footage.Segment
