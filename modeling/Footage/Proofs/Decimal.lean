import Mathlib.Data.List.Basic
import Footage.Decimal

namespace Footage.Decimal

theorem digit?_eq_some_iff {c : Char} {d : Nat} :
    digit? c = some d ↔ c.isDigit = true ∧ c.toNat - 48 = d := by
  simp only [digit?, Char.isDigit_iff_toNat, Option.ite_none_right_eq_some, Option.some.injEq]
  rfl

theorem digits?_eq_some_iff {cs : List Char} {ds : List Nat} :
    digits? cs = some ds ↔ (∀ c ∈ cs, c.isDigit = true) ∧ cs.map (fun c => c.toNat - 48) = ds := by
  induction cs generalizing ds with
  | nil => simp [digits?]
  | cons c cs ih =>
      simp only [digits?, List.forall_mem_cons, List.map_cons]
      constructor
      · intro h
        split at h
        · rename_i d more hd hm
          obtain ⟨hc, rfl⟩ := digit?_eq_some_iff.mp hd
          obtain ⟨hall, rfl⟩ := ih.mp hm
          exact ⟨⟨hc, hall⟩, Option.some.inj h⟩
        · contradiction
      · rintro ⟨⟨hc, hall⟩, rfl⟩
        rw [digit?_eq_some_iff.mpr ⟨hc, rfl⟩, ih.mpr ⟨hall, rfl⟩]

-- A row of digits is read as the number it stands for in base ten.
theorem read?_eq_some_iff {cs : List Char} {n : Nat} :
    read? cs = some n ↔ (∀ c ∈ cs, c.isDigit = true) ∧ Nat.ofDigitChars 10 cs 0 = n := by
  have hv : value (cs.map fun c => c.toNat - 48) = Nat.ofDigitChars 10 cs 0 := by
    simp [value, Nat.ofDigitChars_eq_foldl, List.foldl_map]
  simp only [read?, Option.map_eq_some_iff, digits?_eq_some_iff]
  constructor
  · rintro ⟨_, ⟨hall, rfl⟩, rfl⟩
    exact ⟨hall, hv.symm⟩
  · rintro ⟨hall, rfl⟩
    exact ⟨_, ⟨hall, rfl⟩, hv⟩

theorem padded_eq (width : Nat) (fill : Char) (n : Nat) :
    padded width fill n = List.replicate (width - (digits n).length) fill ++ digits n := rfl

theorem isDigit_of_mem_digits {n : Nat} {c : Char} (h : c ∈ digits n) : c.isDigit = true :=
  Nat.isDigit_of_mem_toDigits (by decide) (by decide) h

-- Zeros in front do not change what a number is read as.
theorem read?_padded (width n : Nat) : read? (padded width '0' n) = some n := by
  rw [read?_eq_some_iff, padded_eq]
  constructor
  · intro c hc
    rcases List.mem_append.mp hc with hz | hd
    · obtain ⟨-, rfl⟩ := List.mem_replicate.mp hz
      rfl
    · exact isDigit_of_mem_digits hd
  · rw [Nat.ofDigitChars_append, Nat.ofDigitChars_replicate_zero, Nat.mul_zero]
    exact Nat.ofDigitChars_ten_toDigits

theorem read?_digits (n : Nat) : read? (digits n) = some n := by
  simpa [padded_eq] using read?_padded 0 n

theorem value_digits (n : Nat) :
    value ((digits n).map fun c => c.toNat - 48) = n := by
  obtain ⟨ds, hd, hv⟩ := Option.map_eq_some_iff.mp (read?_digits n)
  rw [(digits?_eq_some_iff.mp hd).2]
  exact hv

theorem length_padded {width n : Nat} (hw : 0 < width) (hn : n < tenTo width) (fill : Char) :
    (padded width fill n).length = width := by
  have hl : (digits n).length ≤ width := (Nat.length_toDigits_le_iff (by decide) hw).mpr hn
  rw [padded_eq, List.length_append, List.length_replicate]
  omega

-- Two rows of the same length that end up at one number are the same, digit by
-- digit, wherever they started from.
theorem eq_of_ofDigitChars_eq {cs ds : List Char} {a b : Nat} (hl : cs.length = ds.length)
    (hc : ∀ c ∈ cs, c.isDigit = true) (hd : ∀ d ∈ ds, d.isDigit = true)
    (h : Nat.ofDigitChars 10 cs a = Nat.ofDigitChars 10 ds b) : a = b ∧ cs = ds := by
  induction cs generalizing ds a b with
  | nil =>
      obtain rfl := List.length_eq_zero_iff.mp hl.symm
      exact ⟨by simpa using h, rfl⟩
  | cons c cs ih =>
      cases ds with
      | nil => contradiction
      | cons d ds =>
          rw [List.forall_mem_cons] at hc hd
          simp only [Nat.ofDigitChars_cons] at h
          -- what comes before the rest is ten times the start and one digit more
          obtain ⟨hab, rfl⟩ := ih (Nat.succ.inj hl) hc.2 hd.2 h
          have hcd := And.intro hc.1 hd.1
          simp only [Char.isDigit_iff_toNat] at hcd
          have h0 : '0'.toNat = 48 := rfl
          have h9 : '9'.toNat = 57 := rfl
          have he : c = d := Char.toNat_inj.mp (by omega)
          exact ⟨by omega, by rw [he]⟩

-- A row of digits is the number it is read as, filled up with zeros to its length.
theorem padded_of_read? {cs : List Char} {n : Nat} (hne : cs ≠ []) (h : read? cs = some n) :
    padded cs.length '0' n = cs := by
  have hl := length_padded (List.length_pos_iff.mpr hne) (read?_lt h) '0'
  have hp := read?_eq_some_iff.mp (read?_padded cs.length n)
  obtain ⟨hall, rfl⟩ := read?_eq_some_iff.mp h
  exact (eq_of_ofDigitChars_eq hl hp.1 hall hp.2).2

-- Only zero is written with a zero in front.
theorem head?_digits {n : Nat} (hn : 0 < n) : (digits n).head? ≠ some '0' := by
  unfold digits
  induction n using Nat.strongRecOn with
  | ind n ih =>
      by_cases hlt : n < 10
      · rw [Nat.toDigits_of_lt_base hlt]
        simpa using Nat.ne_of_gt hn
      · -- the digits of a tenth of the number come first
        have hrest := ih (n / 10) (by omega) (by omega)
        rw [Nat.toDigits_of_base_le (by decide) (by omega),
          List.head?_append_of_ne_nil _ Nat.toDigits_ne_nil]
        exact hrest

theorem notMem_of_isDigit {cs : List Char} (h : ∀ d ∈ cs, d.isDigit = true) {c : Char}
    (hc : c.isDigit = false) : c ∉ cs := by
  intro hmem
  rw [h c hmem] at hc
  contradiction

theorem not_mem_digits {c : Char} (hc : c.isDigit = false) (n : Nat) : c ∉ digits n :=
  notMem_of_isDigit (fun _ => isDigit_of_mem_digits) hc

theorem digits_ne_nil (n : Nat) : digits n ≠ [] := Nat.toDigits_ne_nil

theorem digits_injective {m n : Nat} (h : digits m = digits n) : m = n := by
  have hm := read?_digits m
  rw [h, read?_digits] at hm
  exact (Option.some.inj hm).symm

theorem toList_ofNat (n : Nat) : (ofNat n).toList = digits n := String.toList_ofList

theorem toList_ofInt_of_nonneg {n : Int} (h : 0 ≤ n) : (ofInt n).toList = digits n.natAbs := by
  rw [ofInt, if_neg (by omega), toList_ofNat]

theorem toList_ofInt_of_neg {n : Int} (h : n < 0) :
    (ofInt n).toList = '-' :: digits n.natAbs := by
  rw [ofInt, if_pos h, String.toList_append, toList_ofNat]
  rfl

-- Two numbers with the same text have the same sign and the same size.
theorem ofInt_injective : Function.Injective ofInt := by
  intro m n h
  have hl := congrArg String.toList h
  have hdash := not_mem_digits (c := '-') rfl
  by_cases hm : m < 0
  · by_cases hn : n < 0
    · rw [toList_ofInt_of_neg hm, toList_ofInt_of_neg hn] at hl
      have habs := digits_injective (List.cons.inj hl).2
      omega
    · rw [toList_ofInt_of_neg hm, toList_ofInt_of_nonneg (by omega)] at hl
      exact absurd (hl ▸ List.mem_cons_self) (hdash n.natAbs)
  · by_cases hn : n < 0
    · rw [toList_ofInt_of_nonneg (by omega), toList_ofInt_of_neg hn] at hl
      exact absurd (hl ▸ List.mem_cons_self) (hdash m.natAbs)
    · rw [toList_ofInt_of_nonneg (by omega), toList_ofInt_of_nonneg (by omega)] at hl
      have habs := digits_injective hl
      omega

-- Digits in a row of some width, and the number they stand for.
structure Numeral (width : Nat) (cs : List Char) (n : Nat) : Prop where
  length : cs.length = width
  isDigit : ∀ c ∈ cs, c.isDigit = true
  value : Nat.ofDigitChars 10 cs 0 = n

theorem Numeral.read?_eq {width : Nat} {cs : List Char} {n : Nat} (h : Numeral width cs n) :
    read? cs = some n := read?_eq_some_iff.mpr ⟨h.isDigit, h.value⟩

theorem numeral_of_read? {cs : List Char} {n : Nat} (h : read? cs = some n) :
    Numeral cs.length cs n :=
  ⟨rfl, (read?_eq_some_iff.mp h).1, (read?_eq_some_iff.mp h).2⟩

-- Zeros in front make up the width.
theorem numeral_padded {width n : Nat} (hw : 0 < width) (hn : n < tenTo width) :
    Numeral width (padded width '0' n) n := by
  have hread := numeral_of_read? (read?_padded width n)
  rw [length_padded hw hn] at hread
  exact hread

-- Digits of which the first is no zero, unless it is the only one, and their number.
structure Plain (cs : List Char) (n : Nat) : Prop where
  ne_nil : cs ≠ []
  isDigit : ∀ c ∈ cs, c.isDigit = true
  value : Nat.ofDigitChars 10 cs 0 = n
  zero_alone : cs.head? = some '0' → cs = ['0']

theorem plain_digits (n : Nat) : Plain (digits n) n where
  ne_nil := digits_ne_nil n
  isDigit _ := isDigit_of_mem_digits
  value := (read?_eq_some_iff.mp (read?_digits n)).2
  zero_alone := by
    intro h
    cases n with
    | zero => rfl
    | succ n => exact absurd h (head?_digits (Nat.succ_pos n))

end Footage.Decimal
