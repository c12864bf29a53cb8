import Mathlib.Data.List.Basic
import Footage.Hex

namespace Footage.Hex

-- The sixteen digits as they are written.
def IsSmall (c : Char) : Prop := '0' ≤ c ∧ c ≤ '9' ∨ 'a' ≤ c ∧ c ≤ 'f'

-- The digits as they are read, with capital letters besides the small ones.
def IsDigit (c : Char) : Prop := IsSmall c ∨ 'A' ≤ c ∧ c ≤ 'F'

theorem isSmall_iff_toNat {c : Char} :
    IsSmall c ↔ 48 ≤ c.toNat ∧ c.toNat ≤ 57 ∨ 97 ≤ c.toNat ∧ c.toNat ≤ 102 := Iff.rfl

theorem isDigit_iff_toNat {c : Char} :
    IsDigit c ↔ (48 ≤ c.toNat ∧ c.toNat ≤ 57 ∨ 97 ≤ c.toNat ∧ c.toNat ≤ 102) ∨
      65 ≤ c.toNat ∧ c.toNat ≤ 70 := Iff.rfl

theorem IsDigit.toNat_lt {c : Char} (h : IsDigit c) : c.toNat < 128 := by
  rw [isDigit_iff_toNat] at h
  omega

theorem exists_digit?_eq_some_iff {c : Char} : (∃ d, digit? c = some d) ↔ IsDigit c := by
  rw [isDigit_iff_toNat]
  unfold digit?
  by_cases hnumber : 48 ≤ c.toNat ∧ c.toNat ≤ 57
  · simp [hnumber]
  by_cases hsmall : 97 ≤ c.toNat ∧ c.toNat ≤ 102
  · simp [hnumber, hsmall]
  by_cases hcapital : 65 ≤ c.toNat ∧ c.toNat ≤ 70
  · simp [hnumber, hsmall, hcapital]
  simp [hnumber, hsmall, hcapital]

-- A digit is written as what it was read from, but for the case of a letter.
theorem char_of_digit? {c : Char} {d : Fin 16} (h : digit? c = some d) : char d = c.toLower := by
  have hascii : ∀ n < 128, ∀ d ∈ digit? (Char.ofNat n), char d = (Char.ofNat n).toLower := by
    decide
  have hlt := (exists_digit?_eq_some_iff.mp ⟨d, h⟩).toNat_lt
  have hc := hascii c.toNat hlt d
  rw [Char.ofNat_toNat] at hc
  exact hc h

theorem char_injective : Function.Injective char := by
  intro d e h
  have hd := digit?_char d
  rw [h, digit?_char] at hd
  exact (Option.some.inj hd).symm

theorem isSmall_char (d : Fin 16) : IsSmall (char d) := by
  rw [isSmall_iff_toNat]
  revert d
  decide

theorem digit?_eq_some_iff {c : Char} {d : Fin 16} :
    digit? c = some d ↔ IsDigit c ∧ char d = c.toLower := by
  constructor
  · intro h
    exact ⟨exists_digit?_eq_some_iff.mp ⟨d, h⟩, char_of_digit? h⟩
  · rintro ⟨hc, hd⟩
    obtain ⟨e, he⟩ := exists_digit?_eq_some_iff.mpr hc
    rw [char_injective (hd.trans (char_of_digit? he).symm)]
    exact he

theorem read?_cons_eq_some_iff {c : Char} {cs : List Char} {ds : List (Fin 16)} :
    read? (c :: cs) = some ds ↔
      ∃ e es, digit? c = some e ∧ read? cs = some es ∧ e :: es = ds := by
  rw [read?]
  cases hc : digit? c with
  | none => simp
  | some e =>
      cases hcs : read? cs with
      | none => simp
      | some es => simp

-- A row is read when all of it are digits, as the digits that it is in lower case.
theorem read?_eq_some_iff {cs : List Char} {ds : List (Fin 16)} :
    read? cs = some ds ↔ (∀ c ∈ cs, IsDigit c) ∧ write ds = cs.map Char.toLower := by
  induction cs generalizing ds with
  | nil =>
      constructor
      · intro h
        cases h
        exact ⟨List.forall_mem_nil _, rfl⟩
      · rintro ⟨-, hwrite⟩
        rw [List.map_eq_nil_iff.mp hwrite]
        rfl
  | cons c cs ih =>
      rw [read?_cons_eq_some_iff, List.forall_mem_cons, List.map_cons]
      constructor
      · rintro ⟨e, es, he, hes, rfl⟩
        obtain ⟨hc, hchar⟩ := digit?_eq_some_iff.mp he
        obtain ⟨hcs, hwrite⟩ := ih.mp hes
        exact ⟨⟨hc, hcs⟩, congrArg₂ List.cons hchar hwrite⟩
      · rintro ⟨⟨hc, hcs⟩, hwrite⟩
        obtain ⟨e, es, rfl, he, hes⟩ := List.map_eq_cons_iff.mp hwrite
        exact ⟨e, es, digit?_eq_some_iff.mpr ⟨hc, he⟩, ih.mpr ⟨hcs, hes⟩, rfl⟩

theorem exists_read?_eq_some {cs : List Char} (h : ∀ c ∈ cs, IsDigit c) :
    ∃ ds, read? cs = some ds := by
  induction cs with
  | nil => exact ⟨[], rfl⟩
  | cons c cs ih =>
      rw [List.forall_mem_cons] at h
      obtain ⟨d, hd⟩ := exists_digit?_eq_some_iff.mpr h.1
      obtain ⟨ds, hds⟩ := ih h.2
      exact ⟨d :: ds, read?_cons_eq_some_iff.mpr ⟨d, ds, hd, hds, rfl⟩⟩

theorem length_write (ds : List (Fin 16)) : (write ds).length = ds.length := List.length_map _

theorem isSmall_of_mem_write {ds : List (Fin 16)} {c : Char} (h : c ∈ write ds) : IsSmall c := by
  obtain ⟨d, -, rfl⟩ := List.mem_map.mp h
  exact isSmall_char d

end Footage.Hex
