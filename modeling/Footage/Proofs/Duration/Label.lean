import Footage.Proofs.Decimal
import Footage.Proofs.Text
import Footage.TimeFormatter

namespace Footage.Duration

open Decimal

-- The forms `7s`, `4m 05s` and `1h 02m 03s`, by the unit in front.
inductive Form
  | seconds
  | minutes
  | hours
deriving DecidableEq

-- A text of a form, and the seconds that it says. The number in front has its digits alone,
-- and one behind a greater unit has two.
inductive Spells : Form → List Char → Nat → Prop
  | seconds {ss : List Char} {s : Nat} : Plain ss s → s < 60 → Spells .seconds (ss ++ ['s']) s
  | minutes {ms ss : List Char} {m s : Nat} : Plain ms m → 1 ≤ m → m < 60 →
      Numeral 2 ss s → s < 60 →
      Spells .minutes (ms ++ 'm' :: ' ' :: (ss ++ ['s'])) (60 * m + s)
  | hours {hs ms ss : List Char} {h m s : Nat} : Plain hs h → 1 ≤ h → Numeral 2 ms m → m < 60 →
      Numeral 2 ss s → s < 60 →
      Spells .hours (hs ++ 'h' :: ' ' :: (ms ++ 'm' :: ' ' :: (ss ++ ['s'])))
        (3600 * h + 60 * m + s)

theorem numeral_two {n : Nat} (h : n < 60) : Numeral 2 (padded 2 '0' n) n :=
  numeral_padded (by omega) (Nat.lt_trans h (by decide))

theorem exists_spells_label (ticks : Int) :
    ∃ form, Spells form (label ticks).toList (max ticks 0 / 90000).toNat := by
  have hsecond : Tick.perSecond = 90000 := rfl
  simp only [label, hsecond]
  generalize (max ticks 0 / 90000).toNat = total
  have hs : total % 60 < 60 := Nat.mod_lt _ (by omega)
  have hm : total / 60 % 60 < 60 := Nat.mod_lt _ (by omega)
  by_cases hhours : 0 < total / 3600
  · have htotal : 3600 * (total / 3600) + 60 * (total / 60 % 60) + total % 60 = total := by omega
    have h := Spells.hours (plain_digits _) hhours (numeral_two hm) hm (numeral_two hs) hs
    rw [htotal] at h
    refine ⟨.hours, ?_⟩
    rw [if_pos hhours]
    simpa [zeros, toList_ofNat] using h
  by_cases hminutes : 0 < total / 60 % 60
  · have htotal : 60 * (total / 60 % 60) + total % 60 = total := by omega
    have h := Spells.minutes (plain_digits _) hminutes hm (numeral_two hs) hs
    rw [htotal] at h
    refine ⟨.minutes, ?_⟩
    rw [if_neg hhours, if_pos hminutes]
    simpa [zeros, toList_ofNat] using h
  · have htotal : total % 60 = total := by omega
    have h := Spells.seconds (plain_digits (total % 60)) hs
    rw [htotal] at h
    refine ⟨.seconds, ?_⟩
    rw [if_neg hhours, if_neg hminutes, htotal]
    simpa [toList_ofNat] using h

-- What is no digit in a text tells its form.
def Form.letters : Form → List Char
  | .seconds => ['s']
  | .minutes => ['m', ' ', 's']
  | .hours => ['h', ' ', 'm', ' ', 's']

theorem Form.letters_injective : Function.Injective Form.letters := by
  intro f g h
  cases f <;> cases g <;> simp_all [letters]

theorem filter_of_isDigit {cs : List Char} (h : ∀ c ∈ cs, c.isDigit = true) :
    cs.filter (fun c => !c.isDigit) = [] := by
  rw [List.filter_eq_nil_iff]
  intro c hc
  rw [h c hc]
  decide

theorem Spells.filter_eq {form : Form} {cs : List Char} {n : Nat} (h : Spells form cs n) :
    cs.filter (fun c => !c.isDigit) = form.letters := by
  cases h with
  | seconds hs _ => simp [filter_of_isDigit hs.isDigit, Form.letters]
  | minutes hm _ _ hs _ =>
      simp [filter_of_isDigit hm.isDigit, filter_of_isDigit hs.isDigit, Form.letters]
  | hours hh _ hm _ hs _ =>
      simp [filter_of_isDigit hh.isDigit, filter_of_isDigit hm.isDigit,
        filter_of_isDigit hs.isDigit, Form.letters]

-- A text has one form and says one number, as each unit ends at the first of its letter.
theorem Spells.unique {form form' : Form} {cs : List Char} {n n' : Nat} (h : Spells form cs n)
    (h' : Spells form' cs n') : form' = form ∧ n' = n := by
  obtain rfl : form' = form := Form.letters_injective (h'.filter_eq.symm.trans h.filter_eq)
  refine ⟨rfl, ?_⟩
  generalize hcs : cs = ds at h'
  cases h with
  | seconds hs _ =>
      cases h' with
      | seconds hs' _ =>
          obtain rfl := List.append_cancel_right hcs
          exact hs'.value.symm.trans hs.value
  | minutes hm _ _ hs _ =>
      cases h' with
      | minutes hm' _ _ hs' _ =>
          obtain ⟨rfl, htail⟩ := Text.append_cons_inj (notMem_of_isDigit hm.isDigit rfl)
            (notMem_of_isDigit hm'.isDigit rfl) hcs
          obtain rfl := List.append_cancel_right (List.cons.inj htail).2
          rw [← hm.value, ← hs.value, ← hm'.value, ← hs'.value]
  | hours hh _ hm _ hs _ =>
      cases h' with
      | hours hh' _ hm' _ hs' _ =>
          obtain ⟨rfl, hmiddle⟩ := Text.append_cons_inj (notMem_of_isDigit hh.isDigit rfl)
            (notMem_of_isDigit hh'.isDigit rfl) hcs
          obtain ⟨rfl, htail⟩ := Text.append_cons_inj (notMem_of_isDigit hm.isDigit rfl)
            (notMem_of_isDigit hm'.isDigit rfl) (List.cons.inj hmiddle).2
          obtain rfl := List.append_cancel_right (List.cons.inj htail).2
          rw [← hh.value, ← hm.value, ← hs.value, ← hh'.value, ← hm'.value, ← hs'.value]

-- A label depends on the whole seconds alone, of which less than nothing has none.
theorem label_congr {a b : Int} (h : max a 0 / 90000 = max b 0 / 90000) : label a = label b := by
  have hsecond : Tick.perSecond = 90000 := rfl
  simp only [label, hsecond, h]

theorem label_eq_label_iff {a b : Int} :
    label a = label b ↔ max a 0 / 90000 = max b 0 / 90000 := by
  constructor
  · intro h
    obtain ⟨f, hf⟩ := exists_spells_label a
    obtain ⟨g, hg⟩ := exists_spells_label b
    rw [← h] at hg
    have hseconds := (hf.unique hg).2
    omega
  · exact label_congr

-- A label has one of the three forms and no other, and says the whole seconds of its ticks,
-- so that just the ticks with the same whole seconds have the same label.
theorem label_says_whole_seconds :
    (∀ ticks, ∃ (form : Form) (n : Nat), (n : Int) = max ticks 0 / 90000 ∧
      ∀ form' n', Spells form' (label ticks).toList n' ↔ form' = form ∧ n' = n) ∧
    ∀ a b, label a = label b ↔ max a 0 / 90000 = max b 0 / 90000 := by
  refine ⟨?_, fun a b => label_eq_label_iff⟩
  intro ticks
  obtain ⟨form, h⟩ := exists_spells_label ticks
  refine ⟨form, _, Int.toNat_of_nonneg (by omega), ?_⟩
  intro form' n'
  constructor
  · exact h.unique
  · rintro ⟨rfl, rfl⟩
    exact h

example : label (3723 * 90000 + 89999) = "1h 02m 03s" := by decide

end Footage.Duration
