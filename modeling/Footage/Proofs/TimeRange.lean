import Mathlib.Order.Basic
import Footage.TimeRange

namespace Footage

theorem Word.fits_of_nonneg {n : Int} (h0 : 0 ≤ n) (hl : n ≤ greatest) : Fits n :=
  ⟨Int.le_trans (by decide) h0, hl⟩

namespace TimeRange

theorem ext {a b : TimeRange} (hs : a.start = b.start) (he : a.stop = b.stop)
    (hp : a.present = b.present) : a = b := by
  cases a
  cases b
  cases hs
  cases he
  cases hp
  rfl

-- The rules that are tried for three numbers are the ones a range keeps.
theorem make_eq_ok_iff {start stop present : Int} {r : TimeRange} :
    make start stop present = .ok r ↔ r.start = start ∧ r.stop = stop ∧ r.present = present := by
  constructor
  · intro h
    unfold make at h
    repeat' split at h
    all_goals cases h
    exact ⟨rfl, rfl, rfl⟩
  · rintro ⟨rfl, rfl, rfl⟩
    have h1 := r.start_nonneg
    have h2 := r.start_le_stop
    have h3 := r.stop_le_last
    have h4 := r.present_nonneg
    have h5 := r.present_le_span
    unfold make
    rw [dif_neg (by omega), if_neg (by omega), dif_neg (by omega), dif_neg (by omega),
      dif_neg (by omega), dif_neg (by omega)]

theorem last_lt_greatest : Tick.last < Word.greatest := by decide

-- No number of a range is past the greatest of a word.
theorem le_greatest (r : TimeRange) :
    r.start ≤ Word.greatest ∧ r.stop ≤ Word.greatest ∧ r.present ≤ Word.greatest := by
  have h1 := r.start_nonneg
  have h2 := r.start_le_stop
  have h3 := r.stop_le_last
  have h4 := r.present_le_span
  have h5 := last_lt_greatest
  omega

theorem contains_iff {a b : TimeRange} :
    a.contains b = true ↔ a.start ≤ b.start ∧ b.stop ≤ a.stop := by
  simp [contains]

end TimeRange

end Footage
