import Mathlib.Algebra.BigOperators.Group.List.Basic
import Mathlib.Algebra.Order.BigOperators.Group.List
import Mathlib.Algebra.Order.Ring.Int
import Mathlib.Data.List.Nodup
import Footage.Day.Days
import Footage.Proofs.Day.Key
import Footage.Proofs.TimeRange

namespace Footage

namespace Word

theorem add?_of_fits {a b : Int} (h : Fits (a + b)) : add? a b = some (a + b) := if_pos h

theorem add?_of_greatest_lt {a b : Int} (h : greatest < a + b) : add? a b = none :=
  if_neg fun hf => Int.not_le_of_gt h hf.2

-- Adding up what is never negative goes well just as long as the whole sum is a word,
-- as no sum on the way is greater. The induction leaves open what was added up so far.
theorem foldlM_add? {ns : List Int} (hn : ∀ n ∈ ns, 0 ≤ n) {total : Int} (h0 : 0 ≤ total)
    (hg : total ≤ greatest) :
    ns.foldlM add? total =
      if total + ns.sum ≤ greatest then some (total + ns.sum) else none := by
  induction ns generalizing total with
  | nil =>
      rw [List.sum_nil, Int.add_zero, if_pos hg]
      rfl
  | cons n ns ih =>
      rw [List.forall_mem_cons] at hn
      have hrest : 0 ≤ ns.sum := List.sum_nonneg hn.2
      have hsplit : total + (n + ns.sum) = total + n + ns.sum := (Int.add_assoc _ _ _).symm
      rw [List.foldlM_cons, List.sum_cons, hsplit]
      by_cases hnext : total + n ≤ greatest
      · have hnonneg : 0 ≤ total + n := Int.add_nonneg h0 hn.1
        rw [add?_of_fits (fits_of_nonneg hnonneg hnext)]
        exact ih hn.2 hnonneg hnext
      · rw [add?_of_greatest_lt (Int.lt_of_not_ge hnext), if_neg (by omega)]
        rfl

end Word

-- All ticks there are, with nothing missing from them.
def TimeRange.whole : TimeRange :=
  ⟨0, Tick.last, Tick.last, by decide, by decide, by decide, by decide, by decide⟩

def DayKey.newYear (year : Fin 10000) : DayKey :=
  ⟨⟨(year.val : Int), 1, 1, by decide, by decide, by decide, by simp [Calendar.daysInMonth]⟩,
    Int.natCast_nonneg _, Int.ofNat_lt.mpr year.isLt⟩

theorem DayKey.newYear_injective : Function.Injective DayKey.newYear := by
  intro a b h
  have hy : (a.val : Int) = b.val := congrArg (fun k => k.date.year) h
  exact Fin.ext (Int.ofNat_inj.mp hy)

namespace Days

-- The recorded ticks of each day.
def presents (d : Days) : List Int := d.entries.map fun day => day.2.present

theorem totalPresent_eq_foldlM (d : Days) : d.totalPresent = d.presents.foldlM Word.add? 0 := by
  rw [presents, List.foldlM_map]
  rfl

theorem presents_nonneg (d : Days) : ∀ n ∈ d.presents, 0 ≤ n := by
  intro n hn
  obtain ⟨day, -, rfl⟩ := List.mem_map.mp hn
  exact day.2.present_nonneg

theorem presents_le_last (d : Days) : ∀ n ∈ d.presents, n ≤ Tick.last := by
  intro n hn
  obtain ⟨day, -, rfl⟩ := List.mem_map.mp hn
  have h1 := day.2.present_le_span
  have h2 := day.2.start_nonneg
  have h3 := day.2.stop_le_last
  omega

-- No day takes anything away, so the sum is the greatest of all sums on the way to it.
theorem sum_take_le (d : Days) (k : Nat) : (d.presents.take k).sum ≤ d.presents.sum := by
  have hrest : 0 ≤ (d.presents.drop k).sum :=
    List.sum_nonneg fun n hn => d.presents_nonneg n (List.mem_of_mem_drop hn)
  have hsplit := List.sum_take_add_sum_drop d.presents k
  omega

theorem fits_of_sum_le {d : Days} (h : d.presents.sum ≤ Word.greatest) (k : Nat) :
    Word.Fits (d.presents.take k).sum := by
  have hnonneg : 0 ≤ (d.presents.take k).sum :=
    List.sum_nonneg fun n hn => d.presents_nonneg n (List.mem_of_mem_take hn)
  exact ⟨Int.le_trans (by decide) hnonneg, Int.le_trans (d.sum_take_le k) h⟩

theorem forall_fits_iff (d : Days) :
    (∀ k, Word.Fits (d.presents.take k).sum) ↔ d.presents.sum ≤ Word.greatest := by
  constructor
  · intro h
    have hall := (h d.presents.length).2
    rwa [List.take_length] at hall
  · exact fits_of_sum_le

-- A total is never anything but the sum, and is missing when the sum is no word.
theorem totalPresent_eq (d : Days) :
    d.totalPresent = if d.presents.sum ≤ Word.greatest then some d.presents.sum else none := by
  have htotal := Word.foldlM_add? d.presents_nonneg (Int.le_refl 0) (by decide)
  rwa [Int.zero_add, ← totalPresent_eq_foldlM] at htotal

theorem eq_sum_of_totalPresent {d : Days} {total : Int} (h : d.totalPresent = some total) :
    total = d.presents.sum := by
  rw [totalPresent_eq] at h
  split at h <;> cases h
  rfl

theorem totalPresent_eq_sum_iff (d : Days) :
    d.totalPresent = some d.presents.sum ↔ d.presents.sum ≤ Word.greatest := by
  rw [totalPresent_eq]
  simp

theorem totalPresent_eq_none_iff (d : Days) :
    d.totalPresent = none ↔ Word.greatest < d.presents.sum := by
  rw [totalPresent_eq]
  simp

-- A word has room for 404 days, however much was recorded on each of them.
theorem sum_le_greatest {d : Days} (h : d.entries.length ≤ 404) :
    d.presents.sum ≤ Word.greatest := by
  have hsum := List.sum_le_card_nsmul d.presents Tick.last d.presents_le_last
  have hlen : d.presents.length = d.entries.length := List.length_map _
  rw [hlen, nsmul_eq_mul] at hsum
  have hlast : (d.entries.length : Int) * Tick.last ≤ 404 * Tick.last :=
    Int.mul_le_mul_of_nonneg_right (by omega) (by decide)
  have hroom : 404 * Tick.last ≤ Word.greatest := by decide
  omega

-- The years from 0 on, as many as are asked for.
def firstYears (count : Nat) : List (Fin 10000) := (List.finRange 10000).take count

theorem length_firstYears {count : Nat} (h : count ≤ 10000) :
    (firstYears count).length = count := by
  rw [firstYears, List.length_take, List.length_finRange, Nat.min_eq_left h]

theorem nodup_firstYears (count : Nat) : (firstYears count).Nodup :=
  (List.nodup_finRange 10000).sublist (List.take_sublist count _)

-- Days that are as full as a day may be, one in each of some years.
def crowded (years : List (Fin 10000)) : Days :=
  ⟨years.map fun year => (.newYear year, .whole)⟩

theorem presents_crowded (years : List (Fin 10000)) :
    (crowded years).presents = List.replicate years.length Tick.last := by
  rw [presents, crowded, List.map_map, List.eq_replicate_iff]
  refine ⟨List.length_map _, fun n hn => ?_⟩
  obtain ⟨_, -, rfl⟩ := List.mem_map.mp hn
  rfl

theorem sum_presents_crowded (years : List (Fin 10000)) :
    (crowded years).presents.sum = years.length * Tick.last := by
  rw [presents_crowded, List.sum_replicate, nsmul_eq_mul]

theorem nodup_keys_crowded {years : List (Fin 10000)} (h : years.Nodup) :
    ((crowded years).keys.map DayKey.text).Nodup := by
  have hkeys : (crowded years).keys = years.map DayKey.newYear := by
    simp only [keys, crowded, List.map_map, Function.comp_def]
  rw [hkeys]
  apply List.Nodup.map fun _ _ => DayKey.text_injective
  exact h.map DayKey.newYear_injective

end Days

end Footage
