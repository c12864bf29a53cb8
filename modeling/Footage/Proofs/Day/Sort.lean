import Mathlib.Data.List.Sort
import Mathlib.Data.String.Basic
import Mathlib.Order.Compare
import Footage.Proofs.Day.Order
import Footage.Proofs.Day.Shape

namespace Footage.DayKey

theorem order_eq_lt_iff {j k : DayKey} : order j k = .lt ↔ j.date.Earlier k.date := by
  simp only [order, Ordering.then_eq_lt, compare_lt_iff_lt, compare_eq_iff_eq]
  rfl

theorem order_eq_gt_iff {j k : DayKey} : order j k = .gt ↔ k.date.Earlier j.date := by
  simp only [order, Ordering.then_eq_gt, compare_gt_iff_gt, compare_eq_iff_eq, Date.Earlier]
  omega

theorem order_self (k : DayKey) : order k k = .eq := by
  simp only [order, Ordering.then_eq_eq, compare_eq_iff_eq, and_self]

-- Keys are compared by anything that stands in the order of their dates.
theorem order_eq_compare {α : Type} [LinearOrder α] {f : DayKey → α}
    (hlt : ∀ j k, f j < f k ↔ j.date.Earlier k.date) (j k : DayKey) :
    order j k = compare (f j) (f k) := by
  rcases j.date.earlier_or_eq_or_earlier k.date with h | h | h
  · rw [order_eq_lt_iff.mpr h, compare_lt_iff_lt.mpr ((hlt j k).mpr h)]
  · rw [ext h, order_self, compare_eq_iff_eq.mpr rfl]
  · rw [order_eq_gt_iff.mpr h, compare_gt_iff_gt.mpr ((hlt k j).mpr h)]

theorem order_eq_compare_dayNumber (j k : DayKey) :
    order j k = compare j.date.dayNumber k.date.dayNumber :=
  order_eq_compare (fun _ _ => Date.dayNumber_lt_iff) j k

theorem text_lt_iff {j k : DayKey} : j.text < k.text ↔ j.date.Earlier k.date :=
  String.lt_iff_toList_lt.trans toList_text_lt_iff

theorem order_eq_compare_text (j k : DayKey) : order j k = compare j.text k.text :=
  order_eq_compare (fun _ _ => text_lt_iff) j k

theorem shapedChars_text (k : DayKey) : ShapedChars k.text :=
  shapedChars_iff.mpr ⟨_, _, _, k.spells_text⟩

theorem bytes_text_lt_iff {j k : DayKey} :
    Text.bytes j.text < Text.bytes k.text ↔ j.date.Earlier k.date :=
  (Text.bytes_lt_bytes_iff j.shapedChars_text.toNat_lt k.shapedChars_text.toNat_lt).trans
    toList_text_lt_iff

theorem perm_sort (keys : List DayKey) : (sort keys).Perm keys := List.mergeSort_perm keys _

theorem order_bne_gt (j k : DayKey) :
    (order j k != .gt) = decide (j.date.dayNumber ≤ k.date.dayNumber) := by
  rw [order_eq_compare_dayNumber, Bool.eq_iff_iff, bne_iff_ne, decide_eq_true_eq, Ne,
    compare_gt_iff_gt, not_lt]

theorem pairwise_sort (keys : List DayKey) :
    (sort keys).Pairwise fun j k => j.date.dayNumber ≤ k.date.dayNumber := by
  have htrans : ∀ a b c : DayKey, decide (a.date.dayNumber ≤ b.date.dayNumber) = true →
      decide (b.date.dayNumber ≤ c.date.dayNumber) = true →
      decide (a.date.dayNumber ≤ c.date.dayNumber) = true := by
    intro a b c hab hbc
    rw [decide_eq_true_eq] at hab hbc ⊢
    exact Int.le_trans hab hbc
  have htotal : ∀ a b : DayKey, (decide (a.date.dayNumber ≤ b.date.dayNumber) ||
      decide (b.date.dayNumber ≤ a.date.dayNumber)) = true := by
    intro a b
    rw [Bool.or_eq_true, decide_eq_true_eq, decide_eq_true_eq]
    exact Int.le_total _ _
  simp only [sort, order_bne_gt]
  exact (List.pairwise_mergeSort htrans htotal keys).imp of_decide_eq_true

-- There is one way to put keys in order of their days, as no two days have one number.
theorem eq_sort_iff {keys sorted : List DayKey} {le : DayKey → DayKey → Prop}
    (hle : ∀ j k, le j k ↔ j.date.dayNumber ≤ k.date.dayNumber) :
    sorted = sort keys ↔ sorted.Perm keys ∧ sorted.Pairwise le := by
  have hsort : (sort keys).Pairwise le := (pairwise_sort keys).imp (hle _ _).mpr
  constructor
  · rintro rfl
    exact ⟨perm_sort keys, hsort⟩
  · rintro ⟨hperm, hsorted⟩
    refine (hperm.trans (perm_sort keys).symm).eq_of_pairwise ?_ hsorted hsort
    intro j k _ _ hjk hkj
    rw [hle] at hjk hkj
    exact ext (Date.dayNumber_injective (Int.le_antisymm hjk hkj))

theorem compare_ne_gt_iff {j k : DayKey} :
    compare j k ≠ .gt ↔ j.date.dayNumber ≤ k.date.dayNumber := by
  have hcompare : compare j k = order j k := rfl
  rw [hcompare, order_eq_compare_dayNumber, Ne, compare_gt_iff_gt, not_lt]

theorem text_le_iff {j k : DayKey} :
    j.text ≤ k.text ↔ j.date.dayNumber ≤ k.date.dayNumber := by
  rw [← not_lt, text_lt_iff, ← Date.dayNumber_lt_iff, not_lt]

-- Keys are in the order of their days, which is that of their texts, byte by byte as well,
-- and two keys are one when their days or their texts are. The text has no say in the
-- order once the days are compared. So there is one way to sort keys, whichever of these
-- they are sorted by.
theorem order_is_of_days_and_of_texts :
    (∀ (a b : String) (j k : DayKey), parse a = .ok j → parse b = .ok k →
      compare j k = compare j.date.dayNumber k.date.dayNumber ∧
      compare j k = compare a b ∧
      compare j k = (compare j.date.dayNumber k.date.dayNumber).then (compare a b) ∧
      (compare j k = .lt ↔ Text.bytes a < Text.bytes b) ∧
      (j = k ↔ j.date = k.date) ∧ (j.date = k.date ↔ a = b)) ∧
    ∀ keys sorted : List DayKey,
      (sorted = sort keys ↔ sorted.Perm keys ∧ sorted.Pairwise fun j k => compare j k ≠ .gt) ∧
      (sorted = sort keys ↔ sorted.Perm keys ∧ sorted.Pairwise fun j k => j.text ≤ k.text) ∧
      (sorted = sort keys ↔
        sorted.Perm keys ∧ sorted.Pairwise fun j k => j.date.dayNumber ≤ k.date.dayNumber) := by
  constructor
  · intro a b j k ha hb
    obtain rfl := parse_eq_ok_iff.mp ha
    obtain rfl := parse_eq_ok_iff.mp hb
    have hday := order_eq_compare_dayNumber j k
    have htext := order_eq_compare_text j k
    refine ⟨hday, htext, ?_, order_eq_lt_iff.trans bytes_text_lt_iff.symm, ?_, ?_⟩
    · rw [← hday, ← htext, Ordering.then_self]
      rfl
    · exact ⟨congrArg date, ext⟩
    · exact ⟨fun h => congrArg text (ext h), fun h => congrArg date (text_injective h)⟩
  · intro keys sorted
    exact ⟨eq_sort_iff fun _ _ => compare_ne_gt_iff, eq_sort_iff fun _ _ => text_le_iff,
      eq_sort_iff fun _ _ => Iff.rfl⟩

-- The days on both sides of a new year.
theorem order_newYear :
    ∃ eve day, parse "1999-12-31" = .ok eve ∧ parse "2000-01-01" = .ok day ∧
      compare eve day = .lt ∧ Text.bytes "1999-12-31" < Text.bytes "2000-01-01" ∧ eve ≠ day ∧
      [eve, eve, day] = sort [eve, day, eve] := by
  obtain ⟨hcompare, hsort⟩ := order_is_of_days_and_of_texts
  obtain ⟨eve, heve⟩ : ∃ k, parse "1999-12-31" = .ok k :=
    exists_parse_eq_ok_iff.mpr ⟨1999, 12, 31, numbers?_eq_some_iff.mp rfl,
      Calendar.real_iff.mpr (by decide)⟩
  obtain ⟨day, hday⟩ : ∃ k, parse "2000-01-01" = .ok k :=
    exists_parse_eq_ok_iff.mpr ⟨2000, 1, 1, numbers?_eq_some_iff.mp rfl,
      Calendar.real_iff.mpr (by decide)⟩
  obtain ⟨-, htexts, -, hbytes, hkeys, hdates⟩ := hcompare _ _ _ _ heve hday
  have hlt : compare eve day = .lt := htexts.trans (by decide)
  have hself : compare eve eve = .eq := (hcompare _ _ _ _ heve heve).2.1.trans (by decide)
  refine ⟨eve, day, heve, hday, hlt, hbytes.mp hlt, ?_, ?_⟩
  · exact (hkeys.trans hdates).not.mpr (by decide)
  · exact (hsort _ _).1.mpr ⟨.cons eve (.swap day eve []), by simp [hlt, hself]⟩

end Footage.DayKey
