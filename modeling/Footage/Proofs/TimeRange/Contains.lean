import Footage.Proofs.Calendar.Instant

namespace Footage

namespace Instant

def AtOrBefore (a b : Instant) : Prop := a.Before b ∨ a = b

theorem ofTick_atOrBefore_iff {a b : Int} (ha0 : 0 ≤ a) (hal : a ≤ Tick.last) (hb0 : 0 ≤ b)
    (hbl : b ≤ Tick.last) : (ofTick a).AtOrBefore (ofTick b) ↔ a ≤ b := by
  rw [AtOrBefore, ofTick_before_iff ha0 hal hb0 hbl, ofTick_inj ha0 hal hb0 hbl]
  omega

end Instant

namespace TimeRange

open Instant

-- A range has the tick that it starts at, but not the one that it ends at.
def Covers (r : TimeRange) (tick : Int) : Prop := r.start ≤ tick ∧ tick < r.stop

theorem contains_iff_forall_covers {a b : TimeRange} (h : b.start < b.stop) :
    a.contains b = true ↔ ∀ tick, b.Covers tick → a.Covers tick := by
  rw [contains_iff]
  constructor
  · rintro ⟨hs, he⟩ tick ⟨hfirst, hlast⟩
    exact ⟨Int.le_trans hs hfirst, Int.lt_of_lt_of_le hlast he⟩
  · intro hall
    -- of all ticks only the first and the last are needed
    have hfirst := hall b.start ⟨Int.le_refl _, h⟩
    have hlast := hall (b.stop - 1) ⟨by omega, by omega⟩
    exact ⟨hfirst.1, Int.le_of_sub_one_lt hlast.2⟩

theorem contains_iff_of_empty {a b : TimeRange} (h : b.start = b.stop) :
    a.contains b = true ↔ a.start ≤ b.start ∧ b.start ≤ a.stop := by
  rw [contains_iff, h]

theorem contains_refl (r : TimeRange) : r.contains r = true :=
  contains_iff.mpr ⟨Int.le_refl _, Int.le_refl _⟩

theorem contains_trans {a b c : TimeRange} (hab : a.contains b = true)
    (hbc : b.contains c = true) : a.contains c = true := by
  rw [contains_iff] at hab hbc ⊢
  exact ⟨Int.le_trans hab.1 hbc.1, Int.le_trans hbc.2 hab.2⟩

theorem contains_both_iff {a b : TimeRange} :
    a.contains b = true ∧ b.contains a = true ↔ a.start = b.start ∧ a.stop = b.stop := by
  rw [contains_iff, contains_iff]
  omega

theorem contains_iff_atOrBefore {a b : TimeRange} :
    a.contains b = true ↔
      (ofTick a.start).AtOrBefore (ofTick b.start) ∧
        (ofTick b.stop).AtOrBefore (ofTick a.stop) := by
  have ha := a.keeps
  have hb := b.keeps
  have hal := Int.le_trans ha.start_le_stop ha.stop_le_last
  have hbl := Int.le_trans hb.start_le_stop hb.stop_le_last
  rw [contains_iff, ofTick_atOrBefore_iff ha.start_nonneg hal hb.start_nonneg hbl,
    ofTick_atOrBefore_iff hb.stop_nonneg hb.stop_le_last ha.stop_nonneg ha.stop_le_last]

-- A range contains the ones whose ticks it has, and of those without ticks the ones that
-- lie between its ends. This is an order of the ends, and the moments of the ends tell the
-- same as their ticks.
theorem contains_by_ticks_and_by_moments :
    (∀ a b : TimeRange, b.start < b.stop →
      (a.contains b = true ↔ ∀ tick, b.Covers tick → a.Covers tick)) ∧
    (∀ a b : TimeRange, b.start = b.stop →
      (a.contains b = true ↔ a.start ≤ b.start ∧ b.start ≤ a.stop)) ∧
    (∀ r : TimeRange, r.contains r = true) ∧
    (∀ a b c : TimeRange, a.contains b = true → b.contains c = true → a.contains c = true) ∧
    (∀ a b : TimeRange, a.contains b = true ∧ b.contains a = true ↔
      a.start = b.start ∧ a.stop = b.stop) ∧
    ∀ a b : TimeRange, a.contains b = true ↔
      (ofTick a.start).AtOrBefore (ofTick b.start) ∧
        (ofTick b.stop).AtOrBefore (ofTick a.stop) := by
  refine ⟨?_, ?_, contains_refl, ?_, fun a b => contains_both_iff,
    fun a b => contains_iff_atOrBefore⟩
  · intro a b h
    exact contains_iff_forall_covers h
  · intro a b h
    exact contains_iff_of_empty h
  · intro a b c hab hbc
    exact contains_trans hab hbc

-- Eight ticks that nothing was recorded of, and no ticks where those end.
theorem contains_missing_and_after :
    ∃ missing after, make 1 9 0 = .ok missing ∧ make 9 9 0 = .ok after ∧
      eightTicks.contains missing = true ∧
      (∀ tick, eightTicks.Covers tick → missing.Covers tick) ∧
      missing.contains after = true ∧ (ofTick after.stop).AtOrBefore (ofTick missing.stop) := by
  obtain ⟨hticks, hempty, -, htrans, hboth, hmoments⟩ := contains_by_ticks_and_by_moments
  obtain ⟨missing, hmissing⟩ : ∃ r, make 1 9 0 = .ok r :=
    exists_make_eq_ok_iff.mpr
      ⟨by decide, by decide, by decide, by decide, by decide, by decide⟩
  obtain ⟨after, hafter⟩ : ∃ r, make 9 9 0 = .ok r :=
    exists_make_eq_ok_iff.mpr
      ⟨by decide, by decide, by decide, by decide, by decide, by decide⟩
  obtain ⟨hfirst, hlast, -⟩ := make_eq_ok_iff.mp hmissing
  obtain ⟨hs, he, -⟩ := make_eq_ok_iff.mp hafter
  obtain ⟨hin, hback⟩ := (hboth eightTicks missing).mpr ⟨hfirst.symm, hlast.symm⟩
  have hend : eightTicks.contains after = true :=
    (hempty eightTicks after (hs.trans he.symm)).mpr (hs ▸ by decide)
  have hboundary := htrans missing eightTicks after hback hend
  exact ⟨missing, after, hmissing, hafter, hin, (hticks missing eightTicks (by decide)).mp hback,
    hboundary, ((hmoments missing after).mp hboundary).2⟩

end TimeRange

end Footage
