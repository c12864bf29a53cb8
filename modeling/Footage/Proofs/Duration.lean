import Mathlib.Data.Int.Init
import Footage.Tick

namespace Footage

namespace Word

theorem fits_iff {n : Int} :
    Fits n ↔ -9223372036854775808 ≤ n ∧ n ≤ 9223372036854775807 := Iff.rfl

-- A number, if it has a place in a word.
def within? (n : Int) : Option Int := if Fits n then some n else none

theorem within?_of_fits {n : Int} (h : Fits n) : within? n = some n := if_pos h

-- Cutting off toward zero never makes a number greater.
theorem fits_tdiv {a b : Int} (ha : Fits a) (hb : 0 < b) : Fits (a.tdiv b) := by
  rw [fits_iff] at ha ⊢
  have hle := Int.natAbs_tdiv_le_natAbs a b
  rcases Int.le_total 0 a with h0 | h0
  · have hq := Int.tdiv_nonneg h0 (Int.le_of_lt hb)
    omega
  · have hq := Int.tdiv_nonneg (Int.neg_nonneg_of_nonpos h0) (Int.le_of_lt hb)
    rw [Int.neg_tdiv] at hq
    omega

end Word

namespace Duration

-- As much time in the other direction.
instance : Neg Duration := ⟨fun d => ⟨-d.nanos⟩⟩

theorem nanos_neg (d : Duration) : (-d).nanos = -d.nanos := rfl

theorem seconds_neg (d : Duration) : (-d).seconds = -d.seconds := Int.neg_tdiv d.nanos 1000000000

theorem subsecond_neg (d : Duration) : (-d).subsecond = -d.subsecond :=
  Int.neg_tmod d.nanos 1000000000

theorem ofTicks_neg (ticks : Int) : ofTicks (-ticks) = -ofTicks ticks := by
  have hnanos : (ofTicks (-ticks)).nanos = (-ofTicks ticks).nanos := by
    simp only [nanos_neg, ofTicks, Int.neg_tdiv, Int.neg_tmod, Int.neg_mul, Int.neg_add]
  exact congrArg mk hnanos

-- In one direction nothing is lost by cutting off whole seconds and the rest apart.
theorem nanos_ofTicks (ticks : Int) :
    (ofTicks ticks).nanos = (ticks * 1000000000).tdiv Tick.perSecond := by
  induction ticks using Int.negInduction with
  | nat n =>
      have hn : 0 ≤ (n : Int) := Int.natCast_nonneg n
      have hr : 0 ≤ (n : Int) % 90000 * 1000000000 := by omega
      simp only [ofTicks, Tick.perSecond]
      rw [Int.tdiv_eq_ediv_of_nonneg hn, Int.tmod_eq_emod_of_nonneg hn,
        Int.tdiv_eq_ediv_of_nonneg hr, Int.tdiv_eq_ediv_of_nonneg (by omega)]
      omega
  | neg ih n => rw [ofTicks_neg, nanos_neg, ih, Int.neg_mul, Int.neg_tdiv]

-- A tick is a hundred thousand ninths of a nanosecond, and less than one is cut off.
theorem nanos_bounds (ticks : Int) :
    100000 * ticks - 9 < 9 * (ofTicks ticks).nanos ∧
      9 * (ofTicks ticks).nanos < 100000 * ticks + 9 := by
  induction ticks using Int.negInduction with
  | nat n =>
      rw [nanos_ofTicks, Tick.perSecond, Int.tdiv_eq_ediv_of_nonneg (by omega)]
      omega
  | neg ih n =>
      have hn := ih n
      rw [ofTicks_neg, nanos_neg]
      omega

theorem nanos_lt_nanos {a b : Int} (h : a < b) : (ofTicks a).nanos < (ofTicks b).nanos := by
  have ha := nanos_bounds a
  have hb := nanos_bounds b
  omega

theorem seconds_ofTicks (ticks : Int) : (ofTicks ticks).seconds = ticks.tdiv Tick.perSecond := by
  induction ticks using Int.negInduction with
  | nat n =>
      have hn : 0 ≤ (n : Int) := Int.natCast_nonneg n
      rw [seconds, nanos_ofTicks, Tick.perSecond, Int.tdiv_eq_ediv_of_nonneg hn,
        Int.tdiv_eq_ediv_of_nonneg (by omega : 0 ≤ (n : Int) * 1000000000),
        Int.tdiv_eq_ediv_of_nonneg (by omega)]
      omega
  | neg ih n => rw [ofTicks_neg, seconds_neg, ih, Int.neg_tdiv]

theorem subsecond_ofTicks (ticks : Int) :
    (ofTicks ticks).subsecond = (ticks.tmod Tick.perSecond * 1000000000).tdiv Tick.perSecond := by
  have hsplit := Int.mul_tdiv_add_tmod (ofTicks ticks).nanos 1000000000
  have hseconds : (ofTicks ticks).nanos.tdiv 1000000000 = _ := seconds_ofTicks ticks
  have hnanos : (ofTicks ticks).nanos = ticks.tdiv Tick.perSecond * 1000000000 + _ := rfl
  have hsub : (ofTicks ticks).subsecond = (ofTicks ticks).nanos.tmod 1000000000 := rfl
  omega

-- Seconds and what is left point the way of the ticks.
theorem nonneg_of_ticks_nonneg {ticks : Int} (h : 0 ≤ ticks) :
    0 ≤ (ofTicks ticks).seconds ∧ 0 ≤ (ofTicks ticks).subsecond := by
  have hsecond : 0 ≤ Tick.perSecond := by decide
  have hrest := Int.mul_nonneg (Int.tmod_nonneg Tick.perSecond h) (by decide : (0 : Int) ≤ 1000000000)
  rw [seconds_ofTicks, subsecond_ofTicks]
  exact ⟨Int.tdiv_nonneg h hsecond, Int.tdiv_nonneg hrest hsecond⟩

theorem nonpos_of_ticks_nonpos {ticks : Int} (h : ticks ≤ 0) :
    (ofTicks ticks).seconds ≤ 0 ∧ (ofTicks ticks).subsecond ≤ 0 := by
  have hneg := nonneg_of_ticks_nonneg (Int.neg_nonneg_of_nonpos h)
  rw [ofTicks_neg, seconds_neg, subsecond_neg] at hneg
  omega

-- The longest time there is, a word of milliseconds.
def reach : Int := Word.greatest * 1000000

def InReach (d : Duration) : Prop := -reach ≤ d.nanos ∧ d.nanos ≤ reach

instance (d : Duration) : Decidable d.InReach := inferInstanceAs (Decidable (_ ∧ _))

-- A length of time, if there is one that long.
def reached? (nanos : Int) : Option Duration :=
  if InReach ⟨nanos⟩ then some ⟨nanos⟩ else none

theorem reached?_of_inReach {nanos : Int} (h : InReach ⟨nanos⟩) : reached? nanos = some ⟨nanos⟩ :=
  if_pos h

theorem inReach_iff {nanos : Int} :
    InReach ⟨nanos⟩ ↔
      -9223372036854775807000000 ≤ nanos ∧ nanos ≤ 9223372036854775807000000 := Iff.rfl

-- Every word of nanoseconds is within reach, and so are the seconds of every word of ticks.
theorem inReach_of_fits {nanos : Int} (h : Word.Fits nanos) : InReach ⟨nanos⟩ := by
  rw [Word.fits_iff] at h
  rw [inReach_iff]
  omega

theorem inReach_seconds {ticks : Int} (h : Word.Fits ticks) :
    InReach ⟨ticks.tdiv Tick.perSecond * 1000000000⟩ := by
  have hsplit := Int.mul_tdiv_add_tmod ticks Tick.perSecond
  have hlt := Int.tmod_lt_of_pos ticks (by decide : 0 < Tick.perSecond)
  have hgt := Int.lt_tmod_of_pos ticks (by decide : 0 < Tick.perSecond)
  rw [Word.fits_iff] at h
  rw [inReach_iff]
  unfold Tick.perSecond at hsplit hlt hgt ⊢
  omega

theorem inReach_ofTicks {ticks : Int} (h : Word.Fits ticks) : (ofTicks ticks).InReach := by
  have hb := nanos_bounds ticks
  rw [Word.fits_iff] at h
  show InReach ⟨(ofTicks ticks).nanos⟩
  rw [inReach_iff]
  omega

-- Less than a second is left over, which is few enough ticks to be scaled in a word.
theorem fits_rest (ticks : Int) :
    Word.Fits (ticks.tmod Tick.perSecond) ∧
      Word.Fits (ticks.tmod Tick.perSecond * 1000000000) := by
  have hlt := Int.tmod_lt_of_pos ticks (by decide : 0 < Tick.perSecond)
  have hgt := Int.lt_tmod_of_pos ticks (by decide : 0 < Tick.perSecond)
  rw [Word.fits_iff, Word.fits_iff]
  unfold Tick.perSecond at hlt hgt ⊢
  omega

-- The same length, with every number on the way taken in a word and no length taken that
-- is out of reach. If one of them is, there is no outcome.
def check (ticks : Int) : Option Duration := do
  let seconds ← Word.within? (ticks.tdiv Tick.perSecond)
  let rest ← Word.within? (ticks.tmod Tick.perSecond)
  let scaled ← Word.within? (rest * 1000000000)
  let nanos ← Word.within? (scaled.tdiv Tick.perSecond)
  let whole ← reached? (seconds * 1000000000)
  let part ← reached? nanos
  reached? (whole.nanos + part.nanos)

theorem check_eq {ticks : Int} (h : Word.Fits ticks) : check ticks = some (ofTicks ticks) := by
  have hsecond : 0 < Tick.perSecond := by decide
  obtain ⟨hrest, hscaled⟩ := fits_rest ticks
  have hpart := Word.fits_tdiv hscaled hsecond
  simp only [check, Word.within?_of_fits (Word.fits_tdiv h hsecond), Word.within?_of_fits hrest,
    Word.within?_of_fits hscaled, Word.within?_of_fits hpart, Option.bind_eq_bind,
    Option.bind_some, reached?_of_inReach (inReach_seconds h),
    reached?_of_inReach (inReach_of_fits hpart)]
  exact reached?_of_inReach (inReach_ofTicks h)

-- Every word of ticks has a length, and it is taken without leaving a word or the reach of
-- lengths on the way. It is cut off toward zero, as a whole and in its seconds and what is
-- left of one, which point the same way. More ticks are longer, and as many in the other
-- direction are the opposite, unless there is no such word.
theorem ofTicks_cut_off_and_increasing :
    (∀ ticks, Word.Fits ticks →
      check ticks = some (ofTicks ticks) ∧ (ofTicks ticks).InReach ∧
      (ofTicks ticks).nanos = (ticks * 1000000000).tdiv 90000 ∧
      (ofTicks ticks).seconds = ticks.tdiv 90000 ∧
      (ofTicks ticks).subsecond = (ticks.tmod 90000 * 1000000000).tdiv 90000 ∧
      (0 ≤ ticks → 0 ≤ (ofTicks ticks).seconds ∧ 0 ≤ (ofTicks ticks).subsecond) ∧
      (ticks ≤ 0 → (ofTicks ticks).seconds ≤ 0 ∧ (ofTicks ticks).subsecond ≤ 0)) ∧
    (∀ a b, a < b → (ofTicks a).nanos < (ofTicks b).nanos) ∧
    ∀ ticks, Word.Fits ticks → ticks ≠ Word.least →
      check (-ticks) = some (-ofTicks ticks) := by
  refine ⟨?_, fun a b => nanos_lt_nanos, ?_⟩
  · intro ticks h
    exact ⟨check_eq h, inReach_ofTicks h, nanos_ofTicks ticks, seconds_ofTicks ticks,
      subsecond_ofTicks ticks, nonneg_of_ticks_nonneg, nonpos_of_ticks_nonpos⟩
  · intro ticks h hne
    have hneg : Word.Fits (-ticks) := by
      rw [Word.fits_iff] at h ⊢
      unfold Word.least at hne
      omega
    rw [check_eq hneg, ofTicks_neg]

-- The least word of ticks has a length as well, though its opposite is no word.
theorem ofTicks_least_and_one_before :
    check Word.least = some (ofTicks Word.least) ∧
      (ofTicks Word.least).seconds = -102481911520608 ∧
      (ofTicks Word.least).subsecond = -620088888 ∧
      (ofTicks Word.least).nanos < (ofTicks (-1)).nanos ∧ check (-1) = some (-ofTicks 1) := by
  obtain ⟨hcut, hlt, hneg⟩ := ofTicks_cut_off_and_increasing
  obtain ⟨hcheck, -, -, hseconds, hsubsecond, -⟩ := hcut Word.least (by decide)
  refine ⟨hcheck, hseconds.trans (by decide), hsubsecond.trans (by decide), ?_, ?_⟩
  · exact hlt Word.least (-1) (by decide)
  · exact hneg 1 (by decide) (by decide)

end Duration

end Footage
