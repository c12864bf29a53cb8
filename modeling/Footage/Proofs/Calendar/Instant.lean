import Mathlib.Data.Rat.Floor
import Footage.Calendar.Instant
import Footage.Proofs.Duration
import Footage.Proofs.TimeRange.Words

namespace Footage

namespace Instant

-- The time from one moment to another.
def since (a b : Instant) : Duration := ⟨a.total - b.total⟩

-- Moments are in order by second, and within a second by nanosecond.
def Before (a b : Instant) : Prop :=
  a.seconds < b.seconds ∨ (a.seconds = b.seconds ∧ a.nanos < b.nanos)

-- Neither the second of a tick nor what is left of it is out of the calendar.
theorem ofUnix?_tick {tick : Int} (h0 : 0 ≤ tick) (hl : tick ≤ Tick.last) :
    ofUnix? (Tick.seconds tick) (Tick.nanos tick) = some ⟨Tick.seconds tick, Tick.nanos tick⟩ := by
  apply if_pos
  unfold firstSecond lastSecond Tick.seconds Tick.nanos Tick.perSecond
  unfold Tick.last Tick.perSecond at hl
  omega

theorem ofTick_eq {tick : Int} (h0 : 0 ≤ tick) (hl : tick ≤ Tick.last) :
    ofTick tick = ⟨Tick.seconds tick, Tick.nanos tick⟩ := by
  rw [ofTick, ofUnix?_tick h0 hl, Option.getD_some]

-- What is left of a second is less than one.
theorem rest_bounds (tick : Int) :
    0 ≤ tick % Tick.perSecond * 1000000000 / Tick.perSecond ∧
      tick % Tick.perSecond * 1000000000 / Tick.perSecond < 1000000000 := by
  unfold Tick.perSecond
  omega

theorem nanos_ofTick_lt {tick : Int} (h0 : 0 ≤ tick) (hl : tick ≤ Tick.last) :
    (ofTick tick).nanos < 1000000000 := by
  have hrest := rest_bounds tick
  rw [ofTick_eq h0 hl]
  show (tick % Tick.perSecond * 1000000000 / Tick.perSecond).toNat < 1000000000
  omega

-- The moment of a tick, with every number on the way taken in a word and the nanoseconds cut
-- to half a word. If a number has no place in a word, or the calendar no date, there is none.
def check (tick : Int) : Option Instant := do
  let seconds ← Word.within? (tick / Tick.perSecond)
  let rest ← Word.within? (tick % Tick.perSecond)
  let scaled ← Word.within? (rest * 1000000000)
  let nanos ← Word.within? (scaled.tdiv Tick.perSecond)
  ofUnix? seconds (nanos % 4294967296).toNat

theorem fits_steps {tick : Int} (h0 : 0 ≤ tick) (hl : tick ≤ Tick.last) :
    Word.Fits (tick / Tick.perSecond) ∧ Word.Fits (tick % Tick.perSecond) ∧
      Word.Fits (tick % Tick.perSecond * 1000000000) := by
  simp only [Word.fits_iff]
  unfold Tick.last at hl
  unfold Tick.perSecond at hl ⊢
  omega

theorem check_eq {tick : Int} (h0 : 0 ≤ tick) (hl : tick ≤ Tick.last) :
    check tick = some (ofTick tick) := by
  obtain ⟨hseconds, hrest, hscaled⟩ := fits_steps h0 hl
  have hnanos := Word.fits_tdiv hscaled (by decide : 0 < Tick.perSecond)
  have hnonneg : 0 ≤ tick % Tick.perSecond * 1000000000 :=
    Int.mul_nonneg (Int.emod_nonneg tick (by decide)) (by decide)
  -- half a word has a place for all nanoseconds of a second
  have hcut : (tick % Tick.perSecond * 1000000000).tdiv Tick.perSecond % 4294967296 =
      tick % Tick.perSecond * 1000000000 / Tick.perSecond := by
    obtain ⟨hr0, hr1⟩ := rest_bounds tick
    rw [Int.tdiv_eq_ediv_of_nonneg hnonneg]
    exact Int.emod_eq_of_lt hr0 (Int.lt_trans hr1 (by decide))
  simp only [check, Word.within?_of_fits hseconds, Word.within?_of_fits hrest,
    Word.within?_of_fits hscaled, Word.within?_of_fits hnanos, Option.bind_eq_bind,
    Option.bind_some, hcut]
  rw [ofTick_eq h0 hl]
  exact ofUnix?_tick h0 hl

theorem total_ofTick {tick : Int} (h0 : 0 ≤ tick) (hl : tick ≤ Tick.last) :
    (ofTick tick).total = tick * 1000000000 / 90000 := by
  rw [ofTick_eq h0 hl]
  simp only [total, Tick.seconds, Tick.nanos, Tick.perSecond]
  omega

theorem total_eq_floor {tick : Int} (h0 : 0 ≤ tick) (hl : tick ≤ Tick.last) :
    (ofTick tick).total = ⌊((tick * 1000000000 : Int) : ℚ) / 90000⌋ := by
  have hfloor := Rat.floor_intCast_div_natCast (tick * 1000000000) 90000
  rw [Nat.cast_ofNat] at hfloor
  rw [hfloor]
  exact total_ofTick h0 hl

-- Less than a nanosecond is cut off, and a tick is longer than that.
theorem ceil_total {tick : Int} (h0 : 0 ≤ tick) (hl : tick ≤ Tick.last) :
    ⌈(((ofTick tick).total * 90000 : Int) : ℚ) / 1000000000⌉ = tick := by
  have hceil := Rat.ceil_intCast_div_natCast ((ofTick tick).total * 90000) 1000000000
  rw [Nat.cast_ofNat] at hceil
  rw [hceil, total_ofTick h0 hl]
  omega

theorem total_lt_total {a b : Int} (h0 : 0 ≤ a) (h : a < b) (hl : b ≤ Tick.last) :
    (ofTick a).total < (ofTick b).total := by
  rw [total_ofTick h0 (by omega), total_ofTick (by omega) hl]
  omega

-- Without leap seconds the order of moments is that of their nanoseconds since 1970.
theorem before_iff_total_lt {a b : Instant} (ha : a.nanos < 1000000000)
    (hb : b.nanos < 1000000000) : a.Before b ↔ a.total < b.total := by
  unfold Before total
  omega

theorem ofTick_before {a b : Int} (h0 : 0 ≤ a) (h : a < b) (hl : b ≤ Tick.last) :
    (ofTick a).Before (ofTick b) :=
  (before_iff_total_lt (nanos_ofTick_lt h0 (by omega)) (nanos_ofTick_lt (by omega) hl)).mpr
    (total_lt_total h0 h hl)

-- Two ticks are never the same moment.
theorem ofTick_inj {a b : Int} (ha0 : 0 ≤ a) (hal : a ≤ Tick.last) (hb0 : 0 ≤ b)
    (hbl : b ≤ Tick.last) : ofTick a = ofTick b ↔ a = b := by
  constructor
  · intro h
    have ht := congrArg total h
    rw [total_ofTick ha0 hal, total_ofTick hb0 hbl] at ht
    omega
  · exact congrArg ofTick

theorem ofTick_before_iff {a b : Int} (ha0 : 0 ≤ a) (hal : a ≤ Tick.last) (hb0 : 0 ≤ b)
    (hbl : b ≤ Tick.last) : (ofTick a).Before (ofTick b) ↔ a < b := by
  constructor
  · intro h
    rw [before_iff_total_lt (nanos_ofTick_lt ha0 hal) (nanos_ofTick_lt hb0 hbl),
      total_ofTick ha0 hal, total_ofTick hb0 hbl] at h
    omega
  · intro h
    exact ofTick_before ha0 h hbl

end Instant

namespace TimeRange

open Instant

-- From the first to the last moment of a range.
def elapsed (r : TimeRange) : Duration := (ofTick r.stop).since (ofTick r.start)

theorem nanos_elapsed (r : TimeRange) :
    r.elapsed.nanos = r.stop * 1000000000 / 90000 - r.start * 1000000000 / 90000 := by
  have h0 := r.start_nonneg
  have hs := r.start_le_stop
  have hl := r.stop_le_last
  rw [← total_ofTick h0 (by omega), ← total_ofTick (by omega) hl]
  rfl

-- Each end of a range and its length lose less than a nanosecond of their own.
theorem elapsed_eq_or_succ (r : TimeRange) :
    r.elapsed.nanos = (Duration.ofTicks r.span).nanos ∨
      r.elapsed.nanos = (Duration.ofTicks r.span).nanos + 1 := by
  have h0 := r.start_nonneg
  have hs := r.start_le_stop
  have hspan : 0 ≤ r.span * 1000000000 := by
    unfold span
    omega
  rw [nanos_elapsed, Duration.nanos_ofTicks, Int.tdiv_eq_ediv_of_nonneg hspan]
  unfold span Tick.perSecond
  omega

theorem inReach_elapsed (r : TimeRange) : r.elapsed.InReach := by
  have h0 := r.start_nonneg
  have hs := r.start_le_stop
  have hl := r.stop_le_last
  have he := r.nanos_elapsed
  unfold Tick.last Tick.perSecond at hl
  show Duration.InReach ⟨r.elapsed.nanos⟩
  rw [Duration.inReach_iff]
  omega

theorem ofTick_start_eq_stop_iff (r : TimeRange) :
    ofTick r.start = ofTick r.stop ↔ r.span = 0 := by
  have h0 := r.start_nonneg
  have hs := r.start_le_stop
  have hl := r.stop_le_last
  rw [ofTick_inj h0 (by omega) (by omega) hl, span]
  omega

-- The moment of a tick is exact up to whole nanoseconds, so that the tick can be told from
-- it, and it is reached without leaving a word or the calendar on the way. Later ticks are
-- later moments. From the start of a range to its end it takes as long as its ticks, or one
-- nanosecond longer.
theorem moments_exact_and_elapsed :
    (∀ tick, 0 ≤ tick → tick ≤ Tick.last →
      Instant.check tick = some (ofTick tick) ∧
      ofUnix? (Tick.seconds tick) (Tick.nanos tick) = some (ofTick tick) ∧
      (ofTick tick).total = ⌊((tick * 1000000000 : Int) : ℚ) / 90000⌋ ∧
      (ofTick tick).nanos < 1000000000 ∧
      tick = ⌈(((ofTick tick).total * 90000 : Int) : ℚ) / 1000000000⌉) ∧
    (∀ a b, 0 ≤ a → a < b → b ≤ Tick.last →
      (ofTick a).Before (ofTick b) ∧ (ofTick a).total < (ofTick b).total) ∧
    ∀ r : TimeRange,
      ((ofTick r.start).Before (ofTick r.stop) ∨ ofTick r.start = ofTick r.stop) ∧
      (ofTick r.start = ofTick r.stop ↔ r.span = 0) ∧
      r.elapsed.InReach ∧ Duration.check r.span = some (Duration.ofTicks r.span) ∧
      (r.elapsed.nanos = (Duration.ofTicks r.span).nanos ∨
        r.elapsed.nanos = (Duration.ofTicks r.span).nanos + 1) := by
  refine ⟨?_, ?_, ?_⟩
  · intro tick h0 hl
    refine ⟨Instant.check_eq h0 hl, ?_, total_eq_floor h0 hl, nanos_ofTick_lt h0 hl,
      (ceil_total h0 hl).symm⟩
    rw [ofTick_eq h0 hl]
    exact ofUnix?_tick h0 hl
  · intro a b h0 h hl
    exact ⟨ofTick_before h0 h hl, total_lt_total h0 h hl⟩
  · intro r
    have hs := r.start_le_stop
    refine ⟨?_, r.ofTick_start_eq_stop_iff, r.inReach_elapsed,
      Duration.check_eq (fits_length r.start_nonneg hs r.stop_le_last), r.elapsed_eq_or_succ⟩
    by_cases he : r.start = r.stop
    · exact Or.inr (congrArg ofTick he)
    · exact Or.inl (ofTick_before r.start_nonneg (by omega) r.stop_le_last)

-- A range for which the nanosecond is there.
def eightTicks : TimeRange where
  start := 1
  stop := 9
  present := 8
  start_nonneg := by decide
  start_le_stop := by decide
  stop_le_last := by decide
  present_nonneg := by decide
  present_le_span := by decide

theorem moments_eightTicks :
    Instant.check Tick.last = some (ofTick Tick.last) ∧ (ofTick 1).Before (ofTick 9) ∧
      eightTicks.elapsed.nanos = (Duration.ofTicks eightTicks.span).nanos + 1 := by
  obtain ⟨hexact, hbefore, hrange⟩ := moments_exact_and_elapsed
  obtain ⟨hcheck, -⟩ := hexact Tick.last (by decide) (by decide)
  obtain ⟨-, -, -, -, helapsed⟩ := hrange eightTicks
  refine ⟨hcheck, (hbefore 1 9 (by decide) (by decide) (by decide)).1, ?_⟩
  exact helapsed.resolve_left (by decide)

end TimeRange

end Footage
