import Footage.Error
import Footage.Proofs.TimeRange

namespace Footage

namespace Word

-- The difference of two words, if it has a place in a word.
def sub? (a b : Int) : Option Int := if Fits (a - b) then some (a - b) else none

theorem sub?_of_fits {a b : Int} (h : Fits (a - b)) : sub? a b = some (a - b) := if_pos h

end Word

namespace TimeRange

-- The rules that three numbers of a range keep.
structure Keeps (start stop present : Int) : Prop where
  start_nonneg : 0 ≤ start
  stop_nonneg : 0 ≤ stop
  present_nonneg : 0 ≤ present
  stop_le_last : stop ≤ Tick.last
  start_le_stop : start ≤ stop
  present_le_span : present ≤ stop - start

theorem keeps (r : TimeRange) : Keeps r.start r.stop r.present :=
  ⟨r.start_nonneg, Int.le_trans r.start_nonneg r.start_le_stop, r.present_nonneg, r.stop_le_last,
    r.start_le_stop, r.present_le_span⟩

theorem exists_make_eq_ok_iff {start stop present : Int} :
    (∃ r, make start stop present = .ok r) ↔ Keeps start stop present := by
  constructor
  · rintro ⟨r, hr⟩
    obtain ⟨rfl, rfl, rfl⟩ := make_eq_ok_iff.mp hr
    exact r.keeps
  · intro h
    exact ⟨⟨start, stop, present, h.start_nonneg, h.start_le_stop, h.stop_le_last,
      h.present_nonneg, h.present_le_span⟩, make_eq_ok_iff.mpr ⟨rfl, rfl, rfl⟩⟩

-- The numbers of a range always have a place in a word.
theorem fits (r : TimeRange) : Word.Fits r.start ∧ Word.Fits r.stop ∧ Word.Fits r.present := by
  obtain ⟨gs, ge, gp⟩ := r.le_greatest
  have h0 := Int.le_trans r.start_nonneg r.start_le_stop
  exact ⟨Word.fits_of_nonneg r.start_nonneg gs, Word.fits_of_nonneg h0 ge,
    Word.fits_of_nonneg r.present_nonneg gp⟩

-- What a fault says of three numbers. A length is only named when it is a word.
def Fault.Holds (start stop present : Int) : Fault → Prop
  | .negative .start tick => tick = start ∧ start < 0
  | .negative .stop tick => tick = stop ∧ stop < 0
  | .negative .present tick => tick = present ∧ present < 0
  | .pastLast tick => tick = stop ∧ Tick.last < stop
  | .inverted first last => first = start ∧ last = stop ∧ stop < start
  | .excess found span => found = present ∧ Word.sub? stop start = some span ∧ span < present

-- Bare numbers of a range.
def numbers (r : TimeRange) : Int × Int × Int := (r.start, r.stop, r.present)

-- The same rules on bare numbers, with the length taken in a word. If it has no place
-- there, there is no outcome.
def check (start stop present : Int) : Option (Except Fault (Int × Int × Int)) :=
  if start < 0 then some (.error (.negative .start start))
  else if stop < 0 then some (.error (.negative .stop stop))
  else if present < 0 then some (.error (.negative .present present))
  else if Tick.last < stop then some (.error (.pastLast stop))
  else if stop < start then some (.error (.inverted start stop))
  else (Word.sub? stop start).map fun span =>
    if span < present then .error (.excess present span) else .ok (start, stop, present)

-- The ends of a range are looked at before its length is taken, and so it is a word.
theorem fits_length {start stop : Int} (h0 : 0 ≤ start) (hs : start ≤ stop)
    (hl : stop ≤ Tick.last) : Word.Fits (stop - start) := by
  have hg := last_lt_greatest
  exact Word.fits_of_nonneg (by omega) (by omega)

theorem sub?_of_ends {start stop : Int} (h0 : 0 ≤ start) (hs : start ≤ stop)
    (hl : stop ≤ Tick.last) : Word.sub? stop start = some (stop - start) :=
  Word.sub?_of_fits (fits_length h0 hs hl)

theorem check_eq (start stop present : Int) :
    check start stop present = some ((make start stop present).map numbers) := by
  unfold check make
  split
  · rfl
  · split
    · rfl
    · split
      · rfl
      · split
        · rfl
        · split
          · rfl
          · rw [sub?_of_ends (by omega) (by omega) (by omega), Option.map_some]
            split <;> rfl

theorem holds_of_make_eq_error {start stop present : Int} {fault : Fault}
    (h : make start stop present = .error fault) : fault.Holds start stop present := by
  unfold make at h
  split at h
  · cases h
    exact ⟨rfl, ‹_›⟩
  · split at h
    · cases h
      exact ⟨rfl, ‹_›⟩
    · split at h
      · cases h
        exact ⟨rfl, ‹_›⟩
      · split at h
        · cases h
          exact ⟨rfl, ‹_›⟩
        · split at h
          · cases h
            exact ⟨rfl, rfl, ‹_›⟩
          · split at h
            · cases h
              exact ⟨rfl, sub?_of_ends (by omega) (by omega) (by omega), ‹_›⟩
            · contradiction

-- In the other order the length could be out of reach.
example : Word.sub? Word.greatest Word.least = none := by decide

-- The length of a range, the recorded part and the gap, as they are taken in words.
structure Sound (r : TimeRange) : Prop where
  keeps : Keeps r.start r.stop r.present
  span : Word.sub? r.stop r.start = some r.span
  gap : Word.sub? r.span r.present = some r.gap
  fits : Word.Fits (r.present + r.gap)
  span_eq : r.span = r.present + r.gap
  gap_nonneg : 0 ≤ r.gap
  hasGaps_iff : r.hasGaps = true ↔ 0 < r.gap

theorem sound (r : TimeRange) : r.Sound := by
  have hspan := sub?_of_ends r.start_nonneg r.start_le_stop r.stop_le_last
  have hlast := last_lt_greatest
  have h1 := r.start_nonneg
  have h2 := r.start_le_stop
  have h3 := r.stop_le_last
  have h4 := r.present_nonneg
  have h5 := r.present_le_span
  have hs : r.span = r.stop - r.start := rfl
  have hg : r.gap = r.span - r.present := rfl
  refine ⟨r.keeps, hspan, ?_, ?_, by omega, by omega, ?_⟩
  · exact Word.sub?_of_fits (Word.fits_of_nonneg (by omega) (by omega))
  · exact Word.fits_of_nonneg (by omega) (by omega)
  · rw [hasGaps, decide_eq_true_eq]
    omega

-- A range without gaps is one whose whole length was recorded.
theorem contiguous_eq_ok_iff {start stop : Int} {r : TimeRange} :
    contiguous start stop = .ok r ↔ r.start = start ∧ r.stop = stop ∧ r.present = stop - start := by
  have hf := fits_length r.start_nonneg r.start_le_stop r.stop_le_last
  have hs := r.start_le_stop
  rw [contiguous, make_eq_ok_iff]
  constructor
  · rintro ⟨rfl, rfl, hp⟩
    rw [Word.clamp_of_fits hf] at hp
    exact ⟨rfl, rfl, by omega⟩
  · rintro ⟨rfl, rfl, hp⟩
    rw [Word.clamp_of_fits hf]
    exact ⟨rfl, rfl, by omega⟩

theorem gap_eq_zero {r : TimeRange} (h : r.present = r.stop - r.start) : r.gap = 0 := by
  unfold gap span
  omega

theorem gap_of_contiguous {start stop : Int} {r : TimeRange} (h : contiguous start stop = .ok r) :
    r.gap = 0 := by
  obtain ⟨rfl, rfl, hp⟩ := contiguous_eq_ok_iff.mp h
  exact gap_eq_zero hp

end TimeRange

end Footage
