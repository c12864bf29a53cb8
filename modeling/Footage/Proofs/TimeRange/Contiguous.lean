import Footage.Proofs.TimeRange.Words

namespace Footage.TimeRange

-- What is wrong with the ends of a range, whatever was recorded between them.
def endsFault? (start stop : Int) : Option Fault :=
  if start < 0 then some (.negative .start start)
  else if stop < 0 then some (.negative .stop stop)
  else if Tick.last < stop then some (.pastLast stop)
  else if stop < start then some (.inverted start stop)
  else none

theorem endsFault?_ne_negative_present (start stop tick : Int) :
    endsFault? start stop ≠ some (.negative .present tick) := by
  unfold endsFault?
  repeat' split
  all_goals exact nofun

theorem endsFault?_ne_excess (start stop found span : Int) :
    endsFault? start stop ≠ some (.excess found span) := by
  unfold endsFault?
  repeat' split
  all_goals exact nofun

-- A recorded part that is not below 0, and no longer than the ends are apart where these
-- are in order, is never what is reported.
theorem make_eq_error_iff {start stop present : Int} {fault : Fault} (hp : 0 ≤ present)
    (hin : 0 ≤ start → start ≤ stop → stop ≤ Tick.last → present ≤ stop - start) :
    make start stop present = .error fault ↔ endsFault? start stop = some fault := by
  have hpresent : ¬present < 0 := by omega
  unfold make endsFault?
  by_cases hs : start < 0
  · simp [hs]
  by_cases he : stop < 0
  · simp [hs, he]
  by_cases hlast : Tick.last < stop
  · simp [hs, he, hpresent, hlast]
  by_cases horder : stop < start
  · simp [hs, he, hpresent, hlast, horder]
  have hexcess : ¬stop - start < present := by
    have hle := hin (by omega) (by omega) (by omega)
    omega
  simp [hs, he, hpresent, hlast, horder, hexcess]

theorem make_zero_eq_error_iff {start stop : Int} {fault : Fault} :
    make start stop 0 = .error fault ↔ endsFault? start stop = some fault := by
  apply make_eq_error_iff (Int.le_refl 0)
  intro _ hs _
  omega

-- The length is only cut to a word where the ends are at fault.
theorem contiguous_eq_error_iff {start stop : Int} {fault : Fault} :
    contiguous start stop = .error fault ↔ endsFault? start stop = some fault := by
  apply make_eq_error_iff (Int.le_max_right _ _)
  intro h0 hs hl
  rw [Word.clamp_of_fits (fits_length h0 hs hl)]
  omega

theorem exists_make_zero_of_endsFault?_eq_none {start stop : Int}
    (h : endsFault? start stop = none) : ∃ r, make start stop 0 = .ok r := by
  cases hm : make start stop 0 with
  | ok r => exact ⟨r, rfl⟩
  | error fault =>
      rw [make_zero_eq_error_iff, h] at hm
      contradiction

-- The same ends, with all that lies between them recorded.
def filled (r : TimeRange) : TimeRange where
  start := r.start
  stop := r.stop
  present := r.span
  start_nonneg := r.start_nonneg
  start_le_stop := r.start_le_stop
  stop_le_last := r.stop_le_last
  present_nonneg := Int.sub_nonneg_of_le r.start_le_stop
  present_le_span := Int.le_refl _

theorem contiguous_eq_map_filled (start stop : Int) :
    contiguous start stop = (make start stop 0).map filled := by
  cases h : endsFault? start stop with
  | some fault =>
      rw [contiguous_eq_error_iff.mpr h, make_zero_eq_error_iff.mpr h]
      rfl
  | none =>
      obtain ⟨r, hr⟩ := exists_make_zero_of_endsFault?_eq_none h
      obtain ⟨rfl, rfl, -⟩ := make_eq_ok_iff.mp hr
      rw [hr]
      exact contiguous_eq_ok_iff.mpr ⟨rfl, rfl, rfl⟩

-- Nothing would be different if the length were not cut to a word.
theorem contiguous_eq_make_length (start stop : Int) :
    contiguous start stop = make start stop (max (stop - start) 0) := by
  cases h : endsFault? start stop with
  | some fault =>
      have hlength : make start stop (max (stop - start) 0) = .error fault := by
        rw [make_eq_error_iff (Int.le_max_right _ _) (by omega)]
        exact h
      rw [contiguous_eq_error_iff.mpr h, hlength]
  | none =>
      obtain ⟨r, hr⟩ := exists_make_zero_of_endsFault?_eq_none h
      obtain ⟨rfl, rfl, -⟩ := make_eq_ok_iff.mp hr
      rw [contiguous, Word.clamp_of_fits (fits_length r.start_nonneg r.start_le_stop r.stop_le_last)]

theorem fits_cut_length (start stop : Int) : Word.Fits (max (Word.clamp (stop - start)) 0) := by
  obtain ⟨-, hg⟩ := Word.fits_clamp (stop - start)
  exact Word.fits_of_nonneg (Int.le_max_right _ _) (Int.max_le.mpr ⟨hg, by decide⟩)

-- A range without gaps is made of the same ends as one that nothing was recorded of, and
-- for any other ends the same fault is reported, which is never one of the length, though
-- the length is taken first and cut to a word. No number on the way is out of a word.
theorem contiguous_fares_as_make_zero (start stop : Int) :
    contiguous start stop = (make start stop 0).map filled ∧
      (∀ r, contiguous start stop = .ok r ↔
        r.start = start ∧ r.stop = stop ∧ r.present = stop - start) ∧
      (∀ fault, contiguous start stop = .error fault ↔ make start stop 0 = .error fault) ∧
      contiguous start stop = make start stop (max (stop - start) 0) ∧
      (∀ tick, contiguous start stop ≠ .error (.negative .present tick)) ∧
      (∀ found span, contiguous start stop ≠ .error (.excess found span)) ∧
      Word.Fits (max (Word.clamp (stop - start)) 0) ∧
      check start stop (max (Word.clamp (stop - start)) 0) =
        some ((contiguous start stop).map numbers) := by
  refine ⟨contiguous_eq_map_filled start stop, fun r => contiguous_eq_ok_iff, ?_,
    contiguous_eq_make_length start stop, ?_, ?_, fits_cut_length start stop,
    check_eq start stop _⟩
  · intro fault
    rw [contiguous_eq_error_iff, make_zero_eq_error_iff]
  · intro tick
    rw [Ne, contiguous_eq_error_iff]
    exact endsFault?_ne_negative_present start stop tick
  · intro found span
    rw [Ne, contiguous_eq_error_iff]
    exact endsFault?_ne_excess start stop found span

-- Ends so far apart that their length is no word.
example : contiguous Word.least Word.greatest = .error (.negative .start Word.least) := rfl

end Footage.TimeRange
