import Footage.Proofs.Recording.Acceptance
import Footage.Proofs.Segment
import Footage.Proofs.TimeRange.Origin

namespace Footage

namespace Recording

open Payload

-- The ends that are allowed for a part of a run of some length.
structure Within (span : Int) (relStart relEnd : Option Int) : Prop where
  start_nonneg : 0 ≤ relStart.getD 0
  start_le : relStart.getD 0 ≤ span
  stop : ∀ n, relEnd = some n → relStart.getD 0 < n ∧ n ≤ span

-- The part of a run that is cut out, by its numbers.
def part (r : Recording) (relStart relEnd : Option Int) : Segment :=
  ⟨r.startId, r.endId, r.openId, relStart, relEnd⟩

theorem segment_eq_ok_iff {r : Recording} {a b : Option Int} {g : Segment} :
    r.segment a b = .ok g ↔ Within r.range.span a b ∧ r.part a b = g := by
  simp only [segment]
  by_cases hstart : a.getD 0 < 0 ∨ r.range.span < a.getD 0
  · rw [if_pos hstart]
    constructor
    · intro h
      contradiction
    · rintro ⟨h, -⟩
      have h1 := h.start_nonneg
      have h2 := h.start_le
      omega
  · rw [if_neg hstart]
    have h1 : 0 ≤ a.getD 0 := by omega
    have h2 : a.getD 0 ≤ r.range.span := by omega
    cases b with
    | none =>
        rw [Except.ok.injEq]
        exact (and_iff_right ⟨h1, h2, nofun⟩).symm
    | some n =>
        by_cases hstop : n ≤ a.getD 0 ∨ r.range.span < n
        · simp only [if_pos hstop]
          constructor
          · intro h
            contradiction
          · rintro ⟨h, -⟩
            have h3 := h.stop n rfl
            omega
        · simp only [if_neg hstop]
          rw [Except.ok.injEq]
          have h3 : a.getD 0 < n ∧ n ≤ r.range.span := by omega
          refine (and_iff_right ⟨h1, h2, ?_⟩).symm
          intro m hm
          cases hm
          exact h3

theorem exists_segment_eq_ok_iff {r : Recording} {a b : Option Int} :
    (∃ g, r.segment a b = .ok g) ↔ Within r.range.span a b := by
  simp only [segment_eq_ok_iff, exists_and_left, exists_eq', and_true]

-- An end of a part lies in the run.
theorem Within.le_stop {span : Int} {a b : Option Int} (h : Within span a b) {n : Int}
    (hn : a = some n ∨ b = some n) : 0 ≤ n ∧ n ≤ span := by
  have h1 := h.start_nonneg
  rcases hn with rfl | hn
  · exact ⟨h1, h.start_le⟩
  · have h2 := h.stop n hn
    omega

theorem Describes.counted {ms : Members} {r : Recording} (hd : Describes ms r)
    {a b : Option Int} (h : Within r.range.span a b) : (r.part a b).Counted where
  startId := hd.startId.2.1
  endId := fun n hn => Int.le_trans hd.startId.2.1 (hd.startId_le n hn)
  openId := hd.openId.2.1
  relStart := fun _ hn => (h.le_stop (Or.inl hn)).1
  relEnd := fun _ hn => (h.le_stop (Or.inr hn)).1

end Recording

namespace RecordingList

open Payload Recording

theorem ReadFrom.describes_of_mem {payload : Json} {l : RecordingList} (h : ReadFrom payload l)
    {r : Recording} (hr : r ∈ l.recordings) : ∃ fields, Describes fields r := by
  obtain ⟨i, hi⟩ := List.mem_iff_getElem?.mp hr
  obtain ⟨_, _, fields, -, -, -, hd⟩ := h.describes hi
  exact ⟨fields, hd⟩

-- The segments of the recordings that are read.
def Cuts (g : Segment) : Prop :=
  ∃ payload l r a b, ReadFrom payload l ∧ r ∈ l.recordings ∧ r.segment a b = .ok g

theorem Cuts.counted {g : Segment} (h : Cuts g) : g.Counted := by
  obtain ⟨payload, l, r, a, b, hl, hr, hg⟩ := h
  obtain ⟨fields, hd⟩ := hl.describes_of_mem hr
  obtain ⟨hin, rfl⟩ := segment_eq_ok_iff.mp hg
  exact hd.counted hin

-- A part is cut out of a run exactly when its ends are in their order within the run.
-- Its text is in the form of a segment and is read as the numbers of the run and the ends
-- that were asked for, so no other part of any run has that text. The ends are ticks of
-- the run.
theorem segment_iff_within_and_reads {payload : Json} {l : RecordingList}
    (hl : ReadFrom payload l) {r : Recording} (hr : r ∈ l.recordings) (a b : Option Int) :
    ((∃ g, r.segment a b = .ok g) ↔ Within r.range.span a b) ∧
    (∀ text g, Segment.parse? text = some g ↔ Segment.Form text.toList g) ∧
    ∀ g, r.segment a b = .ok g →
      Segment.parse? g.text = some ⟨r.startId, r.endId, r.openId, a, b⟩ ∧
      (∀ n, a = some n ∨ b = some n →
        r.range.start ≤ r.range.start + n ∧ r.range.start + n ≤ r.range.stop ∧
          Word.Fits (r.range.start + n)) ∧
      ∀ payload' l' r' c d g', ReadFrom payload' l' → r' ∈ l'.recordings →
        r'.segment c d = .ok g' →
        (g.text = g'.text ↔ r.startId = r'.startId ∧ r.endId = r'.endId ∧ r.openId = r'.openId ∧
          a = c ∧ b = d) := by
  refine ⟨exists_segment_eq_ok_iff, fun _ _ => Segment.parse?_eq_some_iff, ?_⟩
  intro g hg
  have hcounted := Cuts.counted ⟨payload, l, r, a, b, hl, hr, hg⟩
  obtain ⟨hin, rfl⟩ := segment_eq_ok_iff.mp hg
  refine ⟨hcounted.parse?_text, ?_, ?_⟩
  · intro n hn
    have h1 := hin.le_stop hn
    have h2 := r.range.start_nonneg
    have h3 : r.range.span = r.range.stop - r.range.start := rfl
    have h4 := r.range.le_greatest
    refine ⟨by omega, by omega, Word.fits_of_nonneg (by omega) (by omega)⟩
  · intro payload' l' r' c d g' hl' hr' hg'
    have hcounted' := Cuts.counted ⟨payload', l', r', c, d, hl', hr', hg'⟩
    obtain ⟨-, rfl⟩ := segment_eq_ok_iff.mp hg'
    rw [hcounted.text_inj hcounted', part, part, Segment.mk.injEq]

-- The whole of a run, with both of its ends given.
theorem segment_reads_whole :
    let listing := listingOf [runWith [("endId", .int 9)]]
    let range : TimeRange :=
      ⟨90000, 180000, 90000, by decide, by decide, by decide, by decide, by decide⟩
    let run : Recording := ⟨4, some 9, 1, none, range, 2000, 30, 640, 480, "", false⟩
    ReadFrom listing ⟨[run], .ofJson listing⟩ ∧
      ∃ g, run.segment (some 0) (some 90000) = .ok g ∧
        Segment.parse? g.text = some ⟨4, some 9, 1, some 0, some 90000⟩ := by
  intro listing range run
  have hl : ReadFrom listing ⟨[run], .ofJson listing⟩ := .payload rfl
  have hr : run ∈ [run] := List.mem_cons_self
  obtain ⟨hiff, -, hread⟩ := segment_iff_within_and_reads hl hr (some 0) (some 90000)
  have hin : Within run.range.span (some 0) (some 90000) := by
    refine ⟨by decide, by decide, ?_⟩
    intro n hn
    cases hn
    decide
  obtain ⟨g, hg⟩ := hiff.mpr hin
  exact ⟨hl, g, hg, (hread g hg).1⟩

end RecordingList

end Footage
