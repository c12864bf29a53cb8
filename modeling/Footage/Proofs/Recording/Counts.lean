import Footage.Proofs.Recording.Acceptance

namespace Footage

theorem Payload.OptionalAt.unique {ms : Members} {name : String} {m n : Option Int}
    (hm : OptionalAt ms name m) (hn : OptionalAt ms name n) : m = n := by
  have hread : optionalInt [] ms name = .ok m := optionalInt_eq_ok_iff.mpr hm
  exact Except.ok.inj (hread.symm.trans (optionalInt_eq_ok_iff.mpr hn))

namespace Recording

open Payload

-- The numbers of a run that are tested when it is read. The last id is tested against
-- the first one.
def tested (r : Recording) : List Int :=
  r.startId :: r.endId.toList ++ [r.openId, r.sampleFileBytes, r.videoSamples, r.width, r.height]

-- All ids, bytes and samples of a run, and the size of its picture.
def exposed (r : Recording) : List Int := r.tested ++ r.firstUncommitted.toList

theorem Describes.tested_nonneg {ms : Members} {r : Recording} (h : Describes ms r) :
    ∀ n ∈ r.tested, 0 ≤ n := by
  have hstart := h.startId.2.1
  have hend : ∀ n ∈ r.endId.toList, 0 ≤ n := fun n hn =>
    Int.le_trans hstart (h.startId_le n (Option.mem_toList.mp hn))
  intro n hn
  simp only [tested, List.cons_append, List.mem_cons, List.mem_append, List.not_mem_nil,
    or_false] at hn
  rcases hn with rfl | hn | rfl | rfl | rfl | rfl | rfl
  · exact hstart
  · exact hend n hn
  · exact h.openId.2.1
  · exact h.sampleFileBytes.2.1
  · exact h.videoSamples.2.1
  · exact h.width.2.1
  · exact h.height.2.1

theorem Describes.commitCounted_iff {ms : Members} {r : Recording} (h : Describes ms r) :
    CommitCounted (.object ms) ↔ ∀ n, r.firstUncommitted = some n → 0 ≤ n := by
  constructor
  · intro hc
    obtain ⟨m, hm, hnonneg⟩ := hc ms rfl
    rwa [hm.unique h.firstUncommitted] at hnonneg
  · intro hnonneg fields hv
    cases hv
    exact ⟨_, h.firstUncommitted, hnonneg⟩

theorem Describes.exposed_nonneg_iff {ms : Members} {r : Recording} (h : Describes ms r) :
    (∀ n ∈ r.exposed, 0 ≤ n) ↔ CommitCounted (.object ms) := by
  rw [h.commitCounted_iff, exposed, List.forall_mem_append]
  simp only [Option.mem_toList]
  exact and_iff_right h.tested_nonneg

end Recording

namespace RecordingList

open Payload Recording

-- The numbers of a listing that are tested are never negative. All of its numbers are
-- not exactly when no item states a negative number for the first recording that is not
-- yet committed, which is passed on as it is stated.
theorem exposed_nonneg_iff_commitCounted {payload : Json} {l : RecordingList}
    (h : ofJson payload = .ok l) :
    ∃ items, ListedIn payload items ∧
      List.Forall₂ (fun item r => ∃ fields, item = .object fields ∧
        OptionalAt fields "firstUncommitted" r.firstUncommitted ∧
        (∀ n ∈ r.tested, 0 ≤ n) ∧ ((∀ n ∈ r.exposed, 0 ≤ n) ↔ CommitCounted item))
        items l.recordings ∧
      ((∀ r ∈ l.recordings, ∀ n ∈ r.exposed, 0 ≤ n) ↔ ∀ item ∈ items, CommitCounted item) := by
  obtain ⟨items, hl, -⟩ := exists_ofJson_eq_ok_iff.mp ⟨l, h⟩
  have hf := forall₂_describes hl h
  refine ⟨items, hl, hf.imp ?_, forall_mem_iff_of_forall₂ (hf.imp ?_)⟩
  · rintro item r ⟨fields, rfl, hd⟩
    exact ⟨fields, rfl, hd.firstUncommitted, hd.tested_nonneg, hd.exposed_nonneg_iff⟩
  · rintro item r ⟨fields, rfl, hd⟩
    exact hd.exposed_nonneg_iff

-- Of two runs the first has all numbers that may be left out.
theorem exposed_nonneg_pair :
    let items := [runWith [("endId", .int 9), ("firstUncommitted", .int 7)], runWith []]
    ∃ l, ofJson (listingOf items) = .ok l ∧ ∀ r ∈ l.recordings, ∀ n ∈ r.exposed, 0 ≤ n := by
  intro items
  obtain ⟨l, h⟩ : ∃ l, ofJson (listingOf items) = .ok l := ⟨_, rfl⟩
  obtain ⟨others, hl, -, hiff⟩ := exposed_nonneg_iff_commitCounted h
  obtain rfl := listedIn_listingOf_iff.mp hl
  refine ⟨l, h, hiff.mpr fun item hi fields hv => ?_⟩
  rcases List.mem_pair.mp hi with rfl | rfl
  · cases hv
    exact ⟨some 7, ⟨rfl, by decide⟩, fun k hk => by cases hk; decide⟩
  · cases hv
    exact ⟨none, Or.inl rfl, nofun⟩

-- A negative number for the first recording that is not yet committed is taken and shown.
theorem firstUncommitted_negative :
    ∃ l r, ofJson (listingOf [runWith [("firstUncommitted", .int (-1))]]) = .ok l ∧
      l.recordings = [r] ∧ r.firstUncommitted = some (-1) ∧ ¬∀ n ∈ r.exposed, 0 ≤ n := by
  refine ⟨_, _, rfl, rfl, rfl, ?_⟩
  decide

end RecordingList

end Footage
