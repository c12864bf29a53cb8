import Footage.Proofs.Payload.Place
import Footage.Proofs.TimeRange.Words
import Footage.Recording

namespace Footage

namespace Recording

open Payload

-- What a payload says of a run of recordings. A run has no length of its own, only its
-- two ends.
structure Describes (ms : Members) (r : Recording) : Prop where
  startId : Counts ms "startId" r.startId
  endId : OptionalAt ms "endId" r.endId
  startId_le : ∀ n, r.endId = some n → r.startId ≤ n
  openId : Counts ms "openId" r.openId
  firstUncommitted : OptionalAt ms "firstUncommitted" r.firstUncommitted
  start : Counts ms "startTime90k" r.range.start
  stop : Counts ms "endTime90k" r.range.stop
  present : r.range.present = r.range.stop - r.range.start
  sampleFileBytes : Counts ms "sampleFileBytes" r.sampleFileBytes
  videoSamples : Counts ms "videoSamples" r.videoSamples
  width : Counts ms "videoSampleEntryWidth" r.width
  height : Counts ms "videoSampleEntryHeight" r.height
  sha1 : ms.lookup "videoSampleEntrySha1" = some (.string r.sha1)
  growing : FlagAt ms "growing" r.growing

section Read

variable {place : Path}

theorem checkIds_eq_ok_iff {startId : Int} {endId : Option Int} {u : Unit} :
    checkIds place startId endId = .ok u ↔ ∀ n, endId = some n → startId ≤ n := by
  cases endId with
  | none => simp [checkIds]
  | some n =>
      simp only [checkIds, Option.some.injEq, forall_eq']
      split
      · rename_i h
        simp only [reduceCtorEq, false_iff]
        omega
      · rename_i h
        simp only [true_iff]
        omega

theorem read_eq_ok_iff {v : Json} {r : Recording} :
    read place v = .ok r ↔ ∃ ms, v = .object ms ∧ Describes ms r := by
  simp only [read, bind_eq_ok_iff, members_eq_ok_iff, natural_eq_ok_iff, optionalInt_eq_ok_iff,
    checkIds_eq_ok_iff, mapError_eq_ok_iff, TimeRange.contiguous_eq_ok_iff, string_eq_ok_iff,
    flag_eq_ok_iff, pure_eq_ok_iff]
  constructor
  · rintro ⟨ms, rfl, startId, hi, endId, he, _, hle, start, hs, stop, ht, range, ⟨rfl, rfl, hp⟩,
      openId, ho, firstUncommitted, hf, sampleFileBytes, hb, videoSamples, hv, width, hw, height,
      hh, sha1, h1, growing, hg, rfl⟩
    exact ⟨ms, rfl, hi, he, hle, ho, hf, hs, ht, hp, hb, hv, hw, hh, h1, hg⟩
  · rintro ⟨ms, rfl, h⟩
    exact ⟨ms, rfl, _, h.startId, _, h.endId, (), h.startId_le, _, h.start, _, h.stop, r.range,
      ⟨rfl, rfl, h.present⟩, _, h.openId, _, h.firstUncommitted, _, h.sampleFileBytes,
      _, h.videoSamples, _, h.width, _, h.height, _, h.sha1, _, h.growing, rfl⟩

end Read

theorem placed_checkIds (startId : Int) (endId : Option Int) :
    Placed fun place => checkIds place startId endId := by
  unfold checkIds
  cases endId with
  | none => exact .ok ()
  | some n => exact .ite (.fail fun _ _ => rfl) (.ok ())

theorem placed_read (v : Json) : Placed fun place => read place v := by
  refine (placed_members v).bind fun ms => ?_
  refine (placed_natural ms _).bind fun startId => ?_
  refine (placed_optionalInt ms _).bind fun endId => ?_
  refine (placed_checkIds startId endId).bind fun _ => ?_
  refine (placed_natural ms _).bind fun start => ?_
  refine (placed_natural ms _).bind fun stop => ?_
  refine Placed.bind (.mapError (fun _ _ _ => rfl) _) fun range => ?_
  refine (placed_natural ms _).bind fun openId => ?_
  refine (placed_optionalInt ms _).bind fun firstUncommitted => ?_
  refine (placed_natural ms _).bind fun sampleFileBytes => ?_
  refine (placed_natural ms _).bind fun videoSamples => ?_
  refine (placed_natural ms _).bind fun width => ?_
  refine (placed_natural ms _).bind fun height => ?_
  refine (placed_string ms _).bind fun sha1 => ?_
  exact (placed_flag ms _).bind fun growing => .ok _

end Recording

namespace RecordingList

open Payload

-- An item is read as it is by itself, wherever it stands in the listing.
theorem read_item_eq_ok_iff {v : Json} {i : Nat} {r : Recording} :
    Recording.read [.field "recordings", .index i] v = .ok r ↔ Recording.read [] v = .ok r :=
  (Recording.placed_read v).eq_ok_iff

theorem read_item_eq_error_iff {v : Json} {i : Nat} {e : ViewError} :
    Recording.read [.field "recordings", .index i] v = .error e ↔
      ∃ inner, Recording.read [] v = .error inner ∧
        (inner.under (.index i)).under (.field "recordings") = e :=
  (Recording.placed_read v).eq_error_iff

theorem readItems_eq_ok_iff {first : Nat} {items : List Json} {rs : List Recording} :
    readItems first items = .ok rs ↔
      List.Forall₂ (fun v r => Recording.read [] v = .ok r) items rs := by
  induction items generalizing first rs with
  | nil => simp [readItems, eq_comm]
  | cons v rest ih =>
      simp only [readItems, bind_eq_ok_iff, read_item_eq_ok_iff, ih, pure_eq_ok_iff,
        List.forall₂_cons_left_iff]
      constructor
      · rintro ⟨r, hr, others, ho, rfl⟩
        exact ⟨r, others, hr, ho, rfl⟩
      · rintro ⟨r, others, hr, ho, rfl⟩
        exact ⟨r, hr, others, ho, rfl⟩

-- A listing has one run for each of its items, in their order.
theorem ofJson_eq_ok_iff {payload : Json} {l : RecordingList} :
    ofJson payload = .ok l ↔ l.source = .ofJson payload ∧
      ∃ ms items, payload = .object ms ∧ ms.lookup "recordings" = some (.array items) ∧
        List.Forall₂ (fun v r => Recording.read [] v = .ok r) items l.recordings := by
  simp only [ofJson, bind_eq_ok_iff, members_eq_ok_iff, array_eq_ok_iff, readItems_eq_ok_iff,
    pure_eq_ok_iff]
  constructor
  · rintro ⟨ms, rfl, items, hi, recordings, hr, rfl⟩
    exact ⟨rfl, ms, items, rfl, hi, hr⟩
  · rintro ⟨hs, ms, items, rfl, hi, hr⟩
    refine ⟨ms, rfl, items, hi, l.recordings, hr, ?_⟩
    rw [← hs]

theorem ofText_of_read? {text : String} {payload : Json} (h : Json.read? text = some payload) :
    ofText text = ofJson payload := by
  rw [ofText, h]

end RecordingList

end Footage
