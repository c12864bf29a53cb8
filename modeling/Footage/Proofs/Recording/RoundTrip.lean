import Footage.Proofs.Recording.Segment
import Footage.Proofs.TimeRange.Json

namespace Footage

namespace Recording

open Payload
open Json (Plain)

-- The members a recording is written with.
def fields (r : Recording) : Members :=
  match r.toJson with
  | .object ms => ms
  | _ => []

theorem toJson_eq (r : Recording) : r.toJson = .object r.fields := rfl

theorem nodup_names_fields (r : Recording) : (r.fields.map (·.1)).Nodup := by
  unfold fields toJson
  cases r.endId <;> cases r.firstUncommitted <;>
    simp [optionalMember, TimeRange.members, TimeRange.names]

theorem lookup_fields_endId (r : Recording) : r.fields.lookup "endId" = r.endId.map .int := by
  unfold fields toJson
  cases r.endId <;> cases r.firstUncommitted <;> rfl

theorem lookup_fields_firstUncommitted (r : Recording) :
    r.fields.lookup "firstUncommitted" = r.firstUncommitted.map .int := by
  unfold fields toJson
  cases r.endId <;> cases r.firstUncommitted <;> rfl

theorem lookup_fields {r : Recording} {name : String} {v : Json} (h : (name, v) ∈ r.fields) :
    r.fields.lookup name = some v := Json.lookup_of_mem r.nodup_names_fields h

theorem mem_fields_of_mem_range {r : Recording} {m : String × Json} (h : m ∈ r.range.members) :
    m ∈ r.fields := by
  simp [fields, toJson, h]

-- A recording is described by what it is written with, as it was by what it was read from.
theorem Describes.fields {ms : Members} {r : Recording} (h : Describes ms r) :
    Describes r.fields r where
  startId := ⟨lookup_fields (by simp [Recording.fields, toJson]), h.startId.2⟩
  endId := optionalAt_of_lookup r.lookup_fields_endId fun _ => h.endId.fits
  startId_le := h.startId_le
  openId := ⟨lookup_fields (by simp [Recording.fields, toJson]), h.openId.2⟩
  firstUncommitted :=
    optionalAt_of_lookup r.lookup_fields_firstUncommitted fun _ => h.firstUncommitted.fits
  start := ⟨lookup_fields (mem_fields_of_mem_range (.head _)), h.start.2⟩
  stop := ⟨lookup_fields (mem_fields_of_mem_range (.tail _ (.head _))), h.stop.2⟩
  present := h.present
  sampleFileBytes := ⟨lookup_fields (by simp [Recording.fields, toJson]), h.sampleFileBytes.2⟩
  videoSamples := ⟨lookup_fields (by simp [Recording.fields, toJson]), h.videoSamples.2⟩
  width := ⟨lookup_fields (by simp [Recording.fields, toJson]), h.width.2⟩
  height := ⟨lookup_fields (by simp [Recording.fields, toJson]), h.height.2⟩
  sha1 := lookup_fields (by simp [Recording.fields, toJson])
  growing := Or.inl (lookup_fields (by simp [Recording.fields, toJson]))

-- What a recording is written as says what the recording has, and a number that is not
-- there is left out.
def WrittenAs (item : Json) (r : Recording) : Prop :=
  ∃ fields, item = .object fields ∧ Describes fields r ∧
    fields.lookup "endId" = r.endId.map .int ∧
    fields.lookup "firstUncommitted" = r.firstUncommitted.map .int

theorem Describes.writtenAs {ms : Members} {r : Recording} (h : Describes ms r) :
    WrittenAs r.toJson r :=
  ⟨r.fields, r.toJson_eq, h.fields, r.lookup_fields_endId, r.lookup_fields_firstUncommitted⟩

theorem plain_optionalMember (name : String) {n : Option Int}
    (h : ∀ k, n = some k → Word.Fits k) (depth : Nat) :
    ∀ m ∈ optionalMember name n, Plain depth m.2 := by
  cases n with
  | none => exact nofun
  | some k =>
      intro m hm
      rw [List.mem_singleton.mp hm]
      exact .int depth (h k rfl)

theorem Describes.plain_fields {ms : Members} {r : Recording} (h : Describes ms r) (depth : Nat) :
    ∀ m ∈ r.fields, Plain depth m.2 := by
  have hend := plain_optionalMember "endId" (fun _ => h.endId.fits) depth
  have hfirst := plain_optionalMember "firstUncommitted" (fun _ => h.firstUncommitted.fits) depth
  have hrange := r.range.plain_members depth
  simp only [Recording.fields, toJson, List.forall_mem_append, List.forall_mem_cons]
  refine ⟨⟨⟨⟨⟨⟨.int depth h.startId.fits, nofun⟩, hend⟩, .int depth h.openId.fits, nofun⟩, hfirst⟩,
    hrange⟩, .int depth h.sampleFileBytes.fits, .int depth h.videoSamples.fits,
    .int depth h.width.fits, .int depth h.height.fits, .string depth r.sha1,
    .bool depth r.growing, nofun⟩

theorem Describes.plain_toJson {ms : Members} {r : Recording} (h : Describes ms r) (depth : Nat) :
    Plain (depth + 1) r.toJson := by
  rw [toJson_eq]
  exact .object r.nodup_names_fields (h.plain_fields depth)

end Recording

namespace RecordingList

open Recording
open Json (Plain)

section Written

variable {payload : Json} {l : RecordingList}

theorem ReadFrom.forall₂_writtenAs (h : ReadFrom payload l) :
    List.Forall₂ WrittenAs (l.recordings.map Recording.toJson) l.recordings := by
  rw [List.forall₂_map_left_iff, List.forall₂_same]
  intro r hr
  obtain ⟨_, hd⟩ := h.describes_of_mem hr
  exact hd.writtenAs

theorem ReadFrom.ofJson_toJson (h : ReadFrom payload l) :
    RecordingList.ofJson l.toJson = .ok ⟨l.recordings, .ofJson l.toJson⟩ := by
  have hreads : List.Forall₂ (fun item r => Recording.read [] item = .ok r)
      (l.recordings.map Recording.toJson) l.recordings := by
    refine h.forall₂_writtenAs.imp fun item r hw => ?_
    obtain ⟨fields, hv, hd, -⟩ := hw
    exact read_eq_ok_iff.mpr ⟨fields, hv, hd⟩
  exact ofJson_eq_ok_iff.mpr ⟨rfl, _, _, rfl, rfl, hreads⟩

theorem ReadFrom.plain_toJson (h : ReadFrom payload l) (depth : Nat) :
    Plain (depth + 3) l.toJson := by
  have hitems : ∀ item ∈ l.recordings.map Recording.toJson, Plain (depth + 1) item := by
    rw [List.forall_mem_map]
    intro r hr
    obtain ⟨_, hd⟩ := h.describes_of_mem hr
    exact hd.plain_toJson depth
  refine .object (List.nodup_singleton _) ?_
  rw [List.forall_mem_singleton]
  exact .array hitems

end Written

-- What is written of a listing that was read is read as the same recordings, from the
-- payload as from its text, and is then written as the same text.
theorem written_reads_back {payload : Json} {l : RecordingList} (h : ReadFrom payload l) :
    (∃ again, ofJson l.toJson = .ok again ∧ ofText l.toJson.text = .ok again ∧
      again.recordings = l.recordings ∧ again.toJson.text = l.toJson.text) ∧
    ∃ items, ListedIn l.toJson items ∧ List.Forall₂ WrittenAs items l.recordings := by
  have hagain := h.ofJson_toJson
  have htext := ofText_of_read? (Json.read?_text (h.plain_toJson 124))
  constructor
  · exact ⟨_, hagain, htext.trans hagain, rfl, rfl⟩
  · exact ⟨_, ⟨_, rfl, rfl⟩, h.forall₂_writtenAs⟩

-- Of two runs one has the numbers that may be left out. A length is written too, which
-- no run is read from.
theorem written_reads_back_pair :
    let listing := listingOf [runWith [("endId", .int 9), ("firstUncommitted", .int 7)], runWith []]
    ∃ l again, ReadFrom listing l ∧ l.toJson ≠ listing ∧ ofText l.toJson.text = .ok again ∧
      again.recordings = l.recordings ∧ again.toJson.text = l.toJson.text := by
  intro listing
  obtain ⟨l, hl⟩ : ∃ l, ofJson listing = .ok l := ⟨_, rfl⟩
  have hfrom : ReadFrom listing l := .payload hl
  obtain ⟨again, -, htext, hrecordings, hsame⟩ := (written_reads_back hfrom).1
  refine ⟨l, again, hfrom, ?_, htext, hrecordings, hsame⟩
  cases hl
  decide

end RecordingList

end Footage
