import Footage.Proofs.Error
import Footage.Proofs.Recording.Description

namespace Footage

namespace Recording

open Payload

-- What a payload needs for a run of recordings. The number of the first one that is not
-- yet committed is left aside.
structure Acceptable (ms : Members) : Prop where
  ids : ∃ startId endId, Counts ms "startId" startId ∧ OptionalAt ms "endId" endId ∧
    ∀ n, endId = some n → startId ≤ n
  openId : ∃ n, Counts ms "openId" n
  ends : ∃ start stop, Counts ms "startTime90k" start ∧ Counts ms "endTime90k" stop ∧
    start ≤ stop ∧ stop ≤ Tick.last
  sampleFileBytes : ∃ n, Counts ms "sampleFileBytes" n
  videoSamples : ∃ n, Counts ms "videoSamples" n
  width : ∃ n, Counts ms "videoSampleEntryWidth" n
  height : ∃ n, Counts ms "videoSampleEntryHeight" n
  sha1 : ∃ s, ms.lookup "videoSampleEntrySha1" = some (.string s)
  growing : ∃ b, FlagAt ms "growing" b

theorem Describes.acceptable {ms : Members} {r : Recording} (h : Describes ms r) :
    Acceptable ms where
  ids := ⟨_, _, h.startId, h.endId, h.startId_le⟩
  openId := ⟨_, h.openId⟩
  ends := ⟨_, _, h.start, h.stop, r.range.start_le_stop, r.range.stop_le_last⟩
  sampleFileBytes := ⟨_, h.sampleFileBytes⟩
  videoSamples := ⟨_, h.videoSamples⟩
  width := ⟨_, h.width⟩
  height := ⟨_, h.height⟩
  sha1 := ⟨_, h.sha1⟩
  growing := ⟨_, h.growing⟩

theorem Acceptable.exists_describes {ms : Members} (h : Acceptable ms) {firstUncommitted : Option Int}
    (hf : OptionalAt ms "firstUncommitted" firstUncommitted) : ∃ r, Describes ms r := by
  obtain ⟨startId, endId, hi, he, hle⟩ := h.ids
  obtain ⟨openId, ho⟩ := h.openId
  obtain ⟨start, stop, hs, ht, hst, hlast⟩ := h.ends
  obtain ⟨sampleFileBytes, hb⟩ := h.sampleFileBytes
  obtain ⟨videoSamples, hv⟩ := h.videoSamples
  obtain ⟨width, hw⟩ := h.width
  obtain ⟨height, hh⟩ := h.height
  obtain ⟨sha1, h1⟩ := h.sha1
  obtain ⟨growing, hg⟩ := h.growing
  let range : TimeRange :=
    ⟨start, stop, stop - start, hs.2.1, hst, hlast, Int.sub_nonneg_of_le hst, Int.le_refl _⟩
  exact ⟨⟨startId, endId, openId, firstUncommitted, range, sampleFileBytes, videoSamples, width,
    height, sha1, growing⟩, hi, he, hle, ho, hf, hs, ht, rfl, hb, hv, hw, hh, h1, hg⟩

-- An item of a listing is acceptable when it is an object with what a run needs.
def AcceptableItem (item : Json) : Prop := ∃ fields, item = .object fields ∧ Acceptable fields

-- The number of the first recording that is not yet committed is left out or counts from
-- 0 on.
def CommitCounted (item : Json) : Prop :=
  ∀ fields, item = .object fields → ∃ n, OptionalAt fields "firstUncommitted" n ∧
    ∀ k, n = some k → 0 ≤ k

theorem exists_read_eq_ok_iff {item : Json} (h : CommitCounted item) :
    (∃ r, read [] item = .ok r) ↔ AcceptableItem item := by
  simp only [read_eq_ok_iff]
  constructor
  · rintro ⟨r, fields, rfl, hd⟩
    exact ⟨fields, rfl, hd.acceptable⟩
  · rintro ⟨fields, rfl, ha⟩
    obtain ⟨n, hn, -⟩ := h fields rfl
    obtain ⟨r, hd⟩ := ha.exists_describes hn
    exact ⟨r, fields, rfl, hd⟩

-- What can be wrong with an item, and where.
inductive FailsWith : ViewError → Prop
  | payload (got : Json.Kind) : FailsWith (.notObject [] got)
  | field (name : String) (fault : FieldFault) : FailsWith (.field [.field name] fault)
  | ids (startId endId : Int) : FailsWith (.idsInverted [] startId endId)
  | range (fault : TimeRange.Fault) : FailsWith (.range [] fault)

theorem FailsWith.of_field {name : String} {e : ViewError}
    (h : ∃ fault, e = .field [.field name] fault) : FailsWith e := by
  obtain ⟨fault, rfl⟩ := h
  exact .field name fault

theorem failsWith_of_checkIds_eq_error {startId : Int} {endId : Option Int} {e : ViewError}
    (h : checkIds [] startId endId = .error e) : FailsWith e := by
  unfold checkIds at h
  split at h
  · split at h
    · cases h
      exact .ids _ _
    · contradiction
  · contradiction

theorem failsWith_of_read_eq_error {item : Json} {e : ViewError} (h : read [] item = .error e) :
    FailsWith e := by
  simp only [read, bind_eq_error_iff, pure_ne_error, and_false, exists_false, or_false] at h
  rcases h with h | ⟨_, -, h | ⟨_, -, h | ⟨_, -, h | ⟨_, -, h | ⟨_, -, h | ⟨_, -, h |
    ⟨_, -, h | ⟨_, -, h | ⟨_, -, h | ⟨_, -, h | ⟨_, -, h | ⟨_, -, h | ⟨_, -, h |
    ⟨_, -, h⟩⟩⟩⟩⟩⟩⟩⟩⟩⟩⟩⟩⟩⟩
  · exact eq_of_members_eq_error h ▸ .payload _
  · exact .of_field (field_of_natural_eq_error h)
  · exact .of_field (field_of_optionalInt_eq_error h)
  · exact failsWith_of_checkIds_eq_error h
  · exact .of_field (field_of_natural_eq_error h)
  · exact .of_field (field_of_natural_eq_error h)
  · obtain ⟨fault, -, rfl⟩ := mapError_eq_error_iff.mp h
    exact .range fault
  · exact .of_field (field_of_natural_eq_error h)
  · exact .of_field (field_of_optionalInt_eq_error h)
  · exact .of_field (field_of_natural_eq_error h)
  · exact .of_field (field_of_natural_eq_error h)
  · exact .of_field (field_of_natural_eq_error h)
  · exact .of_field (field_of_natural_eq_error h)
  · exact .of_field (field_of_string_eq_error h)
  · exact .of_field (field_of_flag_eq_error h)

theorem FailsWith.exists_place {e : ViewError} (h : FailsWith e) : ∃ place, e.place? = some place := by
  cases h <;> exact ⟨_, rfl⟩

end Recording

namespace RecordingList

open Payload Recording

-- Reading stops at the first item that is refused, and the error is placed there.
theorem exists_refused_of_readItems_eq_error {first : Nat} {items : List Json} {e : ViewError}
    (h : readItems first items = .error e) :
    ∃ k inner, FirstFails (Recording.read []) items k inner ∧
      (inner.under (.index (first + k))).under (.field "recordings") = e := by
  induction items generalizing first with
  | nil => contradiction
  | cons item rest ih =>
      simp only [readItems, bind_eq_error_iff, read_item_eq_error_iff, read_item_eq_ok_iff,
        pure_ne_error, and_false, exists_false, or_false] at h
      rcases h with ⟨inner, hr, he⟩ | ⟨r, hr, he⟩
      · exact ⟨0, inner, .here hr rest, he⟩
      · obtain ⟨k, inner, hfirst, he⟩ := ih he
        exact ⟨k + 1, inner, hfirst.later hr, by rwa [Nat.add_comm k 1, ← Nat.add_assoc]⟩

-- The first item that is not acceptable.
structure FirstUnacceptable (items : List Json) (k : Nat) : Prop where
  unacceptable : ∃ item, items[k]? = some item ∧ ¬AcceptableItem item
  earlier : ∀ (j : Nat) (item : Json), j < k → items[j]? = some item → AcceptableItem item

-- The items of a listing.
def ListedIn (payload : Json) (items : List Json) : Prop :=
  ∃ ms, payload = .object ms ∧ ms.lookup "recordings" = some (.array items)

-- A listing is read item by item.
theorem ofJson_eq_map {payload : Json} {items : List Json} (h : ListedIn payload items) :
    ofJson payload = (readItems 0 items).map (RecordingList.mk · (.ofJson payload)) := by
  obtain ⟨ms, rfl, hl⟩ := h
  show (array [] ms "recordings" >>= _) = _
  rw [array_eq_ok_iff.mpr hl]
  show (readItems 0 items >>= _) = _
  cases readItems 0 items <;> rfl

theorem exists_ofJson_eq_ok_iff {payload : Json} :
    (∃ l, ofJson payload = .ok l) ↔
      ∃ items, ListedIn payload items ∧ ∀ item ∈ items, ∃ r, Recording.read [] item = .ok r := by
  simp only [ofJson_eq_ok_iff, ListedIn]
  constructor
  · rintro ⟨l, -, ms, items, hv, hl, hf⟩
    exact ⟨items, ⟨ms, hv, hl⟩, exists_forall₂_iff_forall.mp ⟨_, hf⟩⟩
  · rintro ⟨items, ⟨ms, hv, hl⟩, hall⟩
    obtain ⟨rs, hf⟩ := exists_forall₂_iff_forall.mpr hall
    exact ⟨⟨rs, .ofJson payload⟩, rfl, ms, items, hv, hl, hf⟩

-- An item is described by the recording that is read from it.
theorem forall₂_describes {payload : Json} {items : List Json} (hl : ListedIn payload items)
    {l : RecordingList} (h : ofJson payload = .ok l) :
    List.Forall₂ (fun item r => ∃ fields, item = .object fields ∧ Describes fields r) items
      l.recordings := by
  rw [ofJson_eq_map hl] at h
  obtain ⟨recordings, hr, rfl⟩ := map_eq_ok_iff.mp h
  exact (readItems_eq_ok_iff.mp hr).imp fun _ _ => read_eq_ok_iff.mp

-- A listing is read exactly when all of its items are acceptable, with a recording for
-- each item in their order that has what the item says. If one is not, the error names
-- the first of those.
theorem listed_iff_items_acceptable (payload : Json)
    (h : ∀ items, ListedIn payload items → ∀ item ∈ items, CommitCounted item) :
    ((∃ l, ofJson payload = .ok l) ↔
      ∃ items, ListedIn payload items ∧ ∀ item ∈ items, AcceptableItem item) ∧
    ∀ items, ListedIn payload items →
      (∀ l, ofJson payload = .ok l →
        List.Forall₂ (fun item r => ∃ fields, item = .object fields ∧ Describes fields r) items
          l.recordings) ∧
      ∀ e, ofJson payload = .error e → ∃ k, FirstUnacceptable items k ∧ e.isValidation = true ∧
        ∃ rest, e.message = "Validation error: " ++ (Path.itemName "recordings" k ++ rest) := by
  refine ⟨?_, fun items hl => ⟨fun l hr => forall₂_describes hl hr, ?_⟩⟩
  · rw [exists_ofJson_eq_ok_iff]
    refine exists_congr fun items => and_congr_right fun hl => forall₂_congr fun item hi => ?_
    exact exists_read_eq_ok_iff (h items hl item hi)
  · intro e he
    rw [ofJson_eq_map hl] at he
    obtain ⟨k, inner, hfirst, rfl⟩ :=
      exists_refused_of_readItems_eq_error (map_eq_error_iff.mp he)
    obtain ⟨item, hk, hr⟩ := hfirst.refused
    rw [Nat.zero_add]
    obtain ⟨place, hplace⟩ := (failsWith_of_read_eq_error hr).exists_place
    refine ⟨k, ⟨⟨item, hk, fun ha => ?_⟩, ?_⟩, ViewError.exists_message_of_item hplace _ k⟩
    · obtain ⟨r, hok⟩ :=
        (exists_read_eq_ok_iff (h items hl item (List.mem_of_getElem? hk))).mpr ha
      rw [hr] at hok
      contradiction
    · intro j other hj hget
      exact (exists_read_eq_ok_iff (h items hl other (List.mem_of_getElem? hget))).mp
        (hfirst.earlier j other hj hget)

-- A run of one recording, with more members put in front.
def runWith (more : Members) : Json :=
  .object
    (more ++
      [("startId", .int 4), ("openId", .int 1), ("startTime90k", .int 90000),
       ("endTime90k", .int 180000), ("sampleFileBytes", .int 2000), ("videoSamples", .int 30),
       ("videoSampleEntryWidth", .int 640), ("videoSampleEntryHeight", .int 480),
       ("videoSampleEntrySha1", .string "")])

def listingOf (items : List Json) : Json := .object [("recordings", .array items)]

theorem listedIn_listingOf_iff {items others : List Json} :
    ListedIn (listingOf items) others ↔ others = items := by
  constructor
  · rintro ⟨_, hv, hl⟩
    cases hv
    cases hl
    rfl
  · rintro rfl
    exact ⟨_, rfl, rfl⟩

-- Of two runs the second has a last number below its first.
theorem listed_second_unacceptable :
    let items := [runWith [], runWith [("endId", .int 3)]]
    let fault := ViewError.idsInverted [.field "recordings", .index 1] 4 3
    (∀ others, ListedIn (listingOf items) others → ∀ item ∈ others, CommitCounted item) ∧
      ofJson (listingOf items) = .error fault ∧
      ∃ k, FirstUnacceptable items k ∧ fault.isValidation = true ∧
        ∃ rest, fault.message = "Validation error: " ++ (Path.itemName "recordings" k ++ rest) := by
  intro items fault
  have hcounted : ∀ others, ListedIn (listingOf items) others →
      ∀ item ∈ others, CommitCounted item := by
    intro others hl item hi fields hv
    obtain rfl := listedIn_listingOf_iff.mp hl
    refine ⟨none, Or.inl ?_, nofun⟩
    rcases List.mem_pair.mp hi with rfl | rfl <;> cases hv <;> rfl
  have herror : ofJson (listingOf items) = .error fault := rfl
  obtain ⟨-, hlisted⟩ := listed_iff_items_acceptable (listingOf items) hcounted
  exact ⟨hcounted, herror, (hlisted items (listedIn_listingOf_iff.mpr rfl)).2 fault herror⟩

end RecordingList

end Footage
