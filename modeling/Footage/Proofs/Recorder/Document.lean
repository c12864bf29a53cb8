import Footage.Proofs.Recorder.Cameras

namespace Footage.Recorder

open Payload

section Reading

variable {zones : Zone.Directory} {config : Config} {v : Json} {zoneName : String}
  {f : TimeFormatter} {items : List Json}

-- Of a document with a wrong head nothing is read but that.
theorem ofJson_of_readHead_error {e : ViewError} (h : readHead zones config v = .error e) :
    ofJson zones config v = .fail e := by
  unfold ofJson
  rw [h, Logged.ofExcept_error_bind]

-- With a right head a document fares as its cameras do, and is noted as they are.
theorem ofJson_of_headAt (h : HeadAt zones config v zoneName f items) :
    ofJson zones config v =
      ⟨(loadCameras config (.ofJson v) 0 items.length).outcome.map
          fun cameras => ⟨zoneName, f, cameras, .ofJson v⟩,
        (loadCameras config (.ofJson v) 0 items.length).log⟩ := by
  unfold ofJson
  rw [readHead_eq_ok_iff.mpr h, Logged.ofExcept_ok_bind]
  exact Logged.bind_pure_eq _ _

theorem ofJson_eq_ok_iff {r : Recorder} :
    (ofJson zones config v).outcome = .ok r ↔
      ∃ items, HeadAt zones config v r.timeZoneName r.formatter items ∧ r.source = .ofJson v ∧
        List.Forall₂ (ReadAs config (.ofJson v)) items.zipIdx r.cameras := by
  constructor
  · intro h
    cases hread : readHead zones config v with
    | error e =>
        rw [ofJson_of_readHead_error hread] at h
        contradiction
    | ok head =>
        obtain ⟨zoneName, f, items⟩ := head
        have hh := readHead_eq_ok_iff.mp hread
        rw [ofJson_of_headAt hh] at h
        obtain ⟨views, hv, rfl⟩ := map_eq_ok_iff.mp h
        exact ⟨items, hh, rfl, (loadCameras_eq_ok_iff hh.shows).mp hv⟩
  · rintro ⟨items, hh, hs, hf⟩
    rw [ofJson_of_headAt hh]
    refine map_eq_ok_iff.mpr ⟨r.cameras, (loadCameras_eq_ok_iff hh.shows).mpr hf, ?_⟩
    rw [← hs]

theorem exists_cameras_iff (h : HeadAt zones config v zoneName f items) :
    (∃ views, List.Forall₂ (ReadAs config (.ofJson v)) items.zipIdx views) ↔
      ∀ item ∈ items, ∃ c, Camera.accept config.strictDays [] item = .ok c := by
  constructor
  · rintro ⟨views, hf⟩ item hi
    obtain ⟨i, hget⟩ := List.mem_iff_getElem?.mp hi
    obtain ⟨view, hview⟩ := exists_forall₂_iff_forall.mp ⟨views, hf⟩ (item, i)
      (List.mem_zipIdx_iff_getElem?.mpr hget)
    exact ⟨_, hview.1⟩
  · intro hall
    refine exists_forall₂_iff_forall.mpr ?_
    rintro ⟨item, i⟩ ha
    have hget := List.mem_zipIdx_iff_getElem?.mp ha
    obtain ⟨c, hc⟩ := hall item (List.mem_of_getElem? hget)
    exact ⟨⟨c, place (.ofJson v) i⟩, hc, rfl, (cameraAt?_eq_some h hget).2⟩

theorem exists_ofJson_eq_ok_iff :
    (∃ r, (ofJson zones config v).outcome = .ok r) ↔
      ∃ zoneName f items, HeadAt zones config v zoneName f items ∧
        ∀ item ∈ items, ∃ c, Camera.accept config.strictDays [] item = .ok c := by
  simp only [ofJson_eq_ok_iff]
  constructor
  · rintro ⟨r, items, hh, -, hf⟩
    exact ⟨_, _, items, hh, (exists_cameras_iff hh).mp ⟨_, hf⟩⟩
  · rintro ⟨zoneName, f, items, hh, hall⟩
    obtain ⟨views, hf⟩ := (exists_cameras_iff hh).mpr hall
    exact ⟨⟨zoneName, f, views, .ofJson v⟩, items, hh, rfl, hf⟩

end Reading

-- The item is an object that gives itself an identifier.
def CarriesId (item : Json) (id : String) : Prop :=
  ∃ ms, item = .object ms ∧ ms.lookup "id" = some (.string id)

theorem carriesId_iff {strict : Bool} {item : Json} {c : Camera}
    (h : Camera.accept strict [] item = .ok c) {id : String} : CarriesId item id ↔ c.id = id := by
  obtain ⟨ms, rfl, hd, -⟩ := Camera.accept_eq_ok_iff.mp h
  constructor
  · rintro ⟨_, hv, hl⟩
    cases hv
    rw [hd.id] at hl
    cases hl
    rfl
  · rintro rfl
    exact ⟨ms, rfl, hd.id⟩

-- The cameras of a recorder against the items of its document.
structure Mirrors (config : Config) (v : Json) (items : List Json) (r : Recorder) : Prop where
  length : r.cameras.length = items.length
  source : ∀ (i : Nat) (view : CameraView), r.cameras[i]? = some view →
    view.source = ⟨v, "/cameras/" ++ Decimal.ofNat i⟩
  json : ∀ (i : Nat) (view : CameraView), r.cameras[i]? = some view → items[i]? = some view.json
  alone : ∀ view ∈ r.cameras, ∃ alone,
    (CameraView.ofJson config view.json).outcome = .ok alone ∧ view.camera = alone.camera
  found : ∀ id, (r.camera? id).isSome = true ↔ ∃ item ∈ items, CarriesId item id
  earliest : ∀ id view, r.camera? id = some view ↔
    ∃ i : Nat, r.cameras[i]? = some view ∧ CarriesId view.json id ∧
      ∀ (j : Nat) (item : Json), j < i → items[j]? = some item → ¬CarriesId item id

section Mirrors

variable {config : Config} {v : Json} {items : List Json} {views : List CameraView}

theorem readAs_of_getElem? (hf : List.Forall₂ (ReadAs config (.ofJson v)) items.zipIdx views)
    {i : Nat} {view : CameraView} (hi : views[i]? = some view) :
    items[i]? = some view.json ∧ ReadAs config (.ofJson v) (view.json, i) view := by
  obtain ⟨hlt, rfl⟩ := List.getElem?_eq_some_iff.mp hi
  have hlen := hf.length_eq
  have hr := hf.get (hlen ▸ hlt) hlt
  simp only [List.get_eq_getElem, List.getElem_zipIdx, Nat.zero_add] at hr
  rw [List.length_zipIdx] at hlen
  rw [hr.2.2]
  exact ⟨List.getElem?_eq_getElem (hlen ▸ hlt), hr⟩

theorem exists_view_of_getElem? (hf : List.Forall₂ (ReadAs config (.ofJson v)) items.zipIdx views)
    {i : Nat} {item : Json} (hi : items[i]? = some item) :
    ∃ view, views[i]? = some view ∧ ReadAs config (.ofJson v) (item, i) view := by
  obtain ⟨hlt, rfl⟩ := List.getElem?_eq_some_iff.mp hi
  have hlen := hf.length_eq
  rw [List.length_zipIdx] at hlen
  have hget := List.getElem?_eq_getElem (hlen ▸ hlt : i < views.length)
  obtain ⟨hj, hr⟩ := readAs_of_getElem? hf hget
  rw [hi] at hj
  exact ⟨_, hget, Option.some.inj hj ▸ hr⟩

theorem ReadAs.carriesId {i : Nat} {item : Json} {view : CameraView}
    (h : ReadAs config (.ofJson v) (item, i) view) {id : String} :
    CarriesId item id ↔ (view.camera.id == id) = true := by
  rw [carriesId_iff h.1, beq_iff_eq]

theorem mirrors_of_forall₂ (zoneName : String) (f : TimeFormatter)
    (hf : List.Forall₂ (ReadAs config (.ofJson v)) items.zipIdx views) :
    Mirrors config v items ⟨zoneName, f, views, .ofJson v⟩ where
  length := by simpa using hf.length_eq.symm
  source := by
    intro i view hi
    rw [(readAs_of_getElem? hf hi).2.2.1, place, Json.View.ofJson, String.empty_append]
  json := fun i view hi => (readAs_of_getElem? hf hi).1
  alone := by
    intro view hm
    obtain ⟨i, hi⟩ := List.mem_iff_getElem?.mp hm
    have hr := (readAs_of_getElem? hf hi).2.1
    exact ⟨⟨view.camera, .ofJson view.json⟩, CameraView.load_eq_ok_iff.mpr ⟨hr, rfl⟩, rfl⟩
  found := by
    intro id
    rw [camera?, List.find?_isSome]
    constructor
    · rintro ⟨view, hm, hid⟩
      obtain ⟨i, hi⟩ := List.mem_iff_getElem?.mp hm
      obtain ⟨hj, hr⟩ := readAs_of_getElem? hf hi
      exact ⟨view.json, List.mem_of_getElem? hj, hr.carriesId.mpr hid⟩
    · rintro ⟨item, hm, hid⟩
      obtain ⟨i, hi⟩ := List.mem_iff_getElem?.mp hm
      obtain ⟨view, hv, hr⟩ := exists_view_of_getElem? hf hi
      exact ⟨view, List.mem_of_getElem? hv, hr.carriesId.mp hid⟩
  earliest := by
    intro id view
    rw [camera?, List.find?_eq_some_iff_getElem]
    constructor
    · rintro ⟨hid, i, hlt, hget, hleast⟩
      have hi := List.getElem?_eq_some_iff.mpr ⟨hlt, hget⟩
      refine ⟨i, hi, (readAs_of_getElem? hf hi).2.carriesId.mpr hid, ?_⟩
      -- an earlier item with the identifier would have been found as a camera
      intro j item hj hitem hcarries
      obtain ⟨other, ho, hr⟩ := exists_view_of_getElem? hf hitem
      obtain ⟨hlt', rfl⟩ := List.getElem?_eq_some_iff.mp ho
      have hne := hleast j hj
      rw [hr.carriesId.mp hcarries] at hne
      contradiction
    · rintro ⟨i, hi, hcarries, hleast⟩
      have hr := (readAs_of_getElem? hf hi).2
      obtain ⟨hlt, hget⟩ := List.getElem?_eq_some_iff.mp hi
      refine ⟨hr.carriesId.mp hcarries, i, hlt, hget, ?_⟩
      intro j hj
      have hjlt : j < views.length := Nat.lt_trans hj hlt
      obtain ⟨hitem, hjr⟩ := readAs_of_getElem? hf (List.getElem?_eq_getElem hjlt)
      have hno := hleast j _ hj hitem
      rw [hjr.carriesId] at hno
      simpa using hno

end Mirrors

section Missing

variable {zones : Zone.Directory} {config : Config} {v : Json} {e : ViewError}

theorem ne_missing_of_readHead_eq_error (h : readHead zones config v = .error e) (i : Nat) :
    e ≠ .field [.field "cameras", .index i] .missing := by
  simp only [readHead, bind_eq_error_iff, pure_ne_error, and_false, exists_false, or_false] at h
  rcases h with h | ⟨_, -, h | ⟨_, -, h | ⟨_, -, h⟩⟩⟩
  · simp [eq_of_members_eq_error h]
  · obtain ⟨_, rfl⟩ := field_of_string_eq_error h
    simp
  · unfold TimeFormatter.make at h
    repeat' split at h
    all_goals cases h
    all_goals simp
  · obtain ⟨_, rfl⟩ := field_of_array_eq_error h
    simp

-- An error of a camera is about something in the item, not about the item being there.
theorem ne_missing_of_failsWith {inner : ViewError} (h : Camera.FailsWith inner) (i j : Nat) :
    (inner.under (.index i)).under (.field "cameras") ≠
      .field [.field "cameras", .index j] .missing := by
  cases h with
  | days hd => cases hd <;> simp [ViewError.under]
  | _ => simp [ViewError.under]

theorem ne_missing_of_ofJson_eq_error (h : (ofJson zones config v).outcome = .error e) (i : Nat) :
    e ≠ .field [.field "cameras", .index i] .missing := by
  cases hread : readHead zones config v with
  | error inner =>
      rw [ofJson_of_readHead_error hread] at h
      cases h
      exact ne_missing_of_readHead_eq_error hread i
  | ok head =>
      obtain ⟨zoneName, f, items⟩ := head
      have hh := readHead_eq_ok_iff.mp hread
      rw [ofJson_of_headAt hh] at h
      obtain ⟨_, inner, hfirst, rfl⟩ :=
        exists_refused_of_loadCameras_eq_error hh.shows (map_eq_error_iff.mp h)
      obtain ⟨_, -, hr⟩ := hfirst.refused
      exact ne_missing_of_failsWith (Camera.failsWith_of_accept_eq_error hr) _ i

end Missing

-- A document is a recorder exactly when its head is right and each item of its
-- array is accepted as a camera on its own, whichever zones are known. The cameras are
-- then those of the items, in order, and no item is ever missed. It is all the same
-- to a camera where it stands.
theorem built_iff_items_accepted (zones : Zone.Directory) (config : Config) (v : Json) :
    ((∃ r, (ofJson zones config v).outcome = .ok r) ↔
      ∃ zoneName f items, HeadAt zones config v zoneName f items ∧
        ∀ item ∈ items, ∃ view, (CameraView.ofJson config item).outcome = .ok view) ∧
    (∀ r, (ofJson zones config v).outcome = .ok r →
      ∃ items, HeadAt zones config v r.timeZoneName r.formatter items ∧
        Mirrors config v items r) ∧
    (∀ zoneName f items i, HeadAt zones config v zoneName f items → i < items.length →
      (cameraAt? (.ofJson v) i).isSome = true) ∧
    (∀ i, (ofJson zones config v).outcome ≠
      .error (.field [.field "cameras", .index i] .missing)) ∧
    ∀ place source view, (CameraView.load config place source).outcome = .ok view ↔
      ∃ alone, (CameraView.ofJson config source.json).outcome = .ok alone ∧
        view.camera = alone.camera ∧ view.source = source := by
  refine ⟨?_, ?_, ?_, ?_, fun place source view => CameraView.load_eq_ok_iff_alone⟩
  · rw [exists_ofJson_eq_ok_iff]
    simp only [CameraView.ofJson, CameraView.exists_load_eq_ok_iff, Json.View.json_ofJson]
  · intro r hr
    obtain ⟨items, hh, hs, hf⟩ := ofJson_eq_ok_iff.mp hr
    refine ⟨items, hh, ?_⟩
    have hm := mirrors_of_forall₂ r.timeZoneName r.formatter hf
    rwa [← hs] at hm
  · intro zoneName f items i hh hi
    rw [(cameraAt?_eq_some hh (List.getElem?_eq_getElem hi)).1]
    rfl
  · intro i he
    exact ne_missing_of_ofJson_eq_error he i rfl

end Footage.Recorder
