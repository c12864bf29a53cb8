import Footage.Proofs.Camera.RoundTrip
import Footage.Proofs.Camera.Total
import Footage.Proofs.TimeFormatter

namespace Footage

namespace Recorder

open Payload
open Json (Plain)

def relistItems : Json → Json
  | .array items => .array (items.map Camera.relist)
  | v => v

-- A document as it is written, with the overall range of each camera moved to where a
-- payload has it.
def relist : Json → Json
  | .object ms =>
    .object (ms.map fun (name, v) => (name, if name = "cameras" then relistItems v else v))
  | v => v

-- The cameras of a recorder, as they are relisted.
def relistedItems (r : Recorder) : List Json :=
  (r.cameras.map (·.camera)).map fun c => Camera.relist c.toJson

-- A recorder is written by its zone and its cameras alone.
theorem toJson_eq (r : Recorder) :
    r.toJson =
      .object [("timeZoneName", .string r.timeZoneName),
        ("cameras", .array ((r.cameras.map (·.camera)).map Camera.toJson))] := by
  rw [List.map_map]
  rfl

theorem relist_toJson (r : Recorder) :
    relist r.toJson =
      .object [("timeZoneName", .string r.timeZoneName), ("cameras", .array r.relistedItems)] := by
  have hitems : ((r.cameras.map (·.camera)).map Camera.toJson).map Camera.relist =
      r.relistedItems := List.map_map
  rw [toJson_eq, ← hitems]
  rfl

-- Which cameras are read from an array depends on the items alone.
theorem forall₂_accept {config : Config} {document : Json.View} {items : List Json}
    {views : List CameraView} (h : List.Forall₂ (ReadAs config document) items.zipIdx views) :
    List.Forall₂ (fun item view => Camera.accept config.strictDays [] item = .ok view.camera) items
      views := by
  have hf : List.Forall₂ (fun item view => Camera.accept config.strictDays [] item = .ok view.camera)
      (items.zipIdx.map Prod.fst) views := by
    rw [List.forall₂_map_left_iff]
    exact h.imp fun _ _ hr => hr.1
  rwa [List.zipIdx_map_fst] at hf

-- Cameras that are each read from what is written of them are the same, in their order.
theorem map_camera_eq {strict : Bool} {cameras : List Camera} {views : List CameraView}
    {write : Camera → Json} (hr : ∀ c ∈ cameras, Camera.accept strict [] (write c) = .ok c)
    (h : List.Forall₂ (fun item view => Camera.accept strict [] item = .ok view.camera)
      (cameras.map write) views) : views.map (·.camera) = cameras := by
  rw [List.forall₂_map_left_iff] at h
  induction h with
  | nil => rfl
  | @cons c view cameras views hc _ ih =>
      rw [List.forall_mem_cons] at hr
      have hview : view.camera = c := Except.ok.inj (hc.symm.trans hr.1)
      rw [List.map_cons, hview, ih hr.2]

-- A document that lists some cameras by what is written of them is read as a recorder
-- with those cameras.
theorem exists_ofJson_of_head {zones : Zone.Directory} {config : Config} {v : Json}
    {zoneName : String} {f : TimeFormatter} {cameras : List Camera} {write : Camera → Json}
    (h : HeadAt zones config v zoneName f (cameras.map write))
    (hr : ∀ c ∈ cameras, Camera.accept config.strictDays [] (write c) = .ok c) :
    ∃ r, (ofJson zones config v).outcome = .ok r ∧ r.timeZoneName = zoneName ∧ r.formatter = f ∧
      r.cameras.map (·.camera) = cameras := by
  have hitems : ∀ item ∈ cameras.map write,
      ∃ c, Camera.accept config.strictDays [] item = .ok c := by
    rw [List.forall_mem_map]
    intro c hc
    exact ⟨c, hr c hc⟩
  obtain ⟨views, hviews⟩ := (exists_cameras_iff h).mpr hitems
  let r : Recorder := ⟨zoneName, f, views, .ofJson v⟩
  have hread : (ofJson zones config v).outcome = .ok r :=
    ofJson_eq_ok_iff.mpr ⟨_, h, rfl, hviews⟩
  exact ⟨r, hread, rfl, rfl, map_camera_eq hr (forall₂_accept hviews)⟩

theorem exists_ofJson_relist {zones : Zone.Directory} {config : Config} {document : Json}
    {r : Recorder} (h : (ofJson zones config document).outcome = .ok r) :
    ∃ again, (ofJson zones config (relist r.toJson)).outcome = .ok again ∧
      again.timeZoneName = r.timeZoneName ∧ again.formatter = r.formatter ∧
      again.cameras.map (·.camera) = r.cameras.map (·.camera) := by
  obtain ⟨_, ⟨_, -, -, hformat, -⟩, -, -⟩ := ofJson_eq_ok_iff.mp h
  have hhead : HeadAt zones config (relist r.toJson) r.timeZoneName r.formatter r.relistedItems :=
    ⟨_, r.relist_toJson, rfl, hformat, rfl⟩
  apply exists_ofJson_of_head hhead
  rw [List.forall_mem_map]
  intro view hm
  exact Camera.accept_relist (CameraView.accept_of_mem_cameras h hm)

theorem meant_of_mem_cameras {zones : Zone.Directory} {config : Config} {document : Json}
    {r : Recorder} (h : (ofJson zones config document).outcome = .ok r) (hm : Json.Meant document) {view : CameraView}
    (hv : view ∈ r.cameras) : Json.Meant view.json := by
  obtain ⟨items, ⟨ms, rfl, -, -, hcameras⟩, -, hf⟩ := ofJson_eq_ok_iff.mp h
  obtain ⟨i, hi⟩ := List.mem_iff_getElem?.mp hv
  have hitem := (readAs_of_getElem? hf hi).1
  exact (hm.member hcameras).item (List.mem_of_getElem? hitem)

theorem plain_relist {zones : Zone.Directory} {config : Config} {document : Json} {r : Recorder}
    (h : (ofJson zones config document).outcome = .ok r) (hm : Json.Meant document) (depth : Nat) :
    Plain (depth + 5) (relist r.toJson) := by
  have hitems : ∀ item ∈ r.relistedItems, Plain (depth + 3) item := by
    rw [relistedItems, List.map_map, List.forall_mem_map]
    intro view hv
    have haccept := CameraView.accept_of_mem_cameras h hv
    exact Camera.plain_relist haccept (meant_of_mem_cameras h hm hv) depth
  have hnames : ["timeZoneName", "cameras"].Nodup := by decide
  rw [relist_toJson]
  refine .object hnames ?_
  simp only [List.forall_mem_cons]
  exact ⟨.string _ r.timeZoneName, .array hitems, nofun⟩

-- What is written of a camera that was read says all of the camera, once its overall range
-- is moved to where a payload has it. It is read as the same camera, which is written as
-- the same text. So is a whole document, camera by camera and with its zone, whichever
-- zones are known. When the payload is that of a text, what is written can be put into a
-- text as well.
theorem relisted_reads_back (zones : Zone.Directory) (config : Config) :
    (∀ payload view, CameraView.ReadFrom config payload view →
      (∃ ms, Camera.relist view.camera.toJson = .object ms ∧ Camera.Describes ms view.camera) ∧
      ∃ again,
        (CameraView.ofJson config (Camera.relist view.camera.toJson)).outcome = .ok again ∧
        again.camera = view.camera ∧ again.camera.divergent = view.camera.divergent ∧
        again.camera.toJson.text = view.camera.toJson.text ∧
        ∀ text, Json.read? text = some payload →
          (CameraView.ofText config (Camera.relist view.camera.toJson).text).outcome = .ok again) ∧
    ∀ document r, (ofJson zones config document).outcome = .ok r →
      ∃ again, (ofJson zones config (relist r.toJson)).outcome = .ok again ∧
        again.timeZoneName = r.timeZoneName ∧ again.formatter = r.formatter ∧
        again.cameras.map (·.camera) = r.cameras.map (·.camera) ∧
        again.toJson.text = r.toJson.text ∧
        ∀ text, Json.read? text = some document →
          (ofText zones config (relist r.toJson).text).outcome = .ok again := by
  constructor
  · intro payload view h
    let written := Camera.relist view.camera.toJson
    let again : CameraView := ⟨view.camera, .ofJson written⟩
    have hagain : (CameraView.ofJson config written).outcome = .ok again :=
      CameraView.ofJson_eq_ok_iff.mpr ⟨Camera.accept_relist h.accept, rfl⟩
    obtain ⟨_, -, hd⟩ := h.describes
    refine ⟨⟨_, view.camera.relist_toJson, hd.relisted⟩, again, hagain, rfl, rfl, rfl, ?_⟩
    intro text ht
    have hplain := Camera.plain_relist h.accept (Json.meant_of_read? ht) 124
    exact CameraView.ofText_eq_ok_iff.mpr ⟨written, Json.read?_text hplain, hagain⟩
  · intro document r h
    obtain ⟨again, hagain, hzone, hformatter, hcameras⟩ := exists_ofJson_relist h
    refine ⟨again, hagain, hzone, hformatter, hcameras, ?_, ?_⟩
    · rw [toJson_eq, toJson_eq, hzone, hcameras]
    · intro text ht
      have hplain := plain_relist h (Json.meant_of_read? ht) 122
      exact ofText_eq_ok_iff.mpr ⟨relist r.toJson, Json.read?_text hplain, hagain⟩

-- A camera whose days reach out of its range, listed by a document. By itself what is
-- written of it is refused.
theorem relisted_reads_back_reaching :
    let config : Config := ⟨false, ""⟩
    let overall : TimeRange := ⟨0, 7, 5, by decide, by decide, by decide, by decide, by decide⟩
    let c : Camera := ⟨"cam", "cam", "", 0, 0, overall, .crowded [1999, 0]⟩
    let document : Json :=
      .object [("timeZoneName", .string "UTC"), ("cameras", .array [.object c.payload])]
    ∃ r again, (ofJson .samples config document).outcome = .ok r ∧
      r.cameras.map (·.camera) = [c] ∧ c.divergent ≠ [] ∧
      (∀ d, Camera.read [] c.toJson ≠ .ok d) ∧
      (ofJson .samples config (relist r.toJson)).outcome = .ok again ∧
      again.cameras.map (·.camera) = [c] := by
  intro config overall c document
  have hroom : (0 : Int) ≤ 0 ∧ 0 ≤ Word.greatest := by decide
  have haccept : Camera.accept false [] (.object c.payload) = .ok c :=
    Camera.accept_eq_ok_iff.mpr ⟨_, rfl, Camera.describes_payload hroom hroom, nofun⟩
  have haccepts : ∀ d ∈ [c], Camera.accept config.strictDays [] (.object d.payload) = .ok d :=
    List.forall_mem_singleton.mpr haccept
  have hformat : TimeFormatter.make .samples "UTC" config.timeFormat = .ok ⟨.utc, []⟩ :=
    TimeFormatter.make_eq_ok_iff.mpr ⟨by decide, Pattern.parseChars?_nil⟩
  have hhead : HeadAt .samples config document "UTC" ⟨.utc, []⟩
      ([c].map fun d => .object d.payload) :=
    ⟨_, rfl, rfl, hformat, rfl⟩
  obtain ⟨r, hr, -, -, hcameras⟩ := exists_ofJson_of_head hhead haccepts
  obtain ⟨again, hagain, -, -, hsame, -⟩ := (relisted_reads_back .samples config).2 document r hr
  exact ⟨r, again, hr, hcameras, by decide, Camera.read_toJson_ne_ok [] c, hagain,
    hsame.trans hcameras⟩

end Recorder

end Footage
