import Footage.Proofs.Recorder.Document

namespace Footage

namespace CameraView

open Payload

theorem ofJson_eq_ok_iff {config : Config} {payload : Json} {view : CameraView} :
    (ofJson config payload).outcome = .ok view ↔
      Camera.accept config.strictDays [] payload = .ok view.camera ∧ view.source = .ofJson payload :=
  load_eq_ok_iff

theorem ofText_eq_ok_iff {config : Config} {text : String} {view : CameraView} :
    (ofText config text).outcome = .ok view ↔
      ∃ payload, Json.read? text = some payload ∧ (ofJson config payload).outcome = .ok view := by
  unfold ofText
  cases Json.read? text <;> simp [Logged.fail]

end CameraView

theorem Recorder.ofText_eq_ok_iff {zones : Zone.Directory} {config : Config} {text : String}
    {r : Recorder} :
    (ofText zones config text).outcome = .ok r ↔
      ∃ document, Json.read? text = some document ∧
        (ofJson zones config document).outcome = .ok r := by
  unfold ofText
  cases Json.read? text <;> simp [Logged.fail]

namespace CameraView

-- The ways a camera is read from a payload: from the payload or its text, or with the
-- document that lists it, whichever zones are known.
inductive ReadFrom (config : Config) : Json → CameraView → Prop
  | payload {payload : Json} {view : CameraView} :
      (ofJson config payload).outcome = .ok view → ReadFrom config payload view
  | text {text : String} {payload : Json} {view : CameraView} :
      Json.read? text = some payload → (ofText config text).outcome = .ok view →
      ReadFrom config payload view
  | document {zones : Zone.Directory} {document : Json} {r : Recorder} {view : CameraView} :
      (Recorder.ofJson zones config document).outcome = .ok r → view ∈ r.cameras →
      ReadFrom config view.json view
  | documentText {zones : Zone.Directory} {text : String} {r : Recorder} {view : CameraView} :
      (Recorder.ofText zones config text).outcome = .ok r → view ∈ r.cameras →
      ReadFrom config view.json view

theorem accept_of_mem_cameras {zones : Zone.Directory} {config : Config} {document : Json}
    {r : Recorder} {view : CameraView} (h : (Recorder.ofJson zones config document).outcome = .ok r)
    (hm : view ∈ r.cameras) : Camera.accept config.strictDays [] view.json = .ok view.camera := by
  obtain ⟨items, -, -, hf⟩ := Recorder.ofJson_eq_ok_iff.mp h
  obtain ⟨i, hi⟩ := List.mem_iff_getElem?.mp hm
  exact (Recorder.readAs_of_getElem? hf hi).2.1

-- They all go through one reader.
theorem ReadFrom.accept {config : Config} {payload : Json} {view : CameraView}
    (h : ReadFrom config payload view) :
    Camera.accept config.strictDays [] payload = .ok view.camera := by
  cases h with
  | payload h => exact (ofJson_eq_ok_iff.mp h).1
  | text ht h =>
      obtain ⟨_, ht', h'⟩ := ofText_eq_ok_iff.mp h
      cases ht.symm.trans ht'
      exact (ofJson_eq_ok_iff.mp h').1
  | document h hm => exact accept_of_mem_cameras h hm
  | documentText h hm =>
      obtain ⟨_, -, h'⟩ := Recorder.ofText_eq_ok_iff.mp h
      exact accept_of_mem_cameras h' hm

theorem ReadFrom.describes {config : Config} {payload : Json} {view : CameraView}
    (h : ReadFrom config payload view) :
    ∃ ms, payload = .object ms ∧ Camera.Describes ms view.camera := by
  obtain ⟨ms, hv, hd, -⟩ := Camera.accept_eq_ok_iff.mp h.accept
  exact ⟨ms, hv, hd⟩

end CameraView

end Footage
