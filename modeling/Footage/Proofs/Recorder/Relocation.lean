import Footage.Proofs.Camera.Strictness
import Footage.Proofs.Error
import Footage.Proofs.Recorder.Document
import Footage.Proofs.TimeFormatter

namespace Footage

-- A camera as it is named in the messages of its document, by its number.
def cameraName (k : Nat) : String := "cameras[" ++ Decimal.ofNat k ++ "]"

namespace Path

theorem text_in_camera (k : Nat) (place : Path) :
    text (.field "cameras" :: .index k :: place) = cameraName k ++ onward place := by
  have hopen : "cameras[" = "cameras" ++ "[" := by decide
  rw [text_item, itemName, cameraName, hopen]

theorem text_camera (k : Nat) : text [.field "cameras", .index k] = cameraName k := by
  rw [text_in_camera, onward, String.append_empty]

theorem text_field_in_camera (k : Nat) (name : String) (rest : Path) :
    text (.field "cameras" :: .index k :: .field name :: rest) =
      cameraName k ++ "." ++ text (.field name :: rest) := by
  rw [text_in_camera, onward_field, String.append_assoc]

end Path

namespace ViewError

-- An error of a camera, seen from the document that lists the camera.
def inCamera (k : Nat) (e : ViewError) : ViewError := (e.under (.index k)).under (.field "cameras")

-- An error that is about something inside an object, and not about a day key.
inductive Inside : ViewError → Prop
  | notObject (name : String) (rest : Path) (got : Json.Kind) :
      Inside (.notObject (.field name :: rest) got)
  | field (name : String) (rest : Path) (fault : FieldFault) :
      Inside (.field (.field name :: rest) fault)
  | range (name : String) (rest : Path) (fault : TimeRange.Fault) :
      Inside (.range (.field name :: rest) fault)
  | daysOutside (name : String) (rest : Path) (days : List DayKey) :
      Inside (.daysOutside (.field name :: rest) days)

-- The name of the camera comes in front of the message as a whole.
theorem Inside.detail_inCamera {e : ViewError} (h : Inside e) (k : Nat) :
    (e.inCamera k).detail = cameraName k ++ "." ++ e.detail := by
  cases h with
  | notObject name rest got =>
      rw [inCamera, under, under, detail_notObject_cons, detail_notObject_cons,
        Path.text_field_in_camera]
      simp only [String.append_assoc]
  | field name rest fault =>
      rw [inCamera, under, under, detail_field, detail_field, Path.text_field_in_camera]
      simp only [String.append_assoc]
  | range name rest fault =>
      rw [inCamera, under, under, detail_range_cons, detail_range_cons, Path.text_field_in_camera]
      simp only [String.append_assoc]
  | daysOutside name rest days =>
      rw [inCamera, under, under, detail_daysOutside_cons, detail_daysOutside_cons,
        Path.text_field_in_camera]
      simp only [String.append_assoc]

theorem isValidation_inCamera (e : ViewError) (k : Nat) :
    (e.inCamera k).isValidation = e.isValidation := by
  cases e <;> rfl

-- An error of a camera on its own and the error of its document. A day key and its
-- fault are kept, and of all else the name of the camera is put into the message.
def Relocated (k : Nat) (alone inDocument : ViewError) : Prop :=
  inDocument.isValidation = alone.isValidation ∧
    match alone with
    | .malformedDay place key fault => place.text = "days" ∧
        ∃ place', inDocument = .malformedDay place' key fault ∧
          place'.text = cameraName k ++ ".days"
    | .notObject [] got =>
        alone.message = "Validation error: " ++ ("payload must be a JSON object, got " ++ got.name) ∧
          inDocument.message =
            "Validation error: " ++ (cameraName k ++ " must be a JSON object, got " ++ got.name)
    | .range [] fault => alone.message = "Validation error: " ++ fault.message ∧
        inDocument.message = "Validation error: " ++ (cameraName k ++ ": " ++ fault.message)
    | _ => ∃ m, alone.message = "Validation error: " ++ m ∧
        inDocument.message = "Validation error: " ++ (cameraName k ++ "." ++ m)

theorem Inside.relocated {e : ViewError} (h : Inside e) (k : Nat) : Relocated k e (e.inCamera k) := by
  have hv : e.isValidation = true := by cases h <;> rfl
  have hk := isValidation_inCamera e k
  have halone := message_of_isValidation hv
  have hdocument := message_of_isValidation (hk.trans hv)
  rw [h.detail_inCamera k] at hdocument
  refine ⟨hk, ?_⟩
  cases h <;> exact ⟨_, halone, hdocument⟩

theorem relocated_payload (k : Nat) (got : Json.Kind) :
    Relocated k (.notObject [] got) (inCamera k (.notObject [] got)) := by
  refine ⟨rfl, rfl, ?_⟩
  rw [message_of_isValidation rfl, inCamera, under, under, detail_notObject_cons,
    Path.text_camera]

theorem relocated_overall (k : Nat) (fault : TimeRange.Fault) :
    Relocated k (.range [] fault) (inCamera k (.range [] fault)) := by
  refine ⟨rfl, rfl, ?_⟩
  rw [message_of_isValidation rfl, inCamera, under, under, detail_range_cons, Path.text_camera]

theorem relocated_day (k : Nat) (key : String) (fault : DayKey.Fault) :
    Relocated k (.malformedDay [.field "days"] key fault)
      (inCamera k (.malformedDay [.field "days"] key fault)) := by
  refine ⟨rfl, by decide, _, rfl, ?_⟩
  rw [Path.text_field_in_camera, String.append_assoc]
  rfl

end ViewError

-- Every error of a camera is one of these.
theorem Camera.FailsWith.relocated {e : ViewError} (h : FailsWith e) (k : Nat) :
    ViewError.Relocated k e (e.inCamera k) := by
  cases h with
  | payload got => exact ViewError.relocated_payload k got
  | field name fault => exact (ViewError.Inside.field name [] fault).relocated k
  | overall fault => exact ViewError.relocated_overall k fault
  | outside days => exact (ViewError.Inside.daysOutside "days" [] days).relocated k
  | days h =>
      cases h with
      | listing got => exact (ViewError.Inside.notObject "days" [] got).relocated k
      | key key fault => exact ViewError.relocated_day k key fault
      | entry key got => exact (ViewError.Inside.notObject "days" [.field key] got).relocated k
      | field key name fault =>
          exact (ViewError.Inside.field "days" [.field key, .field name] fault).relocated k
      | range key fault => exact (ViewError.Inside.range "days" [.field key] fault).relocated k

namespace Recorder

open Payload

-- The first item that is refused as a camera on its own, and why it is.
structure FirstRefused (config : Config) (items : List Json) (k : Nat) (e : ViewError) : Prop where
  refused : ∃ item, items[k]? = some item ∧ (CameraView.ofJson config item).outcome = .error e
  earlier : ∀ (j : Nat) (item : Json), j < k → items[j]? = some item →
    ∃ view, (CameraView.ofJson config item).outcome = .ok view

theorem FirstRefused.not_lt {config : Config} {items : List Json} {k j : Nat} {e e' : ViewError}
    (hk : FirstRefused config items k e) (hj : FirstRefused config items j e') : ¬k < j := by
  intro hlt
  obtain ⟨item, hi, he⟩ := hk.refused
  obtain ⟨view, hview⟩ := hj.earlier k item hlt hi
  rw [he] at hview
  contradiction

theorem FirstRefused.unique {config : Config} {items : List Json} {k j : Nat} {e e' : ViewError}
    (hk : FirstRefused config items k e) (hj : FirstRefused config items j e') :
    k = j ∧ e = e' := by
  have hkj := hk.not_lt hj
  have hjk := hj.not_lt hk
  have heq : k = j := by omega
  subst heq
  obtain ⟨item, hi, he⟩ := hk.refused
  obtain ⟨_, hi', he'⟩ := hj.refused
  cases hi.symm.trans hi'
  exact ⟨rfl, Except.error.inj (he.symm.trans he')⟩

theorem failsWith_of_firstRefused {config : Config} {items : List Json} {k : Nat} {e : ViewError}
    (h : FirstRefused config items k e) : Camera.FailsWith e := by
  obtain ⟨item, -, he⟩ := h.refused
  rw [CameraView.outcome_ofJson, map_eq_error_iff] at he
  exact Camera.failsWith_of_accept_eq_error he

section Document

variable {zones : Zone.Directory} {config : Config} {v : Json} {zoneName : String}
  {f : TimeFormatter} {items : List Json}

theorem exists_firstRefused_of_ofJson_eq_error (h : HeadAt zones config v zoneName f items)
    {e' : ViewError} (he : (ofJson zones config v).outcome = .error e') :
    ∃ k e, FirstRefused config items k e ∧ e.inCamera k = e' := by
  rw [ofJson_of_headAt h] at he
  obtain ⟨k, inner, hfirst, hin⟩ :=
    exists_refused_of_loadCameras_eq_error h.shows (map_eq_error_iff.mp he)
  obtain ⟨item, hk, hr⟩ := hfirst.refused
  rw [Nat.zero_add] at hin
  refine ⟨k, inner, ⟨⟨item, hk, ?_⟩, ?_⟩, hin⟩
  · rw [CameraView.outcome_ofJson, hr]
    rfl
  · intro j other hj hget
    obtain ⟨c, hc⟩ := hfirst.earlier j other hj hget
    exact ⟨⟨c, .ofJson other⟩, by rw [CameraView.outcome_ofJson, hc]; rfl⟩

theorem exists_error_of_firstRefused (h : HeadAt zones config v zoneName f items) {k : Nat}
    {e : ViewError} (hk : FirstRefused config items k e) :
    ∃ e', (ofJson zones config v).outcome = .error e' := by
  cases hr : (ofJson zones config v).outcome with
  | error e' => exact ⟨e', rfl⟩
  | ok r =>
      -- every item of a recorder was accepted, and so was the one that is refused
      obtain ⟨_, _, items', hh, hall⟩ := exists_ofJson_eq_ok_iff.mp ⟨r, hr⟩
      have hitems := (readHead_eq_ok_iff.mpr h).symm.trans (readHead_eq_ok_iff.mpr hh)
      cases hitems
      obtain ⟨item, hi, he⟩ := hk.refused
      obtain ⟨c, hc⟩ := hall item (List.mem_of_getElem? hi)
      rw [CameraView.outcome_ofJson, hc] at he
      contradiction

-- A document with a right head is refused for the first of its items that is refused
-- as a camera on its own, with the error of that item in its place. So it is whichever
-- zones are known.
theorem refused_iff_and_relocated (h : HeadAt zones config v zoneName f items) :
    ((∃ e', (ofJson zones config v).outcome = .error e') ↔ ∃ k e, FirstRefused config items k e) ∧
      ∀ k e, FirstRefused config items k e →
        ∃ e', (ofJson zones config v).outcome = .error e' ∧ ViewError.Relocated k e e' := by
  constructor
  · constructor
    · rintro ⟨e', he⟩
      obtain ⟨k, e, hk, -⟩ := exists_firstRefused_of_ofJson_eq_error h he
      exact ⟨k, e, hk⟩
    · rintro ⟨k, e, hk⟩
      exact exists_error_of_firstRefused h hk
  · intro k e hk
    obtain ⟨e', he⟩ := exists_error_of_firstRefused h hk
    obtain ⟨j, first, hj, rfl⟩ := exists_firstRefused_of_ofJson_eq_error h he
    obtain ⟨rfl, rfl⟩ := hk.unique hj
    exact ⟨_, he, (failsWith_of_firstRefused hk).relocated k⟩

end Document

-- A camera without any recorded ticks, with some days.
def emptyCamera (days : Members) : Json :=
  .object
    [("id", .string "cam"), ("shortName", .string "cam"), ("description", .string ""),
     ("retainBytes", .int 0), ("minStartTime90k", .int 0), ("maxEndTime90k", .int 0),
     ("totalDuration90k", .int 0), ("totalSampleFileBytes", .int 0), ("days", .object days)]

-- Of two cameras the second has a day that is in no calendar.
theorem refused_and_relocated_second :
    let items := [emptyCamera [], emptyCamera [("2023-02-29", .null)]]
    let document := Json.object [("timeZoneName", .string "UTC"), ("cameras", .array items)]
    let fault := ViewError.malformedDay [.field "days"] "2023-02-29" .calendar
    HeadAt .samples ⟨true, ""⟩ document "UTC" ⟨.utc, []⟩ items ∧
      FirstRefused ⟨true, ""⟩ items 1 fault ∧
      ∃ e', (ofJson .samples ⟨true, ""⟩ document).outcome = .error e' ∧
        ViewError.Relocated 1 fault e' := by
  intro items document fault
  have hformat : TimeFormatter.make .samples "UTC" "" = .ok ⟨.utc, []⟩ :=
    TimeFormatter.make_eq_ok_iff.mpr ⟨by decide, Pattern.parseChars?_nil⟩
  have hhead : HeadAt .samples ⟨true, ""⟩ document "UTC" ⟨.utc, []⟩ items :=
    ⟨_, rfl, rfl, hformat, rfl⟩
  have hfirst : FirstRefused ⟨true, ""⟩ items 1 fault := by
    refine ⟨⟨_, rfl, rfl⟩, ?_⟩
    intro j item hj hi
    obtain rfl : j = 0 := by omega
    cases hi
    exact ⟨⟨_, _⟩, rfl⟩
  exact ⟨hhead, hfirst, (refused_iff_and_relocated hhead).2 1 fault hfirst⟩

end Recorder

end Footage
