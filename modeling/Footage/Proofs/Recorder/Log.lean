import Footage.Proofs.Camera.Acceptance
import Footage.Proofs.Camera.Strictness
import Footage.Proofs.Recorder.Document

namespace Footage

-- An event as it is written into a log.
def Log.Event.line (e : Event) : Level × String := (e.level, e.message)

-- What was noted, as a log shows it that leaves no level out.
def Logged.lines {α : Type} (l : Logged α) : List (Log.Level × String) :=
  l.log.map Log.Event.line

namespace Camera

open Payload

namespace Summary

theorem In.unique {s t : Summary} {ms : Members} (hs : s.In ms) (ht : t.In ms) : s = t := by
  obtain ⟨id, shortName, description, retainBytes, usedBytes, start, stop, present⟩ := s
  obtain ⟨hid, hshort, hdescription, hretain, hused, hrange⟩ := hs
  cases hid.symm.trans ht.id
  cases hshort.symm.trans ht.shortName
  cases hdescription.symm.trans ht.description
  cases hretain.1.symm.trans ht.retainBytes.1
  cases hused.1.symm.trans ht.usedBytes.1
  cases hrange.start_counts.1.symm.trans ht.overall.start_counts.1
  cases hrange.stop_counts.1.symm.trans ht.overall.stop_counts.1
  cases hrange.present_counts.1.symm.trans ht.overall.present_counts.1
  rfl

-- The keys of the listed days that reach out of the range of the camera, as listed.
def reachingKeys (s : Summary) (ms : Members) : List String :=
  ((listedDays ms).filter (reachesOut s.start s.stop)).map (·.1)

-- The lines about a camera with the values of a payload. Only a lenient reading gets to
-- warn of days, as a strict one refuses them.
def lines (s : Summary) (strict : Bool) (ms : Members) : List (Log.Level × String) :=
  (if strict = false ∧ s.reachingKeys ms ≠ [] then
    [(.warn, "camera " ++ s.id ++ ": day(s) " ++ ", ".intercalate (s.reachingKeys ms) ++
      " fall outside the overall range")]
  else [])
  ++ [(.debug, "loaded camera " ++ s.shortName ++ " (" ++ s.id ++ ") with " ++
      Decimal.ofNat (listedDays ms).length ++ " day(s)")]

end Summary

-- The payload is accepted as a camera, with lines about it.
inductive Tells (strict : Bool) : Json → List (Log.Level × String) → Prop
  | accepted {ms : Members} {s : Summary} (hs : s.In ms) (hd : AcceptableDays strict s ms) :
      Tells strict (.object ms) (s.lines strict ms)

end Camera

namespace CameraView

open Camera

-- The notes on a camera name it by its payload.
theorem map_line_notes {ms : Payload.Members} {c : Camera} (h : Describes ms c) (config : Config)
    (source : Json.View) :
    (notes config (.ok ⟨c, source⟩)).map Log.Event.line =
      (Summary.of c).lines config.strictDays ms := by
  have hlength : (listedDays ms).length = c.days.entries.length := h.days.listedDays.length_eq
  have hkeys : (Summary.of c).reachingKeys ms = c.divergent.map DayKey.text :=
    (map_text_divergent h.days.listedDays).symm
  have hempty : c.divergent.map DayKey.text = [] ↔ c.divergent = [] := List.map_eq_nil_iff
  unfold notes Summary.lines
  rw [hkeys, hlength]
  simp only [List.map_append, Ne, hempty]
  congr 1
  cases config.strictDays <;> cases c.divergent <;> rfl

theorem tells_iff {config : Config} {v : Json} {lines : List (Log.Level × String)}
    (source : Json.View) :
    Tells config.strictDays v lines ↔
      ∃ c, Camera.accept config.strictDays [] v = .ok c ∧
        (notes config (.ok ⟨c, source⟩)).map Log.Event.line = lines := by
  constructor
  · intro h
    obtain ⟨hs, hd⟩ := h
    obtain ⟨view, hview⟩ := (accepted_iff config _).1.mpr ⟨_, _, rfl, hs, hd⟩
    have haccept := (load_eq_ok_iff.mp hview).1
    obtain ⟨_, hv, hdescribes, -⟩ := accept_eq_ok_iff.mp haccept
    cases hv
    refine ⟨view.camera, haccept, ?_⟩
    rw [map_line_notes hdescribes, hs.unique hdescribes.summary]
  · intro h
    obtain ⟨c, hc, rfl⟩ := h
    obtain ⟨ms, rfl, hdescribes, hstrict⟩ := accept_eq_ok_iff.mp hc
    rw [map_line_notes hdescribes]
    have hdays : AcceptableDays config.strictDays (Summary.of c) ms :=
      (acceptableDays_iff rfl rfl).mpr
        ⟨c.days, hdescribes.days, fun h => divergent_eq_nil_iff.mp (hstrict h)⟩
    exact .accepted hdescribes.summary hdays

end CameraView

namespace Recorder

open Payload Camera

section Cameras

variable {config : Config} {document source : Json.View} {first : Nat} {rest : List Json}
  {e : ViewError}

-- One camera adds its notes in front of those on the cameras behind it.
theorem loadCameras_of_load_ok {view : CameraView} (hat : cameraAt? document first = some source)
    (hload : (CameraView.load config [.field "cameras", .index first] source).outcome = .ok view)
    (count : Nat) :
    let others := loadCameras config document (first + 1) count
    loadCameras config document first (count + 1) =
      ⟨others.outcome.map (view :: ·), CameraView.notes config (.ok view) ++ others.log⟩ := by
  intro others
  rw [loadCameras, loadCamera_eq_load hat, Logged.bind_of_ok hload, Logged.bind_pure_eq,
    CameraView.log_load, hload]

-- A camera that is refused is the last one that anything is noted of.
theorem loadCameras_of_load_error (hat : cameraAt? document first = some source)
    (hload : (CameraView.load config [.field "cameras", .index first] source).outcome = .error e)
    (count : Nat) :
    loadCameras config document first (count + 1) = ⟨.error e, [.rejected e]⟩ := by
  rw [loadCameras, loadCamera_eq_load hat, Logged.bind_of_error hload, CameraView.log_load, hload]
  rfl

theorem tells_of_load_ok {view : CameraView} {place : Path}
    (h : (CameraView.load config place source).outcome = .ok view) :
    Tells config.strictDays source.json
      ((CameraView.notes config (.ok view)).map Log.Event.line) := by
  obtain ⟨haccept, -⟩ := CameraView.load_eq_ok_iff.mp h
  exact (CameraView.tells_iff view.source).mpr ⟨view.camera, haccept, rfl⟩

theorem not_tells_of_load_error {place : Path} {lines : List (Log.Level × String)}
    (h : (CameraView.load config place source).outcome = .error e) :
    ¬Tells config.strictDays source.json lines := by
  intro htells
  obtain ⟨_, haccept, -⟩ := CameraView.load_eq_error_iff.mp h
  obtain ⟨c, hc, -⟩ := (CameraView.tells_iff source).mp htells
  rw [haccept] at hc
  contradiction

-- While all cameras are accepted, the lines about them follow each other. The induction
-- is on the rest of the array, which starts anywhere in the document.
theorem lines_loadCameras_of_ok (h : Shows document first rest) {views : List CameraView}
    (hok : (loadCameras config document first rest.length).outcome = .ok views) :
    ∃ told, List.Forall₂ (Tells config.strictDays) rest told ∧
      (loadCameras config document first rest.length).lines = told.flatten := by
  induction rest generalizing first views with
  | nil => exact ⟨[], .nil, rfl⟩
  | cons item rest ih =>
      obtain ⟨hat, hjson⟩ := h.head
      rw [List.length_cons] at hok ⊢
      cases hload : (CameraView.load config [.field "cameras", .index first]
          (place document first)).outcome with
      | error e =>
          rw [loadCameras_of_load_error hat hload] at hok
          contradiction
      | ok view =>
          rw [loadCameras_of_load_ok hat hload] at hok ⊢
          obtain ⟨others, hothers, -⟩ := map_eq_ok_iff.mp hok
          obtain ⟨told, htold, hlines⟩ := ih h.tail hothers
          have htells := tells_of_load_ok hload
          rw [hjson] at htells
          refine ⟨_, .cons htells htold, ?_⟩
          rw [List.flatten_cons, ← hlines]
          exact List.map_append

-- A refusal ends the lines, behind those about the cameras in front of the refused one.
theorem lines_loadCameras_of_error (h : Shows document first rest)
    (he : (loadCameras config document first rest.length).outcome = .error e) :
    ∃ k item told, rest[k]? = some item ∧ (∀ lines, ¬Tells config.strictDays item lines) ∧
      List.Forall₂ (Tells config.strictDays) (rest.take k) told ∧
      (loadCameras config document first rest.length).lines =
        told.flatten ++ [(.warn, "rejected camera payload: " ++ e.message)] := by
  induction rest generalizing first with
  | nil => contradiction
  | cons item rest ih =>
      obtain ⟨hat, hjson⟩ := h.head
      rw [List.length_cons] at he ⊢
      cases hload : (CameraView.load config [.field "cameras", .index first]
          (place document first)).outcome with
      | error inner =>
          rw [loadCameras_of_load_error hat hload] at he ⊢
          cases he
          have hnot : ∀ lines, ¬Tells config.strictDays item lines := by
            intro lines
            rw [← hjson]
            exact not_tells_of_load_error hload
          exact ⟨0, item, [], rfl, hnot, .nil, rfl⟩
      | ok view =>
          rw [loadCameras_of_load_ok hat hload] at he ⊢
          obtain ⟨k, refused, told, hk, hnot, htold, hlines⟩ := ih h.tail (map_eq_error_iff.mp he)
          have htells := tells_of_load_ok hload
          rw [hjson] at htells
          refine ⟨k + 1, refused, _, hk, hnot, .cons htells htold, ?_⟩
          rw [List.flatten_cons, List.append_assoc, ← hlines]
          exact List.map_append

end Cameras

-- Nothing is noted of a document before its cameras. Then each camera in turn has its
-- lines, up to the first one that is refused, whose error is the last that is noted and
-- the one that comes of the document. So it is whichever zones are known.
theorem lines_tell_cameras_in_order (zones : Zone.Directory) (config : Config) (v : Json) :
    ((¬∃ zoneName f items, HeadAt zones config v zoneName f items) →
      (ofJson zones config v).lines = []) ∧
    ∀ zoneName f items, HeadAt zones config v zoneName f items →
      (∀ r, (ofJson zones config v).outcome = .ok r →
        ∃ told, List.Forall₂ (Tells config.strictDays) items told ∧
          (ofJson zones config v).lines = told.flatten) ∧
      ∀ e, (ofJson zones config v).outcome = .error e →
        ∃ k item told, items[k]? = some item ∧ (∀ lines, ¬Tells config.strictDays item lines) ∧
          List.Forall₂ (Tells config.strictDays) (items.take k) told ∧
          (ofJson zones config v).lines =
            told.flatten ++ [(.warn, "rejected camera payload: " ++ e.message)] := by
  constructor
  · intro hno
    cases hread : readHead zones config v with
    | error e =>
        rw [ofJson_of_readHead_error hread]
        rfl
    | ok head => exact absurd ⟨_, _, _, readHead_eq_ok_iff.mp hread⟩ hno
  · intro zoneName f items hhead
    rw [ofJson_of_headAt hhead]
    constructor
    · intro r hr
      obtain ⟨_, hviews, -⟩ := map_eq_ok_iff.mp hr
      exact lines_loadCameras_of_ok hhead.shows hviews
    · intro e he
      exact lines_loadCameras_of_error hhead.shows (map_eq_error_iff.mp he)

end Recorder

end Footage
