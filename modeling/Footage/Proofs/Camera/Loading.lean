import Footage.Proofs.Camera.Description
import Footage.CameraView

namespace Footage

theorem Json.View.json_ofJson (v : Json) : (Json.View.ofJson v).json = v := rfl

namespace CameraView

open Payload

variable {config : Config} {place : Path} {source : Json.View}

theorem read_of_error {e : ViewError} (h : Camera.read place source.json = .error e) :
    read config place source = .fail e := by
  unfold read
  rw [h, Logged.ofExcept_error_bind]

-- All that can come of a camera once it was read. A note is left in one case only.
theorem read_of_ok {c : Camera} (h : Camera.read place source.json = .ok c) :
    read config place source =
      if c.divergent.isEmpty then ⟨.ok ⟨c, source⟩, []⟩
      else if config.strictDays then .fail (.daysOutside (place ++ [.field "days"]) c.divergent)
      else ⟨.ok ⟨c, source⟩, [.daysOutside c.id c.divergent]⟩ := by
  unfold read
  rw [h, Logged.ofExcept_ok_bind]
  unfold checkContainment
  cases c.divergent.isEmpty <;> cases config.strictDays <;> rfl

-- Leaving the notes aside, a camera is accepted or refused as its payload is.
theorem outcome_load (config : Config) (place : Path) (source : Json.View) :
    (load config place source).outcome =
      (Camera.accept config.strictDays place source.json).map (CameraView.mk · source) := by
  show (read config place source).outcome = _
  unfold Camera.accept
  cases hread : Camera.read place source.json with
  | error e =>
      rw [read_of_error hread]
      rfl
  | ok c =>
      show _ = (Camera.settle config.strictDays place c).map (CameraView.mk · source)
      rw [read_of_ok hread]
      unfold Camera.settle
      cases c.divergent.isEmpty <;> cases config.strictDays <;> rfl

-- The notes that go with an outcome.
def notes (config : Config) : Except ViewError CameraView → List Log.Event
  | .error e => [.rejected e]
  | .ok v =>
    (if !config.strictDays && !v.camera.divergent.isEmpty then
      [.daysOutside v.camera.id v.camera.divergent]
    else [])
    ++ [.loaded v.camera.shortName v.camera.id v.camera.days.entries.length]

-- What is noted on the way to an outcome can be told from the outcome.
theorem log_load (config : Config) (place : Path) (source : Json.View) :
    (load config place source).log = notes config (load config place source).outcome := by
  unfold load
  cases hread : Camera.read place source.json with
  | error e =>
      rw [read_of_error hread]
      rfl
  | ok c =>
      rw [read_of_ok hread]
      cases hdays : c.divergent.isEmpty <;> cases hstrict : config.strictDays <;>
        simp [Logged.report, Logged.fail, notes, event, hdays, hstrict]

theorem outcome_ofJson (config : Config) (v : Json) :
    (ofJson config v).outcome =
      (Camera.accept config.strictDays [] v).map fun c => ⟨c, .ofJson v⟩ :=
  outcome_load config [] (.ofJson v)

-- Where a camera stands has no part in whether it is accepted.
theorem load_eq_ok_iff {view : CameraView} :
    (load config place source).outcome = .ok view ↔
      Camera.accept config.strictDays [] source.json = .ok view.camera ∧ view.source = source := by
  rw [outcome_load, map_eq_ok_iff]
  simp only [(Camera.placed_accept config.strictDays source.json).eq_ok_iff]
  constructor
  · rintro ⟨c, hc, rfl⟩
    exact ⟨hc, rfl⟩
  · rintro ⟨hc, rfl⟩
    exact ⟨_, hc, rfl⟩

-- Of two places for a payload, one of them its own, the camera is the same.
theorem load_eq_ok_iff_alone {view : CameraView} :
    (load config place source).outcome = .ok view ↔
      ∃ alone, (ofJson config source.json).outcome = .ok alone ∧
        view.camera = alone.camera ∧ view.source = source := by
  unfold ofJson
  simp only [load_eq_ok_iff]
  constructor
  · rintro ⟨hc, hs⟩
    exact ⟨⟨view.camera, .ofJson source.json⟩, ⟨hc, rfl⟩, rfl, hs⟩
  · rintro ⟨alone, ⟨hc, -⟩, hcamera, hs⟩
    rw [hcamera]
    exact ⟨hc, hs⟩

theorem load_eq_error_iff {e : ViewError} :
    (load config place source).outcome = .error e ↔
      ∃ inner, Camera.accept config.strictDays [] source.json = .error inner ∧
        place.foldr ViewError.under inner = e := by
  rw [outcome_load, map_eq_error_iff]
  exact (Camera.placed_accept config.strictDays source.json).eq_error_iff

theorem exists_load_eq_ok_iff :
    (∃ view, (load config place source).outcome = .ok view) ↔
      ∃ c, Camera.accept config.strictDays [] source.json = .ok c := by
  simp only [load_eq_ok_iff]
  constructor
  · rintro ⟨view, hc, -⟩
    exact ⟨_, hc⟩
  · rintro ⟨c, hc⟩
    exact ⟨⟨c, source⟩, hc, rfl⟩

end CameraView

end Footage
