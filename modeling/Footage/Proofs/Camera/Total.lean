import Footage.Proofs.Camera.Strictness
import Footage.Proofs.Day.Total

namespace Footage

namespace Camera

open Payload

-- The recorded ticks that a listed day states.
def statedPresent (entry : String × Json) : Int :=
  match entry.2 with
  | .object fields =>
    match fields.lookup TimeRange.names.present with
    | some (.number (.integer present)) => present
    | _ => 0
  | _ => 0

-- The recorded ticks that a payload states, day by day.
def statedPresents (ms : Members) : List Int := (listedDays ms).map statedPresent

theorem statedPresent_eq {entry : String × Json} {day : DayKey × TimeRange}
    (h : Days.EntryAt entry day) : statedPresent entry = day.2.present := by
  obtain ⟨-, fields, hv, hr⟩ := h
  simp only [statedPresent, hv, hr.present, Json.int]

-- Nothing is added to what is stated, and nothing of it is left out.
theorem map_present_eq {listed : Members} {entries : List (DayKey × TimeRange)}
    (h : List.Forall₂ Days.EntryAt listed entries) :
    (entries.map fun day => day.2.present) = listed.map statedPresent := by
  induction h with
  | nil => rfl
  | cons he _ ih => rw [List.map_cons, List.map_cons, statedPresent_eq he, ih]

theorem DaysAt.presents {ms : Members} {d : Days} (h : DaysAt ms d) :
    d.presents = statedPresents ms := map_present_eq h.listedDays

-- A camera with a full day in each of some years.
def crowded (years : List (Fin 10000)) : Camera :=
  ⟨"cam", "cam", "", 0, 0, .whole, .crowded years⟩

-- No day of it reaches out, so a strict reading takes it as well.
theorem accept_payload_crowded (strict : Bool) (years : List (Fin 10000)) :
    accept strict [] (.object (crowded years).payload) = .ok (crowded years) := by
  have hroom : (0 : Int) ≤ 0 ∧ 0 ≤ Word.greatest := by decide
  refine accept_eq_ok_iff.mpr ⟨_, rfl, describes_payload hroom hroom, fun _ => ?_⟩
  rw [divergent_eq_nil_iff]
  intro day hd
  obtain ⟨_, -, rfl⟩ := List.mem_map.mp hd
  exact TimeRange.contains_iff.mpr ⟨Int.le_refl _, Int.le_refl _⟩

end Camera

namespace CameraView

open Camera Payload

-- A crowded camera as it is seen in its own payload.
def crowded (years : List (Fin 10000)) : CameraView :=
  ⟨.crowded years, .ofJson (.object (Camera.crowded years).payload)⟩

theorem outcome_crowded (config : Config) (years : List (Fin 10000)) :
    (ofJson config (.object (Camera.crowded years).payload)).outcome = .ok (crowded years) :=
  load_eq_ok_iff.mpr ⟨accept_payload_crowded config.strictDays years, rfl⟩

-- An accepted camera has a total just as long as the sum of what its payload states is
-- a word, and then that sum is its total. The sums on the way to it are words in the
-- same case, which 404 days never leave.
theorem totalPresent_exact_iff (config : Config) (v : Json) (view : CameraView)
    (h : (ofJson config v).outcome = .ok view) :
    ∃ ms, v = .object ms ∧ view.camera.days.presents = statedPresents ms ∧
      (∀ total, view.camera.days.totalPresent = some total → total = (statedPresents ms).sum) ∧
      (view.camera.days.totalPresent = some (statedPresents ms).sum ↔
        (statedPresents ms).sum ≤ Word.greatest) ∧
      (view.camera.days.totalPresent = none ↔ Word.greatest < (statedPresents ms).sum) ∧
      ((∀ k, Word.Fits ((statedPresents ms).take k).sum) ↔
        (statedPresents ms).sum ≤ Word.greatest) ∧
      ((statedPresents ms).length ≤ 404 → (statedPresents ms).sum ≤ Word.greatest) := by
  obtain ⟨hc, -⟩ := load_eq_ok_iff.mp h
  rw [Json.View.json_ofJson] at hc
  obtain ⟨ms, rfl, hd, -⟩ := accept_eq_ok_iff.mp hc
  have hp := hd.days.presents
  refine ⟨ms, rfl, hp, ?_⟩
  rw [← hp]
  refine ⟨fun total => Days.eq_sum_of_totalPresent, Days.totalPresent_eq_sum_iff _,
    Days.totalPresent_eq_none_iff _, Days.forall_fits_iff _, fun hl => Days.sum_le_greatest ?_⟩
  rwa [Days.presents, List.length_map] at hl

-- A full day in each of the years 0 to 403 just fits.
theorem totalPresent_crowded_exact :
    (ofJson ⟨true, ""⟩ (.object (Camera.crowded (Days.firstYears 404)).payload)).outcome =
        .ok (crowded (Days.firstYears 404)) ∧
      (crowded (Days.firstYears 404)).camera.days.totalPresent = some 9213707657087999596 := by
  have h := outcome_crowded ⟨true, ""⟩ (Days.firstYears 404)
  have hlen := Days.length_firstYears (by decide : 404 ≤ 10000)
  obtain ⟨ms, -, hp, -, hexact, -, -, hroom⟩ := totalPresent_exact_iff _ _ _ h
  have hpresents := Days.presents_crowded (Days.firstYears 404)
  have hsum := Days.sum_presents_crowded (Days.firstYears 404)
  rw [← hp] at hexact hroom
  refine ⟨h, (hexact.mpr (hroom ?_)).trans (congrArg some (hsum.trans ?_))⟩
  · show (Days.crowded _).presents.length ≤ 404
    rw [hpresents, List.length_replicate, hlen]
  · rw [hlen]
    decide

-- With one more such day, no two of them alike, the sum is past the greatest of a word
-- and there is no total.
theorem totalPresent_crowded_not_exact :
    (∀ config, (ofJson config (.object (Camera.crowded (Days.firstYears 405)).payload)).outcome =
        .ok (crowded (Days.firstYears 405))) ∧
      ((crowded (Days.firstYears 405)).camera.days.keys.map DayKey.text).Nodup ∧
      (crowded (Days.firstYears 405)).camera.days.presents.sum = 9236513864159999595 ∧
      Word.greatest < (crowded (Days.firstYears 405)).camera.days.presents.sum ∧
      (crowded (Days.firstYears 405)).camera.days.totalPresent = none := by
  have hlen := Days.length_firstYears (by decide : 405 ≤ 10000)
  have hsum : (crowded (Days.firstYears 405)).camera.days.presents.sum = 9236513864159999595 := by
    refine (Days.sum_presents_crowded _).trans ?_
    rw [hlen]
    decide
  have hpast : Word.greatest < (crowded (Days.firstYears 405)).camera.days.presents.sum := by
    rw [hsum]
    decide
  exact ⟨fun config => outcome_crowded config _,
    Days.nodup_keys_crowded (Days.nodup_firstYears 405), hsum, hpast,
    (Days.totalPresent_eq_none_iff _).mpr hpast⟩

end CameraView

end Footage
