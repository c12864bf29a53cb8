import Footage.Proofs.Camera.Loading

namespace Footage

namespace Camera

open Payload

-- The days of a payload as they are listed, none if there is no list.
def listedDays (ms : Members) : Members :=
  match ms.lookup "days" with
  | some (.object listed) => listed
  | _ => []

-- Whether a listed day starts before or ends after given limits.
def reachesOut (start stop : Int) (entry : String × Json) : Bool :=
  match entry.2 with
  | .object fields =>
    match fields.lookup TimeRange.names.start, fields.lookup TimeRange.names.stop with
    | some (.number (.integer first)), some (.number (.integer last)) =>
      first < start || stop < last
    | _, _ => false
  | _ => false

theorem DaysAt.listedDays {ms : Members} {d : Days} (h : DaysAt ms d) :
    List.Forall₂ Days.EntryAt (listedDays ms) d.entries := by
  unfold Camera.listedDays
  rcases h with ⟨hn | hn, rfl⟩ | ⟨listed, hl, hf⟩
  · rw [hn]
    exact .nil
  · rw [hn]
    exact .nil
  · rw [hl]
    exact hf

theorem reachesOut_iff {overall : TimeRange} {entry : String × Json} {day : DayKey × TimeRange}
    (h : Days.EntryAt entry day) :
    reachesOut overall.start overall.stop entry = !overall.contains day.2 := by
  obtain ⟨-, fields, hv, hr⟩ := h
  simp only [reachesOut, hv, hr.start, hr.stop, Json.int, TimeRange.contains, Bool.not_and,
    ← decide_not, Int.not_le]

theorem divergent_eq (c : Camera) :
    c.divergent = (c.days.entries.filter fun day => !c.overall.contains day.2).map (·.1) := rfl

-- The divergent days are the ones of the payload that reach out, in its order.
theorem map_text_divergent {c : Camera} {listed : Members}
    (h : List.Forall₂ Days.EntryAt listed c.days.entries) :
    c.divergent.map DayKey.text =
      (listed.filter (reachesOut c.overall.start c.overall.stop)).map (·.1) := by
  rw [divergent_eq]
  generalize c.days.entries = entries at h
  induction h with
  | nil => rfl
  | @cons entry day listed entries he _ ih =>
      rw [List.filter_cons, List.filter_cons, reachesOut_iff he]
      cases c.overall.contains day.2 with
      | true => exact ih
      | false => exact congrArg₂ List.cons he.1 ih

theorem settle_true (place : Path) (c : Camera) :
    settle true place c =
      if c.divergent = [] then .ok c
      else .error (.daysOutside (place ++ [.field "days"]) c.divergent) := by
  cases h : c.divergent <;> simp [settle, h]

theorem accept_false (place : Path) (v : Json) : accept false place v = read place v := by
  unfold accept
  cases read place v <;> rfl

-- A strict reading goes on from a lenient one and then refuses divergent days.
theorem accept_true (place : Path) (v : Json) :
    accept true place v = accept false place v >>= settle true place := by
  rw [accept_false]
  rfl

theorem accept_true_eq_ok_iff {place : Path} {v : Json} {c : Camera} :
    accept true place v = .ok c ↔ accept false place v = .ok c ∧ c.divergent = [] := by
  simp only [accept_true, bind_eq_ok_iff, settle_eq_ok_iff, true_implies]
  constructor
  · rintro ⟨_, hc, rfl, hn⟩
    exact ⟨hc, hn⟩
  · rintro ⟨hc, hn⟩
    exact ⟨c, hc, rfl, hn⟩

end Camera

namespace CameraView

open Payload

theorem strict_of_lenient_error {f g : String} {v : Json} {e : ViewError}
    (h : (ofJson ⟨false, f⟩ v).outcome = .error e) : (ofJson ⟨true, g⟩ v).outcome = .error e := by
  rw [outcome_ofJson, map_eq_error_iff] at h ⊢
  rw [Camera.accept_true]
  exact bind_eq_error_iff.mpr (Or.inl h)

theorem strict_of_lenient_ok {f g : String} {v : Json} {view : CameraView}
    (h : (ofJson ⟨false, f⟩ v).outcome = .ok view) :
    (ofJson ⟨true, g⟩ v).outcome =
      if view.camera.divergent = [] then .ok view
      else .error (.daysOutside [.field "days"] view.camera.divergent) := by
  rw [outcome_ofJson, map_eq_ok_iff] at h
  obtain ⟨c, hc, rfl⟩ := h
  have hs : Camera.accept true [] v = Camera.settle true [] c := by
    rw [Camera.accept_true, hc]
    rfl
  rw [outcome_ofJson, hs, Camera.settle_true]
  split <;> rfl

end CameraView

-- The message of a strict reading about days that reach out.
theorem ViewError.message_daysOutside (days : List DayKey) :
    (ViewError.daysOutside [.field "days"] days).message =
      "Validation error: days: day(s) " ++ ", ".intercalate (days.map DayKey.text) ++
        " fall outside the overall range" := by
  have hl : "Validation error: days: day(s) " =
      "Validation error: " ++ ("days" ++ "" ++ ": " ++ "day(s) ") := by decide
  have hm : (daysOutside [.field "days"] days).message =
      "Validation error: " ++ ("days" ++ "" ++ ": " ++
        ("day(s) " ++ listed days ++ " fall outside the overall range")) := rfl
  rw [hm, hl, listed]
  simp only [String.append_assoc]

end Footage
