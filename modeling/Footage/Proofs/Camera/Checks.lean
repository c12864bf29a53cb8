import Footage.Proofs.Camera.Strictness
import Footage.Proofs.Payload.Check

namespace Footage

namespace Camera

open Payload

-- The listed days that reach out of the range of the camera.
def reachingDays (ms : Members) : List DayKey :=
  match integer? (find? ms overallNames.start), integer? (find? ms overallNames.stop) with
  | some start, some stop =>
    ((listedDays ms).filter (reachesOut start stop)).filterMap fun entry =>
      (DayKey.parse entry.1).toOption
  | _, _ => []

-- All that is looked at in a payload, in this order. A payload need not list its days.
def checks (strict : Bool) (v : Json) : List Check :=
  let ms := membersOf v
  [.object [] v]
  ++ textChecks [] ms "id" ++ textChecks [] ms "shortName" ++ textChecks [] ms "description"
  ++ countChecks [] ms "retainBytes" ++ countChecks [] ms "totalSampleFileBytes"
  ++ rangeChecks [] ms overallNames
  ++ listingChecks ["days"] ((find? ms "days").getD (.object []))
  ++ if strict then [.containment ["days"] (reachingDays ms)] else []

theorem reachingDays_eq_divergent {ms : Members} {c : Camera} (h : Describes ms c) :
    reachingDays ms = c.divergent := by
  have hspans := h.overall.spans
  have htexts := map_text_divergent h.days.listedDays
  have hparse : ∀ k : DayKey, (DayKey.parse k.text).toOption = some k := by
    intro k
    rw [DayKey.parse_eq_ok_iff.mpr rfl]
    rfl
  simp only [reachingDays, hspans.start_counts.integer?, hspans.stop_counts.integer?]
  generalize (listedDays ms).filter (reachesOut c.overall.start c.overall.stop) = reaching at htexts
  calc reaching.filterMap (fun entry => (DayKey.parse entry.1).toOption)
      = (reaching.map (·.1)).filterMap fun text => (DayKey.parse text).toOption := by
        rw [List.filterMap_map]
        rfl
    _ = c.divergent.filterMap fun k => (DayKey.parse k.text).toOption := by
        rw [← htexts, List.filterMap_map]
        rfl
    _ = c.divergent := by
        simp only [hparse, List.filterMap_some]

theorem explains_readDays (ms : Members) :
    Explains (listingChecks ["days"] ((find? ms "days").getD (.object []))) (readDays [] ms) := by
  unfold readDays
  cases find? ms "days" with
  | none => rfl
  | some v => exact explains_listing v

theorem explains_settle {ms : Members} {c : Camera} (h : Describes ms c) (strict : Bool) :
    Explains (if strict then [.containment ["days"] (reachingDays ms)] else [])
      (settle strict [] c) := by
  cases strict with
  | false => rfl
  | true =>
      rw [settle_true, reachingDays_eq_divergent h]
      by_cases hn : c.divergent = []
      · rw [if_pos hn, hn]
        rfl
      · have herror : (Check.containment ["days"] c.divergent).error? =
            some (.daysOutside (Path.fields ["days"]) c.divergent) := if_neg hn
        rw [if_neg hn]
        simp only [Explains, if_true, List.findSome?_cons, herror]
        rfl

theorem explains_accept (strict : Bool) (v : Json) :
    Explains (checks strict v) (accept strict [] v) := by
  unfold checks accept read
  simp only [List.append_assoc, bind_assoc, pure_bind]
  refine (explains_members v).bind fun ms hms => ?_
  rw [members_eq_ok_iff.mp hms]
  refine explains_string.bind fun id hid => ?_
  refine explains_string.bind fun shortName hshort => ?_
  refine explains_string.bind fun description hdescription => ?_
  refine explains_natural.bind fun retainBytes hretain => ?_
  refine explains_natural.bind fun usedBytes hused => ?_
  refine (explains_range overallNames).bind fun overall hrange => ?_
  refine (explains_readDays ms).bind fun days hdays => ?_
  exact explains_settle ⟨string_eq_ok_iff.mp hid, string_eq_ok_iff.mp hshort,
    string_eq_ok_iff.mp hdescription, natural_eq_ok_iff.mp hretain, natural_eq_ok_iff.mp hused,
    range_eq_ok_iff.mp hrange, readDays_eq_ok_iff.mp hdays⟩ strict

-- Keys are looked at in the list of days and nowhere else.
theorem place_of_key_mem_checks {strict : Bool} {v : Json} {place : List String}
    {rule : DayKey.Fault} {text : String} (h : .key place rule text ∈ checks strict v) :
    place = ["days"] := by
  have hfields : ∀ (rules : List FieldRule) (above : List String) (ms : Members) (name : String),
      Check.key place rule text ∉ fieldChecks rules above ms name := by
    intro rules above ms name
    simp [fieldChecks]
  have hrange : ∀ (above : List String) (ms : Members) (names : RangeNames),
      Check.key place rule text ∉ rangeChecks above ms names := by
    intro above ms names
    simp [rangeChecks, countChecks, hfields]
  simp only [checks, textChecks, countChecks, listingChecks, dayChecks, List.mem_append,
    List.mem_cons, List.mem_flatMap, List.mem_ite_nil_right, List.not_mem_nil, hfields, hrange,
    reduceCtorEq, Check.key.injEq, false_or, or_false, and_false] at h
  obtain ⟨_, -, ⟨hplace, -⟩ | ⟨hplace, -⟩⟩ := h <;> exact hplace

end Camera

namespace CameraView

open Payload

theorem outcome_eq_error_iff {config : Config} {v : Json} {e : ViewError} :
    (ofJson config v).outcome = .error e ↔
      (Camera.checks config.strictDays v).findSome? Check.error? = some e := by
  have hexplains : (Camera.checks config.strictDays v).findSome? Check.error? =
      failure? (Camera.accept config.strictDays [] v) :=
    Camera.explains_accept config.strictDays v
  rw [outcome_ofJson, map_eq_error_iff, hexplains]
  cases Camera.accept config.strictDays [] v <;> simp [failure?]

-- A payload is refused for the first of its checks that fails. Only the checks of keys
-- make a day key malformed, all others are named by the place they are about. No
-- number gets as far as to be found negative by the range it is part of.
theorem refused_by_first_failing_check (config : Config) (v : Json) :
    (∀ e, (ofJson config v).outcome = .error e ↔
      ∃ before check after, Camera.checks config.strictDays v = before ++ check :: after ∧
        check.error? = some e ∧ ∀ earlier ∈ before, earlier.error? = none) ∧
    (∀ check ∈ Camera.checks config.strictDays v, ∀ e, check.error? = some e →
      (∀ place rule text, check = .key place rule text →
        e = .malformedDay [.field "days"] text rule) ∧
      ∀ place, check.place? = some place → e.isValidation = true ∧
        (place ≠ [] →
          ∃ rest, e.message = "Validation error: " ++ (".".intercalate place ++ rest))) ∧
    ∀ place mark tick, (ofJson config v).outcome ≠ .error (.range place (.negative mark tick)) := by
  refine ⟨?_, ?_, ?_⟩
  · intro e
    rw [outcome_eq_error_iff, List.findSome?_eq_some_iff]
  · intro check hmem e he
    have hsays := Check.says_of_error? he
    constructor
    · intro place rule text hcheck
      subst hcheck
      have hplace := Camera.place_of_key_mem_checks hmem
      subst hplace
      cases hsays
      rfl
    · intro place hplace
      exact hsays.message hplace
  · intro place mark tick he
    obtain ⟨check, -, hcheck⟩ := List.exists_of_findSome?_eq_some (outcome_eq_error_iff.mp he)
    exact (Check.says_of_error? hcheck).ne_negative place mark tick rfl

end CameraView

end Footage
