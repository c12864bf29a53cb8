import Footage.Proofs.Camera.Strictness
import Footage.Proofs.Recorder.Document

namespace Footage

namespace Recorder

theorem readAs_strict_iff {format : String} {document : Json.View} {item : Json × Nat}
    {view : CameraView} :
    ReadAs ⟨true, format⟩ document item view ↔
      ReadAs ⟨false, format⟩ document item view ∧ view.camera.divergent = [] := by
  simp only [ReadAs, Camera.accept_true_eq_ok_iff]
  constructor
  · rintro ⟨⟨hc, hn⟩, hs⟩
    exact ⟨⟨hc, hs⟩, hn⟩
  · rintro ⟨⟨hc, hs⟩, hn⟩
    exact ⟨⟨hc, hn⟩, hs⟩

theorem forall₂_readAs_strict_iff {format : String} {document : Json.View}
    {items : List (Json × Nat)} {views : List CameraView} :
    List.Forall₂ (ReadAs ⟨true, format⟩ document) items views ↔
      List.Forall₂ (ReadAs ⟨false, format⟩ document) items views ∧
        ∀ view ∈ views, view.camera.divergent = [] := by
  induction items generalizing views with
  | nil =>
      constructor
      · intro h
        cases h
        exact ⟨.nil, nofun⟩
      · rintro ⟨h, -⟩
        cases h
        exact .nil
  | cons item items ih =>
      cases views with
      | nil => simp
      | cons view views =>
          rw [List.forall₂_cons, List.forall₂_cons, readAs_strict_iff, ih, List.forall_mem_cons]
          exact and_and_and_comm

theorem headAt_strict_iff {zones : Zone.Directory} {format : String} {v : Json}
    {zoneName : String} {f : TimeFormatter} {items : List Json} :
    HeadAt zones ⟨true, format⟩ v zoneName f items ↔
      HeadAt zones ⟨false, format⟩ v zoneName f items := Iff.rfl

-- A strict document is a lenient one without any divergent day.
theorem ofJson_strict_eq_ok_iff {zones : Zone.Directory} {format : String} {v : Json}
    {r : Recorder} :
    (ofJson zones ⟨true, format⟩ v).outcome = .ok r ↔
      (ofJson zones ⟨false, format⟩ v).outcome = .ok r ∧
        ∀ view ∈ r.cameras, view.camera.divergent = [] := by
  simp only [ofJson_eq_ok_iff, headAt_strict_iff, forall₂_readAs_strict_iff]
  constructor
  · rintro ⟨items, hh, hs, hf, hn⟩
    exact ⟨⟨items, hh, hs, hf⟩, hn⟩
  · rintro ⟨⟨items, hh, hs, hf⟩, hn⟩
    exact ⟨items, hh, hs, hf, hn⟩

-- Strictness only ever adds the refusal of divergent days, of one camera or of all
-- cameras in a document, whatever formats the times are shown in and whichever zones
-- are known.
theorem strict_iff_lenient_without_divergence (lenientFormat strictFormat : String) (v : Json) :
    (∀ e, (CameraView.ofJson ⟨false, lenientFormat⟩ v).outcome = .error e →
      (CameraView.ofJson ⟨true, strictFormat⟩ v).outcome = .error e) ∧
    (∀ view, (CameraView.ofJson ⟨false, lenientFormat⟩ v).outcome = .ok view →
      (view.camera.divergent = [] →
        (CameraView.ofJson ⟨true, strictFormat⟩ v).outcome = .ok view) ∧
      (view.camera.divergent ≠ [] →
        ∃ e, (CameraView.ofJson ⟨true, strictFormat⟩ v).outcome = .error e ∧
          e.isValidation = true ∧
          e.message = "Validation error: days: day(s) " ++
            ", ".intercalate (view.camera.divergent.map DayKey.text) ++
            " fall outside the overall range") ∧
      ∃ ms, v = .object ms ∧ view.camera.divergent.map DayKey.text =
        ((Camera.listedDays ms).filter
          (Camera.reachesOut view.camera.overall.start view.camera.overall.stop)).map (·.1)) ∧
    ∀ zones format, (∃ r, (ofJson zones ⟨true, format⟩ v).outcome = .ok r) ↔
      ∃ r, (ofJson zones ⟨false, format⟩ v).outcome = .ok r ∧
        ∀ view ∈ r.cameras, view.camera.divergent = [] := by
  refine ⟨fun e he => CameraView.strict_of_lenient_error he, ?_, ?_⟩
  · intro view hview
    have hs := CameraView.strict_of_lenient_ok (g := strictFormat) hview
    refine ⟨?_, ?_, ?_⟩
    · intro hn
      rwa [if_pos hn] at hs
    · intro hn
      rw [if_neg hn] at hs
      exact ⟨_, hs, rfl, ViewError.message_daysOutside _⟩
    · obtain ⟨hc, -⟩ := CameraView.load_eq_ok_iff.mp hview
      obtain ⟨ms, hv, hd, -⟩ := Camera.accept_eq_ok_iff.mp hc
      exact ⟨ms, hv, Camera.map_text_divergent hd.days.listedDays⟩
  · intro zones format
    simp only [ofJson_strict_eq_ok_iff]

end Recorder

end Footage
