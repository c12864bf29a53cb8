import Footage.Proofs.Camera.Strictness
import Footage.Proofs.Day.Lookup
import Footage.Proofs.Recorder.Views

namespace Footage

namespace Days

open Payload

-- Days against the members they are listed by. A list of members may have a name
-- twice, an object of a payload has not.
structure ListedBy (listed : Members) (d : Days) : Prop where
  keys : d.keys.map DayKey.text = listed.map (·.1)
  length : d.entries.length = listed.length
  isSome_find? : ∀ key, (d.find? key).isSome = true ↔ key ∈ listed.map (·.1)
  find? : ∀ key r, d.find? key = some r ↔
    ∃ fields, listed.lookup key = some (.object fields) ∧ RangeAt fields TimeRange.names r
  distinct : (listed.map (·.1)).Nodup →
    d.keys.Nodup ∧ ∀ day ∈ d.entries, d.find? day.1.text = some day.2

theorem listedBy_of_forall₂ {listed : Members} {d : Days}
    (h : List.Forall₂ EntryAt listed d.entries) : ListedBy listed d where
  keys := map_text_keys h
  length := h.length_eq.symm
  isSome_find? := by
    intro key
    rw [← map_text_keys h]
    exact isSome_find?_iff d key
  find? := by
    intro key r
    rw [find?_eq_some_iff h]
    constructor
    · rintro ⟨_, hl, fields, rfl, hr⟩
      exact ⟨fields, hl, hr⟩
    · rintro ⟨fields, hl, hr⟩
      exact ⟨_, hl, fields, rfl, hr⟩
  distinct := by
    intro hn
    rw [← map_text_keys h, ← nodup_keys_iff] at hn
    exact ⟨hn, fun day hd => find?_text_of_nodup hn hd⟩

-- Days against the written members they are read from, at a level of a text. A name
-- may be written any number of times.
structure WrittenBy (depth : Nat) (written : List (List Json.Piece × Json.Written)) (d : Days) :
    Prop where
  keys : d.keys.map DayKey.text = (Json.Written.names written).eraseDups
  find? : ∀ key r, d.find? key = some r ↔
    ∃ w fields, Json.Written.lastUnder key written = some w ∧
      w.value? depth = some (.object fields) ∧ RangeAt fields TimeRange.names r
  distinct : d.keys.Nodup
  found : ∀ day ∈ d.entries, d.find? day.1.text = some day.2

theorem ListedBy.writtenBy {depth : Nat} {written : List (List Json.Piece × Json.Written)}
    {vs : Members} {d : Days} (h : ListedBy (Json.gather vs) d)
    (hw : Json.Written.memberValues? written depth = some vs) : WrittenBy depth written d := by
  obtain ⟨hn, hfound⟩ := h.distinct (Json.nodup_names_gather vs)
  refine ⟨by rw [h.keys, Json.Written.names_gather_of_memberValues? hw], ?_, hn, hfound⟩
  intro key r
  rw [h.find?]
  have hrel := Json.Written.rel_lastUnder hw key
  generalize (Json.gather vs).lookup key = x at hrel ⊢
  generalize Json.Written.lastUnder key written = y at hrel ⊢
  cases hrel with
  | none => simp
  | @some w v hv => simp only [Option.some.injEq, exists_eq_left', hv, exists_and_left]

end Days

namespace Camera

open Json Json.Written

-- The days of a payload as they are written. What was last written of them counts.
def writtenDays (w : Written) : List (List Piece × Written) :=
  match lastUnder "days" w.members with
  | some days => days.members
  | none => []

theorem exists_listedDays_eq_gather {w : Written} {ms : Payload.Members}
    (h : w.value? depthLimit = some (.object ms)) :
    ∃ vs, memberValues? (writtenDays w) (depthLimit - 2) = some vs ∧ listedDays ms = gather vs := by
  obtain ⟨inner, vs, hinner, -, hvs, rfl⟩ := value?_eq_object_iff.mp h
  cases hinner
  have hrel := rel_lastUnder hvs "days"
  unfold listedDays writtenDays
  generalize (gather vs).lookup "days" = x at hrel ⊢
  generalize lastUnder "days" w.members = y at hrel ⊢
  cases hrel with
  | none => exact ⟨[], rfl, rfl⟩
  | @some days v hv =>
      cases v with
      | object listed =>
          obtain ⟨_, found, hinner, -, hfound, rfl⟩ := value?_eq_object_iff.mp hv
          cases hinner
          exact ⟨found, hfound, rfl⟩
      | _ =>
          -- what is no object lists no days, and was not written as one
          refine ⟨[], ?_, rfl⟩
          show memberValues? days.members (depthLimit - 2) = some []
          rw [members_eq_nil_of_value? hv nofun]
          rfl

end Camera

namespace CameraView

-- The days of a camera are the members of its payload's days, in their order and with
-- their ranges, wherever it was read. In a text a day may be written repeatedly, and
-- then it stands where it was first written, with what was written last.
theorem days_listedBy_and_writtenBy (config : Config) :
    (∀ payload view, ReadFrom config payload view →
      ∃ ms, payload = .object ms ∧ Days.ListedBy (Camera.listedDays ms) view.camera.days) ∧
    ∀ text view, (ofText config text).outcome = .ok view →
      ∃ w, Json.Written.read? (Json.Token.all text.toList) = some (w, []) ∧
        Days.WrittenBy (Json.Written.depthLimit - 2) (Camera.writtenDays w) view.camera.days := by
  constructor
  · intro payload view h
    obtain ⟨ms, hv, hd⟩ := h.describes
    exact ⟨ms, hv, Days.listedBy_of_forall₂ hd.days.listedDays⟩
  · intro text view h
    obtain ⟨payload, ht, hview⟩ := ofText_eq_ok_iff.mp h
    obtain ⟨ms, rfl, hd⟩ := (ReadFrom.payload hview).describes
    obtain ⟨w, hw, hvalue⟩ := Json.read?_eq_some_iff.mp ht
    obtain ⟨vs, hvs, hl⟩ := Camera.exists_listedDays_eq_gather hvalue
    have hlisted := Days.listedBy_of_forall₂ hd.days.listedDays
    rw [hl] at hlisted
    exact ⟨w, hw, hlisted.writtenBy hvs⟩

end CameraView

end Footage
