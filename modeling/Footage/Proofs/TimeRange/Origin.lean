import Footage.Proofs.Camera.Strictness
import Footage.Proofs.Recorder.Views
import Footage.Proofs.Recording.Description
import Footage.Proofs.TimeRange.Json

namespace Footage

namespace RecordingList

-- The ways a listing is read.
inductive ReadFrom : Json → RecordingList → Prop
  | payload {payload : Json} {l : RecordingList} : ofJson payload = .ok l → ReadFrom payload l
  | text {text : String} {payload : Json} {l : RecordingList} :
      Json.read? text = some payload → ofText text = .ok l → ReadFrom payload l

theorem ReadFrom.ofJson {payload : Json} {l : RecordingList} (h : ReadFrom payload l) :
    RecordingList.ofJson payload = .ok l := by
  cases h with
  | payload h => exact h
  | text ht h => rwa [ofText_of_read? ht] at h

-- An item of a listing that was read is described by the item of the payload with its
-- number.
theorem ReadFrom.describes {payload : Json} {l : RecordingList} (h : ReadFrom payload l) {i : Nat}
    {recording : Recording} (hi : l.recordings[i]? = some recording) :
    ∃ ms items fields, payload = .object ms ∧ ms.lookup "recordings" = some (.array items) ∧
      items[i]? = some (.object fields) ∧ Recording.Describes fields recording := by
  obtain ⟨-, ms, items, hv, hl, hf⟩ := ofJson_eq_ok_iff.mp h.ofJson
  obtain ⟨_, hitem, hr⟩ := Payload.exists_getElem?_of_forall₂ hf hi
  obtain ⟨fields, rfl, hd⟩ := Recording.read_eq_ok_iff.mp hr
  exact ⟨ms, items, fields, hv, hl, hitem, hd⟩

end RecordingList

namespace TimeRange

open Payload

-- Where a range comes from.
inductive Origin
  | numbers (start stop present : Int)
  | ends (start stop : Int)
  | value (v : Json)
  | text (text : String)
  | overall (payload : Json)
  | day (payload : Json) (key : String)
  | recording (payload : Json) (i : Nat)

namespace Origin

-- The ranges that are had from there.
def Gives : Origin → TimeRange → Prop
  | numbers start stop present, r => make start stop present = .ok r
  | ends start stop, r => contiguous start stop = .ok r
  | value v, r => ofJson v = .ok r
  | text s, r => readText s = .ok r
  | overall payload, r => ∃ config view, CameraView.ReadFrom config payload view ∧
      view.camera.overall = r
  | day payload key, r => ∃ config view, CameraView.ReadFrom config payload view ∧
      ∃ k, (k, r) ∈ view.camera.days.entries ∧ k.text = key
  | recording payload i, r => ∃ l, RecordingList.ReadFrom payload l ∧
      ∃ recording, l.recordings[i]? = some recording ∧ recording.range = r

-- The ranges whose numbers stand there. Of two ends, and of a recording, the whole
-- length is the recorded part.
def States : Origin → TimeRange → Prop
  | numbers start stop present, r => r.numbers = (start, stop, present)
  | ends start stop, r => r.numbers = (start, stop, stop - start)
  | value v, r => r.StandsIn v
  | text s, r => ∃ v, Json.Record.read (ε := Fault) shape (Json.Token.all s.toList) = .ok (v, []) ∧
      r.StandsIn v
  | overall payload, r => ∃ ms, payload = .object ms ∧ RangeAt ms Camera.overallNames r
  | day payload key, r => ∃ ms fields, payload = .object ms ∧
      (key, .object fields) ∈ Camera.listedDays ms ∧ RangeAt fields names r
  | recording payload i, r => ∃ ms items fields, payload = .object ms ∧
      ms.lookup "recordings" = some (.array items) ∧ items[i]? = some (.object fields) ∧
      fields.lookup "startTime90k" = some (.int r.start) ∧
      fields.lookup "endTime90k" = some (.int r.stop) ∧ r.present = r.stop - r.start

-- A day that was read is one of the listed days.
theorem exists_listed_of_mem {listed : Members} {entries : List (DayKey × TimeRange)}
    (hf : List.Forall₂ Days.EntryAt listed entries) {day : DayKey × TimeRange}
    (hm : day ∈ entries) : ∃ entry ∈ listed, Days.EntryAt entry day := by
  obtain ⟨i, hi⟩ := List.mem_iff_getElem?.mp hm
  obtain ⟨entry, he, hd⟩ := exists_getElem?_of_forall₂ hf hi
  exact ⟨entry, List.mem_of_getElem? he, hd⟩

theorem states_of_gives {o : Origin} {r : TimeRange} (h : o.Gives r) : o.States r := by
  cases o with
  | numbers start stop present =>
      obtain ⟨rfl, rfl, rfl⟩ := make_eq_ok_iff.mp h
      exact rfl
  | ends start stop =>
      obtain ⟨rfl, rfl, hp⟩ := contiguous_eq_ok_iff.mp h
      show (r.start, r.stop, r.present) = (r.start, r.stop, r.stop - r.start)
      rw [hp]
  | value v => exact ofJson_eq_ok_iff.mp h
  | text s =>
      obtain ⟨v, hv, hr⟩ := Json.Record.readText_eq_ok_iff.mp h
      exact ⟨v, hv, ofJson_eq_ok_iff.mp hr⟩
  | overall payload =>
      obtain ⟨config, view, hview, rfl⟩ := h
      obtain ⟨ms, hv, hd⟩ := hview.describes
      exact ⟨ms, hv, hd.overall⟩
  | day payload key =>
      obtain ⟨config, view, hview, k, hm, rfl⟩ := h
      obtain ⟨ms, hv, hd⟩ := hview.describes
      obtain ⟨⟨name, v⟩, hl, hk, fields, rfl, hr⟩ := exists_listed_of_mem hd.days.listedDays hm
      cases hk
      exact ⟨ms, fields, hv, hl, hr⟩
  | recording payload i =>
      obtain ⟨l, hl, recording, hi, rfl⟩ := h
      obtain ⟨ms, items, fields, hv, hr, hitem, hd⟩ := hl.describes hi
      exact ⟨ms, items, fields, hv, hr, hitem, hd.start.1, hd.stop.1, hd.present⟩

end Origin

-- Numbers are a range exactly when they keep its rules, and testing them never leaves
-- the word. Whatever a range comes from, its numbers stand there, and its length and its
-- gap are words. Nothing is missing between two ends alone, nor in a recording.
theorem made_iff_keeps_and_sound_of_gives :
    (∀ start stop present : Int,
      ((∃ r, make start stop present = .ok r) ↔ Keeps start stop present) ∧
      check start stop present = some ((make start stop present).map numbers) ∧
      ∀ fault, make start stop present = .error fault → fault.Holds start stop present ∧
        (ViewError.range [] fault).isValidation = true ∧
        (ViewError.range [] fault).message = "Validation error: " ++ fault.message) ∧
    (∀ (o : Origin) (r : TimeRange), o.Gives r → o.States r ∧ r.Sound) ∧
    (∀ (start stop : Int) (r : TimeRange), (Origin.ends start stop).Gives r → r.gap = 0) ∧
    ∀ (payload : Json) (i : Nat) (r : TimeRange), (Origin.recording payload i).Gives r →
      r.gap = 0 := by
  refine ⟨fun start stop present => ⟨exists_make_eq_ok_iff, check_eq start stop present, ?_⟩,
    fun o r h => ⟨Origin.states_of_gives h, r.sound⟩, ?_, ?_⟩
  · intro fault h
    exact ⟨holds_of_make_eq_error h, rfl, rfl⟩
  · intro start stop r h
    exact gap_of_contiguous h
  · intro payload i r h
    obtain ⟨_, _, _, -, -, -, -, -, hp⟩ := Origin.states_of_gives h
    exact gap_eq_zero hp

end TimeRange

end Footage
