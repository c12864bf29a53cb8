import Footage.Proofs.Camera.Loading

namespace Footage

namespace Camera

open Payload

-- The values of a payload that are about a camera as a whole.
structure Summary where
  id : String
  shortName : String
  description : String
  retainBytes : Int
  usedBytes : Int
  start : Int
  stop : Int
  present : Int

namespace Summary

-- The values stand under their names, each of its kind, and the range keeps its rules.
structure In (s : Summary) (ms : Members) : Prop where
  id : ms.lookup "id" = some (.string s.id)
  shortName : ms.lookup "shortName" = some (.string s.shortName)
  description : ms.lookup "description" = some (.string s.description)
  retainBytes : Counts ms "retainBytes" s.retainBytes
  usedBytes : Counts ms "totalSampleFileBytes" s.usedBytes
  overall : Spans ms overallNames s.start s.stop s.present

def of (c : Camera) : Summary where
  id := c.id
  shortName := c.shortName
  description := c.description
  retainBytes := c.retainBytes
  usedBytes := c.usedBytes
  start := c.overall.start
  stop := c.overall.stop
  present := c.overall.present

end Summary

-- A calendar date as `YYYY-MM-DD` with the range of that day. In a strict reading
-- the day may not reach out of given limits.
structure AcceptableDay (strict : Bool) (start stop : Int) (entry : String × Json) : Prop where
  key : ∃ date : Date, 0 ≤ date.year ∧ date.year < 10000 ∧ entry.1 = date.text
  range : ∃ fields first last present, entry.2 = .object fields ∧
    Spans fields TimeRange.names first last present ∧
    (strict = true → start ≤ first ∧ last ≤ stop)

def AcceptableDays (strict : Bool) (s : Summary) (ms : Members) : Prop :=
  ms.lookup "days" = none ∨ ms.lookup "days" = some .null ∨
    ∃ listed, ms.lookup "days" = some (.object listed) ∧
      ∀ entry ∈ listed, AcceptableDay strict s.start s.stop entry

theorem acceptableDay_iff {strict : Bool} {overall : TimeRange} {entry : String × Json} :
    AcceptableDay strict overall.start overall.stop entry ↔
      ∃ day, Days.EntryAt entry day ∧ (strict = true → overall.contains day.2 = true) := by
  constructor
  · rintro ⟨⟨date, h0, hy, hk⟩, fields, first, last, present, hv, hs, hin⟩
    obtain ⟨r, hr, rfl, rfl, rfl⟩ := hs.exists_range
    exact ⟨(⟨date, h0, hy⟩, r), ⟨hk.symm, fields, hv, hr⟩,
      fun h => TimeRange.contains_iff.mpr (hin h)⟩
  · rintro ⟨⟨k, r⟩, ⟨hk, fields, hv, hr⟩, hin⟩
    exact ⟨⟨k.date, k.year_nonneg, k.year_lt, hk.symm⟩, fields, _, _, _, hv, hr.spans,
      fun h => TimeRange.contains_iff.mp (hin h)⟩

-- The days of a payload are acceptable when there are days that it lists.
theorem acceptableDays_iff {strict : Bool} {s : Summary} {overall : TimeRange} {ms : Members}
    (hs : s.start = overall.start) (he : s.stop = overall.stop) :
    AcceptableDays strict s ms ↔
      ∃ d, DaysAt ms d ∧ (strict = true → ∀ day ∈ d.entries, overall.contains day.2 = true) := by
  simp only [AcceptableDays, hs, he, acceptableDay_iff]
  constructor
  · rintro (hn | hn | ⟨listed, hl, hall⟩)
    · exact ⟨.empty, Or.inl ⟨Or.inl hn, rfl⟩, by simp [Days.empty]⟩
    · exact ⟨.empty, Or.inl ⟨Or.inr hn, rfl⟩, by simp [Days.empty]⟩
    · obtain ⟨entries, hf, hin⟩ := exists_forall₂_iff.mpr hall
      exact ⟨⟨entries⟩, Or.inr ⟨listed, hl, hf⟩, fun h day hd => hin day hd h⟩
  · rintro ⟨d, ⟨hn | hn, -⟩ | ⟨listed, hl, hf⟩, hin⟩
    · exact Or.inl hn
    · exact Or.inr (Or.inl hn)
    · exact Or.inr (Or.inr ⟨listed, hl,
        exists_forall₂_iff.mp ⟨d.entries, hf, fun day hd h => hin h day hd⟩⟩)

theorem Describes.summary {ms : Members} {c : Camera} (h : Describes ms c) :
    (Summary.of c).In ms :=
  ⟨h.id, h.shortName, h.description, h.retainBytes, h.usedBytes, h.overall.spans⟩

end Camera

namespace CameraView

open Camera Payload

-- A payload is accepted exactly when it is an object with all values of a summary
-- and with acceptable days, and the camera then has the values of the payload.
theorem accepted_iff (config : Config) (v : Json) :
    ((∃ view, (ofJson config v).outcome = .ok view) ↔
      ∃ ms s, v = .object ms ∧ Summary.In s ms ∧ AcceptableDays config.strictDays s ms) ∧
    ∀ view, (ofJson config v).outcome = .ok view →
      view.json = v ∧ ∃ ms, v = .object ms ∧ (Summary.of view.camera).In ms := by
  constructor
  · unfold ofJson
    rw [exists_load_eq_ok_iff, Json.View.json_ofJson]
    simp only [accept_eq_ok_iff, divergent_eq_nil_iff]
    constructor
    · rintro ⟨c, ms, rfl, hc, hin⟩
      exact ⟨ms, .of c, rfl, hc.summary, (acceptableDays_iff rfl rfl).mpr ⟨_, hc.days, hin⟩⟩
    · rintro ⟨ms, s, rfl, hs, hdays⟩
      obtain ⟨overall, ho, hstart, hstop, -⟩ := hs.overall.exists_range
      obtain ⟨days, hd, hin⟩ := (acceptableDays_iff hstart.symm hstop.symm).mp hdays
      exact ⟨⟨s.id, s.shortName, s.description, s.retainBytes, s.usedBytes, overall, days⟩, ms, rfl,
        ⟨hs.id, hs.shortName, hs.description, hs.retainBytes, hs.usedBytes, ho, hd⟩, hin⟩
  · intro view h
    obtain ⟨hc, hsource⟩ := load_eq_ok_iff.mp h
    rw [Json.View.json_ofJson] at hc
    obtain ⟨ms, rfl, hd, -⟩ := accept_eq_ok_iff.mp hc
    exact ⟨by rw [json, hsource, Json.View.json_ofJson], ms, rfl, hd.summary⟩

end CameraView

end Footage
