import Footage.Proofs.Day.Lookup
import Footage.Proofs.Recorder.Views
import Footage.Proofs.TimeRange.Json

namespace Footage

namespace Days

open Payload
open Json (Plain)

theorem plain_toJson {d : Days} (hn : d.keys.Nodup) (depth : Nat) : Plain (depth + 2) d.toJson := by
  refine .object ?_ ?_
  · rw [← map_text_keys d.forall₂_entryAt, ← nodup_keys_iff]
    exact hn
  · rw [List.forall_mem_map]
    intro day _
    exact day.2.plain_toJson depth

end Days

namespace Camera

open Payload
open Json (Plain)

-- The name that a number of the overall range has in the payload of a camera. That of the
-- recorded ticks is the same in both places.
def overallName (name : String) : String :=
  if name = "startTime90k" then "minStartTime90k"
  else if name = "endTime90k" then "maxEndTime90k"
  else name

-- The members of the overall range are put in its place, under their names there.
def moveOverall (m : String × Json) : Members :=
  match m.2 with
  | .object range =>
    if m.1 = "overallRange" then range.map fun (name, v) => (overallName name, v) else [m]
  | _ => [m]

-- A camera as it is written, with the overall range moved to where a payload has it.
def relist : Json → Json
  | .object ms => .object (ms.flatMap moveOverall)
  | v => v

-- The members that come of it.
def relisted (c : Camera) : Members :=
  [("id", .string c.id), ("shortName", .string c.shortName), ("description", .string c.description),
   ("retainBytes", .int c.retainBytes), ("totalSampleFileBytes", .int c.usedBytes),
   (overallNames.start, .int c.overall.start), (overallNames.stop, .int c.overall.stop),
   (overallNames.present, .int c.overall.present), ("days", c.days.toJson)]

theorem relist_toJson (c : Camera) : relist c.toJson = .object c.relisted := rfl

-- A camera is described by what is written of it, as it was by what it was read from.
theorem Describes.relisted {ms : Members} {c : Camera} (h : Describes ms c) :
    Describes c.relisted c where
  id := rfl
  shortName := rfl
  description := rfl
  retainBytes := ⟨rfl, h.retainBytes.2⟩
  usedBytes := ⟨rfl, h.usedBytes.2⟩
  overall := ⟨rfl, rfl, rfl⟩
  days := Or.inr ⟨_, rfl, c.days.forall₂_entryAt⟩

-- No day is listed twice in a payload that can be written.
theorem Describes.nodup_keys {ms : Members} {c : Camera} (hm : Json.Meant (.object ms))
    (h : Describes ms c) : c.days.keys.Nodup := by
  rcases h.days with ⟨-, he⟩ | ⟨listed, hl, hf⟩
  · rw [he]
    exact List.nodup_nil
  · rw [Days.nodup_keys_iff, Days.map_text_keys hf]
    exact (hm.member hl).nodup

-- A camera that was read is read again from what is written of it, in the same strictness.
theorem accept_relist {strict : Bool} {v : Json} {c : Camera} (h : accept strict [] v = .ok c) :
    accept strict [] (relist c.toJson) = .ok c := by
  obtain ⟨ms, -, hd, hstrict⟩ := accept_eq_ok_iff.mp h
  exact accept_eq_ok_iff.mpr ⟨c.relisted, c.relist_toJson, hd.relisted, hstrict⟩

theorem plain_relist {strict : Bool} {v : Json} {c : Camera} (h : accept strict [] v = .ok c)
    (hm : Json.Meant v) (depth : Nat) : Plain (depth + 3) (relist c.toJson) := by
  obtain ⟨ms, rfl, hd, -⟩ := accept_eq_ok_iff.mp h
  have hdays := c.days.plain_toJson (hd.nodup_keys hm) depth
  obtain ⟨hstart, hstop, hpresent⟩ := c.overall.fits
  have hnames : (c.relisted.map (·.1)).Nodup := by
    show ["id", "shortName", "description", "retainBytes", "totalSampleFileBytes",
      overallNames.start, overallNames.stop, overallNames.present, "days"].Nodup
    decide
  rw [relist_toJson]
  refine .object hnames ?_
  simp only [relisted, List.forall_mem_cons]
  exact ⟨.string _ c.id, .string _ c.shortName, .string _ c.description,
    .int _ hd.retainBytes.fits, .int _ hd.usedBytes.fits, .int _ hstart, .int _ hstop,
    .int _ hpresent, hdays, nofun⟩

-- What is written of a camera is no payload as it is, as its range stands elsewhere.
theorem read_toJson_ne_ok (place : Path) (c d : Camera) : read place c.toJson ≠ .ok d := by
  intro h
  obtain ⟨ms, hv, hd⟩ := read_eq_ok_iff.mp h
  cases hv
  have hstart := hd.overall.start
  contradiction

end Camera

end Footage
