import Mathlib.Data.List.Forall2
import Footage.Proofs.Day.Key
import Footage.Proofs.Payload.Place
import Footage.Day.Days

namespace Footage.Days

open Payload

-- A listed day, as it is written and as it is read.
def EntryAt (entry : String × Json) (day : DayKey × TimeRange) : Prop :=
  day.1.text = entry.1 ∧
    ∃ fields, entry.2 = .object fields ∧ RangeAt fields TimeRange.names day.2

section Read

variable {place : Path}

theorem readEntry_eq_ok_iff {entry : String × Json} {day : DayKey × TimeRange} :
    readEntry place entry = .ok day ↔ EntryAt entry day := by
  obtain ⟨key, r⟩ := day
  simp only [readEntry, bind_eq_ok_iff, mapError_eq_ok_iff, DayKey.parse_eq_ok_iff,
    members_eq_ok_iff, range_eq_ok_iff, pure_eq_ok_iff, Prod.mk.injEq, EntryAt]
  constructor
  · rintro ⟨_, hk, fields, hv, _, hr, rfl, rfl⟩
    exact ⟨hk, fields, hv, hr⟩
  · rintro ⟨hk, fields, hv, hr⟩
    exact ⟨key, hk, fields, hv, r, hr, rfl, rfl⟩

theorem readEntries_eq_ok_iff {ms : Members} {entries : List (DayKey × TimeRange)} :
    readEntries place ms = .ok entries ↔ List.Forall₂ EntryAt ms entries := by
  induction ms generalizing entries with
  | nil => simp [readEntries, eq_comm]
  | cons entry rest ih =>
      simp only [readEntries, bind_eq_ok_iff, readEntry_eq_ok_iff, ih, pure_eq_ok_iff,
        List.forall₂_cons_left_iff]
      constructor
      · rintro ⟨day, hd, days, hr, rfl⟩
        exact ⟨day, days, hd, hr, rfl⟩
      · rintro ⟨day, days, hd, hr, rfl⟩
        exact ⟨day, hd, days, hr, rfl⟩

-- Days are read one by one, in the order of the payload, and none is left out.
theorem read_eq_ok_iff {v : Json} {d : Days} :
    read place v = .ok d ↔ ∃ ms, v = .object ms ∧ List.Forall₂ EntryAt ms d.entries := by
  simp only [read, bind_eq_ok_iff, members_eq_ok_iff, readEntries_eq_ok_iff, pure_eq_ok_iff]
  constructor
  · rintro ⟨ms, rfl, entries, he, rfl⟩
    exact ⟨ms, rfl, he⟩
  · rintro ⟨ms, rfl, he⟩
    exact ⟨ms, rfl, d.entries, he, rfl⟩

end Read

theorem placed_readEntry (entry : String × Json) : Placed fun place => readEntry place entry := by
  refine Placed.bind (.mapError (fun _ _ _ => rfl) _) fun key => ?_
  refine ((placed_members entry.2).inside _).bind fun ms => ?_
  exact ((placed_range ms _).inside _).bind fun r => .ok (key, r)

theorem placed_readEntries (ms : Members) : Placed fun place => readEntries place ms := by
  induction ms with
  | nil => exact .ok []
  | cons entry rest ih =>
      refine (placed_readEntry entry).bind fun first => ?_
      exact ih.bind fun others => .ok (first :: others)

theorem placed_read (v : Json) : Placed fun place => read place v := by
  refine (placed_members v).bind fun ms => ?_
  exact (placed_readEntries ms).bind fun entries => .ok (Days.mk entries)

-- A range stands under its own names in what it is written as.
theorem entryAt_toJson (k : DayKey) (r : TimeRange) : EntryAt (k.text, r.toJson) (k, r) :=
  ⟨rfl, r.members, rfl, ⟨rfl, rfl, rfl⟩⟩

theorem forall₂_entryAt (d : Days) :
    List.Forall₂ EntryAt (d.entries.map fun (k, r) => (k.text, r.toJson)) d.entries := by
  rw [List.forall₂_map_left_iff, List.forall₂_same]
  intro day _
  exact entryAt_toJson day.1 day.2

-- What can be wrong with listed days, and where.
inductive FailsWith : ViewError → Prop
  | listing (got : Json.Kind) : FailsWith (.notObject [] got)
  | key (key : String) (fault : DayKey.Fault) : FailsWith (.malformedDay [] key fault)
  | entry (key : String) (got : Json.Kind) : FailsWith (.notObject [.field key] got)
  | field (key name : String) (fault : FieldFault) :
      FailsWith (.field [.field key, .field name] fault)
  | range (key : String) (fault : TimeRange.Fault) : FailsWith (.range [.field key] fault)

theorem failsWith_of_readEntry_eq_error {entry : String × Json} {e : ViewError}
    (h : readEntry [] entry = .error e) : FailsWith e := by
  simp only [readEntry, bind_eq_error_iff, pure_ne_error, and_false, exists_false, or_false] at h
  rcases h with h | ⟨_, -, h | ⟨_, -, h⟩⟩
  · obtain ⟨fault, -, rfl⟩ := mapError_eq_error_iff.mp h
    exact .key _ fault
  · exact eq_of_members_eq_error h ▸ .entry _ _
  · rcases field_or_range_of_range_eq_error h with ⟨name, fault, rfl⟩ | ⟨fault, rfl⟩
    · exact .field _ name fault
    · exact .range _ fault

theorem failsWith_of_readEntries_eq_error {ms : Members} {e : ViewError}
    (h : readEntries [] ms = .error e) : FailsWith e := by
  induction ms with
  | nil => contradiction
  | cons entry rest ih =>
      simp only [readEntries, bind_eq_error_iff, pure_ne_error, and_false, exists_false,
        or_false] at h
      rcases h with h | ⟨_, -, h⟩
      · exact failsWith_of_readEntry_eq_error h
      · exact ih h

theorem failsWith_of_read_eq_error {v : Json} {e : ViewError} (h : read [] v = .error e) :
    FailsWith e := by
  simp only [read, bind_eq_error_iff, pure_ne_error, and_false, exists_false, or_false] at h
  rcases h with h | ⟨_, -, h⟩
  · exact eq_of_members_eq_error h ▸ .listing _
  · exact failsWith_of_readEntries_eq_error h

end Footage.Days
