import Footage.Proofs.Day.Days
import Footage.Proofs.Json.Gather

namespace Footage

namespace Payload

-- An object has one range under given names.
theorem RangeAt.unique {ms : Members} {names : RangeNames} {r s : TimeRange}
    (hr : RangeAt ms names r) (hs : RangeAt ms names s) : r = s := by
  have hread : range [] ms names = .ok r := range_eq_ok_iff.mpr hr
  exact Except.ok.inj (hread.symm.trans (range_eq_ok_iff.mpr hs))

end Payload

namespace Days

open Payload

-- The range of a day, as it is written.
def RangeIn (v : Json) (r : TimeRange) : Prop :=
  ∃ fields, v = .object fields ∧ RangeAt fields TimeRange.names r

theorem RangeIn.unique {v : Json} {r s : TimeRange} (hr : RangeIn v r) (hs : RangeIn v s) :
    r = s := by
  obtain ⟨fields, rfl, hr⟩ := hr
  obtain ⟨_, he, hs⟩ := hs
  cases he
  exact hr.unique hs

section Lookup

variable {listed : Members} {d : Days}

-- A search through the days goes hand in hand with one through the listed members.
theorem rel_find? (h : List.Forall₂ EntryAt listed d.entries) (key : String) :
    Option.Rel RangeIn (listed.lookup key) (d.find? key) := by
  rw [Json.lookup_eq_map_find?, Days.find?]
  refine Json.rel_map (fun entry day hd => hd.2) (Json.rel_find?_of_forall₂ ?_ h)
  intro entry day hd
  exact congrArg (· == key) hd.1.symm

theorem find?_eq_some_iff (h : List.Forall₂ EntryAt listed d.entries) {key : String}
    {r : TimeRange} : d.find? key = some r ↔ ∃ v, listed.lookup key = some v ∧ RangeIn v r := by
  have hrel := rel_find? h key
  generalize listed.lookup key = x at hrel ⊢
  generalize d.find? key = y at hrel ⊢
  cases hrel with
  | none => simp
  | @some v s hs =>
      constructor
      · intro he
        cases he
        exact ⟨v, rfl, hs⟩
      · rintro ⟨_, he, hr⟩
        cases he
        rw [hs.unique hr]

theorem map_text_keys (h : List.Forall₂ EntryAt listed d.entries) :
    d.keys.map DayKey.text = listed.map (·.1) := by
  unfold keys
  generalize d.entries = entries at h
  induction h with
  | nil => rfl
  | cons he _ ih =>
      rw [List.map_cons, List.map_cons, List.map_cons, ih, he.1]

theorem isSome_find?_iff (d : Days) (key : String) :
    (d.find? key).isSome = true ↔ key ∈ d.keys.map DayKey.text := by
  unfold find? keys
  simp only [Option.isSome_map, List.find?_isSome, beq_iff_eq, List.map_map, List.mem_map,
    Function.comp_apply]

theorem nodup_keys_iff (d : Days) : d.keys.Nodup ↔ (d.keys.map DayKey.text).Nodup := by
  have hinj : Function.Injective DayKey.text := fun j k h => DayKey.text_injective h
  exact (List.nodup_map_iff hinj).symm

-- When no two days have the same key, each is the one that is found by its key.
theorem find?_text_of_nodup (h : d.keys.Nodup) {day : DayKey × TimeRange} (hm : day ∈ d.entries) :
    d.find? day.1.text = some day.2 := by
  obtain ⟨entries⟩ := d
  simp only [keys, find?] at h hm ⊢
  induction entries with
  | nil => simp at hm
  | cons first rest ih =>
      rw [List.map_cons, List.nodup_cons] at h
      rcases List.mem_cons.mp hm with rfl | hm
      · rw [List.find?_cons, beq_self_eq_true]
        rfl
      · have hne : first.1 ≠ day.1 := by
          intro he
          exact h.1 (he ▸ List.mem_map_of_mem hm)
        have hb : (first.1.text == day.1.text) = false := by
          simpa using fun he => hne (DayKey.text_injective he)
        rw [List.find?_cons, hb]
        exact ih h.2 hm

end Lookup

end Days

end Footage
