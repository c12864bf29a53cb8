import Mathlib.Data.List.Basic

namespace Footage.Text

-- What stands before the first of a character, and what stands behind it.
def cut? (c : Char) : List Char → Option (List Char × List Char)
  | [] => none
  | x :: xs => if x = c then some ([], xs) else (cut? c xs).map fun (l, r) => (x :: l, r)

theorem cut?_eq_none_iff {c : Char} {cs : List Char} : cut? c cs = none ↔ c ∉ cs := by
  induction cs with
  | nil => simp [cut?]
  | cons x xs ih =>
      rw [cut?, List.mem_cons, not_or]
      by_cases hx : x = c
      · simp [hx]
      · rw [if_neg hx, Option.map_eq_none_iff, ih]
        exact (and_iff_right (Ne.symm hx)).symm

theorem cut?_eq_some_iff {c : Char} {cs l r : List Char} :
    cut? c cs = some (l, r) ↔ cs = l ++ c :: r ∧ c ∉ l := by
  induction cs generalizing l with
  | nil => simp [cut?]
  | cons x xs ih =>
      rw [cut?]
      by_cases hx : x = c
      · rw [if_pos hx, hx]
        constructor
        · intro h
          cases h
          exact ⟨rfl, List.not_mem_nil⟩
        · rintro ⟨h, hl⟩
          cases l with
          | nil =>
              cases h
              rfl
          | cons y l =>
              -- a longer left side would start with the character itself
              obtain ⟨rfl, -⟩ := List.cons.inj h
              exact absurd List.mem_cons_self hl
      · rw [if_neg hx]
        constructor
        · intro h
          obtain ⟨⟨m, s⟩, hm, he⟩ := Option.map_eq_some_iff.mp h
          cases he
          obtain ⟨rfl, hc⟩ := ih.mp hm
          refine ⟨rfl, ?_⟩
          rw [List.mem_cons, not_or]
          exact ⟨Ne.symm hx, hc⟩
        · rintro ⟨h, hl⟩
          cases l with
          | nil => exact absurd (List.cons.inj h).1 hx
          | cons y l =>
              obtain ⟨rfl, rfl⟩ := List.cons.inj h
              rw [List.mem_cons, not_or] at hl
              rw [ih.mpr ⟨rfl, hl.2⟩]
              rfl

-- Two texts with the same first hit of a character agree on both of its sides.
theorem append_cons_inj {c : Char} {l l' r r' : List Char} (hl : c ∉ l) (hl' : c ∉ l')
    (h : l ++ c :: r = l' ++ c :: r') : l = l' ∧ r = r' := by
  have hcut : cut? c (l ++ c :: r) = some (l, r) := cut?_eq_some_iff.mpr ⟨rfl, hl⟩
  rw [cut?_eq_some_iff.mpr ⟨h, hl'⟩, Option.some.injEq, Prod.mk.injEq] at hcut
  exact ⟨hcut.1.symm, hcut.2.symm⟩

-- Two texts that have different characters at one place are different.
theorem ne_of_getElem? {s t : String} (i : Nat) (h : s.toList[i]? ≠ t.toList[i]?) : s ≠ t := by
  intro he
  exact h (he ▸ rfl)

theorem toLower_eq_iff {s t : String} : s.toLower = t ↔ s.toList.map Char.toLower = t.toList := by
  have hlower : s.toLower.toList = s.toList.map Char.toLower := String.toList_map
  rw [← String.toList_inj, hlower]

end Footage.Text
