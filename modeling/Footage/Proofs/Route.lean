import Footage.Proofs.Decimal
import Footage.Proofs.Text
import Footage.Proofs.Uuid
import Footage.Route

namespace Footage

-- The name of a stream is told by its first letter, whatever comes after it.
theorem StreamType.name_append_inj {a b : StreamType} {s t : String} :
    a.name ++ s = b.name ++ t ↔ a = b ∧ s = t := by
  have hne : ∀ s t : String, "main" ++ s ≠ "sub" ++ t := by
    intro s t
    exact Text.ne_of_getElem? 0 (by simp [String.toList_append])
  cases a with
  | main =>
      cases b with
      | main => simp [name]
      | sub =>
          simp only [name, reduceCtorEq, false_and, iff_false]
          exact hne s t
  | sub =>
      cases b with
      | main =>
          simp only [name, reduceCtorEq, false_and, iff_false]
          exact (hne t s).symm
      | sub => simp [name]

namespace Route

-- All identifiers are written at the same length, so the rest starts at the same place.
theorem cameraPath_append_inj {u v : Uuid} {s t : String} :
    cameraPath u ++ s = cameraPath v ++ t ↔ u = v ∧ s = t := by
  simp only [cameraPath, String.append_assoc, String.append_right_inj]
  constructor
  · intro h
    have hl : u.text.toList ++ ("/" ++ s).toList = v.text.toList ++ ("/" ++ t).toList := by
      rw [← String.toList_append, ← String.toList_append, h]
    have hlen : u.text.toList.length = v.text.toList.length := by
      rw [u.length_text, v.length_text]
    obtain ⟨hid, hrest⟩ := List.append_inj hl hlen
    exact ⟨Uuid.text_injective (String.toList_injective hid),
      (String.append_right_inj "/").mp (String.toList_injective hrest)⟩
  · rintro ⟨rfl, rfl⟩
    rfl

theorem toList_intercalate_cons_cons (t u : String) (rest : List String) :
    ("&".intercalate (t :: u :: rest)).toList =
      t.toList ++ '&' :: ("&".intercalate (u :: rest)).toList := by
  rw [String.intercalate_cons_cons, String.toList_append, String.toList_append, List.append_assoc]
  rfl

-- Terms between ampersands are told apart when none of them has one of its own. The
-- induction is on the terms, one ampersand after the other.
theorem intercalate_inj {ts us : List String} (hts : ∀ t ∈ ts, '&' ∉ t.toList)
    (hus : ∀ u ∈ us, '&' ∉ u.toList) (htn : ts ≠ []) (hun : us ≠ [])
    (h : "&".intercalate ts = "&".intercalate us) : ts = us := by
  induction ts generalizing us with
  | nil => exact absurd rfl htn
  | cons t ts ih =>
      cases us with
      | nil => exact absurd rfl hun
      | cons u us =>
          rw [List.forall_mem_cons] at hts hus
          have hl := congrArg String.toList h
          cases ts with
          | nil =>
              cases us with
              | nil => simpa using h
              | cons v us =>
                  rw [String.intercalate_singleton, toList_intercalate_cons_cons] at hl
                  exact absurd (hl ▸ by simp) hts.1
          | cons s ts =>
              cases us with
              | nil =>
                  rw [String.intercalate_singleton, toList_intercalate_cons_cons] at hl
                  exact absurd (hl ▸ by simp) hus.1
              | cons v us =>
                  rw [toList_intercalate_cons_cons, toList_intercalate_cons_cons] at hl
                  obtain ⟨hhead, htail⟩ := Text.append_cons_inj hts.1 hus.1 hl
                  rw [String.toList_injective hhead, ih hts.2 hus.2 (List.cons_ne_nil _ _)
                    (List.cons_ne_nil _ _) (String.toList_injective htail)]

theorem query_inj {ts us : List String} (hts : ∀ t ∈ ts, '&' ∉ t.toList)
    (hus : ∀ u ∈ us, '&' ∉ u.toList) : query ts = query us ↔ ts = us := by
  constructor
  · intro h
    have hne : ∀ s : String, "" ≠ "?" ++ s := by
      intro s
      exact Text.ne_of_getElem? 0 (by simp [String.toList_append])
    unfold query at h
    by_cases ht : ts = []
    · by_cases hu : us = []
      · rw [ht, hu]
      · rw [if_pos (by simpa using ht), if_neg (by simpa using hu)] at h
        exact absurd h (hne _)
    · by_cases hu : us = []
      · rw [if_neg (by simpa using ht), if_pos (by simpa using hu)] at h
        exact absurd h.symm (hne _)
      · rw [if_neg (by simpa using ht), if_neg (by simpa using hu),
          String.append_right_inj] at h
        exact intercalate_inj hts hus ht hu h
  · intro h
    rw [h]

theorem notMem_ofInt {c : Char} (hc : c.isDigit = false) (hdash : c ≠ '-') (n : Int) :
    c ∉ (Decimal.ofInt n).toList := by
  by_cases hn : n < 0
  · rw [Decimal.toList_ofInt_of_neg hn, List.mem_cons, not_or]
    exact ⟨hdash, Decimal.not_mem_digits hc _⟩
  · rw [Decimal.toList_ofInt_of_nonneg (by omega)]
    exact Decimal.not_mem_digits hc _

theorem notMem_of_mem_terms {limits : Option (Int × Int)} {split : Option Int} {t : String}
    (h : t ∈ terms limits split) : '&' ∉ t.toList := by
  have hterm : ∀ (label : String) (n : Int), '&' ∉ label.toList →
      '&' ∉ (label ++ Decimal.ofInt n).toList := by
    intro label n hlabel
    rw [String.toList_append, List.mem_append, not_or]
    exact ⟨hlabel, notMem_ofInt rfl (by decide) n⟩
  unfold terms at h
  rcases List.mem_append.mp h with h | h
  · split at h
    · rcases List.mem_pair.mp h with rfl | rfl
      · exact hterm _ _ (by decide)
      · exact hterm _ _ (by decide)
    · contradiction
  · split at h
    · obtain rfl := List.mem_singleton.mp h
      exact hterm _ _ (by decide)
    · contradiction

-- The number of terms tells which of them are left out.
theorem terms_inj {limits limits' : Option (Int × Int)} {split split' : Option Int} :
    terms limits split = terms limits' split' ↔ limits = limits' ∧ split = split' := by
  rcases limits with _ | ⟨start, stop⟩ <;> rcases limits' with _ | ⟨start', stop'⟩ <;>
    cases split <;> cases split' <;>
    simp [terms, Decimal.ofInt_injective.eq_iff, and_assoc]

end Route

end Footage
