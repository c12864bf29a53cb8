import Mathlib.Data.List.Basic
import Footage.Proofs.Json.Pointer

namespace Footage.Json

namespace Pointer

-- The texts with a slash before each step and nothing else.
inductive Formed : List Char → Prop
  | empty : Formed []
  | step {s rest : List Char} : '/' ∉ s → Formed rest → Formed ('/' :: (s ++ rest))

-- Every text is cut at its first slash, with a pointer behind the cut.
theorem exists_cut (cs : List Char) : ∃ s rest, cs = s ++ rest ∧ '/' ∉ s ∧ Formed rest := by
  induction cs with
  | nil => exact ⟨[], [], rfl, List.not_mem_nil, .empty⟩
  | cons c cs ih =>
      obtain ⟨s, rest, rfl, hs, hrest⟩ := ih
      by_cases hc : c = '/'
      · subst hc
        exact ⟨[], _, rfl, List.not_mem_nil, .step hs hrest⟩
      · refine ⟨c :: s, rest, rfl, ?_, hrest⟩
        rw [List.mem_cons, not_or]
        exact ⟨Ne.symm hc, hs⟩

theorem formed_iff {p : List Char} : Formed p ↔ p = [] ∨ p.head? = some '/' := by
  constructor
  · intro h
    cases h with
    | empty => exact Or.inl rfl
    | step => exact Or.inr rfl
  · rintro (rfl | h)
    · exact .empty
    · cases p with
      | nil => exact .empty
      | cons c cs =>
          obtain rfl := Option.some.inj h
          obtain ⟨s, rest, rfl, hs, hrest⟩ := exists_cut cs
          exact .step hs hrest

-- The last step is what stands behind the last slash.
theorem Formed.exists_last {p : List Char} (h : Formed p) (hne : p ≠ []) :
    ∃ up last, p = up ++ '/' :: last ∧ '/' ∉ last := by
  induction h with
  | empty => contradiction
  | @step s rest hs hrest ih =>
      by_cases hr : rest = []
      · subst hr
        exact ⟨[], s, by simp, hs⟩
      · obtain ⟨up, last, rfl, hl⟩ := ih hr
        exact ⟨'/' :: (s ++ up), last, by simp, hl⟩

-- Every `ab` of a text is put as `c`, from the left to the right.
def replaced (a b c : Char) : List Char → List Char
  | x :: y :: cs =>
    if x = a ∧ y = b then c :: replaced a b c cs else x :: replaced a b c (y :: cs)
  | cs => cs

theorem replaced_cons {a b c x : Char} {cs : List Char} (h : x ≠ a ∨ cs.head? ≠ some b) :
    replaced a b c (x :: cs) = x :: replaced a b c cs := by
  cases cs with
  | nil => rfl
  | cons y cs =>
      rw [replaced, if_neg]
      rintro ⟨rfl, rfl⟩
      simp at h

theorem head?_replaced {a b c x : Char} {cs : List Char}
    (h : (replaced a b c cs).head? = some x) : cs.head? = some x ∨ x = c := by
  fun_cases replaced a b c cs with
  | case1 y z cs hm =>
      rw [replaced, if_pos hm] at h
      exact Or.inr (Option.some.inj h).symm
  | case2 y z cs hm =>
      rw [replaced, if_neg hm] at h
      exact Or.inl h
  | case3 cs hshort =>
      rw [replaced] at h
      · exact Or.inl h
      · exact hshort

-- What a step of a pointer names. Slashes are put in before tildes, so a tilde that was
-- put in never makes a slash.
def named (s : List Char) : List Char := replaced '~' '0' '~' (replaced '~' '1' '/' s)

theorem unescape_eq_named (s : List Char) : unescape s = named s := by
  unfold named
  fun_induction unescape s with
  | case1 cs ih =>
      rw [replaced, if_pos ⟨rfl, rfl⟩, replaced_cons (Or.inl (by decide)), ih]
  | case2 cs ih =>
      have hzero : replaced '~' '1' '/' ('0' :: cs) = '0' :: replaced '~' '1' '/' cs :=
        replaced_cons (Or.inl (by decide))
      rw [replaced_cons (Or.inr (by simp)), hzero, replaced, if_pos ⟨rfl, rfl⟩, ih]
  | case3 c cs h1 h0 ih =>
      have hfirst : c ≠ '~' ∨ cs.head? ≠ some '1' := by
        by_cases hc : c = '~'
        · refine Or.inr fun hh => ?_
          obtain ⟨tail, rfl⟩ := List.head?_eq_some_iff.mp hh
          exact h1 tail hc rfl
        · exact Or.inl hc
      have hsecond : c ≠ '~' ∨ (replaced '~' '1' '/' cs).head? ≠ some '0' := by
        by_cases hc : c = '~'
        · refine Or.inr fun hh => ?_
          rcases head?_replaced hh with hh | hh
          · obtain ⟨tail, rfl⟩ := List.head?_eq_some_iff.mp hh
            exact h0 tail hc rfl
          · contradiction
        · exact Or.inl hc
      rw [replaced_cons hfirst, replaced_cons hsecond, ih]
  | case4 => rfl

example : named ['~', '0', '1'] = ['~', '1'] := by decide

-- A name without slashes and tildes stands for itself alone.
theorem eq_of_unescape {s name : List Char} (h : unescape s = name) (hs : '/' ∉ name)
    (ht : '~' ∉ name) : s = name := by
  subst h
  fun_induction unescape s with
  | case1 cs ih => simp at hs
  | case2 cs ih => simp at ht
  | case3 c cs _ _ ih =>
      rw [List.mem_cons, not_or] at hs ht
      rw [← ih hs.2 ht.2]
  | case4 => rfl

-- Every index is written in one way.
theorem index?_eq_some_iff {s : List Char} {i : Nat} :
    index? s = some i ↔ s = Decimal.digits i := by
  constructor
  · intro h
    unfold index? at h
    split at h
    · contradiction
    · rename_i hlead
      rw [Bool.or_eq_true, not_or, List.isEmpty_iff, Bool.and_eq_true, not_and, beq_iff_eq,
        bne_iff_ne, not_not] at hlead
      obtain ⟨hne, hlead⟩ := hlead
      have hp := Decimal.padded_of_read? hne h
      rw [Decimal.padded_eq] at hp
      have hpos : 0 < (Decimal.digits i).length := Nat.length_toDigits_pos
      rcases Nat.eq_zero_or_pos (s.length - (Decimal.digits i).length) with hz | hz
      · rw [hz] at hp
        exact hp.symm
      · -- a zero filled in would be the first of at least two digits
        have hhead : s.head? = some '0' := by
          rw [← hp, List.head?_append, List.head?_replicate, if_neg (by omega)]
          rfl
        have := hlead hhead
        omega
  · rintro rfl
    exact index?_digits i

end Pointer

open Pointer

-- Where a pointer leads from a value. Each step names a member of an object or gives
-- the number of an item of an array.
inductive LeadsTo : Json → List Char → Json → Prop
  | here (v : Json) : LeadsTo v [] v
  | member {ms : List (String × Json)} {s rest : List Char} {v w : Json} : '/' ∉ s →
      ms.lookup (String.ofList (named s)) = some v → LeadsTo v rest w →
      LeadsTo (.object ms) ('/' :: (s ++ rest)) w
  | item {items : List Json} {i : Nat} {rest : List Char} {v w : Json} :
      items[i]? = some v → LeadsTo v rest w →
      LeadsTo (.array items) ('/' :: (Decimal.digits i ++ rest)) w

theorem resolve_eq_none {v : Json} {p : List Char} (h : ¬Formed p) : resolve v p = none := by
  unfold resolve
  split
  · exact absurd .empty h
  · exact absurd (formed_iff.mpr (Or.inr rfl)) h
  · rfl

theorem formed_of_resolve {v w : Json} {p : List Char} (h : resolve v p = some w) : Formed p := by
  by_contra hp
  rw [resolve_eq_none hp] at h
  contradiction

-- The first step is made, and then the rest of the pointer is followed from there.
theorem resolve_step {s rest : List Char} (hs : '/' ∉ s) (hrest : Formed rest) (v : Json) :
    resolve v ('/' :: (s ++ rest)) = (step? v (unescape s)).bind (resolve · rest) := by
  cases hrest with
  | empty =>
      rw [List.append_nil, resolve, steps_of_notMem hs, walk]
      rfl
  | @step t rest ht hrest =>
      rw [resolve, steps_append hs, walk]
      rfl

-- To follow one pointer after the other is to follow both put together.
theorem resolve_append {q : List Char} (hq : Formed q) (p : List Char) (v : Json) :
    resolve v (p ++ q) = (resolve v p).bind (resolve · q) := by
  by_cases hp : Formed p
  · induction hp generalizing v with
    | empty => rfl
    | @step s rest hs hrest ih =>
        have happend : Formed (rest ++ q) := by
          cases hrest with
          | empty => exact hq
          | step => exact formed_iff.mpr (Or.inr rfl)
        rw [List.cons_append, List.append_assoc, resolve_step hs happend, resolve_step hs hrest,
          Option.bind_assoc]
        exact congrArg _ (funext fun w => ih w)
  · have happend : ¬Formed (p ++ q) := by
      rw [formed_iff, not_or] at hp ⊢
      obtain ⟨c, cs, rfl⟩ := List.exists_cons_of_ne_nil hp.1
      exact ⟨List.cons_ne_nil _ _, hp.2⟩
    rw [resolve_eq_none hp, resolve_eq_none happend]
    rfl

theorem LeadsTo.formed {v w : Json} {p : List Char} (h : LeadsTo v p w) : Formed p := by
  induction h with
  | here => exact .empty
  | member hs _ _ ih => exact .step hs ih
  | @item _ i _ _ _ _ _ ih => exact .step (Decimal.not_mem_digits rfl i) ih

theorem resolve_of_leadsTo {v w : Json} {p : List Char} (h : LeadsTo v p w) :
    resolve v p = some w := by
  induction h with
  | here => rfl
  | @member ms s rest v w hs hl hrest ih =>
      rw [resolve_step hs hrest.formed, unescape_eq_named, step?, hl]
      exact ih
  | @item items i rest v w hi hrest ih =>
      have hs := Decimal.not_mem_digits (c := '/') rfl i
      have ht := Decimal.not_mem_digits (c := '~') rfl i
      rw [resolve_step hs hrest.formed, unescape_of_notMem ht, step?, index?_digits,
        Option.bind_some, hi]
      exact ih

theorem leadsTo_of_resolve {v w : Json} {p : List Char} (h : resolve v p = some w) :
    LeadsTo v p w := by
  induction formed_of_resolve h generalizing v with
  | empty =>
      cases h
      exact .here _
  | @step s rest hs hrest ih =>
      rw [resolve_step hs hrest, Option.bind_eq_some_iff] at h
      obtain ⟨below, hstep, hbelow⟩ := h
      unfold step? at hstep
      split at hstep
      · rw [unescape_eq_named] at hstep
        exact .member hs hstep (ih hbelow)
      · obtain ⟨i, hindex, hi⟩ := Option.bind_eq_some_iff.mp hstep
        -- digits are no part of any mark, so the step itself is the index
        obtain rfl := eq_of_unescape (index?_eq_some_iff.mp hindex)
          (Decimal.not_mem_digits rfl i) (Decimal.not_mem_digits rfl i)
        exact .item hi (ih hbelow)
      · contradiction

theorem resolve_eq_some_iff {v w : Json} {p : List Char} :
    resolve v p = some w ↔ LeadsTo v p w :=
  ⟨leadsTo_of_resolve, resolve_of_leadsTo⟩

end Footage.Json
