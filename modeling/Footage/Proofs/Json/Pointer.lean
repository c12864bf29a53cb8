import Footage.Proofs.Decimal
import Footage.Json.View

namespace Footage

namespace Json

namespace Pointer

theorem steps_of_notMem {s : List Char} (hs : '/' ∉ s) : steps s = [s] := by
  induction s with
  | nil => rfl
  | cons c s ih =>
      rw [List.mem_cons, not_or] at hs
      rw [steps, if_neg (Ne.symm hs.1), ih hs.2]

-- The first slash ends the first step.
theorem steps_append {s : List Char} (hs : '/' ∉ s) (rest : List Char) :
    steps (s ++ '/' :: rest) = s :: steps rest := by
  induction s with
  | nil => simp [steps]
  | cons c s ih =>
      rw [List.mem_cons, not_or] at hs
      rw [List.cons_append, steps, if_neg (Ne.symm hs.1), ih hs.2]

theorem unescape_of_notMem {s : List Char} (hs : '~' ∉ s) : unescape s = s := by
  fun_induction unescape s with
  | case1 cs ih => simp at hs
  | case2 cs ih => simp at hs
  | case3 c cs _ _ ih =>
      rw [List.mem_cons, not_or] at hs
      rw [ih hs.2]
  | case4 => rfl

-- An index is read back from its digits.
theorem index?_digits (n : Nat) : index? (Decimal.digits n) = some n := by
  have hne : (Decimal.digits n).isEmpty = false := by
    simp [Decimal.digits]
  unfold index?
  rw [hne, Bool.false_or, if_neg, Decimal.read?_digits]
  rw [Bool.and_eq_true, beq_iff_eq, bne_iff_ne]
  rintro ⟨hz, hl⟩
  -- a leading zero that is not alone would be one of a number above zero
  rcases Nat.eq_zero_or_pos n with rfl | hn
  · exact hl rfl
  · exact Decimal.head?_digits hn hz

end Pointer

open Pointer

-- The pointer to a numbered item of a member that is an array.
theorem resolve_item {ms : List (String × Json)} {name : List Char} {items : List Json}
    (hs : '/' ∉ name) (ht : '~' ∉ name)
    (hl : ms.lookup (String.ofList name) = some (.array items)) (i : Nat) :
    resolve (.object ms) ('/' :: (name ++ '/' :: Decimal.digits i)) = items[i]? := by
  have hds := Decimal.not_mem_digits (c := '/') rfl i
  have hdt := Decimal.not_mem_digits (c := '~') rfl i
  rw [resolve, steps_append hs, steps_of_notMem hds]
  simp only [walk, unescape_of_notMem ht, unescape_of_notMem hdt, step?, hl, Option.bind_some,
    index?_digits]
  cases items[i]? <;> rfl

end Json

end Footage
