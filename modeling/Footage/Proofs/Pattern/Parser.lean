import Footage.Pattern.Parser

namespace Footage.Pattern

theorem places?_eq_some {c : Char} {n : Nat} (h : places? c = some n) :
    c = '3' ∨ c = '6' ∨ c = '9' := by
  unfold places? at h
  split at h
  · exact Or.inl ‹_›
  · split at h
    · exact Or.inr (Or.inl ‹_›)
    · split at h
      · exact Or.inr (Or.inr ‹_›)
      · contradiction

-- The characters that the marks of a directive begin with.
def isMark (c : Char) : Bool := c == '#' || c == ':' || c == '.' || (places? c).isSome

theorem isMark_of_places? {c : Char} {n : Nat} (h : places? c = some n) : isMark c = true := by
  simp [isMark, h]

-- The marks of a directive do not depend on what follows them, and only one of them
-- stands for the lenient offset.
theorem exists_used_of_marked? {cs rest : List Char} {f : Fixed}
    (h : marked? cs = some (f, rest)) :
    ∃ c used, cs = c :: used ++ rest ∧ isMark c = true ∧
      (f = .lenientOffset → c :: used = ['#', 'z']) ∧
      ∀ tail, marked? (c :: used ++ tail) = some (f, tail) := by
  unfold marked? at h
  split at h
  · cases h
    exact ⟨'#', ['z'], rfl, rfl, fun _ => rfl, fun _ => rfl⟩
  · cases h
    exact ⟨':', ['z'], rfl, rfl, nofun, fun _ => rfl⟩
  · cases h
    exact ⟨':', [':', 'z'], rfl, rfl, nofun, fun _ => rfl⟩
  · cases h
    exact ⟨':', [':', ':', 'z'], rfl, rfl, nofun, fun _ => rfl⟩
  · cases h
    exact ⟨'.', ['f'], rfl, rfl, nofun, fun _ => rfl⟩
  · rename_i d _ _
    obtain ⟨n, hn, he⟩ := Option.map_eq_some_iff.mp h
    cases he
    refine ⟨'.', [d, 'f'], rfl, rfl, nofun, fun tail => ?_⟩
    rcases places?_eq_some hn with rfl | rfl | rfl <;> cases hn <;> rfl
  · rename_i d _ _
    obtain ⟨n, hn, he⟩ := Option.map_eq_some_iff.mp h
    cases he
    refine ⟨d, ['f'], rfl, isMark_of_places? hn, nofun, fun tail => ?_⟩
    rcases places?_eq_some hn with rfl | rfl | rfl <;> cases hn <;> rfl
  · contradiction

theorem isMark_of_marked? {c : Char} {tail : List Char} {found : Fixed × List Char}
    (h : marked? (c :: tail) = some found) : isMark c = true := by
  obtain ⟨d, used, hcs, hd, -⟩ := exists_used_of_marked? h
  rw [List.cons_append] at hcs
  cases hcs
  exact hd

theorem marked?_eq_none {c : Char} (hc : isMark c = false) (tail : List Char) :
    marked? (c :: tail) = none := by
  cases h : marked? (c :: tail) with
  | none => rfl
  | some found =>
      rw [isMark_of_marked? h] at hc
      contradiction

theorem isMark_of_letter? {c : Char} {items : List Item} (h : letter? c = some items) :
    isMark c = false := by
  cases hm : isMark c with
  | false => rfl
  | true =>
      simp only [isMark, Bool.or_eq_true, beq_iff_eq, Option.isSome_iff_exists] at hm
      rcases hm with ((rfl | rfl) | rfl) | ⟨n, hn⟩
      · contradiction
      · contradiction
      · contradiction
      · rcases places?_eq_some hn with rfl | rfl | rfl <;> contradiction

theorem isMark_of_pad? {c : Char} {pad : Pad} (h : pad? c = some pad) : isMark c = false := by
  unfold pad? at h
  split at h
  · subst c
    rfl
  · split at h
    · subst c
      rfl
    · split at h
      · subst c
        rfl
      · contradiction

theorem directive?_of_not_isMark {c : Char} (hc : isMark c = false) (tail : List Char) :
    directive? (c :: tail) = lettered? (c :: tail) := by
  rw [directive?, marked?_eq_none hc]

-- Neither does the letter of one, so that a directive can be read off the text up to
-- its end.
theorem exists_used_of_lettered? {cs rest : List Char} {items : List Item}
    (h : lettered? cs = some (items, rest)) :
    ∃ used, cs = used ++ rest ∧ ∀ tail, directive? (used ++ tail) = some (items, tail) := by
  unfold lettered? at h
  split at h
  · contradiction
  · rename_i c after
    split at h
    · rename_i hp
      obtain ⟨found, hl, he⟩ := Option.map_eq_some_iff.mp h
      cases he
      refine ⟨[c], rfl, fun tail => ?_⟩
      show directive? (c :: tail) = some (items, tail)
      rw [directive?_of_not_isMark (isMark_of_letter? hl), lettered?, hp, hl]
      rfl
    · rename_i pad hp
      split at h
      · contradiction
      · rename_i d after
        obtain ⟨found, hn, he⟩ := Option.map_eq_some_iff.mp h
        cases he
        refine ⟨[c, d], rfl, fun tail => ?_⟩
        show directive? (c :: d :: tail) = some ([.numeric found.1 pad], tail)
        rw [directive?_of_not_isMark (isMark_of_pad? hp)]
        simp only [lettered?, hp, hn, Option.map_some]

theorem exists_used_of_directive? {cs rest : List Char} {items : List Item}
    (h : directive? cs = some (items, rest)) :
    ∃ used, cs = used ++ rest ∧ ∀ tail, directive? (used ++ tail) = some (items, tail) := by
  unfold directive? at h
  split at h
  · rename_i f after hm
    obtain ⟨c, used, hcs, -, -, hused⟩ := exists_used_of_marked? hm
    cases h
    refine ⟨c :: used, hcs, fun tail => ?_⟩
    rw [directive?, hused tail]
  · exact exists_used_of_lettered? h

theorem parseChars?_nil : parseChars? [] = some [] := by
  rw [parseChars?]

theorem parseChars?_directive {cs rest : List Char} {items : List Item}
    (h : directive? cs = some (items, rest)) :
    parseChars? ('%' :: cs) = (parseChars? rest).map (items ++ ·) := by
  rw [parseChars?, if_pos rfl]
  split
  · rename_i hn
    rw [h] at hn
    contradiction
  · rename_i found after hf
    rw [h] at hf
    cases hf
    rfl

theorem parseChars?_literal {c : Char} (hc : c ≠ '%') (cs : List Char) :
    parseChars? (c :: cs) = (parseChars? cs).map (.literal c :: ·) := by
  rw [parseChars?, if_neg hc]

-- A text that is a pattern of its own can be read apart from what follows it. The
-- induction goes through its directives one by one.
theorem parseChars?_append {before : List Char} {p : Pattern} (h : parseChars? before = some p)
    (after : List Char) : parseChars? (before ++ after) = (parseChars? after).map (p ++ ·) := by
  fun_induction parseChars? before generalizing p with
  | case1 =>
      cases h
      simp
  | case2 => contradiction
  | case3 cs items rest hd ih =>
      obtain ⟨q, hq, rfl⟩ := Option.map_eq_some_iff.mp h
      obtain ⟨used, rfl, hused⟩ := exists_used_of_directive? hd
      have hda := hused (rest ++ after)
      rw [List.cons_append, List.append_assoc, parseChars?_directive hda, ih hq]
      cases parseChars? after <;> simp
  | case4 c cs hc ih =>
      obtain ⟨q, hq, rfl⟩ := Option.map_eq_some_iff.mp h
      rw [List.cons_append, parseChars?_literal hc, ih hq]
      cases parseChars? after <;> simp

-- Items that can be written, other than the offset that is only there to be read.
def Item.writable : Item → Bool
  | .fixed .lenientOffset => false
  | _ => true

-- What holds of every choice that a chain of tests gives holds of the one it comes to.
theorem forall_of_ite {α : Type} {P : α → Prop} {c : Prop} [Decidable c] {a : α}
    {rest : Option α} (ha : P a) (hr : ∀ x, rest = some x → P x) :
    ∀ x, (if c then some a else rest) = some x → P x := by
  intro x hx
  split at hx
  · cases hx
    exact ha
  · exact hr x hx

theorem writable_of_fixed? (c : Char) :
    ∀ f, fixed? c = some f → (Item.fixed f).writable = true := by
  unfold fixed?
  repeat refine forall_of_ite rfl ?_
  exact nofun

theorem writable_of_several? (c : Char) :
    ∀ items, several? c = some items → items.all Item.writable = true := by
  unfold several?
  repeat refine forall_of_ite rfl ?_
  exact nofun

theorem writable_of_letter? {c : Char} {items : List Item} (h : letter? c = some items) :
    items.all Item.writable = true := by
  unfold letter? at h
  split at h
  · cases h
    rfl
  · split at h
    · rename_i f hf
      cases h
      rw [List.all_cons, writable_of_fixed? c f hf]
      rfl
    · exact writable_of_several? c items h

theorem writable_of_lettered? {cs rest : List Char} {items : List Item}
    (h : lettered? cs = some (items, rest)) : items.all Item.writable = true := by
  unfold lettered? at h
  split at h
  · contradiction
  · split at h
    · obtain ⟨found, hl, he⟩ := Option.map_eq_some_iff.mp h
      cases he
      exact writable_of_letter? hl
    · split at h
      · contradiction
      · obtain ⟨found, -, he⟩ := Option.map_eq_some_iff.mp h
        cases he
        rfl

-- Only one directive has an item that cannot be written.
theorem eq_of_directive?_not_writable {cs rest : List Char} {items : List Item}
    (h : directive? cs = some (items, rest)) (hw : items.all Item.writable = false) :
    cs = '#' :: 'z' :: rest := by
  unfold directive? at h
  split at h
  · rename_i f after hm
    cases h
    cases f with
    | lenientOffset =>
        obtain ⟨c, used, hcs, -, hused, -⟩ := exists_used_of_marked? hm
        rw [hcs, hused rfl]
        rfl
    | _ => contradiction
  · rw [writable_of_lettered? h] at hw
    contradiction

-- The directive of that item, after text that is a pattern of its own.
def AsksLenientOffset (cs : List Char) : Prop :=
  ∃ before after, cs = before ++ '%' :: '#' :: 'z' :: after ∧ (parseChars? before).isSome = true

theorem asksLenientOffset_of_not_writable {cs : List Char} {p : Pattern}
    (h : parseChars? cs = some p) (hw : p.all Item.writable = false) : AsksLenientOffset cs := by
  fun_induction parseChars? cs generalizing p with
  | case1 =>
      cases h
      contradiction
  | case2 => contradiction
  | case3 cs items rest hd ih =>
      obtain ⟨q, hq, rfl⟩ := Option.map_eq_some_iff.mp h
      rw [List.all_append, Bool.and_eq_false_iff] at hw
      rcases hw with hitems | hrest
      · refine ⟨[], rest, congrArg ('%' :: ·) (eq_of_directive?_not_writable hd hitems), ?_⟩
        rw [parseChars?_nil]
        rfl
      · obtain ⟨before, after, rfl, hb⟩ := ih hq hrest
        obtain ⟨used, rfl, hused⟩ := exists_used_of_directive? hd
        refine ⟨'%' :: (used ++ before), after, by simp, ?_⟩
        rw [parseChars?_directive (hused before), Option.isSome_map]
        exact hb
  | case4 c cs hc ih =>
      obtain ⟨q, hq, rfl⟩ := Option.map_eq_some_iff.mp h
      obtain ⟨before, after, rfl, hb⟩ := ih hq hw
      refine ⟨c :: before, after, rfl, ?_⟩
      rw [parseChars?_literal hc, Option.isSome_map]
      exact hb

-- A pattern can be written unless its text asks for the offset that is only read.
theorem all_writable_iff {cs : List Char} {p : Pattern} (h : parseChars? cs = some p) :
    p.all Item.writable = true ↔ ¬AsksLenientOffset cs := by
  constructor
  · rintro hw ⟨before, after, rfl, hb⟩
    obtain ⟨q, hq⟩ := Option.isSome_iff_exists.mp hb
    have hd : directive? ('#' :: 'z' :: after) = some ([.fixed .lenientOffset], after) := rfl
    rw [parseChars?_append hq, parseChars?_directive hd] at h
    obtain ⟨_, hr, rfl⟩ := Option.map_eq_some_iff.mp h
    obtain ⟨rest, -, rfl⟩ := Option.map_eq_some_iff.mp hr
    simp [Item.writable] at hw
  · intro ha
    cases hw : p.all Item.writable with
    | true => rfl
    | false => exact absurd (asksLenientOffset_of_not_writable h hw) ha

end Footage.Pattern
