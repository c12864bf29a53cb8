import Mathlib.Data.List.Forall2
import Mathlib.Data.List.Induction
import Mathlib.Data.List.Nodup
import Footage.Json.Written

namespace Footage.Json

section Rows

variable {α β γ δ : Type} {R : α → β → Prop} {as : List α} {bs : List β}

-- Of two rows that go together, the first hits of two searches go together when the
-- searches agree.
theorem rel_find?_of_forall₂ {p : α → Bool} {q : β → Bool} (hpq : ∀ a b, R a b → p a = q b)
    (h : List.Forall₂ R as bs) : Option.Rel R (as.find? p) (bs.find? q) := by
  induction h with
  | nil => exact .none
  | @cons a b as bs hab _ ih =>
      have hp := hpq a b hab
      cases hq : q b with
      | true =>
          rw [List.find?_cons_of_pos (hp.trans hq), List.find?_cons_of_pos hq]
          exact .some hab
      | false =>
          have hnp : ¬p a = true := by simp [hp, hq]
          have hnq : ¬q b = true := by simp [hq]
          rw [List.find?_cons_of_neg hnp, List.find?_cons_of_neg hnq]
          exact ih

theorem rel_map {S : γ → δ → Prop} {f : α → γ} {g : β → δ} (hfg : ∀ a b, R a b → S (f a) (g b))
    {x : Option α} {y : Option β} (h : Option.Rel R x y) : Option.Rel S (x.map f) (y.map g) := by
  cases h with
  | some h => exact .some (hfg _ _ h)
  | none => exact .none

end Rows

section Members

variable {ms written : List (String × Json)} {name key : String} {value : Json}

theorem lookup_cons_of_ne (h : key ≠ name) : ((name, value) :: ms).lookup key = ms.lookup key := by
  have hne : (key == name) = false := by simpa using h
  rw [List.lookup_cons, hne]

-- When no name stands twice, every value is found under its name.
theorem lookup_of_mem (hn : (ms.map (·.1)).Nodup) (hm : (key, value) ∈ ms) :
    ms.lookup key = some value := by
  induction ms with
  | nil => simp at hm
  | cons m ms ih =>
      obtain ⟨name, v⟩ := m
      rw [List.map_cons, List.nodup_cons] at hn
      rcases List.mem_cons.mp hm with he | hrest
      · cases he
        exact List.lookup_cons_self
      · have hne : key ≠ name := fun he => hn.1 (List.mem_map.mpr ⟨_, hrest, he⟩)
        rw [lookup_cons_of_ne hne]
        exact ih hn.2 hrest

theorem lookup_eq_map_find? (ms : List (String × Json)) (key : String) :
    ms.lookup key = (ms.find? fun m => m.1 == key).map (·.2) := by
  induction ms with
  | nil => rfl
  | cons m ms ih =>
      obtain ⟨name, value⟩ := m
      by_cases h : key = name
      · subst h
        rw [List.lookup_cons_self, List.find?_cons, beq_self_eq_true]
        rfl
      · have hne : (name == key) = false := by simpa using Ne.symm h
        rw [lookup_cons_of_ne h, ih, List.find?_cons, hne]

-- A new name comes last, and one that is there stays where it is.
theorem names_insert (ms : List (String × Json)) (name : String) (value : Json) :
    (insert ms name value).map (·.1) =
      if name ∈ ms.map (·.1) then ms.map (·.1) else ms.map (·.1) ++ [name] := by
  induction ms with
  | nil => simp [insert]
  | cons m ms ih =>
      obtain ⟨n, v⟩ := m
      by_cases h : n = name
      · simp [insert, h]
      · rw [insert, if_neg h, List.map_cons, ih, List.map_cons]
        have hm : name ∈ n :: ms.map (·.1) ↔ name ∈ ms.map (·.1) := by simp [Ne.symm h]
        simp only [hm]
        split <;> rfl

theorem lookup_insert (ms : List (String × Json)) (name key : String) (value : Json) :
    (insert ms name value).lookup key = if key = name then some value else ms.lookup key := by
  induction ms with
  | nil =>
      by_cases hk : key = name
      · rw [if_pos hk, insert, hk, List.lookup_cons_self]
      · rw [if_neg hk, insert, lookup_cons_of_ne hk]
  | cons m ms ih =>
      obtain ⟨n, v⟩ := m
      by_cases h : n = name
      · rw [insert, if_pos h, h]
        by_cases hk : key = name
        · rw [if_pos hk, hk, List.lookup_cons_self]
        · rw [if_neg hk, lookup_cons_of_ne hk, lookup_cons_of_ne hk]
      · rw [insert, if_neg h]
        by_cases hk : key = n
        · -- the name in front is another one than the one that is stored
          subst hk
          rw [List.lookup_cons_self, if_neg h, List.lookup_cons_self]
        · rw [lookup_cons_of_ne hk, ih, lookup_cons_of_ne hk]

theorem gather_concat (written : List (String × Json)) (name : String) (value : Json) :
    gather (written ++ [(name, value)]) = insert (gather written) name value := by
  simp [gather]

-- Every name stands where it was first written. The induction takes members from the
-- end, as each is stored after those before it.
theorem names_gather (written : List (String × Json)) :
    (gather written).map (·.1) = (written.map (·.1)).eraseDups := by
  induction written using List.reverseRecOn with
  | nil => rfl
  | append_singleton written m ih =>
      obtain ⟨name, value⟩ := m
      have hm : name ∈ (gather written).map (·.1) ↔ name ∈ written.map (·.1) := by
        rw [ih, List.mem_eraseDups]
      rw [gather_concat, names_insert, List.map_append, List.eraseDups_append, ← ih]
      by_cases h : name ∈ written.map (·.1)
      · have hr : [name].removeAll (written.map (·.1)) = [] := by
          simpa [List.removeAll] using h
        rw [if_pos (hm.mpr h), List.map_singleton, hr, List.eraseDups_nil, List.append_nil]
      · have hr : [name].removeAll (written.map (·.1)) = [name] := by
          simpa [List.removeAll] using h
        rw [if_neg (mt hm.mp h), List.map_singleton, hr]
        rfl

-- Every name has the value that was last written under it.
theorem lookup_gather (written : List (String × Json)) (key : String) :
    (gather written).lookup key = written.reverse.lookup key := by
  induction written using List.reverseRecOn with
  | nil => rfl
  | append_singleton written m ih =>
      obtain ⟨name, value⟩ := m
      rw [gather_concat, lookup_insert, List.reverse_append, List.reverse_singleton,
        List.singleton_append, ih]
      by_cases h : key = name
      · rw [if_pos h, h, List.lookup_cons_self]
      · rw [if_neg h, lookup_cons_of_ne h]

theorem nodup_names_insert (h : (ms.map (·.1)).Nodup) :
    ((insert ms name value).map (·.1)).Nodup := by
  rw [names_insert]
  split
  · exact h
  · rename_i hn
    rw [List.nodup_append]
    refine ⟨h, List.nodup_singleton name, ?_⟩
    intro a ha b hb he
    rw [List.mem_singleton] at hb
    exact hn (hb ▸ he ▸ ha)

theorem nodup_names_gather (written : List (String × Json)) :
    ((gather written).map (·.1)).Nodup := by
  induction written using List.reverseRecOn with
  | nil => exact List.nodup_nil
  | append_singleton written m ih =>
      rw [gather_concat]
      exact nodup_names_insert ih

example : gather [("a", .null), ("b", .null), ("a", .bool true)] =
    [("a", .bool true), ("b", .null)] := by decide

end Members

namespace Written

-- The members of an object, as they are written.
def members : Written → List (List Piece × Written)
  | .object ms => ms
  | _ => []

-- The name of a member, with its escapes undone.
def name? (m : List Piece × Written) : Option String := (Piece.decode m.1).map String.ofList

def names (ms : List (List Piece × Written)) : List String := ms.filterMap name?

-- What was last written under a name.
def lastUnder (key : String) (ms : List (List Piece × Written)) : Option Written :=
  (ms.reverse.find? fun m => name? m == some key).map (·.2)

-- A member as it is written and as it is meant.
def MemberMeans (depth : Nat) (m : List Piece × Written) (meant : String × Json) : Prop :=
  name? m = some meant.1 ∧ m.2.value? depth = some meant.2

theorem memberValues?_eq_some_iff {ms : List (List Piece × Written)} {depth : Nat}
    {vs : List (String × Json)} :
    memberValues? ms depth = some vs ↔ List.Forall₂ (MemberMeans depth) ms vs := by
  induction ms generalizing vs with
  | nil => simp [memberValues?, eq_comm]
  | cons m ms ih =>
      obtain ⟨pieces, w⟩ := m
      rw [memberValues?, List.forall₂_cons_left_iff]
      constructor
      · intro h
        split at h
        · rename_i n v rest hn hv hrest
          cases h
          exact ⟨_, rest, ⟨by rw [name?, hn, Option.map_some], hv⟩, ih.mp hrest, rfl⟩
        · contradiction
      · rintro ⟨⟨name, v⟩, rest, ⟨hname, hv⟩, hrest, rfl⟩
        obtain ⟨n, hn, rfl⟩ := Option.map_eq_some_iff.mp hname
        rw [hn, hv, ih.mpr hrest]

theorem itemValues?_eq_some_iff {ws : List Written} {depth : Nat} {vs : List Json} :
    itemValues? ws depth = some vs ↔ List.Forall₂ (fun w v => w.value? depth = some v) ws vs := by
  induction ws generalizing vs with
  | nil => simp [itemValues?, eq_comm]
  | cons w ws ih =>
      rw [itemValues?, List.forall₂_cons_left_iff]
      constructor
      · intro h
        split at h
        · rename_i v rest hv hrest
          cases h
          exact ⟨v, rest, hv, ih.mp hrest, rfl⟩
        · contradiction
      · rintro ⟨v, rest, hv, hrest, rfl⟩
        rw [hv, ih.mpr hrest]

-- Only an object is meant as one, and its members stand one level further down.
theorem value?_eq_object_iff {w : Written} {depth : Nat} {ms : List (String × Json)} :
    w.value? depth = some (.object ms) ↔
      ∃ inner vs, depth = inner + 1 ∧ w = .object w.members ∧
        memberValues? w.members inner = some vs ∧ gather vs = ms := by
  cases w with
  | object members =>
      cases depth with
      | zero => simp [value?]
      | succ inner => simp [value?, Written.members]
  | array items => cases depth <;> simp [value?]
  | _ => simp [value?]

theorem value?_eq_array_iff {w : Written} {depth : Nat} {vs : List Json} :
    w.value? depth = some (.array vs) ↔
      ∃ inner ws, depth = inner + 1 ∧ w = .array ws ∧ itemValues? ws inner = some vs := by
  cases w with
  | array items => cases depth <;> simp [value?]
  | object members => cases depth <;> simp [value?]
  | _ => simp [value?]

theorem members_eq_nil_of_value? {w : Written} {depth : Nat} {v : Json}
    (h : w.value? depth = some v) (hv : ∀ ms, v ≠ .object ms) : w.members = [] := by
  cases w with
  | object members =>
      cases depth with
      | zero => simp [value?] at h
      | succ inner =>
          rw [value?] at h
          obtain ⟨ms, -, rfl⟩ := Option.map_eq_some_iff.mp h
          exact absurd rfl (hv _)
  | _ => rfl

section Members

variable {ms : List (List Piece × Written)} {depth : Nat} {vs : List (String × Json)}

theorem names_eq_of_forall₂ (h : List.Forall₂ (MemberMeans depth) ms vs) :
    names ms = vs.map (·.1) := by
  unfold names
  induction h with
  | nil => rfl
  | @cons m v ms vs hm _ ih => rw [List.filterMap_cons_some hm.1, ih, List.map_cons]

-- The names of an object are the written ones, each where it was first written.
theorem names_gather_of_memberValues? (h : memberValues? ms depth = some vs) :
    (gather vs).map (·.1) = (names ms).eraseDups := by
  rw [names_gather, names_eq_of_forall₂ (memberValues?_eq_some_iff.mp h)]

-- Under each of its names an object has what was last written there.
theorem rel_lastUnder (h : memberValues? ms depth = some vs) (key : String) :
    Option.Rel (fun w v => w.value? depth = some v) (lastUnder key ms) ((gather vs).lookup key) := by
  have hf := List.forall₂_reverse_iff.mpr (memberValues?_eq_some_iff.mp h)
  rw [lookup_gather, lookup_eq_map_find?]
  refine rel_map (fun m v hm => hm.2) (rel_find?_of_forall₂ (fun m v hm => ?_) hf)
  rw [hm.1, Option.some_beq_some]

end Members

end Written

theorem read?_eq_some_iff {text : String} {v : Json} :
    read? text = some v ↔
      ∃ w, Written.read? (Token.all text.toList) = some (w, []) ∧
        w.value? Written.depthLimit = some v := by
  unfold read?
  cases Written.read? (Token.all text.toList) with
  | none => simp
  | some found =>
      obtain ⟨w, rest⟩ := found
      cases rest <;> simp

end Footage.Json
