import Footage.Proofs.Json.Navigation

namespace Footage.Json.View

-- A text that may be put after the pointer of a place.
def IsPointer (p : String) : Prop := p = "" ∨ p.toList.head? = some '/'

instance (p : String) : Decidable (IsPointer p) := inferInstanceAs (Decidable (_ ∨ _))

theorem isPointer_iff {p : String} : IsPointer p ↔ Pointer.Formed p.toList := by
  rw [Pointer.formed_iff, IsPointer, String.toList_eq_nil_iff]

theorem child?_eq_some_iff {v w : View} {p : String} :
    v.child? p = some w ↔
      (v.root.resolve (v.pointer ++ p).toList).isSome = true ∧ w = ⟨v.root, v.pointer ++ p⟩ := by
  rw [child?, Option.ite_none_right_eq_some, Option.some.injEq]
  exact and_congr_right fun _ => eq_comm

theorem child?_eq_none_iff {v : View} {p : String} :
    v.child? p = none ↔ v.root.resolve (v.pointer ++ p).toList = none := by
  rw [child?, ite_eq_right_iff, Option.isSome_iff_ne_none]
  simp

-- Only the text put together counts, and not where it is cut.
theorem child?_append (root : Json) (up p q : String) :
    child? ⟨root, up ++ p⟩ q = child? ⟨root, up⟩ (p ++ q) := by
  simp only [child?, String.append_assoc]

theorem json_eq {v : View} {x : Json} (h : v.root.resolve v.pointer.toList = some x) :
    v.json = x := by
  rw [json, h, Option.getD_some]

-- A place is reached in two goes exactly when it is in one.
theorem child?_bind_child? (v : View) (p : String) {q : String} (hq : IsPointer q) :
    (v.child? p).bind (·.child? q) = v.child? (p ++ q) := by
  cases h : v.child? p with
  | none =>
      have hresolve := resolve_append (isPointer_iff.mp hq) (v.pointer ++ p).toList v.root
      rw [child?_eq_none_iff.mp h, Option.bind_none, ← String.toList_append,
        String.append_assoc] at hresolve
      exact (child?_eq_none_iff.mpr hresolve).symm
  | some w =>
      obtain ⟨-, rfl⟩ := child?_eq_some_iff.mp h
      exact child?_append v.root v.pointer p q

-- The places that are reached from a document by texts of any kind, one put after the
-- other.
inductive Reached (root : Json) : View → Prop
  | root : Reached root (.ofJson root)
  | child {v w : View} {p : String} : Reached root v → v.child? p = some w → Reached root w

-- What is put after a pointer is kept only if the whole leads somewhere.
theorem resolve_pointer_of_child? {v w : View} {p : String} (h : v.child? p = some w) :
    w.root = v.root ∧ w.root.resolve w.pointer.toList = some w.json := by
  obtain ⟨hs, rfl⟩ := child?_eq_some_iff.mp h
  obtain ⟨x, hx⟩ := Option.isSome_iff_exists.mp hs
  exact ⟨rfl, hx.trans (congrArg some (json_eq hx).symm)⟩

theorem Reached.resolve_pointer {root : Json} {v : View} (h : Reached root v) :
    v.root = root ∧ root.resolve v.pointer.toList = some v.json := by
  induction h with
  | root => exact ⟨rfl, rfl⟩
  | child _ hc ih =>
      obtain ⟨hroot, hresolve⟩ := resolve_pointer_of_child? hc
      obtain rfl := hroot.trans ih.1
      exact ⟨rfl, hresolve⟩

-- So every place is reached from the document at once.
theorem reached_of_resolve {root x : Json} {pointer : String}
    (h : root.resolve pointer.toList = some x) : Reached root ⟨root, pointer⟩ := by
  refine .child (p := pointer) .root (child?_eq_some_iff.mpr ?_)
  rw [ofJson, String.empty_append, h]
  exact ⟨rfl, rfl⟩

-- What stands behind a pointer is found from the place that the pointer is put after.
theorem map_json_child? {root : Json} {v : View} (h : Reached root v) {p : String}
    (hp : IsPointer p) : (v.child? p).map json = v.json.resolve p.toList := by
  obtain ⟨rfl, hv⟩ := h.resolve_pointer
  have hresolve := resolve_append (isPointer_iff.mp hp) v.pointer.toList v.root
  rw [hv, Option.bind_some, ← String.toList_append] at hresolve
  rw [← hresolve]
  cases hc : v.child? p with
  | none => exact (child?_eq_none_iff.mp hc).symm
  | some w =>
      obtain ⟨-, hw⟩ := resolve_pointer_of_child? hc
      obtain ⟨-, rfl⟩ := child?_eq_some_iff.mp hc
      exact hw.symm

-- From every place that is reached, a pointer leads to what it leads to in the value at
-- that place, in one go or cut in two. The pointer that is kept always leads somewhere
-- in the document, so no null is ever put in.
theorem leadsTo_iff_and_bind_of_reached {root : Json} {v : View} (h : Reached root v) :
    v.root = root ∧ root.resolve v.pointer.toList = some v.json ∧
      LeadsTo root v.pointer.toList v.json ∧
      ∀ p, IsPointer p →
        (v.child? p).map json = v.json.resolve p.toList ∧
        (∀ x, (∃ w, v.child? p = some w ∧ w.json = x) ↔ LeadsTo v.json p.toList x) ∧
        ∀ q, IsPointer q → (v.child? p).bind (·.child? q) = v.child? (p ++ q) := by
  obtain ⟨hroot, hv⟩ := h.resolve_pointer
  refine ⟨hroot, hv, leadsTo_of_resolve hv, fun p hp => ⟨map_json_child? h hp, ?_, ?_⟩⟩
  · intro x
    rw [← resolve_eq_some_iff, ← map_json_child? h hp, Option.map_eq_some_iff]
  · intro q hq
    exact child?_bind_child? v p hq

-- A tilde that stands alone leads to one place and, made longer, to another.
def tilded : Json :=
  .object [("a~", .null), ("a/b", .array [.null, .object [("~", .bool true)]])]

-- From there as well a pointer is followed inside, cut in two or not.
theorem leadsTo_of_reached_tilded :
    Reached tilded ⟨tilded, "/a~1b"⟩ ∧ IsPointer "/1" ∧ IsPointer "/~0" ∧
      (child? ⟨tilded, "/a~1b"⟩ "/1").bind (·.child? "/~0") = child? ⟨tilded, "/a~1b"⟩ "/1/~0" ∧
      ∃ w, child? ⟨tilded, "/a~1b"⟩ "/1/~0" = some w ∧ w.json = .bool true := by
  have hlone : child? (.ofJson tilded) "/a~" = some ⟨tilded, "/a~"⟩ := by decide
  have hlonger : child? ⟨tilded, "/a~"⟩ "1b" = some ⟨tilded, "/a~1b"⟩ := by decide
  have hv : Reached tilded ⟨tilded, "/a~1b"⟩ := .child (.child .root hlone) hlonger
  have hitem : IsPointer "/1" := by decide
  have hname : IsPointer "/~0" := by decide
  have hboth : IsPointer "/1/~0" := by decide
  obtain ⟨-, -, -, hall⟩ := leadsTo_iff_and_bind_of_reached hv
  refine ⟨hv, hitem, hname, (hall "/1" hitem).2.2 "/~0" hname, ((hall "/1/~0" hboth).2.1 _).mpr ?_⟩
  exact leadsTo_of_resolve (by decide)

-- What stands one step below another place, by the last step of its pointer.
structure Below (root : Json) (above v : View) (last : String) : Prop where
  reached : Reached root above
  slash : '/' ∉ last.toList
  child : above.child? ("/" ++ last) = some v

-- A place is the document or stands below another one.
theorem Reached.exists_below {root : Json} {v : View} (h : Reached root v) (hne : v.pointer ≠ "") :
    ∃ above last, Below root above v last := by
  obtain ⟨rfl, hv⟩ := h.resolve_pointer
  obtain ⟨up, last, hp, hl⟩ := (formed_of_resolve hv).exists_last
    fun he => hne (String.toList_eq_nil_iff.mp he)
  have hpointer : v.pointer = String.ofList up ++ ("/" ++ String.ofList last) := by
    rw [← String.toList_inj, hp]
    simp
  have hresolve := resolve_append (Pointer.formed_iff.mpr (Or.inr rfl)) up v.root (q := '/' :: last)
  rw [← hp, hv] at hresolve
  obtain ⟨x, hx, -⟩ := Option.bind_eq_some_iff.mp hresolve.symm
  refine ⟨⟨v.root, String.ofList up⟩, String.ofList last, ?_, ?_, ?_⟩
  · exact reached_of_resolve (x := x) (by rwa [String.toList_ofList])
  · rwa [String.toList_ofList]
  · refine child?_eq_some_iff.mpr ⟨?_, ?_⟩
    · rw [← hpointer, hv]
      rfl
    · rw [← hpointer]

theorem Below.pointer {root : Json} {above v : View} {last : String} (h : Below root above v last) :
    v = ⟨above.root, above.pointer ++ ("/" ++ last)⟩ := (child?_eq_some_iff.mp h.child).2

-- A text that is no pointer, cut where a pointer starts in it.
structure Cut (p glued onward : String) : Prop where
  text : p = glued ++ onward
  glued_ne : glued ≠ ""
  slash : '/' ∉ glued.toList
  onward : IsPointer onward

theorem exists_cut_of_not_isPointer {p : String} (hp : ¬IsPointer p) :
    ∃ glued onward, Cut p glued onward := by
  obtain ⟨s, rest, hcut, hs, hrest⟩ := Pointer.exists_cut p.toList
  have hformed : Pointer.Formed (String.ofList rest).toList := by rwa [String.toList_ofList]
  have htext : p = String.ofList s ++ String.ofList rest := by
    rw [← String.toList_inj, hcut]
    simp
  refine ⟨String.ofList s, String.ofList rest, htext, ?_, ?_, isPointer_iff.mpr hformed⟩
  · intro he
    rw [he, String.empty_append] at htext
    exact hp (isPointer_iff.mpr (htext ▸ hformed))
  · rwa [String.toList_ofList]

-- What is no pointer is read as more of the last step. From the document itself, which
-- has no last step, it leads nowhere. From any other place it leads to a sibling with
-- the longer name, and on from there, unless there is no such sibling.
theorem notPointer_eq_sibling {root : Json} {v : View} (h : Reached root v)
    {p : String} (hp : ¬IsPointer p) :
    (v.pointer = "" → v.child? p = none) ∧
      (v.pointer ≠ "" → ∃ above last glued onward, Below root above v last ∧ Cut p glued onward ∧
        v.child? p = (above.child? ("/" ++ (last ++ glued))).bind (·.child? onward) ∧
        (v.child? p = none ↔ ∀ x, ¬LeadsTo above.json ("/" ++ (last ++ p)).toList x)) := by
  constructor
  · intro he
    rw [child?_eq_none_iff, he, String.empty_append]
    exact resolve_eq_none fun hf => hp (isPointer_iff.mpr hf)
  · intro hne
    obtain ⟨above, last, hbelow⟩ := h.exists_below hne
    obtain ⟨glued, onward, hcut⟩ := exists_cut_of_not_isPointer hp
    have hlonger : v.child? p = above.child? ("/" ++ (last ++ p)) := by
      rw [hbelow.pointer, child?_append, String.append_assoc]
    have hpointer : IsPointer ("/" ++ (last ++ p)) := Or.inr (by simp)
    refine ⟨above, last, glued, onward, hbelow, hcut, ?_, ?_⟩
    · rw [hlonger, child?_bind_child? above _ hcut.onward, hcut.text]
      simp only [String.append_assoc]
    · rw [hlonger, ← Option.map_eq_none_iff (f := json), map_json_child? hbelow.reached hpointer,
        Option.eq_none_iff_forall_ne_some]
      simp only [ne_eq, resolve_eq_some_iff]

-- Eleven values, of which the second and the last have numbers that start alike.
def listed : Json :=
  .object [("cameras", .array (List.replicate 10 .null ++ [.object [("id", .bool true)]]))]

-- Behind the second of them more digits, and a step below, lead to the last one.
theorem notPointer_digits_eq_sibling :
    Reached listed ⟨listed, "/cameras/1"⟩ ∧ ¬IsPointer "0/id" ∧
      (∃ above last glued onward, Below listed above ⟨listed, "/cameras/1"⟩ last ∧
        Cut "0/id" glued onward ∧
        child? ⟨listed, "/cameras/1"⟩ "0/id" =
          (above.child? ("/" ++ (last ++ glued))).bind (·.child? onward)) ∧
      child? ⟨listed, "/cameras/1"⟩ "0/id" = some ⟨listed, "/cameras/10/id"⟩ := by
  have hv : Reached listed ⟨listed, "/cameras/1"⟩ := reached_of_resolve (x := .null) (by decide)
  have hp : ¬IsPointer "0/id" := by decide
  obtain ⟨-, hsibling⟩ := notPointer_eq_sibling hv hp
  obtain ⟨above, last, glued, onward, hbelow, hcut, hchild, -⟩ := hsibling (by decide)
  exact ⟨hv, hp, ⟨above, last, glued, onward, hbelow, hcut, hchild⟩, by decide⟩

-- Two members, of which one has the name of the other and a letter more.
def siblings : Json := .object [("a", .bool false), ("ab", .bool true)]

-- The letter is no pointer, and still leads from the first to the second.
theorem notPointer_letter_not_none :
    Reached siblings ⟨siblings, "/a"⟩ ∧ ¬IsPointer "b" ∧
      child? ⟨siblings, "/a"⟩ "b" ≠ none ∧
      child? ⟨siblings, "/a"⟩ "b" = some ⟨siblings, "/ab"⟩ ∧
      json ⟨siblings, "/ab"⟩ = .bool true :=
  ⟨reached_of_resolve (x := .bool false) (by decide), by decide, by decide, by decide, by decide⟩

end Footage.Json.View
