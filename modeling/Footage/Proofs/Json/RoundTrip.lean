import Footage.Json.Printer
import Footage.Proofs.Json.Gather
import Footage.Proofs.Json.Token
import Footage.Proofs.Payload

namespace Footage.Json

-- A document that is printed without any loss: its numbers are integers of a word, no
-- object has a name twice, and not too many levels stand inside each other.
inductive Plain : Nat → Json → Prop
  | null (depth : Nat) : Plain depth .null
  | bool (depth : Nat) (b : Bool) : Plain depth (.bool b)
  | int (depth : Nat) {n : Int} (h : Word.Fits n) : Plain depth (.int n)
  | string (depth : Nat) (s : String) : Plain depth (.string s)
  | array {depth : Nat} {items : List Json} (h : ∀ v ∈ items, Plain depth v) :
      Plain (depth + 1) (.array items)
  | object {depth : Nat} {members : List (String × Json)} (hn : (members.map (·.1)).Nodup)
      (h : ∀ m ∈ members, Plain depth m.2) : Plain (depth + 1) (.object members)

section Members

variable {ms : List (String × Json)}

theorem insert_of_notMem {name : String} {value : Json} (h : name ∉ ms.map (·.1)) :
    insert ms name value = ms ++ [(name, value)] := by
  induction ms with
  | nil => rfl
  | cons m ms ih =>
      rw [List.map_cons, List.mem_cons, not_or] at h
      rw [insert, if_neg (Ne.symm h.1), ih h.2, List.cons_append]

-- Members are left as they are when none of their names is written again.
theorem gather_of_nodup (h : (ms.map (·.1)).Nodup) : gather ms = ms := by
  induction ms using List.reverseRecOn with
  | nil => rfl
  | append_singleton ms m ih =>
      rw [List.map_append, List.nodup_append] at h
      obtain ⟨hms, -, hdis⟩ := h
      have hnew : m.1 ∉ ms.map (·.1) := by
        intro hm
        exact hdis m.1 hm m.1 List.mem_cons_self rfl
      rw [gather_concat, ih hms, insert_of_notMem hnew]

end Members

namespace Written

open Token (Ends)

theorem run_cons {stage next : Stage} {t : Token} (h : step stage t = some next)
    (rest : List Token) : run stage (t :: rest) = run next rest := by
  cases stage with
  | done w => cases t <;> contradiction
  | _ => rw [run, h]; exact nofun

theorem run_mark {stage next : Stage} {c : Char} {t : Token} (hb : Token.isBlank c = false)
    (ht : Token.mark? c = some t) (h : step stage t = some next) (cs : List Char) :
    run stage (Token.all (c :: cs)) = run next (Token.all cs) := by
  rw [Token.all_cons_of_mark? hb ht, run_cons h]

-- A stage in which any value may start, inside the given containers.
def Takes (stage : Stage) (outer : List Open) : Prop :=
  ∀ t, t ≠ .closeArray → step stage t = start outer t

theorem takes_value (outer : List Open) : Takes (.value outer) outer := fun _ _ => rfl

theorem takes_firstItem (outer : List Open) : Takes (.firstItem outer) (.array [] :: outer) := by
  intro t ht
  cases t <;> first | contradiction | rfl

-- The text of a value is read as it is written, whatever comes after it.
def ReadsAs (v : Json) (w : Written) : Prop :=
  ∀ stage outer cs, Takes stage outer → Ends cs →
    run stage (Token.all (v.text.toList ++ cs)) = run (deliver w outer) (Token.all cs)

theorem readsAs_of_token {v : Json} {w : Written} (t : Token)
    (hs : ∀ outer, start outer t = some (deliver w outer))
    (hall : ∀ cs, Ends cs → Token.all (v.text.toList ++ cs) = t :: Token.all cs) :
    ReadsAs v w := by
  intro stage outer cs htakes he
  have ht : t ≠ .closeArray := by
    rintro rfl
    have := hs []
    contradiction
  rw [hall cs he]
  exact run_cons ((htakes t ht).trans (hs outer)) _

-- The items of an array, behind those that were read before.
theorem run_items {vs : List Json} {ws : List Written} (h : List.Forall₂ ReadsAs vs ws)
    (hne : vs ≠ []) {stage : Stage} {before : List Written} {outer : List Open} {cs : List Char}
    (ht : Takes stage (.array before :: outer)) :
    run stage (Token.all ((itemsText vs).toList ++ ']' :: cs)) =
      run (deliver (.array (before.reverse ++ ws)) outer) (Token.all cs) := by
  induction h generalizing stage before with
  | nil => contradiction
  | @cons v w vs ws hv hrest ih =>
      cases vs with
      | nil =>
          cases hrest
          have hclose : step (.afterItem (w :: before) outer) .closeArray =
              some (deliver (.array (w :: before).reverse) outer) := rfl
          have hends : Ends (']' :: cs) := Token.ends_cons (by decide) cs
          rw [itemsText, hv _ _ _ ht hends, deliver, run_mark rfl rfl hclose, List.reverse_cons]
      | cons next rest =>
          have hcomma : step (.afterItem (w :: before) outer) .comma =
              some (.value (.array (w :: before) :: outer)) := rfl
          have htext : (itemsText (v :: next :: rest)).toList ++ ']' :: cs =
              v.text.toList ++ ',' :: ((itemsText (next :: rest)).toList ++ ']' :: cs) := by
            simp [itemsText]
          rw [htext, hv _ _ _ ht (Token.ends_cons (by decide) _), deliver,
            run_mark rfl rfl hcomma, ih (List.cons_ne_nil _ _) (takes_value _)]
          rw [List.reverse_cons, List.append_assoc, List.singleton_append]

-- A stage in which a name may come, with the members that were read before.
def TakesName (stage : Stage) (before : List (List Piece × Written)) (outer : List Open) : Prop :=
  ∀ pieces, step stage (.string pieces) = some (.colon before pieces outer)

def MemberReadsAs (m : String × Json) (written : List Piece × Written) : Prop :=
  written.1 = m.1.toList.map Piece.ofChar ∧ ReadsAs m.2 written.2

theorem run_member {m : String × Json} {written : List Piece × Written}
    (h : MemberReadsAs m written) {stage : Stage} {before : List (List Piece × Written)}
    {outer : List Open} {cs : List Char} (ht : TakesName stage before outer) (he : Ends cs) :
    run stage (Token.all ((quoted m.1 ++ ":" ++ m.2.text).toList ++ cs)) =
      run (.afterMember (written :: before) outer) (Token.all cs) := by
  obtain ⟨pieces, w⟩ := written
  obtain ⟨rfl, hw⟩ := h
  have htext : (quoted m.1 ++ ":" ++ m.2.text).toList ++ cs =
      (quoted m.1).toList ++ ':' :: (m.2.text.toList ++ cs) := by
    simp
  have hcolon : step (.colon before (m.1.toList.map Piece.ofChar) outer) .colon =
      some (.value (.object before (m.1.toList.map Piece.ofChar) :: outer)) := rfl
  rw [htext, Token.all_quoted, run_cons (ht _), run_mark rfl rfl hcolon,
    hw _ _ _ (takes_value _) he, deliver]

-- The members of an object, behind those that were read before.
theorem run_members {ms : List (String × Json)} {ws : List (List Piece × Written)}
    (h : List.Forall₂ MemberReadsAs ms ws) (hne : ms ≠ []) {stage : Stage}
    {before : List (List Piece × Written)} {outer : List Open} {cs : List Char}
    (ht : TakesName stage before outer) :
    run stage (Token.all ((membersText ms).toList ++ '\x7d' :: cs)) =
      run (deliver (.object (before.reverse ++ ws)) outer) (Token.all cs) := by
  induction h generalizing stage before with
  | nil => contradiction
  | @cons m w ms ws hm hrest ih =>
      cases ms with
      | nil =>
          cases hrest
          have hclose : step (.afterMember (w :: before) outer) .closeObject =
              some (deliver (.object (w :: before).reverse) outer) := rfl
          have hends : Ends ('\x7d' :: cs) := Token.ends_cons (by decide) cs
          rw [membersText, run_member hm ht hends, run_mark rfl rfl hclose, List.reverse_cons]
      | cons next rest =>
          have hcomma : step (.afterMember (w :: before) outer) .comma =
              some (.name (w :: before) outer) := rfl
          have htext : (membersText (m :: next :: rest)).toList ++ '\x7d' :: cs =
              (quoted m.1 ++ ":" ++ m.2.text).toList ++
                ',' :: ((membersText (next :: rest)).toList ++ '\x7d' :: cs) := by
            simp [membersText]
          rw [htext, run_member hm ht (Token.ends_cons (by decide) _), run_mark rfl rfl hcomma,
            ih (List.cons_ne_nil _ _) fun _ => rfl]
          rw [List.reverse_cons, List.append_assoc, List.singleton_append]

theorem readsAs_array {vs : List Json} {ws : List Written} (h : List.Forall₂ ReadsAs vs ws) :
    ReadsAs (.array vs) (.array ws) := by
  intro stage outer cs ht he
  have htext : (Json.text (.array vs)).toList ++ cs =
      '[' :: ((itemsText vs).toList ++ ']' :: cs) := by
    simp [Json.text]
  have hopen : step stage .openArray = some (.firstItem outer) := ht _ nofun
  rw [htext, run_mark rfl rfl hopen]
  cases vs with
  | nil =>
      cases h
      have hclose : step (.firstItem outer) .closeArray = some (deliver (.array []) outer) := rfl
      exact run_mark rfl rfl hclose cs
  | cons v vs => exact run_items h (List.cons_ne_nil v vs) (takes_firstItem outer)

theorem readsAs_object {ms : List (String × Json)} {ws : List (List Piece × Written)}
    (h : List.Forall₂ MemberReadsAs ms ws) : ReadsAs (.object ms) (.object ws) := by
  intro stage outer cs ht he
  have htext : (Json.text (.object ms)).toList ++ cs =
      '\x7b' :: ((membersText ms).toList ++ '\x7d' :: cs) := by
    simp [Json.text]
  have hopen : step stage .openObject = some (.firstName outer) := ht _ nofun
  rw [htext, run_mark rfl rfl hopen]
  cases ms with
  | nil =>
      cases h
      have hclose : step (.firstName outer) .closeObject = some (deliver (.object []) outer) := rfl
      exact run_mark rfl rfl hclose cs
  | cons m ms =>
      have hname : TakesName (.firstName outer) [] outer := fun _ => rfl
      exact run_members h (List.cons_ne_nil m ms) hname

-- A plain document is read as something that means the document again. The induction
-- follows the document, from the outer level to the inner ones.
theorem exists_readsAs {depth : Nat} {v : Json} (h : Plain depth v) :
    ∃ w, ReadsAs v w ∧ w.value? depth = some v := by
  induction h with
  | null depth =>
      refine ⟨.null, readsAs_of_token .null (fun _ => rfl) ?_, rfl⟩
      exact fun cs _ => Token.all_null cs
  | bool depth b =>
      refine ⟨.bool b, readsAs_of_token (.bool b) (fun _ => rfl) ?_, rfl⟩
      cases b with
      | false => exact fun cs _ => Token.all_false cs
      | true => exact fun cs _ => Token.all_true cs
  | @int depth n hn =>
      refine ⟨.number (.ofInt n), readsAs_of_token (.number (.ofInt n)) (fun _ => rfl) ?_, ?_⟩
      · exact fun cs he => Token.all_ofInt n he
      · rw [value?, Numeral.value?_ofInt hn]
        rfl
  | string depth s =>
      let pieces := s.toList.map Piece.ofChar
      refine ⟨.string pieces, readsAs_of_token (.string pieces) (fun _ => rfl) ?_, ?_⟩
      · exact fun cs _ => Token.all_quoted cs s
      · rw [value?, Piece.decode_map_ofChar, Option.map_some, String.ofList_toList]
  | @array depth items h ih =>
      obtain ⟨ws, hws⟩ := Payload.exists_forall₂_iff_forall.mpr ih
      have hvalues := itemValues?_eq_some_iff.mpr (hws.imp fun _ _ h => h.2).flip
      refine ⟨.array ws, readsAs_array (hws.imp fun _ _ h => h.1), ?_⟩
      rw [value?, hvalues]
      rfl
  | @object depth ms hn h ih =>
      have hmembers : ∀ m ∈ ms, ∃ w, MemberReadsAs m w ∧ MemberMeans depth w m := by
        intro m hm
        obtain ⟨w, hw, hvalue⟩ := ih m hm
        refine ⟨(m.1.toList.map Piece.ofChar, w), ⟨rfl, hw⟩, ?_, hvalue⟩
        rw [name?, Piece.decode_map_ofChar, Option.map_some, String.ofList_toList]
      obtain ⟨ws, hws⟩ := Payload.exists_forall₂_iff_forall.mpr hmembers
      have hvalues := memberValues?_eq_some_iff.mpr (hws.imp fun _ _ h => h.2).flip
      refine ⟨.object ws, readsAs_object (hws.imp fun _ _ h => h.1), ?_⟩
      rw [value?, hvalues, Option.map_some, gather_of_nodup hn]

end Written

-- What is printed of a plain document is read as the same document.
theorem read?_text {v : Json} (h : Plain Written.depthLimit v) : read? v.text = some v := by
  obtain ⟨w, hw, hvalue⟩ := Written.exists_readsAs h
  have hrun := hw (.value []) [] [] (Written.takes_value []) (by intro c hc; contradiction)
  refine read?_eq_some_iff.mpr ⟨w, ?_, hvalue⟩
  rw [List.append_nil, Token.all] at hrun
  exact hrun

-- The documents that can be written, at some level of a text.
def Meant (v : Json) : Prop := ∃ w depth, Written.value? w depth = some v

theorem meant_of_read? {text : String} {v : Json} (h : read? text = some v) : Meant v := by
  obtain ⟨w, -, hv⟩ := read?_eq_some_iff.mp h
  exact ⟨w, _, hv⟩

-- No name stands twice in an object that can be written.
theorem Meant.nodup {ms : List (String × Json)} (h : Meant (.object ms)) :
    (ms.map (·.1)).Nodup := by
  obtain ⟨w, depth, hv⟩ := h
  obtain ⟨_, vs, -, -, -, rfl⟩ := Written.value?_eq_object_iff.mp hv
  exact nodup_names_gather vs

-- What stands in a document that can be written can be written too.
theorem Meant.member {ms : List (String × Json)} {key : String} {v : Json}
    (h : Meant (.object ms)) (hl : ms.lookup key = some v) : Meant v := by
  obtain ⟨w, depth, hv⟩ := h
  obtain ⟨inner, vs, -, -, hvs, rfl⟩ := Written.value?_eq_object_iff.mp hv
  have hrel := Written.rel_lastUnder hvs key
  rw [hl] at hrel
  generalize Written.lastUnder key w.members = found at hrel
  cases hrel with
  | some hmeant => exact ⟨_, inner, hmeant⟩

theorem Meant.item {items : List Json} {v : Json} (h : Meant (.array items)) (hv : v ∈ items) :
    Meant v := by
  obtain ⟨w, depth, hvalue⟩ := h
  obtain ⟨inner, ws, -, -, hitems⟩ := Written.value?_eq_array_iff.mp hvalue
  obtain ⟨i, hi⟩ := List.mem_iff_getElem?.mp hv
  have hf := Written.itemValues?_eq_some_iff.mp hitems
  obtain ⟨wi, -, hmeant⟩ := Payload.exists_getElem?_of_forall₂ hf hi
  exact ⟨wi, inner, hmeant⟩

end Footage.Json
