import Footage.Json.Record
import Footage.Proofs.Json.RoundTrip

namespace Footage.Json.Record

variable {ε α : Type} {shape : Shape}

-- A record is read from a text when its tokens are used up by it.
theorem readText_eq_ok_iff {make : Json → Except (RecordError ε) α} {text : String} {a : α} :
    readText shape make text = .ok a ↔
      ∃ v, read (ε := ε) shape (Token.all text.toList) = .ok (v, []) ∧ make v = .ok a := by
  unfold readText
  cases read (ε := ε) shape (Token.all text.toList) with
  | error e => simp
  | ok found =>
      obtain ⟨v, rest⟩ := found
      cases hm : make v <;> cases rest <;> simp [hm]

section Printed

open Token (Ends)

variable {accepts : Json → Bool} {cs : List Char}

-- A value without levels is one token, and a name of the record takes it if it may.
theorem field_text {v : Json} (h : Plain 0 v) (ha : accepts v = true) (he : Ends cs) :
    field (ε := ε) accepts (Token.all (v.text.toList ++ cs)) = .ok (v, Token.all cs) := by
  cases h with
  | null =>
      have htokens : Token.all ((Json.text .null).toList ++ cs) = .null :: Token.all cs :=
        Token.all_null cs
      rw [htokens]
      simp only [field, ha, if_true]
  | bool _ b =>
      have htokens : Token.all ((Json.text (.bool b)).toList ++ cs) = .bool b :: Token.all cs := by
        cases b with
        | false => exact Token.all_false cs
        | true => exact Token.all_true cs
      rw [htokens]
      simp only [field, ha, if_true]
  | @int _ n hn =>
      have htokens : Token.all ((Json.text (.int n)).toList ++ cs) =
          .number (Numeral.ofInt n) :: Token.all cs := Token.all_ofInt n he
      have hvalue : (Numeral.ofInt n).value?.map Json.number = some (.int n) := by
        rw [Numeral.value?_ofInt hn]
        rfl
      rw [htokens]
      simp only [field, hvalue, ha, if_true]
  | string _ s =>
      have htokens : Token.all ((Json.text (.string s)).toList ++ cs) =
          .string (s.toList.map Piece.ofChar) :: Token.all cs := Token.all_quoted cs s
      rw [htokens]
      simp only [field, Piece.decode_map_ofChar, Option.map_some, String.ofList_toList, ha, if_true]

-- A member that a record takes under one of its names.
def Taken (shape : Shape) (m : String × Json) : Prop :=
  Plain 0 m.2 ∧ ∃ accepts, shape.lookup m.1 = some accepts ∧ accepts m.2 = true

theorem memberValue_text {known : List (String × Json)} {m : String × Json} (h : Taken shape m)
    (hnew : m.1 ∉ known.map (·.1)) (he : Ends cs) :
    memberValue (ε := ε) shape known m.1 (Token.all (':' :: (m.2.text.toList ++ cs))) =
      .ok (known ++ [m], Token.all cs) := by
  obtain ⟨hplain, accepts, hshape, ha⟩ := h
  have hknown : known.lookup m.1 = none := by
    rw [List.lookup_eq_none_iff]
    intro other hm
    have hne : m.1 ≠ other.1 := fun heq => hnew (heq ▸ List.mem_map_of_mem hm)
    simpa using hne
  have hcolon : Token.all (':' :: (m.2.text.toList ++ cs)) =
      .colon :: Token.all (m.2.text.toList ++ cs) := Token.all_cons_of_mark? rfl rfl _
  rw [hcolon, memberValue, hshape]
  simp only [hknown, Option.isSome_none, Bool.false_eq_true, if_false, field_text hplain ha he]

section Members

variable {known more : List (String × Json)} {pieces : List Piece} {name : List Char}
  {tokens rest : List Token}

-- Behind a comma the members go on, and behind a brace there are none.
theorem members_comma (hn : Piece.decode pieces = some name)
    (hv : memberValue (ε := ε) shape known (String.ofList name) tokens =
      .ok (more, .comma :: rest)) :
    members (ε := ε) shape known (.string pieces :: tokens) = members shape more rest := by
  rw [members, hn]
  dsimp only
  split <;> simp_all

theorem members_close (hn : Piece.decode pieces = some name)
    (hv : memberValue (ε := ε) shape known (String.ofList name) tokens =
      .ok (more, .closeObject :: rest)) :
    members (ε := ε) shape known (.string pieces :: tokens) = .ok (more, rest) := by
  rw [members, hn]
  dsimp only
  split <;> simp_all

end Members

-- The members of a printed record, behind those that were read before.
theorem members_text {ms : List (String × Json)} (hm : ∀ m ∈ ms, Taken shape m) (hne : ms ≠ [])
    {known : List (String × Json)} (hn : ((known ++ ms).map (·.1)).Nodup) :
    members (ε := ε) shape known (Token.all ((membersText ms).toList ++ '\x7d' :: cs)) =
      .ok (known ++ ms, Token.all cs) := by
  induction ms generalizing known with
  | nil => contradiction
  | cons m ms ih =>
      rw [List.forall_mem_cons] at hm
      have hdecode := Piece.decode_map_ofChar m.1.toList
      have hnew : m.1 ∉ known.map (·.1) := by
        intro hmem
        rw [List.map_append, List.nodup_append] at hn
        exact hn.2.2 m.1 hmem m.1 List.mem_cons_self rfl
      have hname : String.ofList m.1.toList = m.1 := String.ofList_toList
      cases ms with
      | nil =>
          have htext : (membersText [m]).toList ++ '\x7d' :: cs =
              (quoted m.1).toList ++ ':' :: (m.2.text.toList ++ '\x7d' :: cs) := by
            simp [membersText]
          have hends : Ends ('\x7d' :: cs) := Token.ends_cons (by decide) cs
          have hclose : Token.all ('\x7d' :: cs) = .closeObject :: Token.all cs :=
            Token.all_cons_of_mark? rfl rfl cs
          have hvalue := memberValue_text (ε := ε) hm.1 hnew hends
          rw [hclose] at hvalue
          rw [htext, Token.all_quoted]
          exact members_close hdecode (hname.symm ▸ hvalue)
      | cons next rest =>
          have htext : (membersText (m :: next :: rest)).toList ++ '\x7d' :: cs =
              (quoted m.1).toList ++ ':' :: (m.2.text.toList ++
                ',' :: ((membersText (next :: rest)).toList ++ '\x7d' :: cs)) := by
            simp [membersText]
          have hends := Token.ends_cons (c := ',') (by decide)
            ((membersText (next :: rest)).toList ++ '\x7d' :: cs)
          have hcomma : Token.all (',' :: ((membersText (next :: rest)).toList ++ '\x7d' :: cs)) =
              .comma :: Token.all ((membersText (next :: rest)).toList ++ '\x7d' :: cs) :=
            Token.all_cons_of_mark? rfl rfl _
          have hvalue := memberValue_text (ε := ε) hm.1 hnew hends
          rw [hcomma] at hvalue
          have hsplit : known ++ m :: next :: rest = known ++ [m] ++ next :: rest := by simp
          rw [htext, Token.all_quoted, members_comma hdecode (hname.symm ▸ hvalue), hsplit]
          exact ih hm.2 (List.cons_ne_nil _ _) (hsplit ▸ hn)

-- What is printed of a record is read as the record.
theorem read_text {ms : List (String × Json)} (hm : ∀ m ∈ ms, Taken shape m) (hne : ms ≠ [])
    (hn : (ms.map (·.1)).Nodup) :
    read (ε := ε) shape (Token.all (Json.text (.object ms)).toList) = .ok (.object ms, []) := by
  have htext : (Json.text (.object ms)).toList =
      '\x7b' :: ((membersText ms).toList ++ ['\x7d']) := by
    simp [Json.text]
  have hopen : Token.all ('\x7b' :: ((membersText ms).toList ++ ['\x7d'])) =
      .openObject :: Token.all ((membersText ms).toList ++ ['\x7d']) :=
    Token.all_cons_of_mark? rfl rfl _
  have hmembers : members (ε := ε) shape [] (Token.all ((membersText ms).toList ++ ['\x7d'])) =
      .ok ([] ++ ms, Token.all []) := members_text hm hne hn
  rw [htext, hopen]
  generalize Token.all ((membersText ms).toList ++ ['\x7d']) = tokens at hmembers
  -- the object is not closed at once, as a member stands in it
  have hstay : ∀ rest, tokens ≠ .closeObject :: rest := by
    rintro rest rfl
    rw [members] at hmembers
    · contradiction
    · intro _ _ h
      cases h
  rw [read, hmembers, Token.all, List.nil_append]
  exact hstay

end Printed

end Footage.Json.Record
