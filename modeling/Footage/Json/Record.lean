import Footage.Json.Written

namespace Footage.Json

-- Why a text is not the record that was asked for: it is no JSON, it is JSON of
-- another shape, or the record itself has a rule against it.
inductive RecordError (ε : Type)
  | malformed
  | mismatch
  | refused (fault : ε)
deriving DecidableEq, Repr

namespace Record

-- The names of a record in their order, each with the values it takes.
abbrev Shape := List (String × (Json → Bool))

variable {ε : Type}

-- A value that a name of the record takes. An array or object is turned down
-- where it opens, a word, number or string only once it is complete.
def field (accepts : Json → Bool) : List Token → Except (RecordError ε) (Json × List Token)
  | [] => .error .malformed
  | t :: rest =>
    let value? : Option Json := match t with
      | .null => some .null
      | .bool b => some (.bool b)
      | .number n => n.value?.map .number
      | .string pieces => (Piece.decode pieces).map fun cs => .string (String.ofList cs)
      | _ => none
    match t, value? with
    | .openArray, _ => .error .mismatch
    | .openObject, _ => .error .mismatch
    | _, none => .error .malformed
    | _, some v => if accepts v then .ok (v, rest) else .error .mismatch

-- The value after a name. Under a name that is not of the record any value is
-- passed over, and only its form is looked at.
def memberValue (shape : Shape) (known : List (String × Json)) (name : String)
    (tokens : List Token) : Except (RecordError ε) (List (String × Json) × List Token) :=
  match shape.lookup name with
  | some accepts =>
    if (known.lookup name).isSome then .error .mismatch
    else match tokens with
      | .colon :: rest =>
        match field accepts rest with
        | .ok (v, rest) => .ok (known ++ [(name, v)], rest)
        | .error e => .error e
      | _ => .error .malformed
  | none =>
    match tokens with
    | .colon :: rest =>
      match Written.read? rest with
      | some (_, rest) => .ok (known, rest)
      | none => .error .malformed
    | _ => .error .malformed

theorem field_no_longer {accepts : Json → Bool} {tokens rest : List Token} {v : Json}
    (h : field (ε := ε) accepts tokens = .ok (v, rest)) : rest.length ≤ tokens.length := by
  unfold field at h
  split at h
  · simp at h
  · dsimp only at h
    split at h
    · simp at h
    · simp at h
    · simp at h
    · split at h
      · obtain ⟨-, rfl⟩ := by simpa using h
        simp
      · simp at h

theorem memberValue_no_longer {shape : Shape} {known more : List (String × Json)} {name : String}
    {tokens rest : List Token}
    (h : memberValue (ε := ε) shape known name tokens = .ok (more, rest)) :
    rest.length ≤ tokens.length := by
  unfold memberValue at h
  split at h
  · split at h
    · simp at h
    · split at h
      · split at h
        · rename_i hf
          have := field_no_longer hf
          obtain ⟨-, rfl⟩ := by simpa using h
          simp only [List.length_cons]
          omega
        · simp at h
      · simp at h
  · split at h
    · split at h
      · rename_i hr
        have := Written.run_no_longer hr
        obtain ⟨-, rfl⟩ := by simpa using h
        simp only [List.length_cons]
        omega
      · simp at h
    · simp at h

-- The members from a name on, up to the end of the object.
def members (shape : Shape) (known : List (String × Json)) :
    List Token → Except (RecordError ε) (List (String × Json) × List Token)
  | .string pieces :: rest =>
    match Piece.decode pieces with
    | none => .error .malformed
    | some name =>
      match _h : memberValue shape known (String.ofList name) rest with
      | .error e => .error e
      | .ok (known, .comma :: rest) => members shape known rest
      | .ok (known, .closeObject :: rest) => .ok (known, rest)
      | .ok _ => .error .malformed
  | _ => .error .malformed
termination_by tokens => tokens.length
decreasing_by
  have := memberValue_no_longer _h
  simp only [List.length_cons] at *
  omega

-- The items for the names that are left, after one that was read.
def items (read : List Json) : Shape → List Token →
    Except (RecordError ε) (List Json × List Token)
  | _, .closeArray :: rest => .ok (read, rest)
  | (_, accepts) :: shape, .comma :: rest =>
    match field accepts rest with
    | .ok (v, rest) => items (read ++ [v]) shape rest
    | .error e => .error e
  | _, _ => .error .malformed

-- A record is an object, or an array with its values in the order of the names.
-- What was read of it is given back as a value that holds nothing else.
def read (shape : Shape) : List Token → Except (RecordError ε) (Json × List Token)
  | .openObject :: .closeObject :: rest => .ok (.object [], rest)
  | .openObject :: rest =>
    match members shape [] rest with
    | .ok (known, rest) => .ok (.object known, rest)
    | .error e => .error e
  | .openArray :: .closeArray :: rest => .ok (.array [], rest)
  | .openArray :: rest =>
    match shape with
    | [] => .error .malformed
    | (_, accepts) :: shape =>
      match field accepts rest with
      | .ok (v, rest) =>
        match items [v] shape rest with
        | .ok (vs, rest) => .ok (.array vs, rest)
        | .error e => .error e
      | .error e => .error e
  | tokens =>
    match field (fun _ => false) tokens with
    | .ok (v, rest) => .ok (v, rest)
    | .error e => .error e

-- Reads a text that is one record and nothing else. The record is made once it
-- is complete, before the text is looked at any further.
def readText {α : Type} (shape : Shape) (make : Json → Except (RecordError ε) α) (text : String) :
    Except (RecordError ε) α :=
  match read shape (Token.all text.toList) with
  | .error e => .error e
  | .ok (v, rest) =>
    match make v with
    | .error e => .error e
    | .ok a => if rest.isEmpty then .ok a else .error .malformed

end Record

end Footage.Json
