import Footage.Error

namespace Footage

namespace Path

-- An item of a named array, as it is named in messages.
def itemName (name : String) (k : Nat) : String := name ++ "[" ++ Decimal.ofNat k ++ "]"

theorem text_item (name : String) (k : Nat) (place : Path) :
    text (.field name :: .index k :: place) = itemName name k ++ onward place := by
  simp only [text, onward, itemName, String.append_assoc]

-- A place below a named member goes on with a dot.
theorem onward_field (name : String) (rest : Path) :
    onward (.field name :: rest) = "." ++ text (.field name :: rest) := by
  simp only [onward, text, String.append_assoc]

end Path

namespace ViewError

-- The same error, seen from a value that the one that was read is a part of.
def under (step : Step) : ViewError → ViewError
  | .notObject place got => .notObject (step :: place) got
  | .field place fault => .field (step :: place) fault
  | .range place fault => .range (step :: place) fault
  | .idsInverted place startId endId => .idsInverted (step :: place) startId endId
  | .daysOutside place days => .daysOutside (step :: place) days
  | .malformedDay place key fault => .malformedDay (step :: place) key fault
  | .malformedText => .malformedText
  | .request fault => .request fault

-- The place in a payload that an error is about, except that of a day key.
def place? : ViewError → Option Path
  | .notObject place _ => some place
  | .field place _ => some place
  | .range place _ => some place
  | .idsInverted place _ _ => some place
  | .daysOutside place _ => some place
  | .malformedDay _ _ _ => none
  | .malformedText => none
  | .request _ => none

theorem place?_under (step : Step) (e : ViewError) :
    (e.under step).place? = e.place?.map (step :: ·) := by
  cases e <;> rfl

theorem isValidation_of_place? {e : ViewError} {place : Path} (h : e.place? = some place) :
    e.isValidation = true := by
  cases e with
  | malformedText => contradiction
  | malformedDay => contradiction
  | request => contradiction
  | _ => rfl

theorem message_of_isValidation {e : ViewError} (h : e.isValidation = true) :
    e.message = "Validation error: " ++ e.detail := if_pos h

-- Below the value that was read, a message starts with the place it is about.
theorem detail_notObject_cons (step : Step) (rest : Path) (got : Json.Kind) :
    (notObject (step :: rest) got).detail =
      Path.text (step :: rest) ++ " must be a JSON object, got " ++ got.name := rfl

theorem detail_field (place : Path) (fault : FieldFault) :
    (field place fault).detail = place.text ++ " " ++ fault.message := rfl

theorem detail_range_cons (step : Step) (rest : Path) (fault : TimeRange.Fault) :
    (range (step :: rest) fault).detail = Path.text (step :: rest) ++ ": " ++ fault.message := rfl

theorem detail_idsInverted_cons (step : Step) (rest : Path) (startId endId : Int) :
    (idsInverted (step :: rest) startId endId).detail = Path.text (step :: rest) ++ ": " ++
      ("endId " ++ Decimal.ofInt endId ++ " is before startId " ++ Decimal.ofInt startId) := rfl

theorem detail_daysOutside_cons (step : Step) (rest : Path) (days : List DayKey) :
    (daysOutside (step :: rest) days).detail = Path.text (step :: rest) ++ ": " ++
      ("day(s) " ++ listed days ++ " fall outside the overall range") := rfl

theorem exists_detail_of_place? {e : ViewError} {step : Step} {rest : Path}
    (h : e.place? = some (step :: rest)) : ∃ m, e.detail = Path.text (step :: rest) ++ m := by
  cases e with
  | malformedText => contradiction
  | malformedDay => contradiction
  | request => contradiction
  | notObject place got =>
      cases h
      rw [detail_notObject_cons, String.append_assoc]
      exact ⟨_, rfl⟩
  | field place fault =>
      cases h
      rw [detail_field, String.append_assoc]
      exact ⟨_, rfl⟩
  | range place fault =>
      cases h
      rw [detail_range_cons, String.append_assoc]
      exact ⟨_, rfl⟩
  | idsInverted place startId endId =>
      cases h
      rw [detail_idsInverted_cons, String.append_assoc]
      exact ⟨_, rfl⟩
  | daysOutside place days =>
      cases h
      rw [detail_daysOutside_cons, String.append_assoc]
      exact ⟨_, rfl⟩

-- An error of an item of an array starts its message with the name of the item.
theorem exists_message_of_item {e : ViewError} {place : Path} (h : e.place? = some place)
    (name : String) (k : Nat) :
    ((e.under (.index k)).under (.field name)).isValidation = true ∧
      ∃ rest, ((e.under (.index k)).under (.field name)).message =
        "Validation error: " ++ (Path.itemName name k ++ rest) := by
  have hplace : ((e.under (.index k)).under (.field name)).place? =
      some (.field name :: .index k :: place) := by
    rw [place?_under, place?_under, h]
    rfl
  have hv := isValidation_of_place? hplace
  obtain ⟨m, hm⟩ := exists_detail_of_place? hplace
  refine ⟨hv, Path.onward place ++ m, ?_⟩
  rw [message_of_isValidation hv, hm, Path.text_item, String.append_assoc]

end ViewError

end Footage
