import Footage.Day.Days
import Footage.Proofs.Error
import Footage.Proofs.Payload

namespace Footage

namespace DayKey

-- Whether a text cannot be a key for a reason. Only a text of the right shape can name
-- a day that is not in the calendar.
def Fault.appliesTo : Fault → String → Bool
  | .shape, text => (numbers? text.toList).isNone
  | .calendar, text =>
    match numbers? text.toList with
    | some (year, month, day) => (Date.of? year month day).isNone
    | none => false

theorem parse_eq_shape_iff {text : String} :
    parse text = .error .shape ↔ Fault.shape.appliesTo text = true := by
  have happlies : Fault.shape.appliesTo text = (numbers? text.toList).isNone := rfl
  rw [happlies]
  unfold parse
  split
  · rename_i hn
    simp [hn]
  · rename_i hn
    split <;> simp [hn]

theorem parse_eq_calendar_iff {text : String} :
    parse text = .error .calendar ↔ Fault.calendar.appliesTo text = true := by
  simp only [Fault.appliesTo]
  unfold parse
  split
  · rename_i hn
    simp [hn]
  · rename_i hn
    split <;> simp_all

theorem parse_eq_error_iff {text : String} {fault : Fault} :
    parse text = .error fault ↔ fault.appliesTo text = true := by
  cases fault with
  | shape => exact parse_eq_shape_iff
  | calendar => exact parse_eq_calendar_iff

end DayKey

namespace Path

-- The place of a value that is reached through objects alone.
def fields (names : List String) : Path := names.map .field

theorem fields_concat (names : List String) (name : String) :
    fields (names ++ [name]) = fields names ++ [.field name] := List.map_append

theorem text_fields (names : List String) : text (fields names) = ".".intercalate names := by
  induction names with
  | nil => rfl
  | cons name names ih =>
      cases names with
      | nil => exact String.append_empty
      | cons next rest =>
          rw [String.intercalate_cons_cons, ← ih, String.append_assoc]
          exact congrArg (name ++ ·) (onward_field next (fields rest))

end Path

namespace Payload

-- What is asked of the value under a name.
inductive FieldRule
  | given
  | text
  | number
  | word
  | count

-- How a value breaks a rule. What an earlier rule asks for is not asked again.
def FieldRule.fault? (found : Option Json) (rule : FieldRule) : Option FieldFault :=
  match rule, found with
  | .given, none => some .missing
  | .text, some v => if v.kind = .string then none else some (.notString v.kind)
  | .number, some v => if v.kind = .number then none else some (.notInteger v.kind)
  | .word, some (.number (.integer n)) =>
    if Word.Fits n then none else some (.outsideWord (.integer n))
  | .word, some (.number (.real x)) => some (.outsideWord (.real x))
  | .count, some (.number (.integer n)) => if n < 0 then some (.negative n) else none
  | _, _ => none

-- What is asked of the three numbers of a range.
inductive RangeRule
  | last
  | order
  | excess

def RangeRule.fault? (start stop present : Int) : RangeRule → Option TimeRange.Fault
  | .last => if Tick.last < stop then some (.pastLast stop) else none
  | .order => if stop < start then some (.inverted start stop) else none
  | .excess => if stop - start < present then some (.excess present (stop - start)) else none

def integer? : Option Json → Option Int
  | some (.number (.integer n)) => some n
  | _ => none

-- The members of an object. What is no object has none.
def membersOf : Json → Members
  | .object ms => ms
  | _ => []

-- One thing that is looked at in a payload, at a place that is given by its names.
inductive Check
  | object (place : List String) (v : Json)
  | field (place : List String) (rule : FieldRule) (found : Option Json)
  | range (place : List String) (rule : RangeRule) (start stop present : Option Json)
  | key (place : List String) (rule : DayKey.Fault) (text : String)
  | containment (place : List String) (outside : List DayKey)

-- What a check has against a payload. It does not look at any other check.
def Check.error? : Check → Option ViewError
  | .object place v =>
    if v.kind = .object then none else some (.notObject (Path.fields place) v.kind)
  | .field place rule found => (rule.fault? found).map (.field (Path.fields place))
  | .range place rule start stop present => do
    let fault? := rule.fault? (← integer? start) (← integer? stop) (← integer? present)
    fault?.map (.range (Path.fields place))
  | .key place rule text =>
    if rule.appliesTo text then some (.malformedDay (Path.fields place) text rule) else none
  | .containment place outside =>
    if outside = [] then none else some (.daysOutside (Path.fields place) outside)

def fieldChecks (rules : List FieldRule) (place : List String) (ms : Members) (name : String) :
    List Check :=
  rules.map fun rule => .field (place ++ [name]) rule (find? ms name)

def textChecks : List String → Members → String → List Check := fieldChecks [.given, .text]

def countChecks : List String → Members → String → List Check :=
  fieldChecks [.given, .number, .word, .count]

-- The numbers of a range are looked at one by one before they are compared.
def rangeChecks (place : List String) (ms : Members) (names : RangeNames) : List Check :=
  countChecks place ms names.start ++ countChecks place ms names.stop
  ++ countChecks place ms names.present
  ++ [.last, .order, .excess].map fun rule =>
    .range place rule (find? ms names.start) (find? ms names.stop) (find? ms names.present)

-- Of a listed day the key comes first.
def dayChecks (place : List String) (entry : String × Json) : List Check :=
  .key place .shape entry.1 :: .key place .calendar entry.1 ::
    .object (place ++ [entry.1]) entry.2 ::
    rangeChecks (place ++ [entry.1]) (membersOf entry.2) TimeRange.names

def listingChecks (place : List String) (v : Json) : List Check :=
  .object place v :: (membersOf v).flatMap (dayChecks place)

def failure? {ε α : Type} : Except ε α → Option ε
  | .error e => some e
  | .ok _ => none

-- A reader fails just when one of the checks does, with what the first of those has to
-- say.
def Explains {α : Type} (checks : List Check) (r : Read α) : Prop :=
  checks.findSome? Check.error? = failure? r

section Explains

variable {α β : Type} {place : List String} {ms : Members} {name : String}

-- The later checks count for nothing when an earlier one fails, and otherwise they are
-- about what was read so far.
theorem Explains.bind {xs ys : List Check} {x : Read α} {f : α → Read β} (hx : Explains xs x)
    (hf : ∀ a, x = .ok a → Explains ys (f a)) : Explains (xs ++ ys) (x >>= f) := by
  unfold Explains at hx ⊢
  rw [List.findSome?_append, hx]
  cases x with
  | error e => rfl
  | ok a => exact hf a rfl

theorem Explains.map {xs : List Check} {x : Read α} (hx : Explains xs x) (f : α → β) :
    Explains xs (x >>= fun a => pure (f a)) := by
  cases x <;> exact hx

theorem explains_members (v : Json) :
    Explains [.object place v] (members (Path.fields place) v) := by
  cases v <;> rfl

theorem explains_fieldChecks {rules : List FieldRule} {r : Read α}
    (h : failure? r = (rules.findSome? (FieldRule.fault? (find? ms name))).map
      (.field (Path.fields place ++ [.field name]))) :
    Explains (fieldChecks rules place ms name) r := by
  unfold Explains fieldChecks
  rw [h, ← Path.fields_concat, List.map_findSome?, List.findSome?_map]
  rfl

theorem explains_string :
    Explains (textChecks place ms name) (string (Path.fields place) ms name) := by
  apply explains_fieldChecks
  unfold string required
  cases find? ms name with
  | none => rfl
  | some v => cases v <;> rfl

theorem explains_natural :
    Explains (countChecks place ms name) (natural (Path.fields place) ms name) := by
  apply explains_fieldChecks
  unfold natural required
  cases find? ms name with
  | none => rfl
  | some v =>
      cases v with
      | number n =>
          cases n with
          | real x => rfl
          | integer n =>
              simp only [word, bind, Except.bind, List.findSome?_cons, FieldRule.fault?, Json.kind]
              by_cases hw : Word.Fits n
              · by_cases hn : n < 0
                · simp only [if_pos hw, if_pos hn]
                  rfl
                · simp only [if_pos hw, if_neg hn]
                  rfl
              · simp only [if_neg hw]
                rfl
      | _ => rfl

-- Once no number is below 0, a range is made by the other three rules alone.
theorem failure?_make {start stop present : Int} (hs : 0 ≤ start) (he : 0 ≤ stop)
    (hp : 0 ≤ present) :
    failure? (TimeRange.make start stop present) =
      [RangeRule.last, .order, .excess].findSome? (RangeRule.fault? start stop present) := by
  unfold TimeRange.make
  rw [dif_neg (by omega), if_neg (by omega), dif_neg (by omega)]
  simp only [List.findSome?_cons, RangeRule.fault?]
  by_cases hlast : Tick.last < stop
  · rw [dif_pos hlast, if_pos hlast]
    rfl
  rw [dif_neg hlast, if_neg hlast]
  by_cases horder : stop < start
  · rw [dif_pos horder, if_pos horder]
    rfl
  rw [dif_neg horder, if_neg horder]
  by_cases hexcess : stop - start < present
  · rw [dif_pos hexcess, if_pos hexcess]
    rfl
  · rw [dif_neg hexcess, if_neg hexcess]
    rfl

theorem Counts.integer? {n : Int} (h : Counts ms name n) : integer? (find? ms name) = some n := by
  rw [find?_eq_some_iff.mpr ⟨h.1, nofun⟩]
  rfl

theorem explains_make {start stop present : Int} {names : RangeNames}
    (hs : Counts ms names.start start) (he : Counts ms names.stop stop)
    (hp : Counts ms names.present present) :
    Explains ([.last, .order, .excess].map fun rule =>
        .range place rule (find? ms names.start) (find? ms names.stop) (find? ms names.present))
      ((TimeRange.make start stop present).mapError (.range (Path.fields place))) := by
  have hfailure : failure? ((TimeRange.make start stop present).mapError
        (ViewError.range (Path.fields place))) =
      (failure? (TimeRange.make start stop present)).map (.range (Path.fields place)) := by
    cases TimeRange.make start stop present <;> rfl
  unfold Explains
  rw [hfailure, failure?_make hs.2.1 he.2.1 hp.2.1, List.map_findSome?, List.findSome?_map]
  simp only [Function.comp_def, Check.error?, hs.integer?, he.integer?, hp.integer?,
    Option.bind_eq_bind, Option.bind_some]

theorem explains_range (names : RangeNames) :
    Explains (rangeChecks place ms names) (range (Path.fields place) ms names) := by
  unfold rangeChecks
  rw [List.append_assoc, List.append_assoc]
  refine explains_natural.bind fun start hs => ?_
  refine explains_natural.bind fun stop he => ?_
  refine explains_natural.bind fun present hp => ?_
  exact explains_make (natural_eq_ok_iff.mp hs) (natural_eq_ok_iff.mp he) (natural_eq_ok_iff.mp hp)

theorem explains_parse (text : String) :
    Explains [.key place .shape text, .key place .calendar text]
      ((DayKey.parse text).mapError (.malformedDay (Path.fields place) text)) := by
  have happlies : ∀ fault : DayKey.Fault, fault.appliesTo text = true ↔
      DayKey.parse text = .error fault := fun _ => DayKey.parse_eq_error_iff.symm
  unfold Explains
  simp only [List.findSome?_cons, Check.error?, happlies]
  cases DayKey.parse text with
  | ok key => rfl
  | error fault => cases fault <;> rfl

theorem explains_readEntry (entry : String × Json) :
    Explains (dayChecks place entry) (Days.readEntry (Path.fields place) entry) := by
  unfold Days.readEntry
  rw [← Path.fields_concat]
  refine (explains_parse entry.1).bind fun key _ => ?_
  refine (explains_members entry.2).bind fun ms hms => ?_
  rw [members_eq_ok_iff.mp hms]
  exact (explains_range TimeRange.names).map _

theorem explains_readEntries (listed : Members) :
    Explains (listed.flatMap (dayChecks place))
      (Days.readEntries (Path.fields place) listed) := by
  induction listed with
  | nil => rfl
  | cons entry rest ih =>
      rw [List.flatMap_cons]
      exact (explains_readEntry entry).bind fun _ _ => ih.map _

theorem explains_listing (v : Json) :
    Explains (listingChecks place v) (Days.read (Path.fields place) v) := by
  refine (explains_members v).bind fun listed hv => ?_
  rw [members_eq_ok_iff.mp hv]
  exact (explains_readEntries listed).map _

end Explains

namespace Check

-- The place that a check is about, except that of a day key.
def place? : Check → Option (List String)
  | .object place _ => some place
  | .field place _ _ => some place
  | .range place _ _ _ _ => some place
  | .key _ _ _ => none
  | .containment place _ => some place

-- What comes of a check that fails. The rules for a range do not ask again for numbers
-- from 0 on.
inductive Says : Check → ViewError → Prop
  | object (place : List String) (v : Json) :
      Says (.object place v) (.notObject (Path.fields place) v.kind)
  | field (place : List String) (rule : FieldRule) (found : Option Json) (fault : FieldFault) :
      Says (.field place rule found) (.field (Path.fields place) fault)
  | range (place : List String) (rule : RangeRule) (start stop present : Option Json)
      {fault : TimeRange.Fault} (h : ∀ mark tick, fault ≠ .negative mark tick) :
      Says (.range place rule start stop present) (.range (Path.fields place) fault)
  | key (place : List String) (rule : DayKey.Fault) (text : String) :
      Says (.key place rule text) (.malformedDay (Path.fields place) text rule)
  | containment (place : List String) (outside : List DayKey) :
      Says (.containment place outside) (.daysOutside (Path.fields place) outside)

variable {check : Check} {place : List String} {e : ViewError}

theorem ne_negative_of_fault? {rule : RangeRule} {start stop present : Int}
    {fault : TimeRange.Fault} (h : rule.fault? start stop present = some fault)
    (mark : TimeRange.Mark) (tick : Int) : fault ≠ .negative mark tick := by
  rintro rfl
  cases rule <;> simp [RangeRule.fault?] at h

theorem says_of_error? (h : check.error? = some e) : check.Says e := by
  cases check with
  | object place v =>
      simp only [error?, Option.ite_none_left_eq_some, Option.some.injEq] at h
      obtain ⟨-, rfl⟩ := h
      exact .object place v
  | field place rule found =>
      obtain ⟨fault, -, rfl⟩ := Option.map_eq_some_iff.mp h
      exact .field place rule found fault
  | range place rule start stop present =>
      simp only [error?, Option.bind_eq_bind, Option.bind_eq_some_iff,
        Option.map_eq_some_iff] at h
      obtain ⟨_, -, _, -, _, -, fault, hfault, rfl⟩ := h
      exact .range place rule start stop present (ne_negative_of_fault? hfault)
  | key place rule text =>
      simp only [error?, Option.ite_none_right_eq_some, Option.some.injEq] at h
      obtain ⟨-, rfl⟩ := h
      exact .key place rule text
  | containment place outside =>
      simp only [error?, Option.ite_none_left_eq_some, Option.some.injEq] at h
      obtain ⟨-, rfl⟩ := h
      exact .containment place outside

theorem Says.place? (h : check.Says e) (hplace : check.place? = some place) :
    e.place? = some (Path.fields place) := by
  cases h <;> cases hplace <;> rfl

theorem Says.ne_negative (h : check.Says e) (path : Path) (mark : TimeRange.Mark) (tick : Int) :
    e ≠ .range path (.negative mark tick) := by
  cases h with
  | range _ _ _ _ _ hfault =>
      rintro he
      cases he
      exact hfault mark tick rfl
  | _ => nofun

-- Apart from day keys a check fails with a message that starts with the names on the way
-- to what it is about.
theorem Says.message (h : check.Says e) (hplace : check.place? = some place) :
    e.isValidation = true ∧ (place ≠ [] →
      ∃ rest, e.message = "Validation error: " ++ (".".intercalate place ++ rest)) := by
  have he := h.place? hplace
  have hv := ViewError.isValidation_of_place? he
  refine ⟨hv, ?_⟩
  intro hne
  obtain ⟨name, names, rfl⟩ := List.exists_cons_of_ne_nil hne
  obtain ⟨rest, hrest⟩ := ViewError.exists_detail_of_place? he
  refine ⟨rest, ?_⟩
  rw [ViewError.message_of_isValidation hv, hrest, ← Path.text_fields]
  rfl

end Check

end Payload

end Footage
