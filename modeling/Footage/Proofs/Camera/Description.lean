import Footage.Proofs.Day.Days
import Footage.Camera

namespace Footage.Camera

open Payload

-- The days that a payload lists. It may list none.
def DaysAt (ms : Members) (d : Days) : Prop :=
  ((ms.lookup "days" = none ∨ ms.lookup "days" = some .null) ∧ d = .empty) ∨
    ∃ listed, ms.lookup "days" = some (.object listed) ∧
      List.Forall₂ Days.EntryAt listed d.entries

theorem readDays_eq_ok_iff {place : Path} {ms : Members} {d : Days} :
    readDays place ms = .ok d ↔ DaysAt ms d := by
  unfold readDays DaysAt
  cases h : find? ms "days" with
  | none =>
      have hn := find?_eq_none_iff.mp h
      constructor
      · intro hd
        exact Or.inl ⟨hn, (Except.ok.inj hd).symm⟩
      · rintro (⟨-, rfl⟩ | ⟨listed, hl, -⟩)
        · rfl
        · rcases hn with hn | hn <;> simp [hn] at hl
  | some v =>
      obtain ⟨hl, hv⟩ := find?_eq_some_iff.mp h
      simp only [Days.read_eq_ok_iff, hl, reduceCtorEq, Option.some.injEq, hv,
        or_self, false_and, false_or]

-- What a payload says of a camera.
structure Describes (ms : Members) (c : Camera) : Prop where
  id : ms.lookup "id" = some (.string c.id)
  shortName : ms.lookup "shortName" = some (.string c.shortName)
  description : ms.lookup "description" = some (.string c.description)
  retainBytes : Counts ms "retainBytes" c.retainBytes
  usedBytes : Counts ms "totalSampleFileBytes" c.usedBytes
  overall : RangeAt ms overallNames c.overall
  days : DaysAt ms c.days

-- The payload of a camera, as it is listed by a recorder.
def payload (c : Camera) : Members :=
  [("id", .string c.id), ("shortName", .string c.shortName), ("description", .string c.description),
   ("retainBytes", .int c.retainBytes), (overallNames.start, .int c.overall.start),
   (overallNames.stop, .int c.overall.stop), (overallNames.present, .int c.overall.present),
   ("totalSampleFileBytes", .int c.usedBytes), ("days", c.days.toJson)]

-- A camera is described by its own payload, if its numbers of bytes are counts.
theorem describes_payload {c : Camera} (hr : 0 ≤ c.retainBytes ∧ c.retainBytes ≤ Word.greatest)
    (hu : 0 ≤ c.usedBytes ∧ c.usedBytes ≤ Word.greatest) : Describes c.payload c where
  id := rfl
  shortName := rfl
  description := rfl
  retainBytes := ⟨rfl, hr⟩
  usedBytes := ⟨rfl, hu⟩
  overall := ⟨rfl, rfl, rfl⟩
  days := Or.inr ⟨_, rfl, c.days.forall₂_entryAt⟩

-- A payload is read as the one camera it describes.
theorem read_eq_ok_iff {place : Path} {v : Json} {c : Camera} :
    read place v = .ok c ↔ ∃ ms, v = .object ms ∧ Describes ms c := by
  simp only [read, bind_eq_ok_iff, members_eq_ok_iff, string_eq_ok_iff, natural_eq_ok_iff,
    range_eq_ok_iff, readDays_eq_ok_iff, pure_eq_ok_iff]
  constructor
  · rintro ⟨ms, rfl, id, hi, shortName, hs, description, hd, retainBytes, hb, usedBytes, hu,
      overall, ho, days, hds, rfl⟩
    exact ⟨ms, rfl, hi, hs, hd, hb, hu, ho, hds⟩
  · rintro ⟨ms, rfl, h⟩
    exact ⟨ms, rfl, _, h.id, _, h.shortName, _, h.description, _, h.retainBytes, _, h.usedBytes,
      _, h.overall, _, h.days, rfl⟩

-- The rule about divergent days, without what is noted of them.
def settle (strict : Bool) (place : Path) (c : Camera) : Read Camera :=
  if strict && !c.divergent.isEmpty then
    .error (.daysOutside (place ++ [.field "days"]) c.divergent)
  else .ok c

theorem settle_eq_ok_iff {strict : Bool} {place : Path} {c d : Camera} :
    settle strict place c = .ok d ↔ c = d ∧ (strict = true → c.divergent = []) := by
  unfold settle
  cases strict
  · simp
  · cases h : c.divergent.isEmpty
    · have hne : c.divergent ≠ [] := by simpa using h
      simp [hne]
    · have he : c.divergent = [] := by simpa using h
      simp [he]

-- What comes of a payload, without what is noted of it.
def accept (strict : Bool) (place : Path) (v : Json) : Read Camera :=
  read place v >>= settle strict place

theorem accept_eq_ok_iff {strict : Bool} {place : Path} {v : Json} {c : Camera} :
    accept strict place v = .ok c ↔
      ∃ ms, v = .object ms ∧ Describes ms c ∧ (strict = true → c.divergent = []) := by
  simp only [accept, bind_eq_ok_iff, read_eq_ok_iff, settle_eq_ok_iff]
  constructor
  · rintro ⟨_, ⟨ms, rfl, h⟩, rfl, hstrict⟩
    exact ⟨ms, rfl, h, hstrict⟩
  · rintro ⟨ms, rfl, h, hstrict⟩
    exact ⟨c, ⟨ms, rfl, h⟩, rfl, hstrict⟩

theorem placed_readDays (ms : Members) : Placed fun place => readDays place ms := by
  unfold readDays
  cases find? ms "days" with
  | none => exact .ok Days.empty
  | some v => exact (Days.placed_read v).inside _

theorem placed_read (v : Json) : Placed fun place => read place v := by
  refine (placed_members v).bind fun ms => ?_
  refine (placed_string ms _).bind fun id => ?_
  refine (placed_string ms _).bind fun shortName => ?_
  refine (placed_string ms _).bind fun description => ?_
  refine (placed_natural ms _).bind fun retainBytes => ?_
  refine (placed_natural ms _).bind fun usedBytes => ?_
  refine (placed_range ms _).bind fun overall => ?_
  exact (placed_readDays ms).bind fun days => .ok _

theorem placed_settle (strict : Bool) (c : Camera) : Placed fun place => settle strict place c := by
  unfold settle
  exact .ite (.fail fun _ _ => rfl) (.ok c)

-- Where a payload stands has no part in whether a camera is read from it and in which
-- camera that is. It only moves the place of an error.
theorem placed_accept (strict : Bool) (v : Json) : Placed fun place => accept strict place v :=
  (placed_read v).bind (placed_settle strict)

-- What can be wrong with a payload, and where.
inductive FailsWith : ViewError → Prop
  | payload (got : Json.Kind) : FailsWith (.notObject [] got)
  | field (name : String) (fault : FieldFault) : FailsWith (.field [.field name] fault)
  | overall (fault : TimeRange.Fault) : FailsWith (.range [] fault)
  | days {inner : ViewError} (h : Days.FailsWith inner) : FailsWith (inner.under (.field "days"))
  | outside (days : List DayKey) : FailsWith (.daysOutside [.field "days"] days)

theorem failsWith_of_readDays_eq_error {ms : Members} {e : ViewError}
    (h : readDays [] ms = .error e) : FailsWith e := by
  unfold readDays at h
  split at h
  · contradiction
  · rename_i v _
    obtain ⟨inner, hi, rfl⟩ := (Days.placed_read v).eq_error_iff.mp h
    exact .days (Days.failsWith_of_read_eq_error hi)

theorem failsWith_of_read_eq_error {v : Json} {e : ViewError} (h : read [] v = .error e) :
    FailsWith e := by
  simp only [read, bind_eq_error_iff, pure_ne_error, and_false, exists_false, or_false] at h
  rcases h with h | ⟨_, -, h | ⟨_, -, h | ⟨_, -, h | ⟨_, -, h | ⟨_, -, h | ⟨_, -, h |
    ⟨_, -, h⟩⟩⟩⟩⟩⟩⟩
  · exact eq_of_members_eq_error h ▸ .payload _
  · obtain ⟨fault, rfl⟩ := field_of_string_eq_error h
    exact .field _ fault
  · obtain ⟨fault, rfl⟩ := field_of_string_eq_error h
    exact .field _ fault
  · obtain ⟨fault, rfl⟩ := field_of_string_eq_error h
    exact .field _ fault
  · obtain ⟨fault, rfl⟩ := field_of_natural_eq_error h
    exact .field _ fault
  · obtain ⟨fault, rfl⟩ := field_of_natural_eq_error h
    exact .field _ fault
  · rcases field_or_range_of_range_eq_error h with ⟨name, fault, rfl⟩ | ⟨fault, rfl⟩
    · exact .field name fault
    · exact .overall fault
  · exact failsWith_of_readDays_eq_error h

theorem failsWith_of_settle_eq_error {strict : Bool} {c : Camera} {e : ViewError}
    (h : settle strict [] c = .error e) : FailsWith e := by
  unfold settle at h
  split at h <;> cases h
  exact .outside _

theorem failsWith_of_accept_eq_error {strict : Bool} {v : Json} {e : ViewError}
    (h : accept strict [] v = .error e) : FailsWith e := by
  rcases bind_eq_error_iff.mp h with h | ⟨_, -, h⟩
  · exact failsWith_of_read_eq_error h
  · exact failsWith_of_settle_eq_error h

theorem divergent_eq_nil_iff {c : Camera} :
    c.divergent = [] ↔ ∀ day ∈ c.days.entries, c.overall.contains day.2 = true := by
  simp [divergent]

end Footage.Camera
