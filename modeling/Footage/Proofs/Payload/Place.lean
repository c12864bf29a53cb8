import Footage.Proofs.Error
import Footage.Proofs.Payload

namespace Footage.Payload

section Below

variable {α β : Type} {step : Step} {x : Read α}

-- The same reading, with its error seen from one step further outside.
def below (step : Step) (x : Read α) : Read α := x.mapError (·.under step)

theorem below_eq_ok_iff {a : α} : below step x = .ok a ↔ x = .ok a := mapError_eq_ok_iff

theorem below_eq_error_iff {e : ViewError} :
    below step x = .error e ↔ ∃ inner, x = .error inner ∧ inner.under step = e :=
  mapError_eq_error_iff

theorem below_bind (f : α → Read β) :
    below step (x >>= f) = below step x >>= fun a => below step (f a) := by
  cases x <;> rfl

theorem below_map (f : α → β) : below step (x.map f) = (below step x).map f := by
  cases x <;> rfl

end Below

-- A reader that does at every place what it does further outside, and names its errors
-- from there on.
def Placed {α : Type} (read : Path → Read α) : Prop :=
  ∀ step place, read (step :: place) = below step (read place)

namespace Placed

variable {α β : Type}

theorem ok (a : α) : Placed fun _ => (.ok a : Read α) := fun _ _ => rfl

theorem fail {error : Path → ViewError}
    (h : ∀ step place, (error place).under step = error (step :: place)) :
    Placed fun place => (.error (error place) : Read α) :=
  fun step place => congrArg Except.error (h step place).symm

theorem bind {read : Path → Read α} {next : α → Path → Read β} (hread : Placed read)
    (hnext : ∀ a, Placed (next a)) : Placed fun place => read place >>= fun a => next a place := by
  intro step place
  have hrest : (fun a => next a (step :: place)) = fun a => below step (next a place) :=
    funext fun a => hnext a step place
  show read (step :: place) >>= (fun a => next a (step :: place)) = _
  rw [below_bind, hread, hrest]

theorem map {read : Path → Read α} (hread : Placed read) (f : α → β) :
    Placed fun place => (read place).map f := by
  intro step place
  show (read (step :: place)).map f = _
  rw [below_map, hread]

theorem ite {p : Prop} [Decidable p] {yes no : Path → Read α} (hyes : Placed yes)
    (hno : Placed no) : Placed fun place => if p then yes place else no place := by
  by_cases h : p
  · simpa only [if_pos h] using hyes
  · simpa only [if_neg h] using hno

-- What is no error of a payload yet becomes one that is placed.
theorem mapError {ε : Type} {error : Path → ε → ViewError}
    (h : ∀ step place fault, (error place fault).under step = error (step :: place) fault)
    (x : Except ε α) : Placed fun place => x.mapError (error place) := by
  intro step place
  cases x with
  | ok a => rfl
  | error fault => exact congrArg Except.error (h step place fault).symm

-- A reader of what stands inside a value moves with the value.
theorem inside {read : Path → Read α} (hread : Placed read) (inner : Path) :
    Placed fun place => read (place ++ inner) := fun step place => hread step (place ++ inner)

-- Whether a reader succeeds, and with what, does not depend on the place.
theorem eq_ok_iff {read : Path → Read α} (hread : Placed read) {place : Path} {a : α} :
    read place = .ok a ↔ read [] = .ok a := by
  induction place with
  | nil => rfl
  | cons step place ih => rw [hread, below_eq_ok_iff, ih]

-- An error of a reader is the one it has at the root of a document, moved to its place.
theorem eq_error_iff {read : Path → Read α} (hread : Placed read) {place : Path} {e : ViewError} :
    read place = .error e ↔
      ∃ inner, read [] = .error inner ∧ place.foldr ViewError.under inner = e := by
  induction place generalizing e with
  | nil => simp
  | cons step place ih =>
      simp only [hread step place, below_eq_error_iff, ih, List.foldr_cons]
      constructor
      · rintro ⟨_, ⟨inner, hx, rfl⟩, rfl⟩
        exact ⟨inner, hx, rfl⟩
      · rintro ⟨inner, hx, rfl⟩
        exact ⟨_, ⟨inner, hx, rfl⟩, rfl⟩

end Placed

section Readers

variable (ms : Members) (name : String)

theorem placed_members (v : Json) : Placed fun place => members place v := by
  cases v with
  | object ms => exact .ok ms
  | _ => exact .fail fun _ _ => rfl

theorem placed_faulty {α : Type} (fault : FieldFault) :
    Placed fun place => (faulty place name fault : Read α) := .fail fun _ _ => rfl

theorem placed_required : Placed fun place => required place ms name := by
  unfold required
  cases find? ms name with
  | none => exact placed_faulty name .missing
  | some v => exact .ok v

theorem placed_string : Placed fun place => string place ms name := by
  refine (placed_required ms name).bind fun v => ?_
  cases v with
  | string s => exact .ok s
  | _ => exact placed_faulty name _

theorem placed_word (v : Json) : Placed fun place => word place name v := by
  unfold word
  split
  · exact .ite (.ok _) (placed_faulty name _)
  · exact placed_faulty name _
  · exact placed_faulty name _

theorem placed_natural : Placed fun place => natural place ms name := by
  refine (placed_required ms name).bind fun v => (placed_word name v).bind fun n => ?_
  exact .ite (placed_faulty name _) (.ok n)

theorem placed_optionalInt : Placed fun place => optionalInt place ms name := by
  unfold optionalInt
  cases find? ms name with
  | none => exact .ok none
  | some v => exact (placed_word name v).map some

theorem placed_flag : Placed fun place => flag place ms name := by
  unfold flag
  cases find? ms name with
  | none => exact .ok false
  | some v =>
      cases v with
      | bool b => exact .ok b
      | _ => exact placed_faulty name _

theorem placed_range (names : RangeNames) : Placed fun place => range place ms names := by
  refine (placed_natural ms _).bind fun start => ?_
  refine (placed_natural ms _).bind fun stop => ?_
  refine (placed_natural ms _).bind fun present => ?_
  exact .mapError (fun _ _ _ => rfl) _

end Readers

end Footage.Payload
