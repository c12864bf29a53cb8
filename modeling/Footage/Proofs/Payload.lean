import Mathlib.Data.List.Forall2
import Footage.Proofs.TimeRange
import Footage.TimeRange.Json

namespace Footage.Payload

section Steps

variable {ε δ α β : Type}

-- A chain of readers succeeds when all of them do, and fails with the first that
-- does not.
theorem bind_eq_ok_iff {x : Except ε α} {f : α → Except ε β} {b : β} :
    x >>= f = .ok b ↔ ∃ a, x = .ok a ∧ f a = .ok b := by
  cases x <;> simp [bind, Except.bind]

theorem bind_eq_error_iff {x : Except ε α} {f : α → Except ε β} {e : ε} :
    x >>= f = .error e ↔ x = .error e ∨ ∃ a, x = .ok a ∧ f a = .error e := by
  cases x <;> simp [bind, Except.bind]

theorem pure_eq_ok_iff {a b : α} : (pure a : Except ε α) = .ok b ↔ a = b := by
  simp [pure, Except.pure]

theorem pure_ne_error {a : α} {e : ε} : (pure a : Except ε α) ≠ .error e := nofun

theorem map_eq_ok_iff {x : Except ε α} {f : α → β} {b : β} :
    x.map f = .ok b ↔ ∃ a, x = .ok a ∧ f a = b := by
  cases x <;> simp [Except.map]

theorem map_eq_error_iff {x : Except ε α} {f : α → β} {e : ε} :
    x.map f = .error e ↔ x = .error e := by
  cases x <;> simp [Except.map]

theorem mapError_eq_ok_iff {x : Except ε α} {f : ε → δ} {a : α} :
    x.mapError f = .ok a ↔ x = .ok a := by
  cases x <;> simp [Except.mapError]

theorem mapError_eq_error_iff {x : Except ε α} {f : ε → δ} {d : δ} :
    x.mapError f = .error d ↔ ∃ e, x = .error e ∧ f e = d := by
  cases x <;> simp [Except.mapError]

-- A row can be read item by item when each of its items can be read.
theorem exists_forall₂_iff {R : α → β → Prop} {P : β → Prop} {as : List α} :
    (∃ bs, List.Forall₂ R as bs ∧ ∀ b ∈ bs, P b) ↔ ∀ a ∈ as, ∃ b, R a b ∧ P b := by
  induction as with
  | nil => simp
  | cons a as ih =>
      rw [List.forall_mem_cons, ← ih]
      constructor
      · rintro ⟨_, hr, hp⟩
        cases hr with
        | cons h hs =>
            rw [List.forall_mem_cons] at hp
            exact ⟨⟨_, h, hp.1⟩, _, hs, hp.2⟩
      · rintro ⟨⟨b, hb, hp⟩, bs, hbs, hps⟩
        exact ⟨b :: bs, .cons hb hbs, List.forall_mem_cons.mpr ⟨hp, hps⟩⟩

theorem exists_forall₂_iff_forall {R : α → β → Prop} {as : List α} :
    (∃ bs, List.Forall₂ R as bs) ↔ ∀ a ∈ as, ∃ b, R a b := by
  simpa using exists_forall₂_iff (R := R) (P := fun _ => True)

-- Two conditions that agree item by item agree on the two rows.
theorem forall_mem_iff_of_forall₂ {P : α → Prop} {Q : β → Prop} {as : List α} {bs : List β}
    (h : List.Forall₂ (fun a b => Q b ↔ P a) as bs) : (∀ b ∈ bs, Q b) ↔ ∀ a ∈ as, P a := by
  induction h with
  | nil => simp
  | cons hab _ ih => rw [List.forall_mem_cons, List.forall_mem_cons, hab, ih]

-- The first item of a row that cannot be read, and why.
structure FirstFails (read : α → Except ε β) (items : List α) (k : Nat) (e : ε) : Prop where
  refused : ∃ item, items[k]? = some item ∧ read item = .error e
  earlier : ∀ (j : Nat) (item : α), j < k → items[j]? = some item → ∃ b, read item = .ok b

theorem FirstFails.here {read : α → Except ε β} {item : α} {e : ε} (h : read item = .error e)
    (rest : List α) : FirstFails read (item :: rest) 0 e :=
  ⟨⟨item, rfl, h⟩, fun j _ hj => absurd hj (Nat.not_lt_zero j)⟩

theorem FirstFails.later {read : α → Except ε β} {item : α} {b : β} (h : read item = .ok b)
    {rest : List α} {k : Nat} {e : ε} (hrest : FirstFails read rest k e) :
    FirstFails read (item :: rest) (k + 1) e := by
  refine ⟨hrest.refused, ?_⟩
  intro j other hj hget
  cases j with
  | zero =>
      cases hget
      exact ⟨b, h⟩
  | succ j => exact hrest.earlier j other (Nat.lt_of_succ_lt_succ hj) hget

-- Each item of a row goes with the one that has its number in the other row.
theorem exists_getElem?_of_forall₂ {R : α → β → Prop} {as : List α} {bs : List β}
    (h : List.Forall₂ R as bs) {i : Nat} {b : β} (hb : bs[i]? = some b) :
    ∃ a, as[i]? = some a ∧ R a b := by
  induction h generalizing i with
  | nil => simp at hb
  | @cons a _ as _ hab _ ih =>
      cases i with
      | zero =>
          cases hb
          exact ⟨a, rfl, hab⟩
      | succ i => exact ih hb

end Steps

variable {place : Path} {ms : Members} {name : String}

theorem members_eq_ok_iff {v : Json} : members place v = .ok ms ↔ v = .object ms := by
  cases v <;> simp [members]

theorem eq_of_members_eq_error {v : Json} {e : ViewError} (h : members place v = .error e) :
    e = .notObject place v.kind := by
  cases v <;> cases h <;> rfl

theorem find?_eq_some_iff {v : Json} :
    find? ms name = some v ↔ ms.lookup name = some v ∧ v ≠ .null := by
  unfold find?
  split
  · rename_i h
    simp only [h, reduceCtorEq, Option.some.injEq, false_iff, not_and, not_not]
    exact Eq.symm
  · rename_i hn
    constructor
    · intro h
      exact ⟨h, fun he => hn (he ▸ h)⟩
    · exact And.left

theorem find?_eq_none_iff :
    find? ms name = none ↔ ms.lookup name = none ∨ ms.lookup name = some .null := by
  unfold find?
  split
  · rename_i h
    simp [h]
  · rename_i hn
    simp only [iff_self_or]
    intro h
    exact absurd h hn

theorem required_eq_ok_iff {v : Json} :
    required place ms name = .ok v ↔ ms.lookup name = some v ∧ v ≠ .null := by
  rw [← find?_eq_some_iff]
  unfold required
  cases find? ms name <;> simp [faulty]

-- A value stands under a name when the reader for values of its kind finds it there.
theorem required_bind_eq_ok_iff {α : Type} (write : α → Json) {read : Json → Read α}
    (hn : ∀ a, write a ≠ .null) (hr : ∀ v a, read v = .ok a ↔ v = write a) {a : α} :
    required place ms name >>= read = .ok a ↔ ms.lookup name = some (write a) := by
  simp only [bind_eq_ok_iff, required_eq_ok_iff, hr]
  constructor
  · rintro ⟨_, ⟨hl, -⟩, rfl⟩
    exact hl
  · intro h
    exact ⟨_, ⟨h, hn a⟩, rfl⟩

theorem string_eq_ok_iff {s : String} :
    string place ms name = .ok s ↔ ms.lookup name = some (.string s) := by
  apply required_bind_eq_ok_iff Json.string nofun
  intro v s
  cases v <;> simp [faulty]

theorem array_eq_ok_iff {items : List Json} :
    array place ms name = .ok items ↔ ms.lookup name = some (.array items) := by
  apply required_bind_eq_ok_iff Json.array nofun
  intro v items
  cases v <;> simp [faulty]

theorem word_eq_ok_iff {v : Json} {n : Int} :
    word place name v = .ok n ↔ v = .int n ∧ Word.Fits n := by
  unfold word
  split
  · rename_i m
    split
    · rename_i hm
      simp only [Except.ok.injEq, Json.int, Json.number.injEq, Number.integer.injEq]
      exact ⟨fun h => ⟨h, h ▸ hm⟩, And.left⟩
    · rename_i hm
      simp only [faulty, reduceCtorEq, Json.int, Json.number.injEq, Number.integer.injEq, false_iff]
      rintro ⟨rfl, hf⟩
      exact hm hf
  · simp [faulty, Json.int]
  · rename_i hi hr
    simp only [faulty, reduceCtorEq, false_iff]
    rintro ⟨rfl, -⟩
    exact hi n rfl

-- An error of a reader of one member is about the field with its name.
theorem field_of_required_eq_error {e : ViewError} (h : required place ms name = .error e) :
    ∃ fault, e = .field (place ++ [.field name]) fault := by
  unfold required at h
  split at h <;> cases h
  exact ⟨_, rfl⟩

theorem field_of_required_bind_eq_error {α : Type} {read : Json → Read α}
    (hr : ∀ v e, read v = .error e → ∃ fault, e = .field (place ++ [.field name]) fault)
    {e : ViewError} (h : required place ms name >>= read = .error e) :
    ∃ fault, e = .field (place ++ [.field name]) fault := by
  rcases bind_eq_error_iff.mp h with h | ⟨v, -, h⟩
  · exact field_of_required_eq_error h
  · exact hr v e h

theorem field_of_string_eq_error {e : ViewError} (h : string place ms name = .error e) :
    ∃ fault, e = .field (place ++ [.field name]) fault := by
  refine field_of_required_bind_eq_error (fun v e hv => ?_) h
  cases v <;> cases hv <;> exact ⟨_, rfl⟩

theorem field_of_array_eq_error {e : ViewError} (h : array place ms name = .error e) :
    ∃ fault, e = .field (place ++ [.field name]) fault := by
  refine field_of_required_bind_eq_error (fun v e hv => ?_) h
  cases v <;> cases hv <;> exact ⟨_, rfl⟩

theorem field_of_word_eq_error {v : Json} {e : ViewError} (h : word place name v = .error e) :
    ∃ fault, e = .field (place ++ [.field name]) fault := by
  unfold word at h
  repeat' split at h
  all_goals cases h
  all_goals exact ⟨_, rfl⟩

theorem field_of_natural_eq_error {e : ViewError} (h : natural place ms name = .error e) :
    ∃ fault, e = .field (place ++ [.field name]) fault := by
  refine field_of_required_bind_eq_error (fun v e hv => ?_) h
  rcases bind_eq_error_iff.mp hv with hv | ⟨n, -, hv⟩
  · exact field_of_word_eq_error hv
  · split at hv <;> cases hv
    exact ⟨_, rfl⟩

theorem field_of_optionalInt_eq_error {e : ViewError} (h : optionalInt place ms name = .error e) :
    ∃ fault, e = .field (place ++ [.field name]) fault := by
  unfold optionalInt at h
  split at h
  · contradiction
  · exact field_of_word_eq_error (map_eq_error_iff.mp h)

theorem field_of_flag_eq_error {e : ViewError} (h : flag place ms name = .error e) :
    ∃ fault, e = .field (place ++ [.field name]) fault := by
  unfold flag at h
  split at h <;> cases h
  exact ⟨_, rfl⟩

theorem field_or_range_of_range_eq_error {names : RangeNames} {e : ViewError}
    (h : range place ms names = .error e) :
    (∃ field fault, e = .field (place ++ [.field field]) fault) ∨
      ∃ fault, e = .range place fault := by
  simp only [range, bind_eq_error_iff] at h
  rcases h with h | ⟨_, -, h | ⟨_, -, h | ⟨_, -, h⟩⟩⟩
  · exact Or.inl ⟨_, field_of_natural_eq_error h⟩
  · exact Or.inl ⟨_, field_of_natural_eq_error h⟩
  · exact Or.inl ⟨_, field_of_natural_eq_error h⟩
  · obtain ⟨fault, -, rfl⟩ := mapError_eq_error_iff.mp h
    exact Or.inr ⟨fault, rfl⟩

-- An integer from 0 to the greatest of a word stands under a name.
def Counts (ms : Members) (name : String) (n : Int) : Prop :=
  ms.lookup name = some (.int n) ∧ 0 ≤ n ∧ n ≤ Word.greatest

theorem Counts.fits {n : Int} (h : Counts ms name n) : Word.Fits n :=
  Word.fits_of_nonneg h.2.1 h.2.2

theorem natural_eq_ok_iff {n : Int} : natural place ms name = .ok n ↔ Counts ms name n := by
  simp only [natural, bind_eq_ok_iff, required_eq_ok_iff, word_eq_ok_iff, Counts]
  constructor
  · rintro ⟨_, ⟨hl, -⟩, m, ⟨rfl, hf⟩, hm⟩
    split at hm
    · contradiction
    · cases hm
      exact ⟨hl, by omega, hf.2⟩
  · rintro ⟨hl, h0, hg⟩
    exact ⟨_, ⟨hl, nofun⟩, n, ⟨rfl, Word.fits_of_nonneg h0 hg⟩, if_neg (by omega)⟩

-- An integer of a word may stand under a name, or be left out.
def OptionalAt (ms : Members) (name : String) : Option Int → Prop
  | none => ms.lookup name = none ∨ ms.lookup name = some .null
  | some n => ms.lookup name = some (.int n) ∧ Word.Fits n

theorem OptionalAt.fits {n : Option Int} (h : OptionalAt ms name n) {k : Int} (hk : n = some k) :
    Word.Fits k := by
  subst hk
  exact h.2

theorem optionalAt_of_lookup {n : Option Int} (h : ms.lookup name = n.map .int)
    (hf : ∀ k, n = some k → Word.Fits k) : OptionalAt ms name n := by
  cases n with
  | none => exact Or.inl h
  | some k => exact ⟨h, hf k rfl⟩

theorem optionalInt_eq_ok_iff {n : Option Int} :
    optionalInt place ms name = .ok n ↔ OptionalAt ms name n := by
  unfold optionalInt
  cases h : find? ms name with
  | none =>
      have hn := find?_eq_none_iff.mp h
      cases n with
      | none => exact ⟨fun _ => hn, fun _ => rfl⟩
      | some n =>
          simp only [Except.ok.injEq, reduceCtorEq, OptionalAt, false_iff]
          rintro ⟨hl, -⟩
          rcases hn with hn | hn <;> simp [hn, Json.int] at hl
  | some v =>
      obtain ⟨hl, hv⟩ := find?_eq_some_iff.mp h
      simp only [map_eq_ok_iff, word_eq_ok_iff]
      cases n with
      | none => simp [OptionalAt, hl, hv]
      | some n =>
          simp only [Option.some.injEq, exists_eq_right, OptionalAt, hl]

-- A flag that is left out is not set.
def FlagAt (ms : Members) (name : String) (b : Bool) : Prop :=
  ms.lookup name = some (.bool b) ∨
    (ms.lookup name = none ∨ ms.lookup name = some .null) ∧ b = false

theorem flag_eq_ok_iff {b : Bool} : flag place ms name = .ok b ↔ FlagAt ms name b := by
  unfold flag FlagAt
  cases h : find? ms name with
  | none =>
      have hn := find?_eq_none_iff.mp h
      rcases hn with hn | hn <;> simp [hn, eq_comm]
  | some v =>
      obtain ⟨hl, hv⟩ := find?_eq_some_iff.mp h
      cases v <;> simp_all [faulty]

-- The three numbers of a range stand under its names.
structure RangeAt (ms : Members) (names : RangeNames) (r : TimeRange) : Prop where
  start : ms.lookup names.start = some (.int r.start)
  stop : ms.lookup names.stop = some (.int r.stop)
  present : ms.lookup names.present = some (.int r.present)

-- Three counts under the names of a range that keep the rules of a range.
structure Spans (ms : Members) (names : RangeNames) (start stop present : Int) : Prop where
  start_counts : Counts ms names.start start
  stop_counts : Counts ms names.stop stop
  present_counts : Counts ms names.present present
  start_le_stop : start ≤ stop
  stop_le_last : stop ≤ Tick.last
  present_le_span : present ≤ stop - start

theorem RangeAt.spans {names : RangeNames} {r : TimeRange} (h : RangeAt ms names r) :
    Spans ms names r.start r.stop r.present := by
  obtain ⟨gs, ge, gp⟩ := r.le_greatest
  have h0 := Int.le_trans r.start_nonneg r.start_le_stop
  exact ⟨⟨h.start, r.start_nonneg, gs⟩, ⟨h.stop, h0, ge⟩, ⟨h.present, r.present_nonneg, gp⟩,
    r.start_le_stop, r.stop_le_last, r.present_le_span⟩

theorem range_eq_ok_iff {names : RangeNames} {r : TimeRange} :
    range place ms names = .ok r ↔ RangeAt ms names r := by
  simp only [range, bind_eq_ok_iff, natural_eq_ok_iff, mapError_eq_ok_iff,
    TimeRange.make_eq_ok_iff, Counts]
  constructor
  · rintro ⟨_, ⟨hs, -⟩, _, ⟨he, -⟩, _, ⟨hp, -⟩, rfl, rfl, rfl⟩
    exact ⟨hs, he, hp⟩
  · intro h
    have hs := h.spans
    exact ⟨_, hs.start_counts, _, hs.stop_counts, _, hs.present_counts, rfl, rfl, rfl⟩

theorem Spans.exists_range {names : RangeNames} {start stop present : Int}
    (h : Spans ms names start stop present) :
    ∃ r, RangeAt ms names r ∧ r.start = start ∧ r.stop = stop ∧ r.present = present :=
  ⟨⟨start, stop, present, h.start_counts.2.1, h.start_le_stop, h.stop_le_last,
    h.present_counts.2.1, h.present_le_span⟩,
    ⟨h.start_counts.1, h.stop_counts.1, h.present_counts.1⟩, rfl, rfl, rfl⟩

end Footage.Payload
