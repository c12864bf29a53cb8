import Footage.Proofs.Json.Record
import Footage.Proofs.TimeRange.Words
import Footage.TimeRange.Json

namespace Footage.TimeRange

open Payload

-- All that is written of a range is words.
theorem plain_members (r : TimeRange) (depth : Nat) :
    ∀ m ∈ r.members, Json.Plain depth m.2 := by
  obtain ⟨hs, he, hp⟩ := r.fits
  simp only [members, List.forall_mem_cons]
  exact ⟨.int depth hs, .int depth he, .int depth hp, nofun⟩

theorem nodup_names_members (r : TimeRange) : (r.members.map (·.1)).Nodup := by
  show [names.start, names.stop, names.present].Nodup
  decide

theorem plain_toJson (r : TimeRange) (depth : Nat) : Json.Plain (depth + 1) r.toJson :=
  .object r.nodup_names_members (r.plain_members depth)

theorem tick?_eq_some_iff {v : Json} {n : Int} : tick? v = some n ↔ v = .int n ∧ Word.Fits n := by
  unfold tick?
  split
  · rename_i m
    simp only [Option.ite_none_right_eq_some, Option.some.injEq, Json.int, Json.number.injEq,
      Number.integer.injEq]
    constructor
    · rintro ⟨hm, rfl⟩
      exact ⟨rfl, hm⟩
    · rintro ⟨rfl, hm⟩
      exact ⟨hm, rfl⟩
  · rename_i hv
    simp only [reduceCtorEq, false_iff, not_and]
    intro h
    exact absurd h (hv n)

theorem ofNumbers_eq_ok_iff {start stop present : Option Json} {r : TimeRange} :
    ofNumbers start stop present = .ok r ↔
      start = some (.int r.start) ∧ stop = some (.int r.stop) ∧
        present = some (.int r.present) := by
  unfold ofNumbers
  constructor
  · intro h
    split at h
    · rename_i a b c ha hb hc
      obtain ⟨rfl, rfl, rfl⟩ := make_eq_ok_iff.mp (mapError_eq_ok_iff.mp h)
      simp only [Option.bind_eq_some_iff, tick?_eq_some_iff] at ha hb hc
      obtain ⟨_, rfl, rfl, -⟩ := ha
      obtain ⟨_, rfl, rfl, -⟩ := hb
      obtain ⟨_, rfl, rfl, -⟩ := hc
      exact ⟨rfl, rfl, rfl⟩
    · contradiction
  · rintro ⟨rfl, rfl, rfl⟩
    obtain ⟨hs, he, hp⟩ := r.fits
    have ha := tick?_eq_some_iff.mpr ⟨rfl, hs⟩
    have hb := tick?_eq_some_iff.mpr ⟨rfl, he⟩
    have hc := tick?_eq_some_iff.mpr ⟨rfl, hp⟩
    simp only [Option.bind_some, ha, hb, hc]
    exact mapError_eq_ok_iff.mpr (make_eq_ok_iff.mpr ⟨rfl, rfl, rfl⟩)

-- Three numbers in an object, under the names of a range that stands for itself, or one
-- after the other in an array.
inductive StandsIn (r : TimeRange) : Json → Prop
  | object {ms : Members} : RangeAt ms names r → StandsIn r (.object ms)
  | array : StandsIn r (.array [.int r.start, .int r.stop, .int r.present])

theorem ofJson_eq_ok_iff {v : Json} {r : TimeRange} : ofJson v = .ok r ↔ r.StandsIn v := by
  constructor
  · intro h
    unfold ofJson at h
    split at h
    · obtain ⟨hs, he, hp⟩ := ofNumbers_eq_ok_iff.mp h
      exact .object ⟨hs, he, hp⟩
    · obtain ⟨hs, he, hp⟩ := ofNumbers_eq_ok_iff.mp h
      cases hs
      cases he
      cases hp
      exact .array
    · contradiction
  · intro h
    cases h with
    | object h => exact ofNumbers_eq_ok_iff.mpr ⟨h.start, h.stop, h.present⟩
    | array => exact ofNumbers_eq_ok_iff.mpr ⟨rfl, rfl, rfl⟩

-- A number of a word stands under a name.
def WordAt (ms : Members) (name : String) (n : Int) : Prop :=
  ms.lookup name = some (.int n) ∧ Word.Fits n

-- Three numbers of a word in a value. In an object they have the names of a range, and
-- whatever else it has is passed over. In an array they are all there is.
inductive Lists : Json → Int → Int → Int → Prop
  | object {ms : Members} {start stop present : Int} : WordAt ms names.start start →
      WordAt ms names.stop stop → WordAt ms names.present present →
      Lists (.object ms) start stop present
  | array {start stop present : Int} : Word.Fits start → Word.Fits stop → Word.Fits present →
      Lists (.array [.int start, .int stop, .int present]) start stop present

theorem StandsIn.lists {v : Json} {r : TimeRange} (h : r.StandsIn v) :
    Lists v r.start r.stop r.present := by
  obtain ⟨hs, he, hp⟩ := r.fits
  cases h with
  | object h => exact .object ⟨h.start, hs⟩ ⟨h.stop, he⟩ ⟨h.present, hp⟩
  | array => exact .array hs he hp

theorem ofNumbers_of_words {start stop present : Int} (hs : Word.Fits start) (he : Word.Fits stop)
    (hp : Word.Fits present) :
    ofNumbers (some (.int start)) (some (.int stop)) (some (.int present)) =
      (make start stop present).mapError .refused := by
  have hstart : tick? (.int start) = some start := tick?_eq_some_iff.mpr ⟨rfl, hs⟩
  have hstop : tick? (.int stop) = some stop := tick?_eq_some_iff.mpr ⟨rfl, he⟩
  have hpresent : tick? (.int present) = some present := tick?_eq_some_iff.mpr ⟨rfl, hp⟩
  simp only [ofNumbers, Option.bind_some, hstart, hstop, hpresent]

-- Of a value with three numbers comes what is made of the numbers.
theorem ofJson_of_lists {v : Json} {start stop present : Int} (h : Lists v start stop present) :
    ofJson v = (make start stop present).mapError .refused := by
  cases h with
  | object hs he hp =>
      rw [ofJson, hs.1, he.1, hp.1]
      exact ofNumbers_of_words hs.2 he.2 hp.2
  | array hs he hp => exact ofNumbers_of_words hs he hp

theorem ofJson_eq_ok_iff_lists {v : Json} {r : TimeRange} :
    ofJson v = .ok r ↔
      ∃ start stop present, Lists v start stop present ∧ make start stop present = .ok r := by
  constructor
  · intro h
    have hlists := (ofJson_eq_ok_iff.mp h).lists
    exact ⟨_, _, _, hlists, make_eq_ok_iff.mpr ⟨rfl, rfl, rfl⟩⟩
  · intro h
    obtain ⟨start, stop, present, hlists, hmake⟩ := h
    rw [ofJson_of_lists hlists]
    exact mapError_eq_ok_iff.mpr hmake

-- An object is read as the range that a reader of its members finds in it.
theorem ofJson_object_eq_ok_iff {place : Path} {ms : Members} {r : TimeRange} :
    ofJson (.object ms) = .ok r ↔ range place ms names = .ok r := by
  rw [ofJson_eq_ok_iff, range_eq_ok_iff]
  constructor
  · intro h
    cases h with
    | object h => exact h
  · exact .object

theorem ofJson_toJson (r : TimeRange) : ofJson r.toJson = .ok r :=
  ofJson_eq_ok_iff.mpr (.object ⟨rfl, rfl, rfl⟩)

-- The members a range is written with are ones that are read of it.
theorem taken_members (r : TimeRange) : ∀ m ∈ r.members, Json.Record.Taken shape m := by
  obtain ⟨hs, he, hp⟩ := r.fits
  have hstart : tick? (.int r.start) = some r.start := tick?_eq_some_iff.mpr ⟨rfl, hs⟩
  have hstop : tick? (.int r.stop) = some r.stop := tick?_eq_some_iff.mpr ⟨rfl, he⟩
  have hpresent : tick? (.int r.present) = some r.present := tick?_eq_some_iff.mpr ⟨rfl, hp⟩
  simp only [members, List.forall_mem_cons]
  exact ⟨⟨.int 0 hs, _, rfl, by rw [hstart]; rfl⟩, ⟨.int 0 he, _, rfl, by rw [hstop]; rfl⟩,
    ⟨.int 0 hp, _, rfl, by rw [hpresent]; rfl⟩, nofun⟩

theorem readText_text (r : TimeRange) : readText r.toJson.text = .ok r := by
  have hread := Json.Record.read_text (ε := Fault) r.taken_members (List.cons_ne_nil _ _)
    r.nodup_names_members
  exact Json.Record.readText_eq_ok_iff.mpr ⟨_, hread, r.ofJson_toJson⟩

-- The two ways to read a range agree. From an object both read the same ranges, and a
-- range that stands for itself may as well be an array of its three numbers. What is made
-- of the numbers is what is read, and a range is read from what is written of it.
theorem ofJson_iff_range_and_reads_back :
    (∀ (place : Path) (ms : Members) (r : TimeRange),
      ofJson (.object ms) = .ok r ↔ range place ms names = .ok r) ∧
    (∀ (v : Json) (r : TimeRange), ofJson v = .ok r ↔
      ∃ start stop present, Lists v start stop present ∧ make start stop present = .ok r) ∧
    (∀ (v : Json) (start stop present : Int), Lists v start stop present →
      ofJson v = (make start stop present).mapError .refused) ∧
    ∀ r : TimeRange, ofJson r.toJson = .ok r ∧ readText r.toJson.text = .ok r := by
  refine ⟨?_, ?_, ?_, ?_⟩
  · intro place ms r
    exact ofJson_object_eq_ok_iff
  · intro v r
    exact ofJson_eq_ok_iff_lists
  · intro v start stop present h
    exact ofJson_of_lists h
  · intro r
    exact ⟨r.ofJson_toJson, r.readText_text⟩

end Footage.TimeRange
