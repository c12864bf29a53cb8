import Footage.Proofs.Camera.Strictness
import Footage.Proofs.Day.Total

namespace Footage

namespace Json

-- Two values that differ at most in the order in which objects list their members.
inductive Alike : Json → Json → Prop
  | refl (v : Json) : Alike v v
  | array {vs ws : List Json} (h : List.Forall₂ Alike vs ws) : Alike (.array vs) (.array ws)
  | object {ms ns : List (String × Json)}
      (h : ∀ name, Option.Rel Alike (ms.lookup name) (ns.lookup name)) :
      Alike (.object ms) (.object ns)

end Json

namespace Payload

-- Two objects have alike values under a name. Null counts as absent.
def AlikeUnder (ms ns : Members) (name : String) : Prop :=
  Option.Rel Json.Alike (find? ms name) (find? ns name)

section Agreement

variable {place : Path} {ms ns : Members} {name : String}

theorem alikeUnder_of_eq (h : find? ms name = find? ns name) : AlikeUnder ms ns name := by
  unfold AlikeUnder
  rw [h]
  cases find? ns name with
  | none => exact .none
  | some v => exact .some (.refl v)

theorem alikeUnder_of_lookup (h : Option.Rel Json.Alike (ms.lookup name) (ns.lookup name)) :
    AlikeUnder ms ns name := by
  unfold AlikeUnder find?
  generalize ms.lookup name = x at h
  generalize ns.lookup name = y at h
  cases h with
  | none => exact .none
  | @some v _ h =>
      cases h with
      | refl =>
          cases v with
          | null => exact .none
          | _ => exact .some (.refl _)
      | array h => exact .some (.array h)
      | object h => exact .some (.object h)

-- A reader that cannot tell alike values apart reads the same under the name.
theorem required_bind_congr {α : Type} {read : Json → Read α}
    (hr : ∀ v w, Json.Alike v w → read v = read w) (h : AlikeUnder ms ns name) :
    required place ms name >>= read = required place ns name >>= read := by
  unfold AlikeUnder at h
  unfold required
  generalize find? ms name = x at h
  generalize find? ns name = y at h
  cases h with
  | none => rfl
  | some h => exact hr _ _ h

theorem string_congr (h : AlikeUnder ms ns name) : string place ms name = string place ns name := by
  refine required_bind_congr (fun v w hvw => ?_) h
  cases hvw <;> rfl

theorem word_congr {v w : Json} (h : Json.Alike v w) : word place name v = word place name w := by
  cases h <;> rfl

theorem natural_congr (h : AlikeUnder ms ns name) :
    natural place ms name = natural place ns name := by
  refine required_bind_congr (fun v w hvw => ?_) h
  rw [word_congr hvw]

-- The three numbers of a range are alike.
structure AlikeRange (ms ns : Members) (names : RangeNames) : Prop where
  start : AlikeUnder ms ns names.start
  stop : AlikeUnder ms ns names.stop
  present : AlikeUnder ms ns names.present

theorem range_congr {names : RangeNames} (h : AlikeRange ms ns names) :
    range place ms names = range place ns names := by
  unfold range
  rw [natural_congr h.start, natural_congr h.stop, natural_congr h.present]

end Agreement

end Payload

namespace Days

open Payload

-- Two listed days with the same key. Of their values only the numbers of the range count,
-- when both are objects.
structure AlikeEntry (a b : String × Json) : Prop where
  key : a.1 = b.1
  value : Json.Alike a.2 b.2 ∨
    ∃ ms ns, a.2 = .object ms ∧ b.2 = .object ns ∧ AlikeRange ms ns TimeRange.names

theorem readEntry_congr {place : Path} {a b : String × Json} (h : AlikeEntry a b) :
    readEntry place a = readEntry place b := by
  obtain ⟨key, v⟩ := a
  obtain ⟨_, w⟩ := b
  obtain ⟨rfl, hvalue⟩ := h
  have hobjects : ∀ ms ns, AlikeRange ms ns TimeRange.names →
      readEntry place (key, .object ms) = readEntry place (key, .object ns) := by
    intro ms ns hr
    simp only [readEntry, members, range_congr hr, bind, Except.bind]
  rcases hvalue with hvw | ⟨ms, ns, rfl, rfl, hr⟩
  · cases hvw with
    | refl => rfl
    | array => rfl
    | object h =>
        have hunder : ∀ name, AlikeUnder _ _ name := fun name => alikeUnder_of_lookup (h name)
        exact hobjects _ _ ⟨hunder _, hunder _, hunder _⟩
  · exact hobjects ms ns hr

theorem readEntries_congr {place : Path} {as bs : Members} (h : List.Forall₂ AlikeEntry as bs) :
    readEntries place as = readEntries place bs := by
  induction h with
  | nil => rfl
  | cons hab _ ih => rw [readEntries, readEntries, readEntry_congr hab, ih]

end Days

namespace Camera

open Payload

-- What two payloads list of days. In an object the days stand in the same order.
inductive AlikeDays : Option Json → Option Json → Prop
  | none : AlikeDays none none
  | object {as bs : Members} (h : List.Forall₂ Days.AlikeEntry as bs) :
      AlikeDays (some (.object as)) (some (.object bs))
  | other {v w : Json} (hv : v.kind ≠ .object) (h : Json.Alike v w) : AlikeDays (some v) (some w)

-- The members of a payload that are about a camera as a whole.
def summaryNames : List String :=
  ["id", "shortName", "description", "retainBytes", "totalSampleFileBytes", overallNames.start,
    overallNames.stop, overallNames.present]

-- Two payloads agree in all that is read of them, whatever else they hold.
structure Agree (ms ns : Members) : Prop where
  summary : ∀ name ∈ summaryNames, AlikeUnder ms ns name
  days : AlikeDays (find? ms "days") (find? ns "days")

theorem readDays_congr {place : Path} {ms ns : Members}
    (h : AlikeDays (find? ms "days") (find? ns "days")) : readDays place ms = readDays place ns := by
  unfold readDays
  generalize find? ms "days" = x at h
  generalize find? ns "days" = y at h
  cases h with
  | none => rfl
  | object h => simp only [Days.read, members, Days.readEntries_congr h, bind, Except.bind]
  | other hv h =>
      cases h with
      | refl => rfl
      | array => rfl
      | object => exact absurd rfl hv

theorem read_congr {ms ns : Members} (h : Agree ms ns) (place : Path) :
    read place (.object ms) = read place (.object ns) := by
  have hsummary := h.summary
  simp only [summaryNames, List.forall_mem_cons] at hsummary
  obtain ⟨hid, hshort, hdescription, hretain, hused, hstart, hstop, hpresent, -⟩ := hsummary
  have hrange : AlikeRange ms ns overallNames := ⟨hstart, hstop, hpresent⟩
  simp only [read, members, bind, Except.bind, string_congr hid, string_congr hshort,
    string_congr hdescription, natural_congr hretain, natural_congr hused, range_congr hrange,
    readDays_congr h.days]

theorem accept_congr {ms ns : Members} (h : Agree ms ns) (strict : Bool) (place : Path) :
    accept strict place (.object ms) = accept strict place (.object ns) :=
  congrArg (· >>= settle strict place) (read_congr h place)

end Camera

namespace CameraView

-- What is read of a payload hangs on the modelled members alone. Another payload that
-- agrees in them is refused for the same reason, or gives the same camera, which is
-- written in the same way, and the same is noted of both.
theorem same_outcome_of_agree {ms ns : Payload.Members} (h : Camera.Agree ms ns)
    (config : Config) :
    let one := ofJson config (.object ms)
    let other := ofJson config (.object ns)
    (∀ e, one.outcome = .error e ↔ other.outcome = .error e) ∧
    (∀ view, one.outcome = .ok view → ∃ again, other.outcome = .ok again ∧
      again.camera = view.camera ∧ again.camera.divergent = view.camera.divergent ∧
      again.camera.toJson.text = view.camera.toJson.text) ∧
    one.log = other.log := by
  intro one other
  have haccept := Camera.accept_congr h config.strictDays []
  have hone : one.outcome = (Camera.accept config.strictDays [] (.object ms)).map
      fun c => ⟨c, .ofJson (.object ms)⟩ := outcome_ofJson config _
  have hother : other.outcome = (Camera.accept config.strictDays [] (.object ms)).map
      fun c => ⟨c, .ofJson (.object ns)⟩ := by
    rw [haccept]
    exact outcome_ofJson config _
  have honeLog : one.log = notes config one.outcome := log_load config [] _
  have hotherLog : other.log = notes config other.outcome := log_load config [] _
  rw [honeLog, hotherLog, hone, hother]
  cases Camera.accept config.strictDays [] (.object ms) with
  | error e => exact ⟨fun _ => Iff.rfl, nofun, rfl⟩
  | ok c =>
      refine ⟨fun _ => ⟨nofun, nofun⟩, ?_, rfl⟩
      intro view hview
      cases hview
      exact ⟨_, rfl, rfl, rfl, rfl⟩

-- A camera with a day that reaches out of its range, and the same camera in another
-- order and with more members, one of which is null.
theorem same_outcome_reordered :
    let config : Config := ⟨false, ""⟩
    let overall : TimeRange := ⟨0, 7, 5, by decide, by decide, by decide, by decide, by decide⟩
    let c : Camera := ⟨"cam", "cam", "", 0, 0, overall, .crowded [1999]⟩
    let day := ((DayKey.newYear 1999).text,
      Json.object (("live", .bool true) :: TimeRange.whole.members.reverse))
    let more := ("uuid", .null) :: ("days", .object [day]) :: c.payload.reverse.tail
    Camera.Agree c.payload more ∧ c.divergent ≠ [] ∧
      ∃ view, (ofJson config (.object more)).outcome = .ok view ∧ view.camera = c ∧
        (ofJson config (.object more)).log = (ofJson config (.object c.payload)).log := by
  intro config overall c day more
  have hrange : Payload.AlikeRange TimeRange.whole.members
      (("live", .bool true) :: TimeRange.whole.members.reverse) TimeRange.names :=
    ⟨Payload.alikeUnder_of_eq rfl, Payload.alikeUnder_of_eq rfl, Payload.alikeUnder_of_eq rfl⟩
  have hdays : Camera.AlikeDays (Payload.find? c.payload "days") (Payload.find? more "days") :=
    .object (.cons ⟨rfl, Or.inr ⟨_, _, rfl, rfl, hrange⟩⟩ .nil)
  have hsummary : ∀ name ∈ Camera.summaryNames, Payload.AlikeUnder c.payload more name := by
    intro name hname
    apply Payload.alikeUnder_of_eq
    revert name
    decide
  have hagree : Camera.Agree c.payload more := ⟨hsummary, hdays⟩
  have hroom : (0 : Int) ≤ 0 ∧ 0 ≤ Word.greatest := by decide
  have haccept : Camera.accept false [] (.object c.payload) = .ok c :=
    Camera.accept_eq_ok_iff.mpr ⟨_, rfl, Camera.describes_payload hroom hroom, nofun⟩
  have hview : (ofJson config (.object c.payload)).outcome =
      .ok ⟨c, .ofJson (.object c.payload)⟩ := by
    rw [outcome_ofJson, haccept]
    rfl
  obtain ⟨-, hsame, hlog⟩ := same_outcome_of_agree hagree config
  obtain ⟨view, hmore, hcamera, -⟩ := hsame _ hview
  exact ⟨hagree, by decide, view, hmore, hcamera, hlog.symm⟩

end CameraView

end Footage
