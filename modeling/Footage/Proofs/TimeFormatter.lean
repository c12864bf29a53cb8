import Footage.Proofs.Pattern.Render
import Footage.TimeFormatter
import Footage.Zone.Directory

namespace Footage.TimeFormatter

open Pattern

-- A formatter for a format, in whatever zone.
def ShowsBy (f : TimeFormatter) (format : String) : Prop := parse? format = some f.pattern

theorem make_eq_ok_iff {zones : Zone.Directory} {zoneName format : String} {f : TimeFormatter} :
    make zones zoneName format = .ok f ↔ zones zoneName = some f.zone ∧ f.ShowsBy format := by
  unfold make ShowsBy
  cases zones zoneName with
  | none => simp
  | some zone =>
      cases parse? format with
      | none => simp
      | some pattern =>
          simp only [Except.ok.injEq, Option.some.injEq]
          constructor
          · rintro rfl
            exact ⟨rfl, rfl⟩
          · rintro ⟨rfl, rfl⟩
            rfl

theorem isSome_instant? (f : TimeFormatter) (i : Instant) :
    (f.instant? i).isSome = f.pattern.all Item.writable := isSome_render? _ _

theorem isSome_range? (f : TimeFormatter) (r : TimeRange) :
    (f.range? r).isSome = f.pattern.all Item.writable := by
  have hstart := f.isSome_instant? (.ofTick r.start)
  have hstop := f.isSome_instant? (.ofTick r.stop)
  unfold range?
  cases hs : f.instant? (.ofTick r.start) with
  | none =>
      rw [hs] at hstart
      exact hstart
  | some start =>
      rw [← hstop]
      cases f.instant? (.ofTick r.stop) <;> rfl

theorem tick?_eq_ok {tick : Int} (h0 : 0 ≤ tick) (hl : tick ≤ Tick.last) (f : TimeFormatter) :
    f.tick? tick = .ok (f.instant? (.ofTick tick)) := if_pos ⟨h0, hl⟩

theorem all_writable_iff_of_showsBy {f : TimeFormatter} {format : String} (h : f.ShowsBy format) :
    f.pattern.all Item.writable = true ↔ ¬AsksLenientOffset format.toList := all_writable_iff h

-- Every tick and every range can be shown, in whatever zone of whatever directory, unless
-- the format asks for the lenient offset. Then none of them can.
theorem shown_iff_not_asksLenientOffset (format : String) :
    (∀ (zones : Zone.Directory) zoneName f, make zones zoneName format = .ok f ↔
      zones zoneName = some f.zone ∧ f.ShowsBy format) ∧
    ∀ f : TimeFormatter, f.ShowsBy format →
      (∀ tick, 0 ≤ tick → tick ≤ Tick.last → ∃ shown, f.tick? tick = .ok shown ∧
        (shown.isSome = true ↔ ¬AsksLenientOffset format.toList)) ∧
      ∀ r, (f.range? r).isSome = true ↔ ¬AsksLenientOffset format.toList := by
  refine ⟨fun zones zoneName f => make_eq_ok_iff, fun f hf => ⟨?_, ?_⟩⟩
  · intro tick h0 hl
    refine ⟨_, tick?_eq_ok h0 hl f, ?_⟩
    rw [isSome_instant?]
    exact all_writable_iff_of_showsBy hf
  · intro r
    rw [isSome_range?]
    exact all_writable_iff_of_showsBy hf

-- The offset that can be read in several ways, and nothing else.
def lenient : TimeFormatter := ⟨.utc, [.fixed .lenientOffset]⟩

-- Its format is accepted, and then it shows no time at all.
theorem lenient_accepted_not_shown :
    make .samples "UTC" "%#z" = .ok lenient ∧ lenient.tick? 0 = .ok none ∧
      ∀ r, lenient.range? r = none := by
  refine ⟨make_eq_ok_iff.mpr ⟨by decide, ?_⟩, rfl, fun r => rfl⟩
  have hd : directive? ['#', 'z'] = some ([.fixed .lenientOffset], []) := rfl
  show parseChars? ['%', '#', 'z'] = some [.fixed .lenientOffset]
  rw [parseChars?_directive hd, parseChars?_nil]
  rfl

end Footage.TimeFormatter
