import Footage.Pattern.Render
import Footage.Proofs.Pattern.Parser

namespace Footage

theorem Date.fromSunday_lt (d : Date) : d.fromSunday < 7 := by
  unfold fromSunday
  omega

namespace Pattern

-- There is a name for each month and for each day of the week.
theorem isSome_month {names : List String} (h : names.length = 12) (d : Date) :
    names[d.month - 1]?.isSome = true := by
  have hm := d.month_le
  have hp := d.month_pos
  rw [List.getElem?_eq_getElem (by omega)]
  rfl

theorem isSome_weekday {names : List String} (h : names.length = 7) (d : Date) :
    names[d.fromSunday]?.isSome = true := by
  have hd := d.fromSunday_lt
  rw [List.getElem?_eq_getElem (by omega)]
  rfl

theorem isSome_fixed (t : ZonedTime) (f : Fixed) :
    (fixed t f).isSome = (Item.fixed f).writable := by
  cases f with
  | shortMonth => exact isSome_month rfl t.date
  | longMonth => exact isSome_month rfl t.date
  | shortWeekday => exact isSome_weekday rfl t.date
  | longWeekday => exact isSome_weekday rfl t.date
  | _ => rfl

theorem isSome_item (t : ZonedTime) (i : Item) : (item t i).isSome = i.writable := by
  cases i with
  | literal c => rfl
  | numeric n pad => rfl
  | fixed f => exact isSome_fixed t f

-- What is missing from a rendering is never due to the time, only to the items.
theorem isSome_render? (t : ZonedTime) (p : Pattern) :
    (render? t p).isSome = p.all Item.writable := by
  induction p with
  | nil => rfl
  | cons i rest ih =>
      rw [List.all_cons, ← isSome_item t i, ← ih, render?]
      cases item t i <;> cases render? t rest <;> rfl

end Pattern

end Footage
