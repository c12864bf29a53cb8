import Footage.Proofs.Calendar.Date
import Footage.Proofs.Day.Key
import Footage.Proofs.Decimal.Order

namespace Footage

namespace DayKey

-- All numbers of a key have places for their digits.
theorem numbers_lt (k : DayKey) :
    k.date.year.toNat < Decimal.tenTo 4 ∧ k.date.month < Decimal.tenTo 2 ∧
      k.date.day < Decimal.tenTo 2 := by
  have h4 : Decimal.tenTo 4 = 10000 := rfl
  have h2 : Decimal.tenTo 2 = 100 := rfl
  have hy := k.year_lt
  have hm := k.date.month_le
  have hd := k.date.day_le
  have hl := Calendar.daysInMonth_le k.date.year k.date.month
  omega

-- Keys are in the order of their dates, as texts as well.
theorem toList_text_lt_iff {j k : DayKey} :
    j.text.toList < k.text.toList ↔ j.date.Earlier k.date := by
  obtain ⟨jy, jm, jd⟩ := j.numbers_lt
  obtain ⟨ky, km, kd⟩ := k.numbers_lt
  have hj := j.year_toNat
  have hk := k.year_toNat
  rw [text, text, Date.toList_text, Date.toList_text]
  simp only [List.append_assoc, List.cons_append]
  rw [Decimal.padded_append_lt_iff (by omega) jy ky, Text.cons_lt_cons_self,
    Decimal.padded_append_lt_iff (by omega) jm km, Text.cons_lt_cons_self,
    Decimal.padded_lt_padded_iff (by omega) jd kd]
  unfold Date.Earlier
  omega

theorem length_text (k : DayKey) : k.text.toList.length = 10 := by
  obtain ⟨hy, hm, hd⟩ := k.numbers_lt
  rw [text, Date.toList_text]
  simp only [List.length_append, List.length_cons, Decimal.length_padded (by omega) hy,
    Decimal.length_padded (by omega) hm, Decimal.length_padded (by omega) hd]

-- What stands behind two keys is only looked at when they are the same.
theorem text_append_lt_iff {j k : DayKey} {r r' : List Char} :
    j.text.toList ++ r < k.text.toList ++ r' ↔
      j.date.Earlier k.date ∨ (j.date = k.date ∧ r < r') := by
  have heq : j.text.toList = k.text.toList ↔ j.date = k.date := by
    constructor
    · intro h
      rw [text_injective (String.toList_injective h)]
    · intro h
      rw [ext h]
  rw [Text.append_lt_append_iff (j.length_text.trans k.length_text.symm), heq, toList_text_lt_iff]

end DayKey

end Footage
