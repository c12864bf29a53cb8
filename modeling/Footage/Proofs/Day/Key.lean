import Footage.Proofs.Decimal
import Footage.Day.Key

namespace Footage

namespace Calendar

theorem daysInMonth_le (year : Int) (month : Nat) : daysInMonth year month ≤ 31 := by
  unfold daysInMonth
  repeat' split
  all_goals omega

end Calendar

namespace Date

theorem of?_eq_some (d : Date) : of? d.year d.month d.day = some d := by
  simp [of?, d.month_pos, d.month_le, d.day_pos, d.day_le]

theorem toList_text (d : Date) :
    d.text.toList = Decimal.padded 4 '0' d.year.toNat ++ '-' :: Decimal.padded 2 '0' d.month
      ++ '-' :: Decimal.padded 2 '0' d.day := by
  simp [text, Decimal.zeros, String.toList_append]

end Date

namespace DayKey

-- The text that is read as three numbers is the one that they are written as.
theorem eq_of_numbers? {cs : List Char} {year month day : Nat}
    (h : numbers? cs = some (year, month, day)) :
    cs = Decimal.padded 4 '0' year ++ '-' :: Decimal.padded 2 '0' month
      ++ '-' :: Decimal.padded 2 '0' day := by
  unfold numbers? at h
  split at h
  · rename_i y1 y2 y3 y4 m1 m2 d1 d2
    split at h
    · rename_i hy hm hd
      obtain ⟨rfl, rfl, rfl⟩ := by simpa using h
      have hyear : Decimal.padded 4 '0' _ = [y1, y2, y3, y4] :=
        Decimal.padded_of_read? (by simp) hy
      have hmonth : Decimal.padded 2 '0' _ = [m1, m2] := Decimal.padded_of_read? (by simp) hm
      have hday : Decimal.padded 2 '0' _ = [d1, d2] := Decimal.padded_of_read? (by simp) hd
      rw [hyear, hmonth, hday]
      rfl
    · contradiction
  · contradiction

theorem numbers?_padded {year month day : Nat} (hy : year < 10000) (hm : month < 100)
    (hd : day < 100) :
    numbers? (Decimal.padded 4 '0' year ++ '-' :: Decimal.padded 2 '0' month
      ++ '-' :: Decimal.padded 2 '0' day) = some (year, month, day) := by
  have ry := Decimal.read?_padded 4 year
  have rm := Decimal.read?_padded 2 month
  have rd := Decimal.read?_padded 2 day
  have ly : (Decimal.padded 4 '0' year).length = 4 := Decimal.length_padded (by omega) hy '0'
  have lm : (Decimal.padded 2 '0' month).length = 2 := Decimal.length_padded (by omega) hm '0'
  have ld : (Decimal.padded 2 '0' day).length = 2 := Decimal.length_padded (by omega) hd '0'
  generalize Decimal.padded 4 '0' year = y at ry ly ⊢
  generalize Decimal.padded 2 '0' month = m at rm lm ⊢
  generalize Decimal.padded 2 '0' day = d at rd ld ⊢
  match y, m, d, ly, lm, ld with
  | [y1, y2, y3, y4], [m1, m2], [d1, d2], _, _, _ => simp [numbers?, ry, rm, rd]

-- The year of a key is the natural number that it is written as.
theorem year_toNat (k : DayKey) : (k.date.year.toNat : Int) = k.date.year :=
  Int.toNat_of_nonneg k.year_nonneg

theorem numbers?_text (k : DayKey) :
    numbers? k.text.toList = some (k.date.year.toNat, k.date.month, k.date.day) := by
  have hm := k.date.month_le
  have hd := Nat.le_trans k.date.day_le (Calendar.daysInMonth_le k.date.year k.date.month)
  have hy := k.year_lt
  rw [text, Date.toList_text]
  exact numbers?_padded (by omega) (by omega) (by omega)

theorem ext {j k : DayKey} (h : j.date = k.date) : j = k := by
  cases j
  cases k
  cases h
  rfl

-- A key is read from one text, which is the text it has.
theorem parse_eq_ok_iff {s : String} {k : DayKey} : parse s = .ok k ↔ k.text = s := by
  constructor
  · intro h
    unfold parse at h
    split at h
    · contradiction
    · rename_i year month day hn
      split at h
      · contradiction
      · rename_i date hd
        cases h
        -- the text has just the digits of its numbers, so it is the one of the date
        have hs := eq_of_numbers? hn
        unfold Date.of? at hd
        split at hd
        · cases hd
          apply String.toList_injective
          exact (Date.toList_text _).trans hs.symm
        · contradiction
  · rintro rfl
    unfold parse
    split
    · rename_i hn
      simp [numbers?_text] at hn
    · rename_i year month day hn
      obtain ⟨rfl, rfl, rfl⟩ := by simpa [numbers?_text] using hn
      split
      · rename_i hd
        rw [year_toNat, Date.of?_eq_some] at hd
        contradiction
      · rename_i date hd
        rw [year_toNat, Date.of?_eq_some] at hd
        exact congrArg Except.ok (ext (Option.some.inj hd).symm)

theorem text_injective {j k : DayKey} (h : j.text = k.text) : j = k := by
  have hj := parse_eq_ok_iff.mpr h
  rw [parse_eq_ok_iff.mpr rfl] at hj
  exact (Except.ok.inj hj).symm

end DayKey

end Footage
