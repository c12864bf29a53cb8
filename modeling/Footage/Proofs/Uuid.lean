import Footage.Proofs.Hex
import Footage.Uuid

namespace Footage

namespace Uuid

theorem ofDigits?_write (u : Uuid) : ofDigits? (Hex.write u.digits) = some u := by
  rw [ofDigits?, Hex.read?_write]
  exact dif_pos u.length_eq

-- Groups between hyphens are put together again.
theorem ofGroups?_groups {a b c d e : List Char} (ha : a.length = 8) (hb : b.length = 4)
    (hc : c.length = 4) (hd : d.length = 4) (he : e.length = 12) :
    ofGroups? (a ++ '-' :: (b ++ '-' :: (c ++ '-' :: (d ++ '-' :: e)))) =
      ofDigits? (a ++ (b ++ (c ++ (d ++ e)))) := by
  simp [ofGroups?, List.drop_append, List.drop_of_length_le, ha, hb, hc, hd, he]

theorem drop_eq_take_append {cs : List Char} (i n : Nat) :
    cs.drop i = (cs.drop i).take n ++ cs.drop (i + n) := by
  rw [← List.drop_drop, List.take_append_drop]

theorem toList_text (u : Uuid) :
    u.text.toList =
      (Hex.write u.digits).take 8 ++ '-' :: (((Hex.write u.digits).drop 8).take 4 ++
        '-' :: (((Hex.write u.digits).drop 12).take 4 ++
        '-' :: (((Hex.write u.digits).drop 16).take 4 ++
        '-' :: (Hex.write u.digits).drop 20))) := by
  simp [text]

theorem length_text (u : Uuid) : u.text.toList.length = 36 := by
  have hl := (Hex.length_write u.digits).trans u.length_eq
  simp [toList_text, hl]

-- An identifier is read back from its text.
theorem parse?_text (u : Uuid) : parse? u.text = some u := by
  have hl := (Hex.length_write u.digits).trans u.length_eq
  have hlen := u.length_text
  have hgroups : ofGroups? u.text.toList = some u := by
    rw [toList_text, ofGroups?_groups (by simp [hl]) (by simp [hl]) (by simp [hl]) (by simp [hl])
      (by simp [hl])]
    -- the groups follow each other in the digits
    rw [← drop_eq_take_append 16 4, ← drop_eq_take_append 12 4, ← drop_eq_take_append 8 4,
      List.take_append_drop]
    exact u.ofDigits?_write
  simp only [parse?, hlen, hgroups]
  rfl

theorem text_injective {u v : Uuid} (h : u.text = v.text) : u = v := by
  have hu := u.parse?_text
  rw [h, v.parse?_text] at hu
  exact (Option.some.inj hu).symm

end Uuid

end Footage
