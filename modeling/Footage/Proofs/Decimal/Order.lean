import Footage.Proofs.Decimal

namespace Footage

namespace Text

-- Of two texts with fronts of the same length, what follows decides only when the fronts
-- are the same.
theorem append_lt_append_iff {l l' r r' : List Char} (h : l.length = l'.length) :
    l ++ r < l' ++ r' ↔ l < l' ∨ (l = l' ∧ r < r') := by
  induction l generalizing l' with
  | nil =>
      obtain rfl := List.length_eq_zero_iff.mp h.symm
      simp
  | cons c l ih =>
      cases l' with
      | nil => contradiction
      | cons d l' =>
          simp only [List.cons_append, List.cons_lt_cons_iff, List.cons.injEq,
            ih (Nat.succ.inj h)]
          constructor
          · rintro (hc | ⟨hc, hl | ⟨hl, hr⟩⟩)
            · exact Or.inl (Or.inl hc)
            · exact Or.inl (Or.inr ⟨hc, hl⟩)
            · exact Or.inr ⟨⟨hc, hl⟩, hr⟩
          · rintro ((hc | ⟨hc, hl⟩) | ⟨⟨hc, hl⟩, hr⟩)
            · exact Or.inl hc
            · exact Or.inr ⟨hc, Or.inl hl⟩
            · exact Or.inr ⟨hc, Or.inr ⟨hl, hr⟩⟩

theorem cons_lt_cons_self {c : Char} {r r' : List Char} : c :: r < c :: r' ↔ r < r' := by
  simp

end Text

namespace Decimal

theorem ofDigitChars_lt {cs : List Char} (h : ∀ c ∈ cs, c.isDigit = true) :
    Nat.ofDigitChars 10 cs 0 < tenTo cs.length := read?_lt (read?_eq_some_iff.mpr ⟨h, rfl⟩)

-- The digit in front decides as long as the rest cannot make up for it.
theorem mul_add_lt_mul_add_iff {p a b x y : Nat} (hx : x < p) (hy : y < p) :
    p * a + x < p * b + y ↔ a < b ∨ (a = b ∧ x < y) := by
  rcases Nat.lt_trichotomy a b with h | h | h
  · have hle := Nat.mul_le_mul_left p h
    rw [Nat.mul_succ] at hle
    omega
  · subst h
    omega
  · have hle := Nat.mul_le_mul_left p h
    rw [Nat.mul_succ] at hle
    omega

theorem lt_iff_digit_lt {c d : Char} (hc : c.isDigit = true) (hd : d.isDigit = true) :
    c < d ↔ c.toNat - 48 < d.toNat - 48 := by
  rw [Char.isDigit_iff_toNat] at hc hd
  have h0 : '0'.toNat = 48 := rfl
  have hlt : c < d ↔ c.toNat < d.toNat := UInt32.lt_iff_toNat_lt
  rw [hlt]
  omega

theorem eq_iff_digit_eq {c d : Char} (hc : c.isDigit = true) (hd : d.isDigit = true) :
    c = d ↔ c.toNat - 48 = d.toNat - 48 := by
  rw [Char.isDigit_iff_toNat] at hc hd
  have h0 : '0'.toNat = 48 := rfl
  rw [← Char.toNat_inj]
  omega

-- Rows of digits of the same length are in the order of the numbers they stand for.
theorem lt_iff_ofDigitChars_lt {cs ds : List Char} (hl : cs.length = ds.length)
    (hc : ∀ c ∈ cs, c.isDigit = true) (hd : ∀ d ∈ ds, d.isDigit = true) :
    cs < ds ↔ Nat.ofDigitChars 10 cs 0 < Nat.ofDigitChars 10 ds 0 := by
  induction cs generalizing ds with
  | nil =>
      obtain rfl := List.length_eq_zero_iff.mp hl.symm
      simp
  | cons c cs ih =>
      cases ds with
      | nil => contradiction
      | cons d ds =>
          rw [List.forall_mem_cons] at hc hd
          have hlen : cs.length = ds.length := Nat.succ.inj hl
          have hcs := ofDigitChars_lt hc.2
          have hds := ofDigitChars_lt hd.2
          rw [hlen] at hcs
          have hfront : ∀ e : Char, 10 * 0 + (e.toNat - '0'.toNat) = e.toNat - 48 := by
            intro e
            rw [Nat.mul_zero, Nat.zero_add]
            rfl
          rw [List.cons_lt_cons_iff, ih hlen hc.2 hd.2, lt_iff_digit_lt hc.1 hd.1,
            eq_iff_digit_eq hc.1 hd.1, Nat.ofDigitChars_cons, Nat.ofDigitChars_cons, hfront, hfront,
            @Nat.ofDigitChars_eq_ofDigitChars_zero cs (c.toNat - 48),
            @Nat.ofDigitChars_eq_ofDigitChars_zero ds (d.toNat - 48), hlen]
          exact (mul_add_lt_mul_add_iff hcs hds).symm

theorem padded_lt_padded_iff {width m n : Nat} (hw : 0 < width) (hm : m < tenTo width)
    (hn : n < tenTo width) : padded width '0' m < padded width '0' n ↔ m < n := by
  have hrm := read?_eq_some_iff.mp (read?_padded width m)
  have hrn := read?_eq_some_iff.mp (read?_padded width n)
  rw [lt_iff_ofDigitChars_lt _ hrm.1 hrn.1, hrm.2, hrn.2]
  rw [length_padded hw hm, length_padded hw hn]

theorem padded_inj {width m n : Nat} : padded width '0' m = padded width '0' n ↔ m = n := by
  constructor
  · intro h
    have hm := read?_padded width m
    rw [h, read?_padded] at hm
    exact (Option.some.inj hm).symm
  · intro h
    rw [h]

-- Numbers that are filled up to one width are in order whatever follows them.
theorem padded_append_lt_iff {width m n : Nat} {r r' : List Char} (hw : 0 < width)
    (hm : m < tenTo width) (hn : n < tenTo width) :
    padded width '0' m ++ r < padded width '0' n ++ r' ↔ m < n ∨ (m = n ∧ r < r') := by
  have hl : (padded width '0' m).length = (padded width '0' n).length := by
    rw [length_padded hw hm, length_padded hw hn]
  rw [Text.append_lt_append_iff hl, padded_lt_padded_iff hw hm hn, padded_inj]

end Decimal

end Footage
