import Mathlib.Data.List.Basic
import Footage.Json.Literal
import Footage.Word
import Footage.Proofs.Decimal

namespace Footage.Json

namespace Piece

-- What a printed character is read as. Those below the space that no letter names are
-- given by number.
def ofChar (c : Char) : Piece :=
  if c.toNat < 32 ∧ c ∉ ['\x08', '\x0c', '\n', '\r', '\t'] then .unit c.toNat else .char c

theorem decode_ofChar_cons (c : Char) (rest : List Piece) :
    decode (ofChar c :: rest) = (decode rest).map (c :: ·) := by
  unfold ofChar
  split
  · rename_i h
    have hhigh : isHighSurrogate c.toNat = false := by
      simp only [isHighSurrogate, Bool.and_eq_false_iff, decide_eq_false_iff_not]
      omega
    have hlow : isLowSurrogate c.toNat = false := by
      simp only [isLowSurrogate, Bool.and_eq_false_iff, decide_eq_false_iff_not]
      omega
    rw [decode.eq_def]
    simp only [hhigh, hlow, Char.ofNat_toNat, Bool.false_eq_true, if_false]
  · rfl

theorem decode_map_ofChar (cs : List Char) : decode (cs.map ofChar) = some cs := by
  induction cs with
  | nil => rfl
  | cons c cs ih => rw [List.map_cons, decode_ofChar_cons, ih, Option.map_some]

end Piece

namespace Numeral

-- An integer as it is printed.
def ofInt (n : Int) : Numeral where
  negative := n < 0
  whole := (Decimal.digits n.natAbs).map fun c => c.toNat - 48
  fraction := []
  exponent := none

theorem le_foldl (ds : List Nat) (soFar : Nat) :
    soFar ≤ ds.foldl (fun n d => 10 * n + d) soFar := by
  induction ds generalizing soFar with
  | nil => exact Nat.le_refl soFar
  | cons d ds ih =>
      have hrest := ih (10 * soFar + d)
      rw [List.foldl_cons]
      omega

-- Digits are gathered to the end when the number they stand for fits.
theorem gatherWhole_of_le {ds : List Nat} {soFar : Nat}
    (h : ds.foldl (fun n d => 10 * n + d) soFar ≤ limit) :
    gatherWhole soFar ds = ⟨ds.foldl (fun n d => 10 * n + d) soFar, 0⟩ := by
  induction ds generalizing soFar with
  | nil => rfl
  | cons d ds ih =>
      rw [List.foldl_cons] at h ⊢
      have hd := Nat.le_trans (le_foldl ds (10 * soFar + d)) h
      rw [gatherWhole, if_pos hd, ih h]

theorem gatherWhole_ofInt {n : Int} (h : n.natAbs ≤ limit) :
    gatherWhole 0 (ofInt n).whole = ⟨n.natAbs, 0⟩ := by
  have hv := Decimal.value_digits n.natAbs
  unfold Decimal.value at hv
  rw [ofInt, gatherWhole_of_le (by rwa [hv]), hv]

-- A number of a word is printed as an integer and read as that integer.
theorem value?_ofInt {n : Int} (h : Word.Fits n) : (ofInt n).value? = some (.integer n) := by
  obtain ⟨hl, hg⟩ := h
  simp only [Word.least, Word.greatest] at hl hg
  have hlimit : n.natAbs ≤ limit := by
    unfold limit
    omega
  have hgather := gatherWhole_ofInt hlimit
  have hwhole : ((ofInt n).fraction.isEmpty && (ofInt n).exponent.isNone) = true := rfl
  unfold value?
  simp only [hgather, hwhole, if_true, ne_eq, not_true_eq_false, if_false]
  by_cases hn : n < 0
  · have hsign : (!(ofInt n).negative) = false := by simp [ofInt, hn]
    have hsize : 0 < n.natAbs ∧ n.natAbs ≤ 9223372036854775808 := by omega
    have hneg : -(n.natAbs : Int) = n := by omega
    rw [hsign, if_neg Bool.false_ne_true, if_pos hsize, hneg]
  · have hsign : (!(ofInt n).negative) = true := by simp [ofInt, hn]
    have hpos : (n.natAbs : Int) = n := by omega
    rw [hsign, if_pos rfl, hpos]

end Numeral

end Footage.Json
