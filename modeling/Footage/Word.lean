namespace Footage.Word

-- The least and the greatest number of a signed 64-bit word.
def least : Int := -9223372036854775808

def greatest : Int := 9223372036854775807

-- Whether a number has a place in a word.
def Fits (n : Int) : Prop := least ≤ n ∧ n ≤ greatest

instance (n : Int) : Decidable (Fits n) := inferInstanceAs (Decidable (_ ∧ _))

-- The word nearest to a number.
def clamp (n : Int) : Int := max least (min n greatest)

-- The sum of two words, if it is a word too.
def add? (a b : Int) : Option Int := if Fits (a + b) then some (a + b) else none

theorem clamp_of_fits {n : Int} (h : Fits n) : clamp n = n := by
  obtain ⟨hl, hg⟩ := h
  unfold clamp
  omega

theorem fits_clamp (n : Int) : Fits (clamp n) := by
  unfold Fits clamp least greatest
  omega

end Footage.Word
