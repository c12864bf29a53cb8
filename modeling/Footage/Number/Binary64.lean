namespace Footage

-- A finite binary floating-point number of 64 bits: its sign, and its size as
-- a significand of at most 53 bits times a power of two.
structure Binary64 where
  negative : Bool
  significand : Nat
  exponent : Int
deriving DecidableEq, Repr

namespace Binary64

def twoTo (k : Nat) : Nat := Nat.pow 2 k

def leastExponent : Int := -1074

def greatestExponent : Int := 971

def zero (negative : Bool) : Binary64 := ⟨negative, 0, leastExponent⟩

def isZero (x : Binary64) : Bool := x.significand == 0

-- The integer nearest to a quotient. A half goes to the even neighbour.
def roundDiv (num den : Nat) : Nat :=
  if 2 * (num % den) < den ∨ (2 * (num % den) = den ∧ num / den % 2 = 0) then num / den
  else num / den + 1

-- The exponent of the greatest power of two that is no more than a quotient.
def floorLog2 (num den : Nat) : Int :=
  let guess : Int := (Nat.log2 num : Int) - Nat.log2 den
  if den * twoTo guess.toNat ≤ num * twoTo (-guess).toNat then guess else guess - 1

-- The number nearest to a positive quotient, if it is not past the greatest.
def ofQuotient (negative : Bool) (num den : Nat) : Option Binary64 :=
  let exponent := max (floorLog2 num den - 52) leastExponent
  let significand := roundDiv (num * twoTo (-exponent).toNat) (den * twoTo exponent.toNat)
  let (significand, exponent) :=
    if significand = twoTo 53 then (twoTo 52, exponent + 1) else (significand, exponent)
  if exponent ≤ greatestExponent then some ⟨negative, significand, exponent⟩ else none

-- The number nearest to `num / den * 2 ^ scale`, where `den` is not 0.
def round (negative : Bool) (num den : Nat) (scale : Int) : Option Binary64 :=
  if num = 0 then some (zero negative)
  else ofQuotient negative (num * twoTo scale.toNat) (den * twoTo (-scale).toNat)

def ofNat (n : Nat) : Option Binary64 := round false n 1 0

def mul (x y : Binary64) : Option Binary64 :=
  round (x.negative != y.negative) (x.significand * y.significand) 1 (x.exponent + y.exponent)

def div (x y : Binary64) : Option Binary64 :=
  round (x.negative != y.negative) x.significand y.significand (x.exponent - y.exponent)

def neg (x : Binary64) : Binary64 := { x with negative := !x.negative }

end Binary64

end Footage
