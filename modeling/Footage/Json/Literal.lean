import Footage.Hex
import Footage.Json.Basic

namespace Footage.Json

-- A string as it is written: characters, and UTF-16 units given by number.
inductive Piece
  | char (c : Char)
  | unit (u : Nat)
deriving DecidableEq, Repr

def isHighSurrogate (u : Nat) : Bool := 0xd800 ≤ u && u < 0xdc00

def isLowSurrogate (u : Nat) : Bool := 0xdc00 ≤ u && u < 0xe000

def surrogatePair (high low : Nat) : Char :=
  Char.ofNat (0x10000 + (high - 0xd800) * 0x400 + (low - 0xdc00))

-- The characters meant. A surrogate stands for something only as the half of a
-- pair whose other half is given by number as well.
def Piece.decode : List Piece → Option (List Char)
  | [] => some []
  | .char c :: rest => (decode rest).map (c :: ·)
  | .unit u :: rest =>
    if isHighSurrogate u then
      match rest with
      | .unit v :: after =>
        if isLowSurrogate v then (decode after).map (surrogatePair u v :: ·) else none
      | _ => none
    else if isLowSurrogate u then none
    else (decode rest).map (Char.ofNat u :: ·)

-- A number as it is written. Without a point there is no fraction.
structure Numeral where
  negative : Bool
  whole : List Nat
  fraction : List Nat
  exponent : Option Int
deriving DecidableEq, Repr

namespace Numeral

-- Digits are gathered for as long as they fit 64 bits without sign.
def limit : Nat := 18446744073709551615

-- Gathered digits times a power of ten.
structure Gathered where
  digits : Nat
  exponent : Int
deriving DecidableEq, Repr

-- What does not fit before the point still counts as a power of ten.
def gatherWhole (soFar : Nat) : List Nat → Gathered
  | [] => ⟨soFar, 0⟩
  | d :: ds =>
    if 10 * soFar + d ≤ limit then gatherWhole (10 * soFar + d) ds
    else ⟨soFar, (ds.length : Int) + 1⟩

-- What does not fit after the point is cut off.
def gatherFraction (g : Gathered) : List Nat → Gathered
  | [] => g
  | d :: ds =>
    if 10 * g.digits + d ≤ limit then gatherFraction ⟨10 * g.digits + d, g.exponent - 1⟩ ds
    else g

def powerOfTen (k : Nat) : Binary64 := (Binary64.ofNat (Decimal.tenTo k)).getD (.zero false)

-- Division by a power of ten, in steps no longer than the greatest power there is.
def shrink (x : Binary64) (k : Nat) : Option Binary64 :=
  if k ≤ 308 then x.div (powerOfTen k)
  else if x.isZero then some x
  else (x.div (powerOfTen 308)).bind (shrink · (k - 308))
termination_by k

def scale (x : Binary64) (exponent : Int) : Option Binary64 :=
  if exponent < 0 then shrink x exponent.natAbs
  else if x.isZero then some x
  else if exponent ≤ 308 then x.mul (powerOfTen exponent.toNat)
  else none

-- Digits and power are rounded one after the other.
def real (negative : Bool) (g : Gathered) : Option Number := do
  let x ← Binary64.ofNat g.digits
  let x ← scale x g.exponent
  return .real (if negative then x.neg else x)

-- A number without point and exponent is an integer if it has a place in 64 bits,
-- and so has no minus sign when it is zero. One that is too large has no value.
def value? (n : Numeral) : Option Number :=
  let g := gatherWhole 0 n.whole
  if n.fraction.isEmpty && n.exponent.isNone then
    if g.exponent ≠ 0 then real n.negative g
    else if !n.negative then some (.integer g.digits)
    else if 0 < g.digits ∧ g.digits ≤ 9223372036854775808 then some (.integer (-g.digits))
    else real true g
  else
    let g := gatherFraction g n.fraction
    real n.negative ⟨g.digits, g.exponent + n.exponent.getD 0⟩

end Numeral

end Footage.Json
