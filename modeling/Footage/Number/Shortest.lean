import Footage.Decimal
import Footage.Number.Binary64

namespace Footage.Binary64

-- The real numbers that round to a given number, in quarters of the unit of
-- its significand. The ends belong to it when the significand is even.
structure Interval where
  low : Nat
  middle : Nat
  high : Nat
  closed : Bool

-- Below a power of two the neighbour is only half as far away.
def interval (x : Binary64) : Interval where
  low := if x.significand = twoTo 52 ∧ leastExponent < x.exponent
    then 4 * x.significand - 1 else 4 * x.significand - 2
  middle := 4 * x.significand
  high := 4 * x.significand + 2
  closed := x.significand % 2 == 0

-- The exponent of the least power of ten that is more than a quotient.
def decimalExponent (num den : Nat) : Int :=
  if den ≤ num then (Decimal.digits (num / den)).length
  else 1 - (Decimal.digits ((den - 1) / num)).length

-- A decimal number: digits times a power of ten.
structure Scaled where
  digits : Nat
  exponent : Int
deriving DecidableEq, Repr

-- A point of the grid of multiples of `10 ^ place`, held against quarters: the
-- point and the quarters on one scale.
def onScale (x : Binary64) (place : Int) (point quarters : Nat) : Nat × Nat :=
  (point * Decimal.tenTo place.toNat * twoTo (2 - x.exponent).toNat,
    quarters * Decimal.tenTo (-place).toNat * twoTo (x.exponent - 2).toNat)

def reads (x : Binary64) (place : Int) (point : Nat) : Bool :=
  let i := x.interval
  let (p, low) := onScale x place point i.low
  let (p', high) := onScale x place point i.high
  if i.closed then low ≤ p && p' ≤ high else low < p && p' < high

-- Of the two points next to the number on the grid of `10 ^ place` the one that
-- reads back; of two, the nearer, and of two equally near the even one.
def onGrid? (x : Binary64) (place : Int) : Option Scaled :=
  let (unit, middle) := onScale x place 1 x.interval.middle
  let below := middle / unit
  match reads x place below, reads x place (below + 1) with
  | false, false => none
  | true, false => some ⟨below, place⟩
  | false, true => some ⟨below + 1, place⟩
  | true, true =>
    let left := 2 * (middle % unit)
    if left < unit ∨ (left = unit ∧ below % 2 = 0) then some ⟨below, place⟩
    else some ⟨below + 1, place⟩

def dropZeros (s : Scaled) : Nat → Scaled
  | 0 => s
  | fuel + 1 =>
    if s.digits ≠ 0 ∧ s.digits % 10 = 0 then dropZeros ⟨s.digits / 10, s.exponent + 1⟩ fuel else s

-- The fewest digits that read back, tried from one digit up to seventeen, which
-- are always enough.
def shortest (x : Binary64) : Scaled :=
  let (unit, middle) := onScale x 0 1 x.interval.middle
  let top := decimalExponent middle unit
  let found := (List.range 17).findSome? fun (n : Nat) => x.onGrid? (top - (n + 1 : Nat))
  dropZeros (found.getD ⟨0, 0⟩) 18

-- Sizes from 0.00001 to below 10 ^ 16 are written with a point and at least one
-- place on both sides of it, all others with an exponent that has its sign.
def layout (s : Scaled) : String :=
  let ds := Decimal.digits s.digits
  let point : Int := ds.length + s.exponent
  if point < -4 ∨ 16 < point then
    let mantissa := match ds with
      | [] => []
      | [d] => [d]
      | d :: rest => d :: '.' :: rest
    let sign := if point ≤ 0 then "-" else "+"
    String.ofList mantissa ++ "e" ++ sign ++ Decimal.ofNat (point - 1).natAbs
  else if point ≤ 0 then
    "0." ++ String.ofList (List.replicate (-point).toNat '0' ++ ds)
  else if ds.length ≤ point.toNat then
    String.ofList (ds ++ List.replicate (point.toNat - ds.length) '0') ++ ".0"
  else
    String.ofList (ds.take point.toNat) ++ "." ++ String.ofList (ds.drop point.toNat)

def text (x : Binary64) : String :=
  (if x.negative then "-" else "") ++ (if x.isZero then "0.0" else layout x.shortest)

end Footage.Binary64
