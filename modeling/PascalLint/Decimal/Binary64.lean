/-! # Decimals and binary floating point

A decimal is rounded to the nearest floating point number of 64 bits, a tie going to the even
significand; and a floating point number is written with the fewest digits that round back to it,
the nearest such digits if there are several. Both directions are exact arithmetic on natural
numbers: a number is a significand and an exponent, and the numbers that round to it form an
interval whose ends belong to it if the significand is even.
-/

namespace PascalLint.Decimal

/-- A quotient of natural numbers, rounded to the nearest; a tie goes to the even neighbour. -/
def roundDiv (numerator denominator : Nat) : Nat :=
  let quotient := numerator / denominator
  let twice := 2 * (numerator % denominator)
  if twice < denominator then quotient
  else if denominator < twice then quotient + 1
  else if quotient % 2 = 0 then quotient
  else quotient + 1

/-- A quotient as numerator and denominator, times a power of a base. -/
def scale (base : Nat) (exponent : Int) (quotient : Nat × Nat) : Nat × Nat :=
  if 0 ≤ exponent then (quotient.1 * Nat.pow base exponent.toNat, quotient.2)
  else (quotient.1, quotient.2 * Nat.pow base (-exponent).toNat)

/-- A floating point number without its sign: zero, `significand * 2 ^ exponent`, or infinity. -/
inductive Magnitude
  | zero
  | finite (significand : Nat) (exponent : Int)
  | infinite
deriving DecidableEq, Repr

/-- The exponent of the least significant bit of a quotient that is not zero: the significand has
    53 bits, unless the number is too small for that. -/
def unitExponent (quotient : Nat × Nat) : Int :=
  let estimate := (Nat.log2 quotient.1 : Int) - Nat.log2 quotient.2
  let (numerator, denominator) := scale 2 (-estimate) quotient
  let leading := if numerator < denominator then estimate - 1 else estimate
  max (leading - 52) (-1074)

/-- The floating point number nearest to `significand * 10 ^ exponent`. -/
def toBinary (significand : Nat) (exponent : Int) : Magnitude :=
  let digits : Int := (toString significand).length
  if significand = 0 || digits + exponent < -330 then .zero
  else if 310 < digits + exponent then .infinite
  else
    let quotient := scale 10 exponent (significand, 1)
    let unit := unitExponent quotient
    let (numerator, denominator) := scale 2 (-unit) quotient
    match roundDiv numerator denominator with
    | 0 => .zero
    | rounded =>
      if rounded = Nat.pow 2 53 then
        if 970 < unit then .infinite else .finite (Nat.pow 2 52) (unit + 1)
      else if 971 < unit then .infinite
      else .finite rounded unit

/-- Holds if `digits * 10 ^ power` rounds to `significand * 2 ^ exponent`. -/
def roundsTo (significand : Nat) (exponent : Int) (digits : Nat) (power : Int) : Bool :=
  let (numerator, denominator) := scale 2 (-exponent) (scale 10 power (digits, 1))
  -- In quarters of a unit. Below a power of two the neighbour is half as far away.
  let low :=
    if significand = Nat.pow 2 52 && -1074 < exponent then 4 * significand - 1
    else 4 * significand - 2
  let high := 4 * significand + 2
  if significand % 2 = 0 then
    low * denominator ≤ 4 * numerator && 4 * numerator ≤ high * denominator
  else low * denominator < 4 * numerator && 4 * numerator < high * denominator

/-- The digits before a power of ten that are next to `significand * 2 ^ exponent` and round to it,
    the nearer ones first. -/
def candidates (significand : Nat) (exponent power : Int) : List Nat :=
  let (numerator, denominator) := scale 10 (-power) (scale 2 exponent (significand, 1))
  let below := numerator / denominator
  let neighbours :=
    if 2 * (numerator % denominator) < denominator then [below, below + 1]
    else [below + 1, below]
  neighbours.filter fun digits => 0 < digits && roundsTo significand exponent digits power

/-- The fewest digits, with a power of ten, that round to `significand * 2 ^ exponent`: the digits
    before the greatest power that has any. -/
def shortest (significand : Nat) (exponent : Int) : Nat × Int :=
  let found := (List.range 660).findSome? fun (step : Nat) =>
    let power : Int := 310 - (step : Int)
    (candidates significand exponent power).head?.map fun digits => (digits, power)
  found.getD (0, 0)

/-- The decimal `digits * 10 ^ power` without an exponent, with at least one place. -/
def positional (digits : Nat) (power : Int) : String :=
  let characters := (toString digits).toList
  let zeros (count : Nat) := List.replicate count '0'
  if 0 ≤ power then String.ofList (characters ++ zeros power.toNat ++ ['.', '0'])
  else
    let places := (-power).toNat
    let padded := zeros (places + 1 - characters.length) ++ characters
    String.ofList
      (padded.take (padded.length - places) ++ ['.'] ++ padded.drop (padded.length - places))

/-- The written form of a magnitude. -/
def Magnitude.render : Magnitude → String
  | zero => "0.0"
  | finite significand exponent =>
    let (digits, power) := shortest significand exponent
    positional digits power
  | infinite => "inf"

end PascalLint.Decimal
