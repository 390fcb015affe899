/-! # UTF-16

Decoding of UTF-16 in either order of bytes. Two bytes make a unit; a unit outside the surrogates
is a character, a high surrogate and a low one after it are a character together. A surrogate
without its other half is malformed, and so is whatever the end of the bytes cuts off.
-/

namespace PascalLint.Encoding.Utf16

/-- The order of the two bytes of a unit. -/
inductive Order
  | littleEndian
  | bigEndian
deriving DecidableEq, Repr

/-- The unit that two bytes make. -/
def Order.unit : Order → UInt8 → UInt8 → Nat
  | littleEndian, first, second => second.toNat * 256 + first.toNat
  | bigEndian, first, second => first.toNat * 256 + second.toNat

/-- Holds of the first half of a pair. -/
def isHigh (unit : Nat) : Bool :=
  0xD800 ≤ unit && unit < 0xDC00

/-- Holds of the second half of a pair. -/
def isLow (unit : Nat) : Bool :=
  0xDC00 ≤ unit && unit < 0xE000

/-- The character that a pair of surrogates is. -/
def combine (high low : Nat) : Char :=
  Char.ofNat (0x10000 + (high - 0xD800) * 1024 + (low - 0xDC00))

/-- What a unit that does not go with the unit before it adds to the output, and the high
    surrogate that it leaves waiting for its other half. -/
def begin (unit : Nat) : List (Option Char) × Option Nat :=
  if isHigh unit then ([], some unit)
  else if isLow unit then ([none], none)
  else ([some (Char.ofNat unit)], none)

/-- What a unit adds to the output behind a high surrogate that may be waiting. -/
def step (unit : Nat) : Option Nat → List (Option Char) × Option Nat
  | none => begin unit
  | some high =>
    if isLow unit then ([some (combine high unit)], none)
    else
      let (output, waiting) := begin unit
      (none :: output, waiting)

/-- Decodes bytes behind a high surrogate that may be waiting. -/
def run (order : Order) : Option Nat → List UInt8 → List (Option Char)
  | none, [] => []
  | some _, [] => [none]
  | _, [_] => [none]
  | waiting, first :: second :: rest =>
    let (output, waiting) := step (order.unit first second) waiting
    output ++ run order waiting rest

/-- The characters of some bytes, with none for each malformed piece. -/
def decode (order : Order) (bytes : List UInt8) : List (Option Char) :=
  run order none bytes

end PascalLint.Encoding.Utf16
