/-! # UTF-8

Decoding of UTF-8 that never fails. The decoder is a state machine over bytes: after a lead byte
it waits for a number of continuation bytes, of which the first may be confined to a narrower
range, which is how overlong forms, surrogates and code points beyond the last are kept out. A
byte that does not fit ends the sequence as malformed and is read again as the start of another,
so each malformed piece is as long as it could have been part of a well-formed sequence.
-/

namespace PascalLint.Encoding.Utf8

/-- Between sequences, or inside one: how many bytes are still to come after the next, the range
    of the next, and the code point so far. -/
inductive State
  | start
  | inside (more : Nat) (low high : UInt8) (code : Nat)
deriving DecidableEq, Repr

/-- What a byte between sequences leads to: a character, the inside of a sequence, or neither. -/
def lead (byte : UInt8) : Option Char ⊕ State :=
  if byte < 0x80 then .inl (some (Char.ofNat byte.toNat))
  else if byte < 0xC2 then .inl none
  else if byte < 0xE0 then .inr (.inside 0 0x80 0xBF (byte.toNat - 0xC0))
  else if byte < 0xF0 then
    let low := if byte = 0xE0 then 0xA0 else 0x80
    let high := if byte = 0xED then 0x9F else 0xBF
    .inr (.inside 1 low high (byte.toNat - 0xE0))
  else if byte < 0xF5 then
    let low := if byte = 0xF0 then 0x90 else 0x80
    let high := if byte = 0xF4 then 0x8F else 0xBF
    .inr (.inside 2 low high (byte.toNat - 0xF0))
  else .inl none

/-- What a byte between sequences adds to the output, and the state behind it. -/
def begin (byte : UInt8) : List (Option Char) × State :=
  match lead byte with
  | .inl output => ([output], .start)
  | .inr state => ([], state)

/-- What a byte adds to the output, and the state behind it. -/
def step (byte : UInt8) : State → List (Option Char) × State
  | .start => begin byte
  | .inside more low high code =>
    if low ≤ byte && byte ≤ high then
      let code := code * 64 + (byte.toNat - 0x80)
      match more with
      | 0 => ([some (Char.ofNat code)], .start)
      | more + 1 => ([], .inside more 0x80 0xBF code)
    else
      let (output, state) := begin byte
      (none :: output, state)

/-- Decodes bytes from a state on. The end of the bytes inside a sequence is malformed. -/
def run : State → List UInt8 → List (Option Char)
  | .start, [] => []
  | .inside .., [] => [none]
  | state, byte :: rest =>
    let (output, behind) := step byte state
    output ++ run behind rest

/-- The characters of some bytes, with none for each malformed piece. -/
def decode (bytes : List UInt8) : List (Option Char) :=
  run .start bytes

end PascalLint.Encoding.Utf8
