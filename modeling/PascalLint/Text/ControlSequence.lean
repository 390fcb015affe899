/-! # Control sequences

Some characters control a terminal and are not shown on it: control characters other than white
space, and whole sequences that an escape character introduces. `strip` leaves the other
characters of a text, so that it can be written where nobody reads control sequences.
-/

namespace PascalLint.Text.ControlSequence

/-- Where a character stands. -/
inductive Mode
  /-- Outside of all sequences. -/
  | text
  /-- Behind an escape character. -/
  | escape
  /-- Further behind an escape character, before the last character of the sequence. -/
  | intermediate
  /-- In a sequence with an opening bracket behind the escape character. -/
  | command
  /-- At the start of the header of a device control. -/
  | deviceStart
  /-- Among the parameters in such a header. -/
  | deviceParameter
  /-- Behind the parameters in such a header. -/
  | deviceIntermediate
  /-- In a text for a device, which a terminator ends. -/
  | deviceText
  /-- In a text for the operating system, which a bell ends. -/
  | systemText
deriving DecidableEq, Repr

/-- Holds if the code point of `c` lies between two others. -/
def isBetween (low high : Nat) (c : Char) : Bool :=
  low ≤ c.toNat && c.toNat ≤ high

/-- Holds of the control characters that count as white space. -/
def isBlankControl (c : Char) : Bool :=
  c == '\t' || c == '\n' || c == '\x0c' || c == '\r'

/-- Holds if the byte that terminates a text for a device occurs in the encoding of `c`. -/
def hasTerminator (c : Char) : Bool :=
  (String.utf8EncodeChar c).contains 0x9C

namespace Mode

/-- Holds if `c` is shown. White space is shown inside the sequences that consist of single
    characters, too. -/
def shows (mode : Mode) (c : Char) : Bool :=
  match mode with
  | text => isBlankControl c || 0x20 ≤ c.toNat && c.toNat != 0x7F
  | escape | intermediate | command => isBlankControl c
  | _ => false

/-- Where the character behind `c` stands, if `c` is not shown. -/
def after (mode : Mode) (c : Char) : Mode :=
  if c == '\x1b' then escape
  else if c == '\x18' || c == '\x1a' then text
  else match mode with
    | text => text
    | escape =>
      if c == '[' then command
      else if c == ']' then systemText
      else if c == 'P' then deviceStart
      else if c == 'X' || c == '^' || c == '_' then deviceText
      else if isBetween 0x20 0x2F c then intermediate
      else if isBetween 0x30 0x7E c then text
      else escape
    | intermediate => if isBetween 0x30 0x7E c then text else intermediate
    | command => if isBetween 0x40 0x7E c then text else command
    | deviceStart =>
      if isBetween 0x20 0x2F c then deviceIntermediate
      else if isBetween 0x30 0x3F c then deviceParameter
      else if isBetween 0x40 0x7E c then deviceText
      else deviceStart
    | deviceParameter =>
      if isBetween 0x20 0x2F c then deviceIntermediate
      else if isBetween 0x3C 0x7E c then deviceText
      else deviceParameter
    | deviceIntermediate => if isBetween 0x30 0x7E c then deviceText else deviceIntermediate
    | deviceText => if hasTerminator c then text else deviceText
    | systemText => if c == '\x07' then text else systemText

end Mode

/-- The characters that are shown of a text that begins in the given mode. -/
def stripFrom : Mode → List Char → List Char
  | _, [] => []
  | mode, c :: rest =>
    if mode.shows c then c :: stripFrom .text rest else stripFrom (mode.after c) rest

/-- The characters that are shown of a text. -/
def strip (text : List Char) : List Char :=
  stripFrom .text text

end PascalLint.Text.ControlSequence
