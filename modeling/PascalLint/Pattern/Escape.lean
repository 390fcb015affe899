import PascalLint.Pattern.Input
import PascalLint.Pattern.Node

/-! # Escapes of patterns

Behind a backslash stand characters that would otherwise have a meaning of their own, and letters
that stand for control characters, for characters by their code point, for classes of characters
and for anchors.
-/

namespace PascalLint.Pattern

/-! ## Characters by their code point -/

/-- Holds of hexadecimal digits. -/
def isHexDigit (c : Char) : Bool :=
  c.isDigit || 'a' ≤ c && c ≤ 'f' || 'A' ≤ c && c ≤ 'F'

/-- The number that hexadecimal digits stand for. -/
def hexNumber (digits : List Char) : Nat :=
  digits.foldl (fun n c =>
    16 * n + if c.isDigit then c.toNat - '0'.toNat else c.toUpper.toNat - 'A'.toNat + 10) 0

/-- The character with the code point that digits give. -/
def hexCharacter (digits : List Char) (span : Span) : Except Fault Char :=
  if (hexNumber digits).isValidChar then .ok (Char.ofNat (hexNumber digits))
  else faultAt .hexNoCharacter span

/-- A given number of hexadecimal digits. -/
def readHexDigits (verbose : Bool) : Nat → Input → Except Fault (List Char × Input)
  | 0, input => .ok ([], input)
  | n + 1, input =>
    match input.rest with
    | [] => faultAt .escapeEnd input.nowhere
    | c :: _ =>
      if isHexDigit c then do
        let (digits, behind) ← readHexDigits verbose n (input.next verbose)
        return (c :: digits, behind)
      else faultAt .hexDigit input.here

/-- A character whose code point is written with a number of digits, or with any number of them
    between braces. The escape begins at `start`; the input begins behind its letter. -/
def readHex (verbose : Bool) (count : Nat) (start : Position) (input : Input) : Except Fault (Atom × Input) :=
  match input.rest with
  | [] => faultAt .escapeEnd input.nowhere
  | '{' :: _ =>
    let digitsAt := input.advance.place
    let (digits, behind) := (input.next verbose).collect verbose isHexDigit
    match behind.rest with
    | [] => faultAt .escapeEnd (behind.since input.place)
    | '}' :: _ => do
      let after := behind.next verbose
      if digits.isEmpty then faultAt .hexEmpty (after.since input.place)
      let c ← hexCharacter digits (behind.since digitsAt)
      return (.literal ⟨after.since start, c, false⟩, after)
    | _ => faultAt .hexDigit behind.here
  | _ => do
    let (digits, behind) ← readHexDigits verbose count input
    let c ← hexCharacter digits (behind.since input.place)
    return (.literal ⟨behind.since start, c, count == 2⟩, behind)

/-! ## Properties -/

/-- A property, which is named by a letter or between braces. The escape begins at `start`; the
    input begins behind its letter. -/
def readProperty (verbose : Bool) (start : Position) (input : Input) : Except Fault (Atom × Input) :=
  match input.rest with
  | [] => faultAt .escapeEnd input.nowhere
  | '{' :: _ =>
    let (_, behind) := (input.next verbose).collect verbose (· != '}')
    if behind.rest.isEmpty then faultAt .escapeEnd behind.nowhere
    else
      let after := behind.advance
      .ok (.property (after.since start), after)
  | c :: _ =>
    if c == '\\' then faultAt .propertyInvalid input.here
    else
      let after := input.next verbose
      .ok (.property (after.since start), after)

/-! ## Edges of words -/

/-- The sides of a place that have a name. -/
def namedSides : List (String × WordSide) := [
  ("start", .start), ("end", .stop), ("start-half", .startHalf), ("end-half", .stopHalf)]

/-- The sides of a place that a name between braces stands for, behind the escape for the edge of a
    word, which begins at `start`. What begins like a number is not a name but a count. -/
def readNamedSide? (verbose : Bool) (start : Position) (input : Input) :
    Except Fault (Option (WordSide × Input)) :=
  let isNameCharacter (c : Char) : Bool := c.isAlpha || c == '-'
  let contents := input.next verbose
  match contents.rest with
  | [] => faultAt .wordSideEnd (contents.since start)
  | c :: _ =>
    if !isNameCharacter c then .ok none
    else
      let (name, behind) := contents.collect verbose isNameCharacter
      if behind.rest.head? != some '}' then faultAt .wordSideOpen (behind.since input.place)
      else
        match namedSides.lookup (String.ofList name) with
        | some side => .ok (some (side, behind.advance))
        | none => faultAt .wordSideUnknown (behind.since contents.place)

/-- The edge of a word, behind its escape, which begins at `start`. -/
def readWordEdge (verbose : Bool) (start : Position) (input : Input) : Except Fault (Atom × Input) := do
  let plain := (Atom.anchor (input.since start) (.word .edge), input)
  if input.rest.head? != some '{' then return plain
  match ← readNamedSide? verbose start input with
  | some (side, behind) => return (.anchor (behind.since start) (.word side), behind)
  | none => return plain

/-! ## Escapes -/

/-- The characters that stand for themselves behind a backslash only, here or there in a
    pattern. -/
def isMeta (c : Char) : Bool :=
  "\\.+*?()|[]\x7b\x7d^$#&-~".contains c

/-- The control characters that letters stand for. -/
def controlLetters : List (Char × Char) := [
  ('a', '\x07'), ('f', '\x0c'), ('t', '\t'), ('n', '\n'), ('r', '\r'), ('v', '\x0b')]

/-- The anchors that characters stand for. -/
def anchorLetters : List (Char × AnchorMark) := [
  ('A', .textStart), ('z', .textEnd), ('B', .word .noEdge), ('<', .word .start),
  ('>', .word .stop)]

/-- The classes that letters stand for; a capital stands for all other characters. -/
def classLetters : List (Char × WordClass) := [('d', .digit), ('s', .space), ('w', .word)]

/-- An escape. -/
def readEscape (verbose : Bool) (input : Input) : Except Fault (Atom × Input) :=
  let start := input.place
  let letter := input.advance
  match letter.rest with
  | [] => faultAt .escapeEnd (letter.since start)
  | c :: _ =>
    let behind := letter.advance
    let span := behind.since start
    if c.isDigit then faultAt .backreference span
    else if c == 'x' then readHex verbose 2 start (letter.next verbose)
    else if c == 'u' then readHex verbose 4 start (letter.next verbose)
    else if c == 'U' then readHex verbose 8 start (letter.next verbose)
    else if c == 'p' || c == 'P' then readProperty verbose start (letter.next verbose)
    else if c == 'b' then readWordEdge verbose start behind
    else
      match classLetters.lookup c.toLower, controlLetters.lookup c, anchorLetters.lookup c with
      | some kind, _, _ => .ok (.wordClass span kind c.isUpper, behind)
      | none, some control, _ => .ok (.literal ⟨span, control, false⟩, behind)
      | none, none, some mark => .ok (.anchor span mark, behind)
      | none, none, none =>
        if isMeta c || c.toNat < 0x80 && !c.isAlphanum then
          .ok (.literal ⟨span, c, false⟩, behind)
        else faultAt .escapeUnknown span

end PascalLint.Pattern
