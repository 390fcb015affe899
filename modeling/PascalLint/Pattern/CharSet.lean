import PascalLint.Unicode.Table

/-! # Sets of characters

What a bracketed class of a pattern stands for: ranges of code points and what can be made of
them. A set is kept as it is built up; `contains` says which characters are in it.
-/

namespace PascalLint.Pattern

open PascalLint.Unicode (CodeRange inTable)

/-- The ways to make one set out of two. -/
inductive SetOperation
  | union
  | intersection
  | difference
  | symmetricDifference
deriving DecidableEq, Repr

/-- Whether something is in the result, given whether it is in either set. -/
def SetOperation.apply : SetOperation → Bool → Bool → Bool
  | union, first, second => first || second
  | intersection, first, second => first && second
  | difference, first, second => first && !second
  | symmetricDifference, first, second => first != second

/-- A set of characters. -/
inductive CharSet
  | ranges (table : List CodeRange)
  | complement (set : CharSet)
  | combined (operation : SetOperation) (first second : CharSet)
  /-- The characters that are in a set, or would be if they were capital or small. -/
  | eitherCase (set : CharSet)

namespace CharSet

/-- The letter of the other case; characters other than the letters of ASCII have none and stand
    for themselves. -/
def otherCase (c : Char) : Char :=
  if c.isUpper then c.toLower else c.toUpper

/-- Holds if `c` is in the set. -/
def contains : CharSet → Char → Bool
  | ranges table, c => inTable table c
  | complement set, c => !set.contains c
  | combined operation first second, c => operation.apply (first.contains c) (second.contains c)
  | eitherCase set, c => set.contains c || set.contains (otherCase c)

/-- The set of one character. -/
def single (c : Char) : CharSet :=
  ranges [⟨c.toNat, c.toNat⟩]

/-- The set of no characters. -/
def none : CharSet := ranges []

/-- The set of all characters. -/
def all : CharSet := complement none

/-- A set or the set of all other characters. -/
def negatedIf (negated : Bool) (set : CharSet) : CharSet :=
  if negated then complement set else set

end CharSet

/-! ## Named sets -/

/-- The sets of ASCII characters that have a name. -/
def namedRanges : List (String × List CodeRange) := [
  ("alnum", [⟨0x30, 0x39⟩, ⟨0x41, 0x5A⟩, ⟨0x61, 0x7A⟩]),
  ("alpha", [⟨0x41, 0x5A⟩, ⟨0x61, 0x7A⟩]),
  ("ascii", [⟨0x00, 0x7F⟩]),
  ("blank", [⟨0x09, 0x09⟩, ⟨0x20, 0x20⟩]),
  ("cntrl", [⟨0x00, 0x1F⟩, ⟨0x7F, 0x7F⟩]),
  ("digit", [⟨0x30, 0x39⟩]),
  ("graph", [⟨0x21, 0x7E⟩]),
  ("lower", [⟨0x61, 0x7A⟩]),
  ("print", [⟨0x20, 0x7E⟩]),
  ("punct", [⟨0x21, 0x2F⟩, ⟨0x3A, 0x40⟩, ⟨0x5B, 0x60⟩, ⟨0x7B, 0x7E⟩]),
  ("space", [⟨0x09, 0x0D⟩, ⟨0x20, 0x20⟩]),
  ("upper", [⟨0x41, 0x5A⟩]),
  ("word", [⟨0x30, 0x39⟩, ⟨0x41, 0x5A⟩, ⟨0x5F, 0x5F⟩, ⟨0x61, 0x7A⟩]),
  ("xdigit", [⟨0x30, 0x39⟩, ⟨0x41, 0x46⟩, ⟨0x61, 0x66⟩])]

/-- Holds of the letters, the digits and the underscore. -/
def isWord (c : Char) : Bool :=
  c.isAlphanum || c == '_'

end PascalLint.Pattern
