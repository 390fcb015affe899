import PascalLint.Pattern.CharSet

/-! # Patterns

A pattern describes stretches of a text. It is made of sets of characters and of anchors, which
describe empty stretches at certain places only, by sequence, choice and repetition. A text
matches a pattern if the pattern describes some stretch of it.

The meaning of a pattern is a map on sets of places: `reach` gives the places at which a stretch
may end that starts at one of some places. Since only a text's own places count, repetition comes
to an end by itself.
-/

namespace PascalLint

namespace Pattern

/-! ## Places -/

/-- A place in a text: its index, the character before it and the characters behind it. -/
structure Place where
  index : Nat
  before : Option Char
  rest : List Char
deriving DecidableEq, Repr

/-- The places of a text from a place on. -/
def placesFrom (index : Nat) (before : Option Char) : List Char → List Place
  | [] => [⟨index, before, []⟩]
  | c :: rest => ⟨index, before, c :: rest⟩ :: placesFrom (index + 1) (some c) rest

/-- The places of a text. -/
def placesOf (text : List Char) : List Place :=
  placesFrom 0 none text

/-- The place behind the next character, if that is in a set. -/
def Place.step? (set : CharSet) (place : Place) : Option Place :=
  match place.rest with
  | c :: rest => if set.contains c then some ⟨place.index + 1, some c, rest⟩ else none
  | [] => none

/-- Holds if a place is among some places of the same text. -/
def Place.isIn (place : Place) (places : List Place) : Bool :=
  places.any (·.index == place.index)

/-- Some places and those of others that are not among them. -/
def merge (places others : List Place) : List Place :=
  places ++ others.filter fun place => !place.isIn places

/-- Holds if two lists have the same places. -/
def samePlaces (places others : List Place) : Bool :=
  places.length == others.length && places.all (·.isIn others)

/-! ## Anchors -/

/-- Sides of a place on which there is to be a letter, digit or underscore, or is not to be. -/
inductive WordSide
  /-- On one side only. -/
  | edge
  /-- On both sides or on none. -/
  | noEdge
  /-- Behind the place only. -/
  | start
  /-- Before the place only. -/
  | stop
  /-- Not before the place. -/
  | startHalf
  /-- Not behind the place. -/
  | stopHalf
deriving DecidableEq, Repr

/-- Conditions on a place. -/
inductive Anchor
  | textStart
  | textEnd
  /-- The start of a line; the flag says that a carriage return ends a line too. -/
  | lineStart (returns : Bool)
  /-- The end of a line; the flag says that a carriage return ends a line too. -/
  | lineEnd (returns : Bool)
  /-- The flag says that letters and digits of all scripts count. -/
  | word (side : WordSide) (allScripts : Bool)
deriving DecidableEq, Repr

/-- Whether a condition on the sides of a place holds, given the sides. -/
def WordSide.holds (before behind : Bool) : WordSide → Bool
  | edge => before != behind
  | noEdge => before == behind
  | start => !before && behind
  | stop => before && !behind
  | startHalf => !before
  | stopHalf => !behind

/-- Holds if a condition is true of a place. Between a carriage return and a new-line no line
    starts or ends. -/
def Anchor.holds (place : Place) : Anchor → Bool
  | textStart => place.before.isNone
  | textEnd => place.rest.isEmpty
  | lineStart false => place.before.all (· == '\n')
  | lineEnd false => place.rest.head?.all (· == '\n')
  | lineStart true =>
    place.before.all fun c => c == '\n' || c == '\r' && place.rest.head? != some '\n'
  | lineEnd true =>
    place.rest.head?.all fun c => c == '\r' || c == '\n' && place.before != some '\r'
  | word side _ => side.holds (place.before.any isWord) (place.rest.head?.any isWord)

end Pattern

/-! ## Patterns and their meaning -/

/-- A pattern. -/
inductive Pattern
  /-- The empty stretches. -/
  | empty
  /-- One character of a set. -/
  | char (set : Pattern.CharSet)
  /-- The empty stretches at certain places. -/
  | anchor (anchor : Pattern.Anchor)
  | sequence (first second : Pattern)
  | choice (first second : Pattern)
  /-- As many times as the bounds say; without an upper bound, any number of times from the lower
      one on. -/
  | repeated (least : Nat) (most : Option Nat) (pattern : Pattern)

namespace Pattern

/-- The places after a number of steps. Once a step changes nothing no further one will. -/
def afterSteps (step : List Place → List Place) : Nat → List Place → List Place
  | 0, places => places
  | n + 1, places =>
    let next := step places
    if samePlaces places next then places else afterSteps step n next

/-- The places after any number of steps up to a limit. -/
def withinSteps (step : List Place → List Place) : Nat → List Place → List Place
  | 0, places => places
  | n + 1, places =>
    let wider := merge places (step places)
    if wider.length = places.length then places else withinSteps step n wider

/-- How many places there are from the first of some places to the end of the text, at least. -/
def room (places : List Place) : Nat :=
  (places.map (·.rest.length)).foldl max 0 + 1

/-- The places at which a stretch that the pattern describes may end if it starts at one of the
    given places. -/
def reach : Pattern → List Place → List Place
  | empty, places => places
  | char set, places => places.filterMap (·.step? set)
  | anchor condition, places => places.filter (condition.holds ·)
  | sequence first second, places => second.reach (first.reach places)
  | choice first second, places => merge (first.reach places) (second.reach places)
  | repeated least most pattern, places =>
    let reached := afterSteps pattern.reach least places
    withinSteps pattern.reach ((most.map (· - least)).getD (room reached)) reached

/-- Holds if the pattern describes some stretch of the text. -/
def isIn (pattern : Pattern) (text : List Char) : Bool :=
  !(pattern.reach (placesOf text)).isEmpty

/-! ## Size -/

/-- How many steps it takes to describe a stretch, all choices and repetitions written out. -/
def size : Pattern → Nat
  | empty | char _ | anchor _ => 1
  | sequence first second => first.size + second.size
  | choice first second => first.size + second.size + 1
  | repeated least most pattern => (most.getD (least + 1)) * (pattern.size + 1)

/-- Holds if the pattern asks for the letters and digits of all scripts at the sides of a place. -/
def needsAllScripts : Pattern → Bool
  | anchor (.word _ allScripts) => allScripts
  | empty | char _ | anchor _ => false
  | sequence first second | choice first second => first.needsAllScripts || second.needsAllScripts
  | repeated _ most pattern => most != some 0 && pattern.needsAllScripts

end Pattern

end PascalLint
