/-! # Defects

The kinds of defect that a Pascal source is checked for. Each has a number, a description and a
category, which says on what the verdict rests: on the characters of a token, on the nesting of
literals and blocks, or on a pattern that mistakes usually follow.
-/

namespace PascalLint

/-- What the verdict on a defect rests on. -/
inductive Category
  | lexical
  | structural
  | heuristic
deriving DecidableEq, Repr

namespace Category

/-- The categories in the order in which reports count them. -/
def all : List Category := [.lexical, .structural, .heuristic]

/-- The name of the category in reports. -/
def name : Category → String
  | .lexical => "lexical"
  | .structural => "structural"
  | .heuristic => "heuristic"

end Category

/-- The kinds of defect. -/
inductive Defect
  /-- A character that begins no token. -/
  | unknownSymbol
  /-- A leading `case` without `of`. -/
  | missingOf
  /-- A `for` header without `:=`. -/
  | headerWithoutAssignment
  /-- A leading `if` without `then`. -/
  | missingThen
  /-- A leading `for` or `while` without `do`. -/
  | missingDo
  /-- A string literal that the next line does not close either. -/
  | unterminatedString
  /-- A block comment that is open at the end of the source. -/
  | unterminatedComment
  /-- A character constant that is not one character between quotes. -/
  | badCharConstant
  /-- `=` where `:=` was meant. -/
  | equalsForAssignment
  /-- A suspicious short name that no line declares. -/
  | undeclaredName
  /-- A case label that is no constant. -/
  | badCaseLabel
  /-- `...` where `..` was meant. -/
  | tripleDot
  /-- A word that was meant to be `end`, or an `end` that runs into what follows. -/
  | malformedEnd
  /-- An integer beyond the largest one. -/
  | integerOutOfRange
  /-- An `end` that closes nothing. -/
  | unmatchedEnd
  /-- A block that is open at the end of the source. -/
  | unterminatedBlock
  /-- Nothing between a keyword and its partner. -/
  | emptyCondition
  /-- Nothing after the partner of a keyword. -/
  | emptyBody
deriving DecidableEq, Repr

namespace Defect

/-- All kinds of defect. -/
def all : List Defect :=
  [unknownSymbol, missingOf, headerWithoutAssignment, missingThen, missingDo, unterminatedString,
   unterminatedComment, badCharConstant, equalsForAssignment, undeclaredName, badCaseLabel,
   tripleDot, malformedEnd, integerOutOfRange, unmatchedEnd, unterminatedBlock, emptyCondition,
   emptyBody]

/-- The number of a defect in reports. -/
def number : Defect → Nat
  | unknownSymbol => 100
  | missingOf => 8
  | headerWithoutAssignment => 51
  | missingThen => 52
  | missingDo => 54
  | unterminatedString => 76
  | unterminatedComment => 86
  | badCharConstant => 101
  | equalsForAssignment => 103
  | undeclaredName => 104
  | badCaseLabel => 147
  | tripleDot => 201
  | malformedEnd => 202
  | integerOutOfRange => 203
  | unmatchedEnd => 204
  | unterminatedBlock => 205
  | emptyCondition => 206
  | emptyBody => 207

/-- What is wrong, in one sentence. -/
def description : Defect → String
  | unknownSymbol => "Unrecognized character."
  | missingOf => "Missing `of` after `case` selector."
  | headerWithoutAssignment =>
    "A `for` loop header must assign the control variable with `:=`."
  | missingThen => "Missing `then` after `if` condition."
  | missingDo => "Missing `do` after loop header."
  | unterminatedString => "Unterminated string literal."
  | unterminatedComment => "Unterminated comment."
  | badCharConstant => "Invalid character constant."
  | equalsForAssignment => "Use `:=` instead of `=` for assignment."
  | undeclaredName => "Unknown identifier."
  | badCaseLabel => "Case label must be a quoted character, numeric constant, or declared name."
  | tripleDot => "Invalid range syntax (use `..` instead of `...`)."
  | malformedEnd => "Malformed block terminator (use `end`, `end;`, or `end.`)."
  | integerOutOfRange => "Invalid integer constant (must be between -32768 and 32767)."
  | unmatchedEnd => "`end` without matching `begin`."
  | unterminatedBlock => "Block is not terminated before end of input."
  | emptyCondition => "Missing condition or selector expression."
  | emptyBody => "Missing statement or alternatives after keyword."

/-- The category of a defect. -/
def category : Defect → Category
  | unknownSymbol | badCharConstant | integerOutOfRange => .lexical
  | unterminatedString | unterminatedComment | malformedEnd | unmatchedEnd
  | unterminatedBlock => .structural
  | missingOf | headerWithoutAssignment | missingThen | missingDo | equalsForAssignment
  | undeclaredName | badCaseLabel | tripleDot | emptyCondition | emptyBody => .heuristic

/-- The defect with the given number. -/
def ofNumber? (n : Nat) : Option Defect :=
  all.find? (·.number == n)

theorem ofNumber?_number (defect : Defect) : ofNumber? defect.number = some defect := by
  cases defect <;> decide

theorem number_injective {d e : Defect} (same : d.number = e.number) : d = e := by
  have found := ofNumber?_number d
  rw [same, ofNumber?_number] at found
  exact (Option.some.inj found).symm

/-- What the defect with a number is, also if there is none. -/
def describeNumber (n : Nat) : String :=
  match ofNumber? n with
  | some defect => defect.description
  | none => "unrecognized error (code " ++ toString n ++ ")"

end Defect

end PascalLint
