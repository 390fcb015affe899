import PascalLint.Line
import PascalLint.Unicode.CaseFolding

/-! # Declared names

Which part of the program a line belongs to and which names have been declared so far. A leading
keyword says where a part begins; in the part of the constants a line with an equals sign is a
declaration, in the part of the variables a line with a colon. The parameters in the heading of a
procedure or function are declared as variables. Nothing is ever taken out of scope.

Names are kept in their case folding, so that they are found in any letter case.
-/

namespace PascalLint

/-! ## Parts of a program -/

/-- The parts of a program. -/
inductive Part
  /-- Headings, type definitions, labels, and what precedes the first part. -/
  | otherPart
  | constantPart
  | variablePart
  | statementPart
deriving DecidableEq, Repr

namespace Part

/-- The name of a part in log messages. -/
def name : Part → String
  | otherPart => "Other"
  | constantPart => "Const"
  | variablePart => "Var"
  | statementPart => "Body"

/-- The part that a leading keyword begins. -/
def ofKeyword? : Keyword → Option Part
  | .reserved .constWord => some constantPart
  | .reserved .varWord => some variablePart
  | .reserved .beginWord => some statementPart
  | .reserved .programWord | .typeWord | .labelWord | .usesWord | .procedureWord
  | .functionWord => some otherPart
  | _ => none

end Part

/-- The part that a line begins. -/
def Line.part? (line : Line) : Option Part :=
  line.leadingKeyword?.bind Part.ofKeyword?

/-! ## Declarations -/

/-- What a line declares. -/
inductive Declaration
  | constant (name : List Char)
  | variableList (names : List (List Char))
deriving DecidableEq, Repr

namespace Line

/-- The declaration that a line of the given part is. The name of a constant may be blank. -/
def declaration? (line : Line) : Part → Option Declaration
  | .constantPart =>
    let start := line.startBehind (.reserved .constWord)
    (line.find? start ['=']).map fun equals =>
      .constant (Text.trim (line.slice start equals))
  | .variablePart =>
    let start := line.startBehind (.reserved .varWord)
    (line.find? start [':']).map fun colon =>
      .variableList (((Text.splitOn ',' (line.slice start colon)).map Text.trim).filter (· ≠ []))
  | .otherPart | .statementPart => none

/-- The text between the parentheses of a heading, up to the end of the line if the right one is
    missing. -/
def parameterList? (line : Line) : Option (List Char) :=
  (line.find? 0 ['(']).map fun left =>
    line.slice (left + 1) ((line.find? left [')']).getD line.masked.length)

/-- The names that one group of a parameter list declares: the last word of each item before the
    colon. -/
def groupParameters (group : List Char) : List (List Char) :=
  match Text.splitOnce? ':' group with
  | some (names, _) => ((Text.splitOn ',' names).map Text.lastWord).filter (· ≠ [])
  | none => []

/-- The parameters that a line declares, if it is a heading. -/
def parameters (line : Line) : List (List Char) :=
  match line.leadingKeyword? with
  | some .procedureWord | some .functionWord =>
    match line.parameterList? with
    | some text => (Text.splitOn ';' text).flatMap groupParameters
    | none => []
  | _ => []

end Line

/-! ## Scopes -/

/-- The constants and variables that have been declared, in case folding. -/
structure Scope where
  constantNames : List (List Char)
  variableNames : List (List Char)
deriving DecidableEq, Repr

namespace Scope

/-- No names. -/
def empty : Scope := ⟨[], []⟩

/-- Holds if `name` is a declared constant. -/
def hasConstant (scope : Scope) (name : List Char) : Bool :=
  scope.constantNames.contains (Unicode.foldCaseText name)

/-- Holds if `name` is a declared variable or parameter. -/
def hasVariable (scope : Scope) (name : List Char) : Bool :=
  scope.variableNames.contains (Unicode.foldCaseText name)

/-- Holds if `name` has been declared. -/
def declares (scope : Scope) (name : List Char) : Bool :=
  scope.hasConstant name || scope.hasVariable name

/-- Adds variables. -/
def addVariables (scope : Scope) (names : List (List Char)) : Scope :=
  { scope with variableNames := scope.variableNames ++ names.map Unicode.foldCaseText }

/-- Adds what a line declares. A blank name of a constant adds nothing. -/
def add (scope : Scope) : Declaration → Scope
  | .constant [] => scope
  | .constant name =>
    { scope with constantNames := scope.constantNames ++ [Unicode.foldCaseText name] }
  | .variableList names => scope.addVariables names

end Scope

end PascalLint
