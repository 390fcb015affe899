import PascalLint.Analysis
import PascalLint.Log.Message

/-! # Notes

What the analysis of the lines tells about its progress: where parts of the program begin, which
names are declared, and which blocks are open at the end. The notes on a line depend on the context
of the line and on nothing else.
-/

namespace PascalLint

/-- What the analysis tells about its progress. -/
inductive Note
  | partBegins (line : Nat) (part : Part)
  | declaresParameter (line : Nat) (name : List Char)
  | declaresConstant (line : Nat) (name : List Char)
  | declaresVariable (line : Nat) (name : List Char)
  | openBlocks (count : Nat) (innermost : Block)
deriving DecidableEq, Repr

namespace Note

/-- The wording of a note. -/
def text : Note → String
  | partBegins line part => "line " ++ toString line ++ ": " ++ part.name ++ " section"
  | declaresParameter line name => "line " ++ toString line ++ ": parameter " ++ String.ofList name
  | declaresConstant line name => "line " ++ toString line ++ ": constant " ++ String.ofList name
  | declaresVariable line name => "line " ++ toString line ++ ": variable " ++ String.ofList name
  | openBlocks count innermost =>
    toString count ++ " block(s) still open at end of input, innermost is "
      ++ innermost.kind.name ++ " from " ++ innermost.start.render

/-- Declared names are traced, all else is of interest in debugging. -/
def level : Note → Log.Level
  | partBegins .. | openBlocks .. => .debug
  | declaresParameter .. | declaresConstant .. | declaresVariable .. => .trace

/-- The log message for a note. -/
def message (note : Note) : Log.Message :=
  ⟨note.level, .analysis, note.text⟩

end Note

namespace Context

/-- The notes on a declaration in a line. -/
def declarationNotes (line : Line) : Declaration → List Note
  | .constant [] => []
  | .constant name => [.declaresConstant line.number name]
  | .variableList names => names.map (.declaresVariable line.number)

/-- The notes on the next line. -/
def notes (context : Context) (text : List Char) : List Note :=
  let line := context.line text
  let part := context.partOf line
  (if part = context.part then [] else [.partBegins line.number part])
    ++ line.parameters.map (.declaresParameter line.number)
    ++ (context.declaration? line).toList.flatMap (declarationNotes line)

/-- The notes on what is open behind the last line. -/
def notesEnd (context : Context) (checks : Checks) : List Note :=
  match context.blocks with
  | innermost :: _ =>
    if checks.blocks then [.openBlocks context.blocks.length innermost] else []
  | [] => []

/-- The notes on some lines and on what they leave open. -/
def notesAll (context : Context) (checks : Checks) : List (List Char) → List Note
  | [] => context.notesEnd checks
  | text :: below => context.notes text ++ (context.advance checks text).notesAll checks below

end Context

end PascalLint
