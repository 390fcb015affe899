import PascalLint.Line

/-! # Blocks

The words `begin`, `case` and `record` open a block, and `end` closes the innermost one. A `case`
right inside a record opens none: there it begins the variant part, which ends with the record. An
`end` without an open block is reported where it stands, and blocks that are open after the last
line are reported together.

A line that begins with a word like `ends`, or with an `end` that does not stand by itself, is
reported as malformed, unless the word is the target of an assignment.
-/

namespace PascalLint

/-- The kinds of block that `end` closes. -/
inductive BlockKind
  | beginBlock
  | caseBlock
  | recordBlock
deriving DecidableEq, Repr

/-- The name of a kind of block in log messages. -/
def BlockKind.name : BlockKind → String
  | beginBlock => "Begin"
  | caseBlock => "Case"
  | recordBlock => "Record"

/-- An open block and the position of the word that opened it. -/
structure Block where
  kind : BlockKind
  start : Position
deriving DecidableEq, Repr

namespace Rule.Blocks

/-- What a word means to the nesting of blocks. -/
inductive Move
  | enter (kind : BlockKind)
  | leave
deriving DecidableEq, Repr

/-- What a keyword means inside the given blocks, the innermost first. -/
def move? (blocks : List Block) : Keyword → Option Move
  | .reserved .beginWord => some (.enter .beginBlock)
  | .recordWord => some (.enter .recordBlock)
  | .reserved .caseWord =>
    if blocks.head?.map (·.kind) = some .recordBlock then none else some (.enter .caseBlock)
  | .reserved .endWord => some .leave
  | _ => none

/-- The open blocks behind some words of a line, and the diagnostics for unmatched `end`s. -/
def follow (line : Line) (blocks : List Block) : List Word → List Block × List Diagnostic
  | [] => (blocks, [])
  | word :: rest =>
    match word.keyword?.bind (move? blocks) with
    | none => follow line blocks rest
    | some (.enter kind) => follow line (⟨kind, line.position word.start⟩ :: blocks) rest
    | some .leave =>
      match blocks with
      | [] =>
        let (behind, diagnostics) := follow line [] rest
        (behind, line.diagnostic .unmatchedEnd word.start :: diagnostics)
      | _ :: outer => follow line outer rest

/-- The open blocks behind a line. -/
def behind (line : Line) (blocks : List Block) : List Block :=
  (follow line blocks line.words).1

/-- Holds if `:=` follows the word. -/
def isAssignmentTarget (line : Line) (word : Word) : Bool :=
  [':', '='].isPrefixOf (Text.trimStart (line.masked.drop word.stop))

/-- Holds if nothing, white space, a semicolon or a point follows the word. -/
def standsAlone (line : Line) (word : Word) : Bool :=
  match line.masked[word.stop]? with
  | none => true
  | some c => c == ';' || c == '.' || Unicode.isWhiteSpace c

/-- The diagnostic for a leading word that begins like `end` and is not a proper one. -/
def malformedEnd (line : Line) : List Diagnostic :=
  match line.leadingWord? with
  | none => []
  | some word =>
    if Reserved.endWord.spelling.isPrefixOf word.text && !isAssignmentTarget line word
        && !(word.keyword? == some (.reserved .endWord) && standsAlone line word) then
      [line.diagnostic .malformedEnd word.start]
    else []

/-- The diagnostics for a line inside the given blocks. -/
def check (blocks : List Block) (line : Line) : List Diagnostic :=
  malformedEnd line ++ (follow line blocks line.words).2

/-- The diagnostic for blocks that are open after the last line, which has the given number. -/
def checkEnd (blocks : List Block) (lastLine : Nat) : List Diagnostic :=
  if blocks.isEmpty then [] else [⟨⟨lastLine, 0⟩, .unterminatedBlock⟩]

end Rule.Blocks

end PascalLint
