import PascalLint.Checks
import PascalLint.Findings
import PascalLint.Mask
import PascalLint.Rule.Assignment
import PascalLint.Rule.Blocks
import PascalLint.Rule.CaseLabels
import PascalLint.Rule.PairedKeywords
import PascalLint.Rule.Ranges
import PascalLint.Rule.UndeclaredNames

/-! # Line analysis

The lines of a source are looked at one after the other, independently of the tokens. What a line
means depends on the lines above it through a context: the literal that is open, the part of the
program, the names in scope, the `case` whose labels follow, and the open blocks. The blocks are
followed only if they are checked. Apart from that the context goes on from line to line in the same
way whatever checks are made; the checks only decide which diagnostics are given.

A line that is a declaration is looked at for its blocks only.
-/

namespace PascalLint

/-! ## Contexts -/

/-- What the lines above a line leave behind. -/
structure Context where
  /-- The number of lines above. -/
  lineCount : Nat
  opened : Option OpenLiteral
  part : Part
  scope : Scope
  /-- The line of the `case` whose labels may follow. -/
  caseLine : Option Nat
  /-- The open blocks, the innermost first. -/
  blocks : List Block
deriving Repr

namespace Context

/-- The context of the first line. -/
def start : Context := ⟨0, none, .otherPart, .empty, none, []⟩

/-- The next line, masked. -/
def mask (context : Context) (text : List Char) : MaskedLine :=
  maskLine (context.lineCount + 1) text context.opened

/-- The next line as the rules see it. -/
def line (context : Context) (text : List Char) : Line :=
  ⟨context.lineCount + 1, text, (context.mask text).text⟩

/-- The part of the program that a line belongs to. -/
def partOf (context : Context) (line : Line) : Part :=
  line.part?.getD context.part

/-- The declaration that a line is. -/
def declaration? (context : Context) (line : Line) : Option Declaration :=
  line.declaration? (context.partOf line)

/-- The names in scope on a line, its own declarations included. -/
def scopeOf (context : Context) (line : Line) : Scope :=
  let scope := context.scope.addVariables line.parameters
  match context.declaration? line with
  | some declaration => scope.add declaration
  | none => scope

/-- The context behind the next line, its blocks included. -/
def next (context : Context) (text : List Char) : Context :=
  let line := context.line text
  { lineCount := line.number
    opened := (context.mask text).opened
    part := context.partOf line
    scope := context.scopeOf line
    caseLine := Rule.CaseLabels.behind line context.caseLine
    blocks := Rule.Blocks.behind line context.blocks }

/-- The context behind the next line under some checks: without the check of the blocks, those that
    are open stay as they are. -/
def advance (checks : Checks) (context : Context) (text : List Char) : Context :=
  if checks.blocks then context.next text
  else { context.next text with blocks := context.blocks }

@[simp]
theorem lineCount_advance (checks : Checks) (context : Context) (text : List Char) :
    (context.advance checks text).lineCount = context.lineCount + 1 := by
  unfold advance
  split <;> rfl

@[simp]
theorem opened_advance (checks : Checks) (context : Context) (text : List Char) :
    (context.advance checks text).opened = (context.mask text).opened := by
  unfold advance
  split <;> rfl

/-- The context behind some lines. -/
def after (checks : Checks) (context : Context) (lines : List (List Char)) : Context :=
  lines.foldl (advance checks) context

end Context

/-! ## Diagnostics -/

/-- The diagnostics of a rule that does not look at declarations. -/
def Context.unlessDeclaration (context : Context) (line : Line)
    (diagnostics : List Diagnostic) : List Diagnostic :=
  if (context.declaration? line).isSome then [] else diagnostics

theorem Context.mem_of_mem_unlessDeclaration {context : Context} {line : Line}
    {diagnostics : List Diagnostic} {d : Diagnostic}
    (found : d ∈ context.unlessDeclaration line diagnostics) : d ∈ diagnostics := by
  unfold unlessDeclaration at found
  split at found
  next => cases found
  next => exact found

/-- The diagnostics that a rule gives for a line. -/
def Rule.check (context : Context) (line : Line) : Rule → List Diagnostic
  | .blocks => Blocks.check context.blocks line
  | .caseLabels =>
    context.unlessDeclaration line <|
      if CaseLabels.applies line (CaseLabels.behind line context.caseLine) then
        CaseLabels.check (context.scopeOf line) line
      else []
  | .assignment =>
    context.unlessDeclaration line (Assignment.check (context.scopeOf line) line)
  | .ranges => context.unlessDeclaration line (Ranges.check line)
  | .undeclaredNames =>
    context.unlessDeclaration line (UndeclaredNames.check (context.scopeOf line) line)
  | .pairedKeywords => context.unlessDeclaration line (PairedKeywords.check line)

/-- The rules in the order in which they look at a line. -/
def Rule.inOrder : List Rule :=
  [blocks, caseLabels, assignment, ranges, undeclaredNames, pairedKeywords]

namespace Context

/-- The diagnostic for a string that the next line was to close and does not. -/
def unterminatedString (context : Context) (text : List Char) : List Diagnostic :=
  (context.mask text).unterminated.toList.map (⟨·, .unterminatedString⟩)

/-- The diagnostics for the next line, in the order in which they are recorded. -/
def check (context : Context) (checks : Checks) (text : List Char) : List Diagnostic :=
  context.unterminatedString text
    ++ (Rule.inOrder.filter checks.has).flatMap (Rule.check context (context.line text))

/-- The diagnostics for what is open behind the last line. -/
def checkEnd (context : Context) (checks : Checks) : List Diagnostic :=
  context.opened.toList.map (fun literal => ⟨literal.start, literal.defect⟩)
    ++ if checks.blocks then Rule.Blocks.checkEnd context.blocks context.lineCount else []

/-- The diagnostics for some lines and for what they leave open. -/
def checkAll (context : Context) (checks : Checks) : List (List Char) → List Diagnostic
  | [] => context.checkEnd checks
  | text :: below => context.check checks text ++ (context.advance checks text).checkAll checks below

end Context

/-- The diagnostics of the line rules for a source, in the order in which they are recorded. -/
def analyze (checks : Checks) (lines : List (List Char)) : List Diagnostic :=
  Context.start.checkAll checks lines

end PascalLint
