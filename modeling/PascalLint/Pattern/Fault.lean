import PascalLint.Position
import PascalLint.Text.Lines

/-! # Faults in patterns

What may be wrong with the written form of a pattern, where in it, and how it is reported: the
pattern is shown with marks under the faulty stretch.
-/

namespace PascalLint.Pattern

/-- A stretch of a written pattern, from its first character to behind its last one. -/
structure Span where
  first : Position
  last : Position
deriving DecidableEq, Repr

/-- What may be wrong. -/
inductive FaultKind
  /-- An escape in a class that stands for no character. -/
  | classEscape
  /-- A range whose first character comes after its last. -/
  | classRangeOrder
  /-- A range between something other than characters. -/
  | classRangeEnd
  | classOpen
  | decimalInvalid
  | hexEmpty
  | hexNoCharacter
  | hexDigit
  | escapeEnd
  | escapeUnknown
  | negationDangling
  | negationRepeated
  | flagRepeated
  | flagEnd
  | flagUnknown
  | nameRepeated
  | nameEmpty
  | nameInvalid
  | nameEnd
  | groupOpen
  | groupUnopened
  | countOrder
  | countEmpty
  | countOpen
  | nothingToRepeat
  | wordSideOpen
  | wordSideUnknown
  | wordSideEnd
  | propertyInvalid
  | backreference
  | lookAround
  /-- A character or property that a class of bytes cannot have. -/
  | unicodeForbidden
  | invalidUtf8
  | propertyUnknown
  /-- A class of the digits, blanks or letters of all scripts. -/
  | wordClassUnavailable
  /-- Capital and small letters of all scripts taken for one. -/
  | caseUnavailable
deriving DecidableEq, Repr

/-- The wording of what is wrong. -/
def FaultKind.message : FaultKind → String
  | classEscape => "invalid escape sequence found in character class"
  | classRangeOrder => "invalid character class range, the start must be <= the end"
  | classRangeEnd => "invalid range boundary, must be a literal"
  | classOpen => "unclosed character class"
  | decimalInvalid => "decimal literal invalid"
  | hexEmpty => "hexadecimal literal empty"
  | hexNoCharacter => "hexadecimal literal is not a Unicode scalar value"
  | hexDigit => "invalid hexadecimal digit"
  | escapeEnd => "incomplete escape sequence, reached end of pattern prematurely"
  | escapeUnknown => "unrecognized escape sequence"
  | negationDangling => "dangling flag negation operator"
  | negationRepeated => "flag negation operator repeated"
  | flagRepeated => "duplicate flag"
  | flagEnd => "expected flag but got end of regex"
  | flagUnknown => "unrecognized flag"
  | nameRepeated => "duplicate capture group name"
  | nameEmpty => "empty capture group name"
  | nameInvalid => "invalid capture group character"
  | nameEnd => "unclosed capture group name"
  | groupOpen => "unclosed group"
  | groupUnopened => "unopened group"
  | countOrder => "invalid repetition count range, the start must be <= the end"
  | countEmpty => "repetition quantifier expects a valid decimal"
  | countOpen => "unclosed counted repetition"
  | nothingToRepeat => "repetition operator missing expression"
  | wordSideOpen =>
    "special word boundary assertion is either unclosed or contains an invalid character"
  | wordSideUnknown =>
    "unrecognized special word boundary assertion, valid choices are: "
      ++ "start, end, start-half or end-half"
  | wordSideEnd =>
    "found either the beginning of a special word boundary or a bounded repetition on a \\b "
      ++ "with an opening brace, but no closing brace"
  | propertyInvalid => "invalid Unicode character class"
  | backreference => "backreferences are not supported"
  | lookAround => "look-around, including look-ahead and look-behind, is not supported"
  | unicodeForbidden => "Unicode not allowed here"
  | invalidUtf8 => "pattern can match invalid UTF-8"
  | propertyUnknown => "Unicode property not found"
  | wordClassUnavailable =>
    "Unicode-aware Perl class not found (make sure the unicode-perl feature is enabled)"
  | caseUnavailable =>
    "Unicode-aware case insensitivity matching is not available "
      ++ "(make sure the unicode-case feature is enabled)"

/-- What is wrong and where, and if something must not occur twice, where it has occurred. -/
structure Fault where
  kind : FaultKind
  span : Span
  earlier : Option Span := none
deriving DecidableEq, Repr

/-! ## Reports -/

/-- Some characters, all the same. -/
def row (count : Nat) (c : Char) : List Char :=
  List.replicate count c

/-- Marks under the stretches of a line, which has been marked up to a column. A stretch without
    characters has one mark, too. -/
def marks (column : Nat) : List Span → List Char
  | [] => []
  | span :: spans =>
    let width := max 1 (span.last.column - span.first.column)
    row (span.first.column - column) ' ' ++ row width '^'
      ++ marks (max column span.first.column + width) spans

/-- A line of a pattern with its front and, if it has any, the marks under it. -/
def markedLine (front line : List Char) (spans : List Span) : List Char :=
  let below := if spans.isEmpty then [] else row front.length ' ' ++ marks 0 spans ++ ['\n']
  front ++ line ++ ['\n'] ++ below

/-- Lines from a number on with their fronts and marks. If the lines are numbered, the numbers are
    set flush right in the given width. -/
def markedLines (width : Nat) (spans : List Span) (number : Nat) : List (List Char) → List Char
  | [] => []
  | line :: below =>
    let shown := (toString number).toList
    let front :=
      if width = 0 then row 4 ' ' else row (width - shown.length) ' ' ++ shown ++ [':', ' ']
    markedLine front line (spans.filter (·.first.line == number))
      ++ markedLines width spans (number + 1) below

/-- Where a stretch over several lines begins and ends. -/
def Span.describe (span : Span) : String :=
  "on line " ++ toString span.first.line ++ " (column " ++ toString (span.first.column + 1)
    ++ ") through line " ++ toString span.last.line ++ " (column "
    ++ toString span.last.column ++ ")"

/-- The report of a fault in a pattern. A pattern of several lines is set between rules and its
    lines are numbered. -/
def Fault.report (text : List Char) (fault : Fault) : String :=
  let spans := fault.earlier.toList ++ [fault.span]
  let (short, long) := spans.partition fun span => span.first.line == span.last.line
  let short := short.mergeSort fun a b => decide (a.first ≤ b.first)
  let count := (Text.lines text).length + if text.getLast? == some '\n' then 1 else 0
  let width := if count ≤ 1 then 0 else (toString count).length
  let marked := String.ofList (markedLines width short 1 (Text.lines text))
  let heading := "regex parse error:\n"
  if text.contains '\n' then
    let rule := String.ofList (row 79 '~') ++ "\n"
    let notes := if long.isEmpty then "" else "\n".intercalate (long.map Span.describe) ++ "\n"
    heading ++ rule ++ marked ++ rule ++ notes ++ "error: " ++ fault.kind.message
  else heading ++ marked ++ "error: " ++ fault.kind.message

end PascalLint.Pattern
