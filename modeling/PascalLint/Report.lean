import PascalLint.Note
import PascalLint.Settings
import PascalLint.Source
import PascalLint.TokenTable
import PascalLint.Unicode.DisplayWidth

/-! # Reports

The check of a source scans it and analyzes its lines; the diagnostics of both are findings of one
report. The text of a report lists the source with a caret under each place that has a diagnostic.
A caret is put in place by characters that are as wide as those above them, so a tab is kept as a
tab.
-/

namespace PascalLint

/-! ## Checking a source -/

/-- What the check of a source leads to. -/
structure Report where
  source : Source
  findings : Findings
  tokens : TokenTable

/-- Checks a source. -/
def check (settings : Settings) (source : Source) : Report :=
  let stream := scan settings.dialect source.lines
  let lexical := Findings.ofList (lexicalDiagnostics stream)
  { source
    findings := lexical.recordAll (analyze settings.checks source.lines)
    tokens := .ofStream stream }

namespace Report

/-- Holds if there is a diagnostic. -/
def hasErrors (report : Report) : Bool :=
  !report.findings.isEmpty

/-- The messages of a check. -/
def messages (settings : Settings) (report : Report) : List Log.Message :=
  let source := report.source
  (Context.start.notesAll settings.checks source.lines).map (·.message)
    ++ [⟨.debug, .engine, source.file.getD "<input>" ++ ": " ++ toString source.lines.length
      ++ " line(s), " ++ toString report.findings.count ++ " diagnostic(s)"⟩]

/-! ## The text of a report -/

/-- The lines that the text of a report is made of. -/
inductive Row
  /-- The name of the file. -/
  | file (name : String)
  /-- A line across the page. -/
  | bar
  /-- A source line with its number. -/
  | source (number : Nat) (text : List Char)
  /-- A diagnostic below the source line that it is on. -/
  | caret (text : List Char) (diagnostic : Diagnostic)
  /-- A diagnostic whose line the source does not have. -/
  | stray (diagnostic : Diagnostic)
  | empty
  /-- The number of diagnostics, in all and by category. -/
  | total (count : Nat) (counts : List (Category × Nat))

/-- White space as wide as `c`. -/
def blankFor (c : Char) : String :=
  if c = '\t' then "\t" else Text.repeated (Unicode.displayWidth c) ' '

/-- White space as wide as the characters of a line before a column. -/
def caretPadding (text : List Char) (column : Nat) : String :=
  String.join ((text.take column).map blankFor)

/-- The part of the last line that breaks the number of diagnostics down. -/
def breakdown (counts : List (Category × Nat)) : String :=
  let parts := (counts.filter (0 < ·.2)).map fun (category, count) =>
    toString count ++ " " ++ category.name
  if parts.isEmpty then "" else " (" ++ ", ".intercalate parts ++ ")"

/-- The text of a row. -/
def Row.text : Row → String
  | .file name => "File: " ++ name
  | .bar => Text.repeated 50 '='
  | .source number text => Text.rightAligned 4 number ++ ": " ++ String.ofList text
  | .caret text diagnostic =>
    "      " ++ caretPadding text diagnostic.position.column ++ "^ " ++ diagnostic.message text
  | .stray diagnostic => diagnostic.render
  | .empty => ""
  | .total count counts => "Found " ++ toString count ++ " error(s)" ++ breakdown counts

/-- The number of diagnostics of each category. -/
def counts (report : Report) : List (Category × Nat) :=
  Category.all.map fun category => (category, report.findings.countOf category)

/-- The rows for a source line and its diagnostics. -/
def lineRows (report : Report) (number : Nat) (text : List Char) : List Row :=
  .source number text :: (report.findings.onLine number).map (.caret text)

/-- The rows for source lines of which the first has the given number. -/
def listingRows (report : Report) (number : Nat) : List (List Char) → List Row
  | [] => []
  | text :: below => report.lineRows number text ++ report.listingRows (number + 1) below

/-- The rows for diagnostics whose line the source does not have. -/
def strayRows (report : Report) : List Row :=
  (report.findings.all.filter fun diagnostic =>
    (report.source.line? diagnostic.position.line).isNone).map .stray

/-- The rows of a report. -/
def rows (report : Report) : List Row :=
  let bar := if report.source.file.isSome then [Row.bar] else []
  report.source.file.toList.map .file ++ bar
    ++ report.listingRows 1 report.source.lines ++ report.strayRows
    ++ [.empty, .total report.findings.count report.counts] ++ bar

/-- The text of a report. -/
def render (report : Report) : String :=
  String.join (report.rows.map fun row => row.text ++ "\n")

end Report

end PascalLint
