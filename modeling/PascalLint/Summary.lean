import PascalLint.Json
import PascalLint.Report

/-! # Summaries

A report for programs to read: the diagnostics with their messages, their number in all and by
category, and if asked for the numbers of the tokens of each line.
-/

namespace PascalLint

/-- A diagnostic in a summary. -/
structure DiagnosticSummary where
  line : Nat
  column : Nat
  code : Nat
  category : Category
  message : String
deriving DecidableEq, Repr

/-- A summary of a report. -/
structure Summary where
  file : Option String
  encoding : String
  errors : Nat
  counts : List (Category × Nat)
  diagnostics : List DiagnosticSummary
  tokens : Option (List (Nat × List Nat))
deriving DecidableEq, Repr

namespace Report

/-- A diagnostic of a report in its summary. -/
def summarize (report : Report) (diagnostic : Diagnostic) : DiagnosticSummary :=
  { line := diagnostic.position.line
    column := diagnostic.position.column
    code := diagnostic.defect.number
    category := diagnostic.defect.category
    message := diagnostic.message ((report.source.line? diagnostic.position.line).getD []) }

/-- The numbers of the tokens of each line. -/
def tokenCodes (report : Report) : List (Nat × List Nat) :=
  report.tokens.map fun (line, tokens) => (line, tokens.map Token.code)

/-- The summary of a report, with the tokens if they are asked for. -/
def summary (report : Report) (includeTokens : Bool) : Summary :=
  { file := report.source.file
    encoding := report.source.encoding.name
    errors := report.findings.count
    counts := report.counts
    diagnostics := report.findings.all.map report.summarize
    tokens := if includeTokens then some report.tokenCodes else none }

end Report

/-- A diagnostic of a summary as a value of JSON. -/
def DiagnosticSummary.toJson (diagnostic : DiagnosticSummary) : Json :=
  .object
    [("line", .number diagnostic.line), ("column", .number diagnostic.column),
     ("code", .number diagnostic.code), ("category", .string diagnostic.category.name),
     ("message", .string diagnostic.message)]

namespace Summary

/-- The member for the tokens of a summary, if it has them. -/
def tokenMember (summary : Summary) : List (String × Json) :=
  match summary.tokens with
  | none => []
  | some lines =>
    [("tokens", .object (lines.map fun (line, codes) =>
      (toString line, .array (codes.map .number))))]

/-- A summary as a value of JSON. -/
def toJson (summary : Summary) : Json :=
  .object
    ([("file", match summary.file with
        | some name => .string name
        | none => .null),
      ("encoding", .string summary.encoding), ("errors", .number summary.errors),
      ("counts", .object (summary.counts.map fun (category, count) =>
        (category.name, .number count))),
      ("diagnostics", .array (summary.diagnostics.map (·.toJson)))]
      ++ summary.tokenMember)

end Summary

end PascalLint
