import PascalLint.Scope

/-! # Case labels

Below a line that begins with `case`, up to a line that begins with `end;` or `end.`, the text
before a colon is a list of labels. A label is a quoted character, an integer, a range, or a
declared name. Where a label begins and ends is seen in the masked line, its text is taken from
the line as it was written.
-/

namespace PascalLint.Rule.CaseLabels

/-- The line of the `case` that the labels behind a line belong to, given that of the labels
    before the line. -/
def behind (line : Line) (caseLine : Option Nat) : Option Nat :=
  match line.leadingWord? with
  | none => caseLine
  | some word =>
    match word.keyword? with
    | some (.reserved .caseWord) => some line.number
    | some (.reserved .endWord) =>
      match line.masked[word.stop]? with
      | some ';' | some '.' => none
      | _ => caseLine
    | _ => caseLine

/-- The column of the first colon that is not part of an assignment. -/
def colon? : List Char → Option Nat
  | [] => none
  | ':' :: rest => if rest.head? = some '=' then (colon? rest).map (· + 1) else some 0
  | _ :: rest => (colon? rest).map (· + 1)

/-- The first column and the length of each part between commas, without the white space around
    it, of a text that begins at a column. Blank parts are left out. -/
def items (column : Nat) : List (List Char) → List (Nat × Nat)
  | [] => []
  | part :: parts =>
    let behind := items (column + part.length + 1) parts
    if Text.isBlank part then behind
    else (column + Text.indent part, (Text.trim part).length) :: behind

/-- Holds of one character between quotes, and of a quote that is written twice. -/
def isCharacter (label : List Char) : Bool :=
  label == ['\'', '\'', '\'', '\'']
    || label.length == 3 && label.head? == some '\'' && label.getLast? == some '\''

/-- Holds of a run of digits, possibly after a sign. -/
def isInteger (label : List Char) : Bool :=
  let digits := match label with
    | '+' :: rest | '-' :: rest => rest
    | _ => label
  !digits.isEmpty && digits.all Char.isDigit

/-- Holds of a text that may be a case label. -/
def isLabel (scope : Scope) (label : List Char) : Bool :=
  isCharacter label || isInteger label || Text.contains ['.', '.'] label || scope.declares label

/-- The diagnostics for the labels of a line. -/
def check (scope : Scope) (line : Line) : List Diagnostic :=
  match colon? line.masked with
  | none => []
  | some colon =>
    ((items 0 (Text.splitOn ',' (line.masked.take colon))).filter fun (start, length) =>
      !isLabel scope ((line.raw.drop start).take length)).map fun (start, _) =>
        line.diagnostic .badCaseLabel start

/-- Holds if the labels of a line are to be checked, given the line of their `case`. -/
def applies (line : Line) (caseLine : Option Nat) : Bool :=
  match caseLine with
  | some number => number != line.number
  | none => false

end PascalLint.Rule.CaseLabels
