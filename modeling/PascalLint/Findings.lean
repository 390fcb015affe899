import PascalLint.Diagnostic

/-! # Findings

The diagnostics of a run, line by line. A diagnostic is put on its line behind those that are not to the
right of it, so a line has them by column, and at one column in the order in which they were
recorded. The place is found by halving, which relies on that order. Nothing is dropped, and how many
diagnostics there are is counted while they are recorded.
-/

namespace PascalLint

/-! ## Searches by halving -/

section Halving

variable {α : Type} (inFront : α → Bool) (list : List α)

/-- The index at which the front part of a list ends, of which `inFront` holds. It is looked for from
    `low` up to `high`. -/
def bisect (low high : Nat) : Nat :=
  if low < high then
    let middle := (low + high) / 2
    if list[middle]?.any inFront then bisect (middle + 1) high else bisect low middle
  else low
termination_by high - low

/-- The length of the front part of a list, of which `inFront` holds, if it holds of nothing behind
    that part. -/
def partitionPoint : Nat :=
  bisect inFront list 0 list.length

end Halving

/-- The diagnostics of a run. -/
structure Findings where
  /-- The diagnostics on each line that has any, in the order of lines. -/
  lines : List (Nat × List Diagnostic)
  /-- How many diagnostics have been recorded. -/
  count : Nat
deriving DecidableEq, Repr

namespace Findings

/-! ## Recording -/

/-- No diagnostics. -/
def empty : Findings := ⟨[], 0⟩

instance : Inhabited Findings := ⟨empty⟩

/-- Puts a diagnostic among those on its line. -/
def place (d : Diagnostic) (line : List Diagnostic) : List Diagnostic :=
  line.insertIdx (partitionPoint (·.position.column ≤ d.position.column) line) d

/-- Changes what is on a line. A line that is not there yet has nothing on it. -/
def alter (line : Nat) (change : List Diagnostic → List Diagnostic) :
    List (Nat × List Diagnostic) → List (Nat × List Diagnostic)
  | [] => [(line, change [])]
  | (first, entries) :: below =>
    if line < first then (line, change []) :: (first, entries) :: below
    else if line = first then (first, change entries) :: below
    else (first, entries) :: alter line change below

/-- Adds a diagnostic. -/
def record (findings : Findings) (d : Diagnostic) : Findings :=
  { lines := alter d.position.line (place d) findings.lines
    count := findings.count + 1 }

/-- Adds diagnostics, the first of the list first. -/
def recordAll (findings : Findings) (list : List Diagnostic) : Findings :=
  list.foldl record findings

/-- The findings that recording the diagnostics of a list leads to. -/
def ofList (list : List Diagnostic) : Findings :=
  empty.recordAll list

/-- Takes all diagnostics away. -/
def clear (findings : Findings) : Findings :=
  { findings with lines := [], count := 0 }

/-! ## Queries -/

/-- The diagnostics on a line, by column. -/
def onLine (findings : Findings) (line : Nat) : List Diagnostic :=
  (findings.lines.lookup line).getD []

/-- All diagnostics, by line and then by column. -/
def all (findings : Findings) : List Diagnostic :=
  findings.lines.flatMap (·.2)

/-- Holds if there are no diagnostics. -/
def isEmpty (findings : Findings) : Bool :=
  findings.count == 0

/-- The number of diagnostics of a category. -/
def countOf (findings : Findings) (category : Category) : Nat :=
  findings.all.countP (·.defect.category == category)

end Findings

end PascalLint
