import PascalLint.Defect

/-! # Line rules

The rules that lines are looked at by, and the rule that each defect belongs to. The lexical
defects belong to none, and neither do literals that are never closed.
-/

namespace PascalLint

/-- The line rules. -/
inductive Rule
  | assignment
  | ranges
  | undeclaredNames
  | caseLabels
  | blocks
  | pairedKeywords
deriving DecidableEq, Repr

namespace Rule

/-- All rules, in the order of their bits. -/
def all : List Rule :=
  [assignment, ranges, undeclaredNames, caseLabels, blocks, pairedKeywords]

/-- The bit of a rule in a set of rules that is written as a number. -/
def bit : Rule → Nat
  | assignment => 1
  | ranges => 2
  | undeclaredNames => 4
  | caseLabels => 8
  | blocks => 16
  | pairedKeywords => 32

end Rule

/-- The rule that reports a defect. -/
def Defect.rule? : Defect → Option Rule
  | .equalsForAssignment => some .assignment
  | .tripleDot => some .ranges
  | .undeclaredName => some .undeclaredNames
  | .badCaseLabel => some .caseLabels
  | .malformedEnd | .unmatchedEnd | .unterminatedBlock => some .blocks
  | .missingOf | .headerWithoutAssignment | .missingThen | .missingDo | .emptyCondition
  | .emptyBody => some .pairedKeywords
  | .unknownSymbol | .unterminatedString | .unterminatedComment | .badCharConstant
  | .integerOutOfRange => none

end PascalLint
