import PascalLint.Rule.Basic

/-! # Checks

Every line rule can be turned on and off by a switch of its own. A defect that belongs to no rule is
reported whatever the switches say.
-/

namespace PascalLint

/-- One switch for each rule. -/
structure Checks where
  assignment : Bool := true
  ranges : Bool := true
  undeclaredNames : Bool := true
  caseLabels : Bool := true
  blocks : Bool := true
  pairedKeywords : Bool := false
deriving DecidableEq, Repr

namespace Checks

/-- Holds if the switch of a rule is on. -/
def has (checks : Checks) : Rule → Bool
  | .assignment => checks.assignment
  | .ranges => checks.ranges
  | .undeclaredNames => checks.undeclaredNames
  | .caseLabels => checks.caseLabels
  | .blocks => checks.blocks
  | .pairedKeywords => checks.pairedKeywords

/-- The checks with the switch of one rule set. -/
def set (checks : Checks) (value : Bool) : Rule → Checks
  | .assignment => { checks with assignment := value }
  | .ranges => { checks with ranges := value }
  | .undeclaredNames => { checks with undeclaredNames := value }
  | .caseLabels => { checks with caseLabels := value }
  | .blocks => { checks with blocks := value }
  | .pairedKeywords => { checks with pairedKeywords := value }

/-- Holds if a defect may be reported under the checks. -/
def allows (checks : Checks) (defect : Defect) : Bool :=
  defect.rule?.all checks.has

/-- The checks as a number, the sum of the bits of the rules that are on. -/
def bits (checks : Checks) : Nat :=
  (Rule.all.filter checks.has).foldl (fun n rule => n + rule.bit) 0

/-- The checks whose rules are the bits of a number. -/
def ofBits (n : Nat) : Checks :=
  Rule.all.foldl (fun checks rule => checks.set (n / rule.bit % 2 == 1) rule) {}

theorem has_set (checks : Checks) (value : Bool) (rule other : Rule) :
    (checks.set value rule).has other = if rule = other then value else checks.has other := by
  cases rule <;> cases other <;> rfl

end Checks

end PascalLint
