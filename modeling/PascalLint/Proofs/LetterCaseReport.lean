import Mathlib.Data.List.Forall2
import PascalLint.Proofs.LetterCaseRules
import PascalLint.Proofs.LetterCaseScan

/-! # Letter case and reports

A line in small letters leaves the same context behind, since the names in scope are kept in their case
folding. Sources that differ in letter case have one form in small letters, and so they have one report.
-/

namespace PascalLint

namespace Context

variable (context : Context) (text : List Char)

theorem mask_lower : context.mask (Text.lower text) = (context.mask text).lower :=
  maskLine_lower _ text _

theorem line_lower : context.line (Text.lower text) = (context.line text).lower := by
  rw [line, mask_lower]
  rfl

theorem declaration?_lower (line : Line) :
    context.declaration? line.lower = (context.declaration? line).map Declaration.lower := by
  rw [declaration?, partOf, Line.part?_lower, Line.declaration?_lower]
  rfl

theorem scopeOf_lower (line : Line) : context.scopeOf line.lower = context.scopeOf line := by
  rw [scopeOf, declaration?_lower, Line.parameters_lower, Scope.addVariables_lower, scopeOf]
  cases context.declaration? line with
  | none => rfl
  | some declaration => exact Scope.add_lower _ declaration

theorem unlessDeclaration_lower (line : Line) (diagnostics : List Diagnostic) :
    context.unlessDeclaration line.lower diagnostics = context.unlessDeclaration line diagnostics := by
  rw [unlessDeclaration, declaration?_lower, Option.isSome_map, unlessDeclaration]

theorem next_lower : context.next (Text.lower text) = context.next text := by
  simp only [next, line_lower, mask_lower, scopeOf_lower, Rule.CaseLabels.behind_lower,
    Rule.Blocks.behind_lower, partOf, Line.part?_lower, Line.number_lower]
  rfl

theorem advance_lower (checks : Checks) :
    context.advance checks (Text.lower text) = context.advance checks text := by
  rw [advance, next_lower, advance]

end Context

theorem Rule.check_lower (context : Context) (line : Line) (rule : Rule) :
    rule.check context line.lower = rule.check context line := by
  cases rule with
  | blocks => exact Blocks.check_lower line context.blocks
  | caseLabels =>
    have applies : CaseLabels.applies line.lower = CaseLabels.applies line := rfl
    simp only [check, Context.unlessDeclaration_lower, Context.scopeOf_lower, applies,
      CaseLabels.behind_lower, CaseLabels.check_lower]
  | assignment =>
    simp only [check, Context.unlessDeclaration_lower, Context.scopeOf_lower, Assignment.check_lower]
  | ranges => simp only [check, Context.unlessDeclaration_lower, Ranges.check_lower]
  | undeclaredNames =>
    simp only [check, Context.unlessDeclaration_lower, Context.scopeOf_lower,
      UndeclaredNames.check_lower]
  | pairedKeywords =>
    simp only [check, Context.unlessDeclaration_lower, PairedKeywords.check_lower]

namespace Context

theorem check_lower (context : Context) (checks : Checks) (text : List Char) :
    context.check checks (Text.lower text) = context.check checks text := by
  have rules : Rule.check context (context.line text).lower = Rule.check context (context.line text) :=
    funext (Rule.check_lower context (context.line text))
  rw [check, unterminatedString, mask_lower, line_lower, rules]
  rfl

theorem checkAll_lower (context : Context) (checks : Checks) (lines : List (List Char)) :
    context.checkAll checks (lines.map Text.lower) = context.checkAll checks lines := by
  induction lines generalizing context with
  | nil => rfl
  | cons text below ih => rw [List.map_cons, checkAll, check_lower, advance_lower, ih, checkAll]

end Context

theorem analyze_lower (checks : Checks) (lines : List (List Char)) :
    analyze checks (lines.map Text.lower) = analyze checks lines :=
  Context.start.checkAll_lower checks lines

/-! ## Sources that differ in letter case -/

/-- Two texts of equal length that agree, character by character, up to the case of basic Latin
    letters. -/
def Text.SameLetters (text other : List Char) : Prop :=
  List.Forall₂ (fun c d => c.toLower = d.toLower) text other

theorem Text.sameLetters_iff {text other : List Char} :
    SameLetters text other ↔ lower text = lower other := by
  rw [SameLetters, lower, lower, ← List.forall₂_eq_eq_eq, List.forall₂_map_left_iff,
    List.forall₂_map_right_iff]

instance (text other : List Char) : Decidable (Text.SameLetters text other) :=
  decidable_of_iff _ Text.sameLetters_iff.symm

/-- Sources of as many lines that agree line by line up to letter case have the same tokens on every
    line and the same list of findings. -/
theorem check_of_same_letters (settings : Settings) {source other : Source}
    (same : List.Forall₂ Text.SameLetters source.lines other.lines) :
    (check settings source).tokens = (check settings other).tokens ∧
      (check settings source).findings = (check settings other).findings := by
  have lower : source.lines.map Text.lower = other.lines.map Text.lower := by
    rw [← List.forall₂_eq_eq_eq, List.forall₂_map_left_iff, List.forall₂_map_right_iff]
    exact same.imp fun _ _ => Text.sameLetters_iff.mp
  have stream : scan settings.dialect source.lines = scan settings.dialect other.lines := by
    rw [← scan_lower, lower, scan_lower]
  have rules : analyze settings.checks source.lines = analyze settings.checks other.lines := by
    rw [← analyze_lower, lower, analyze_lower]
  simp only [check, stream, rules, and_self]

/-- A name that is declared in one letter case and used in another, and keywords, a comment and a string
    in two letter cases. -/
theorem check_of_same_letters_mixed :
    let source := Source.ofLines
      ["CONST K = 3;".toList, "Begin (* Two *)".toList, "x := k + 'A' End".toList]
    let other := Source.ofLines
      ["const k = 3;".toList, "BEGIN (* two *)".toList, "X := K + 'a' end".toList]
    List.Forall₂ Text.SameLetters source.lines other.lines ∧
      (check {} source).tokens = (check {} other).tokens ∧
      (check {} source).findings = (check {} other).findings := by
  intro source other
  have same : List.Forall₂ Text.SameLetters source.lines other.lines :=
    .cons (by decide) (.cons (by decide) (.cons (by decide) .nil))
  exact ⟨same, check_of_same_letters {} same⟩

end PascalLint
