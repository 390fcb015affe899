import PascalLint.Proofs.RuleMarks
import PascalLint.Proofs.RuleRuns

/-! # The report of equals signs

An equals sign is reported on the strength of the text of its line, with one exception that depends on
the lines above: behind the name of a constant and one space it may stand. The constants are those that
the lines up to this one declare. On a line at most one sign is reported, the first that is not part of
a comparison (`Line.MistakenEquals`).
-/

namespace PascalLint

/-! ## Constants -/

/-- The line declares the constant, if it belongs to the part of the constants. -/
def Line.DeclaresConstant (line : Line) (name : List Char) : Prop :=
  name ≠ [] ∧ ∃ text front, line.Behind (.reserved .constWord) text ∧ Text.Before '=' text front ∧
    Text.trim front = name

/-- One of the lines declares the constant, in whatever letter case. -/
def ConstantDeclared (lines : List Line) (name : List Char) : Prop :=
  ∃ above line below, lines = above ++ line :: below ∧ InForce (above ++ [line]) .constantPart ∧
    ∃ declared, line.DeclaresConstant declared ∧
      Unicode.foldCaseText declared = Unicode.foldCaseText name

theorem Line.declaresConstant_iff {line : Line} {name : List Char} :
    line.DeclaresConstant name ↔
      name ≠ [] ∧ line.declaration? .constantPart = some (.constant name) := by
  rw [DeclaresConstant, declaration?_constantPart]
  refine and_congr_right fun _ => ?_
  constructor
  · rintro ⟨text, front, behind, equals, rfl⟩
    rw [behind_iff.mp behind, ← Text.map_fst_splitOnce?_iff, Option.map_eq_some_iff] at equals
    obtain ⟨parts, found, rfl⟩ := equals
    rw [found]
    rfl
  · intro found
    obtain ⟨parts, equals, same⟩ := Option.map_eq_some_iff.mp found
    refine ⟨_, parts.1, behind_iff.mpr rfl, ?_, by simpa using same⟩
    exact Text.map_fst_splitOnce?_iff.mp (by rw [equals]; rfl)

theorem constantDeclared_concat {above : List Line} {line : Line} {name : List Char} :
    ConstantDeclared (above ++ [line]) name ↔
      ConstantDeclared above name ∨ InForce (above ++ [line]) .constantPart ∧
        ∃ declared, line.DeclaresConstant declared ∧
          Unicode.foldCaseText declared = Unicode.foldCaseText name :=
  exists_line_concat

theorem Scope.hasConstant_add {scope : Scope} {declaration : Declaration} {name : List Char} :
    (scope.add declaration).hasConstant name = true ↔
      scope.hasConstant name = true ∨ ∃ declared, declaration = .constant declared ∧ declared ≠ [] ∧
        Unicode.foldCaseText declared = Unicode.foldCaseText name := by
  cases declaration with
  | variableList names => simp [add, addVariables, hasConstant]
  | constant declared =>
    cases declared with
    | nil => simp [add]
    | cons c rest =>
      simp only [add, hasConstant, List.contains_append, List.contains_cons, List.contains_nil,
        Bool.or_false, Bool.or_eq_true, beq_iff_eq, Declaration.constant.injEq, exists_eq_left', ne_eq,
        reduceCtorEq, not_false_eq_true, true_and]
      rw [eq_comm (a := Unicode.foldCaseText name)]

namespace Context

/-- A context that also keeps apart which of the names are those of constants. -/
structure RemembersConstants (context : Context) (above : List Line) : Prop
    extends context.Remembers above where
  constants : ∀ name, ConstantDeclared above name ↔ context.scope.hasConstant name = true

theorem remembersConstants_start : start.RemembersConstants [] where
  toRemembers := remembers_start
  constants name := by
    simp [ConstantDeclared]
    rfl

namespace RemembersConstants

variable {context : Context} {above : List Line} (remembers : context.RemembersConstants above)
include remembers

theorem constants_scopeOf (line : Line) (name : List Char) :
    ConstantDeclared (above ++ [line]) name ↔ (context.scopeOf line).hasConstant name = true := by
  rw [constantDeclared_concat, remembers.constants, remembers.partOf, Context.scopeOf,
    Context.declaration?]
  simp only [Line.declaresConstant_iff]
  -- Parameters are variables, so all that may come in is what the line is a declaration of.
  have parameters : (context.scope.addVariables line.parameters).hasConstant name =
      context.scope.hasConstant name := rfl
  cases declared : line.declaration? (context.partOf line) with
  | none =>
    rw [parameters, or_iff_left]
    rintro ⟨part, other, ⟨-, same⟩, -⟩
    rw [part, declared] at same
    cases same
  | some declaration =>
    rw [Scope.hasConstant_add, parameters]
    refine or_congr_right ⟨?_, ?_⟩
    · rintro ⟨part, other, ⟨named, same⟩, folded⟩
      rw [part, declared] at same
      exact ⟨other, Option.some.inj same, named, folded⟩
    · rintro ⟨other, rfl, named, folded⟩
      have part : .constantPart = context.partOf line := by
        cases part : context.partOf line with
        | constantPart => rfl
        | variablePart =>
          rw [part, Line.declaration?_variablePart] at declared
          simp at declared
        | otherPart => simp [part, Line.declaration?] at declared
        | statementPart => simp [part, Line.declaration?] at declared
      exact ⟨part, other, ⟨named, by rw [part, declared]⟩, folded⟩

theorem advance (checks : Checks) (text : List Char) :
    (context.advance checks text).RemembersConstants (above ++ [context.line text]) where
  toRemembers := remembers.toRemembers.advance checks text
  constants name := by
    rw [remembers.constants_scopeOf, Context.advance]
    split <;> rfl

end RemembersConstants

end Context

/-! ## Signs -/

/-- An equals sign that is not part of `<=` or `>=`. -/
def Line.BareEquals (line : Line) (column : Nat) : Prop :=
  line.masked[column]? = some '=' ∧
    ∀ before, column = before + 1 → line.masked[before]? ≠ some '<' ∧ line.masked[before]? ≠ some '>'

/-- The line has an equals sign at the column where an assignment was meant: it is below the others, no
    declaration, has neither an assignment nor a double sign nor one before anything else, and this is
    the first sign that is no comparison and does not follow the name of a constant and one space. -/
structure Line.MistakenEquals (above : List Line) (line : Line) (column : Nat) : Prop where
  plain : line.PlainBelow above
  unassigned : ¬[':', '='] <:+: line.masked
  single : ¬['=', '='] <:+: line.masked
  behind : (Text.trimStart line.masked).head? ≠ some '='
  first : Text.IsFirst line.BareEquals column
  unnamed : ∀ name, Text.trimStart (line.masked.take column) = name ++ [' '] →
    ¬ConstantDeclared (above ++ [line]) name

namespace Rule.Assignment

theorem isExempt_iff {line : Line} :
    isExempt line = true ↔ [':', '='] <:+: line.masked ∨ ['=', '='] <:+: line.masked ∨
      (Text.trimStart line.masked).head? = some '=' := by
  rw [isExempt, Bool.or_eq_true, Bool.or_eq_true, Text.contains_iff_infix, Text.contains_iff_infix,
    or_assoc]
  cases Text.trimStart line.masked with
  | nil => simp
  | cons c rest => simp [List.isPrefixOf, @eq_comm _ '=' c]

theorem namesConstant_iff {scope : Scope} {text : List Char} :
    namesConstant scope text = true ↔
      ∃ name, Text.trimStart text = name ++ [' '] ∧ scope.hasConstant name = true := by
  unfold namesConstant
  constructor
  · intro named
    split at named
    next name turned =>
      refine ⟨name.reverse, ?_, named⟩
      simpa using congrArg List.reverse turned
    next => cases named
  · rintro ⟨name, whole, known⟩
    simp [whole, known]

theorem equals?_masked {line : Line} {column : Nat} :
    equals? false line.masked = some column ↔ Text.IsFirst line.BareEquals column := by
  have same : BareEquals false line.masked = line.BareEquals := by
    funext place
    simp [BareEquals, Line.BareEquals]
  rw [equals?_eq_some_iff, same]

end Rule.Assignment

theorem Defect.rule?_eq_assignment_iff {defect : Defect} :
    defect.rule? = some .assignment ↔ defect = .equalsForAssignment := by
  cases defect <;> decide

open Rule.Assignment in
/-- For a line the rule gives one diagnostic or none, as the history of the line has it. -/
theorem Context.RemembersConstants.assignment_cases {context : Context} {above : List Line}
    (remembers : context.RemembersConstants above) (line : Line) :
    (∃ column, line.MistakenEquals above column ∧
        Rule.assignment.check context line = [line.diagnostic .equalsForAssignment column]) ∨
      (∀ column, ¬line.MistakenEquals above column) ∧ Rule.assignment.check context line = [] := by
  simp only [Rule.check, unlessDeclaration]
  by_cases plain : line.PlainBelow above
  · rw [if_neg ((remembers.plainBelow_iff line).mp plain)]
    unfold Rule.Assignment.check
    split
    next exempt =>
      refine .inr ⟨fun column mistaken => ?_, rfl⟩
      rcases isExempt_iff.mp exempt with assigned | doubled | first
      · exact mistaken.unassigned assigned
      · exact mistaken.single doubled
      · exact mistaken.behind first
    next looked =>
      simp only [isExempt_iff, not_or] at looked
      obtain ⟨unassigned, single, behind⟩ := looked
      split
      next none =>
        refine .inr ⟨fun column mistaken => ?_, rfl⟩
        rw [equals?_masked.mpr mistaken.first] at none
        cases none
      next column found =>
        have first := equals?_masked.mp found
        split
        next named =>
          obtain ⟨name, whole, known⟩ := namesConstant_iff.mp named
          refine .inr ⟨fun other mistaken => ?_, rfl⟩
          -- There is one first sign, and it is the one behind the constant.
          obtain rfl := first.unique mistaken.first
          exact mistaken.unnamed name whole ((remembers.constants_scopeOf line name).mpr known)
        next unnamed =>
          refine .inl ⟨column, ⟨plain, unassigned, single, behind, first, ?_⟩, rfl⟩
          intro name whole declared
          have known := (remembers.constants_scopeOf line name).mp declared
          exact unnamed (namesConstant_iff.mpr ⟨name, whole, known⟩)
  · have declares : (context.declaration? line).isSome = true := by
      by_contra none
      exact plain ((remembers.plainBelow_iff line).mpr none)
    rw [if_pos declares]
    exact .inr ⟨fun column mistaken => plain mistaken.plain, rfl⟩

/-! ## Reports -/

/-- A line is reported for an equals sign exactly if it has one where an assignment was meant, and then
    once, at the column of this sign. -/
theorem mistaken_equals_by_history {checks : Checks} (on : checks.assignment = true)
    {lines : List (List Char)} {above below : List Line} {line : Line}
    (split : Line.ofTexts 1 none lines = above ++ line :: below) :
    let reported := (analyze checks lines).filter fun d =>
      d.defect = .equalsForAssignment ∧ d.position.line = line.number
    (∀ column, line.MistakenEquals above column →
        reported = [line.diagnostic .equalsForAssignment column]) ∧
      ((∀ column, ¬line.MistakenEquals above column) → reported = []) := by
  intro reported
  obtain ⟨front, text, rest, rfl, rfl, rfl, -⟩ :=
    (Context.ofTexts_eq_append_cons_iff checks .start).mp split
  have remembers : (Context.start.after checks front).RemembersConstants (Line.ofTexts 1 none front) :=
    Context.holds_after (fun _ _ text before => before.advance checks text)
      Context.remembersConstants_start front
  have same : reported = Rule.assignment.check (Context.start.after checks front)
      ((Context.start.after checks front).line text) := by
    have switched : checks.has .assignment = true := on
    rw [← filter_analyze_line switched (by decide) front text rest]
    refine List.filter_congr fun d _ => ?_
    simp only [Defect.rule?_eq_assignment_iff, Context.line, Context.lineCount_start_after]
  rw [same]
  rcases remembers.assignment_cases ((Context.start.after checks front).line text) with
    ⟨column, mistaken, once⟩ | ⟨fine, nothing⟩
  · refine ⟨fun other also => ?_, fun none => absurd mistaken (none column)⟩
    rw [once, mistaken.first.unique also.first]
  · exact ⟨fun column mistaken => absurd mistaken (fine column), fun _ => nothing⟩

/-- Behind a constant and one space a sign is no mistake, behind a comparison it is. -/
theorem mistaken_equals_by_history_constant :
    let lines := ["const pi = 3;".toList, "begin".toList, "  PI = 4".toList,
      "  if a <= b then c = d".toList]
    let above := Line.ofTexts 1 none (lines.take 2)
    let constant : Line := ⟨3, "  PI = 4".toList, "  PI = 4".toList⟩
    let sign : Line := ⟨4, "  if a <= b then c = d".toList, "  if a <= b then c = d".toList⟩
    (∀ column, ¬constant.MistakenEquals above column) ∧
      ∃ column, sign.MistakenEquals (above ++ [constant]) column := by
  intro lines above constant sign
  have on : ({} : Checks).assignment = true := rfl
  have third : Line.ofTexts 1 none lines = above ++ constant :: [sign] := by decide +kernel
  have fourth : Line.ofTexts 1 none lines = (above ++ [constant]) ++ sign :: [] := by decide +kernel
  constructor
  · intro column mistaken
    have reported := (mistaken_equals_by_history on third).1 column mistaken
    have clean : (analyze {} lines).filter (fun d =>
        d.defect = .equalsForAssignment ∧ d.position.line = 3) = [] := by decide +kernel
    exact absurd (clean.symm.trans reported) (by simp)
  · by_contra none
    have reported := (mistaken_equals_by_history on fourth).2 (not_exists.mp none)
    have found : (analyze {} lines).filter (fun d =>
        d.defect = .equalsForAssignment ∧ d.position.line = 4) ≠ [] := by decide +kernel
    exact found reported

end PascalLint
