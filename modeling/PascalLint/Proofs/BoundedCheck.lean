import PascalLint.Proofs.BoundedCursor
import PascalLint.Proofs.BoundedRules
import PascalLint.Proofs.TokenStream
import PascalLint.Report

/-! # Checks with bounded access

A check of a source in which the analysis gets at characters by columns only, and a cursor that keeps
a line number, a column and a byte offset and looks the rest up in the lines. Neither meets a fault:
what a context does with the next line (`Bounded.check_eq`, `Bounded.advance_eq`) is what it does
without the accesses, and a cursor that stands in the lines sees what is there (`Bounded.look_eq`) and
goes on to stand in them.
-/

namespace PascalLint

namespace Bounded

/-! ## Contexts -/

section

variable (context : Context) (line : Line)

/-- The next line as the rules see it. -/
def lineOf (text : List Char) : Bounded Line := do
  let masked ← maskLine (context.lineCount + 1) text context.opened
  return ⟨context.lineCount + 1, text, masked.text⟩

/-- The part of the program that a line belongs to. -/
def partOf : Bounded Part := do
  return ((← leadingKeyword? line).bind Part.ofKeyword?).getD context.part

/-- The declaration that a line is, in the part that it belongs to. -/
def declarationOf? : Bounded (Option Declaration) := do
  declaration? line (← partOf context line)

/-- The names in scope on a line, its own declarations included. -/
def scopeOf : Bounded Scope := do
  let scope := context.scope.addVariables (← parameters line)
  match ← declarationOf? context line with
  | some declaration => return scope.add declaration
  | none => return scope

/-- The diagnostics of a rule that does not look at declarations. -/
def unlessDeclaration (diagnostics : Bounded (List Diagnostic)) : Bounded (List Diagnostic) := do
  if (← declarationOf? context line).isSome then return [] else diagnostics

/-- The diagnostics that a rule gives for a line. -/
def checkRule : Rule → Bounded (List Diagnostic)
  | .blocks => Blocks.check context.blocks line
  | .caseLabels =>
    unlessDeclaration context line do
      if Rule.CaseLabels.applies line (← CaseLabels.behind line context.caseLine) then
        CaseLabels.check (← scopeOf context line) line
      else return []
  | .assignment =>
    unlessDeclaration context line do Assignment.check (← scopeOf context line) line
  | .ranges => unlessDeclaration context line (return Rule.Ranges.check line)
  | .undeclaredNames =>
    unlessDeclaration context line do UndeclaredNames.check (← scopeOf context line) line
  | .pairedKeywords => unlessDeclaration context line (PairedKeywords.check line)

end

/-- The diagnostics for the next line, in the order in which they are recorded. -/
def checkNext (context : Context) (checks : Checks) (text : List Char) :
    Bounded (List Diagnostic) := do
  let masked ← maskLine (context.lineCount + 1) text context.opened
  let line ← lineOf context text
  let diagnostics ← (Rule.inOrder.filter checks.has).mapM (checkRule context line)
  return masked.unterminated.toList.map (⟨·, .unterminatedString⟩) ++ diagnostics.flatten

/-- The context behind the next line under some checks. -/
def advance (checks : Checks) (context : Context) (text : List Char) : Bounded Context := do
  let masked ← maskLine (context.lineCount + 1) text context.opened
  let line ← lineOf context text
  return {
    lineCount := line.number
    opened := masked.opened
    part := ← partOf context line
    scope := ← scopeOf context line
    caseLine := ← CaseLabels.behind line context.caseLine
    blocks := ← if checks.blocks then Blocks.behind line context.blocks else pure context.blocks }

/-- The diagnostics for some lines and for what they leave open. -/
def checkAll (context : Context) (checks : Checks) : List (List Char) → Bounded (List Diagnostic)
  | [] => return context.checkEnd checks
  | text :: below => do
    let diagnostics ← checkNext context checks text
    let later ← checkAll (← advance checks context text) checks below
    return diagnostics ++ later

/-- Checks a source. -/
def check (settings : Settings) (source : Source) : Bounded Report := do
  let stream := scan settings.dialect source.lines
  let diagnostics ← checkAll .start settings.checks source.lines
  return {
    source
    findings := (Findings.ofList (lexicalDiagnostics stream)).recordAll diagnostics
    tokens := .ofStream stream }

section

variable (context : Context)

@[simp]
theorem lineOf_eq (text : List Char) : lineOf context text = pure (context.line text) := by
  rw [lineOf, maskLine_eq, pure_bind]
  rfl

@[simp]
theorem partOf_eq (line : Line) : partOf context line = pure (context.partOf line) := by
  rw [partOf, leadingKeyword?_eq, pure_bind]
  rfl

@[simp]
theorem declarationOf?_eq (line : Line) :
    declarationOf? context line = pure (context.declaration? line) := by
  rw [declarationOf?, partOf_eq, pure_bind, declaration?_eq]
  rfl

@[simp]
theorem scopeOf_eq (line : Line) : scopeOf context line = pure (context.scopeOf line) := by
  rw [scopeOf, parameters_eq, pure_bind, declarationOf?_eq, pure_bind, Context.scopeOf]
  cases context.declaration? line <;> rfl

theorem unlessDeclaration_eq (line : Line) (diagnostics : List Diagnostic) :
    unlessDeclaration context line (pure diagnostics) =
      pure (context.unlessDeclaration line diagnostics) := by
  rw [unlessDeclaration, declarationOf?_eq, pure_bind, Context.unlessDeclaration]
  split <;> rfl

/-- The rules come to their diagnostics without a fault. -/
theorem checkRule_eq (text : List Char) (rule : Rule) :
    checkRule context (context.line text) rule = pure (rule.check context (context.line text)) := by
  have same : (context.line text).raw.length = (context.line text).masked.length :=
    (Veils.of_maskLine (context.lineCount + 1) text context.opened).length_eq.symm
  cases rule with
  | blocks => exact Blocks.check_eq context.blocks _
  | caseLabels =>
    rw [checkRule, CaseLabels.behind_eq, pure_bind, scopeOf_eq, pure_bind, CaseLabels.check_eq _ same,
      Rule.check, ← unlessDeclaration_eq]
    split <;> rfl
  | assignment =>
    rw [checkRule, scopeOf_eq, pure_bind, Assignment.check_eq, unlessDeclaration_eq]
    rfl
  | ranges => exact unlessDeclaration_eq context _ _
  | undeclaredNames =>
    rw [checkRule, scopeOf_eq, pure_bind, UndeclaredNames.check_eq, unlessDeclaration_eq]
    rfl
  | pairedKeywords =>
    rw [checkRule, PairedKeywords.check_eq, unlessDeclaration_eq]
    rfl

theorem checkNext_eq (checks : Checks) (text : List Char) :
    checkNext context checks text = pure (context.check checks text) := by
  have rules : checkRule context (context.line text) =
      fun rule => pure (rule.check context (context.line text)) :=
    funext (checkRule_eq context text)
  rw [checkNext, maskLine_eq, pure_bind, lineOf_eq, pure_bind, rules, List.mapM_pure, pure_bind,
    ← List.flatMap_def]
  rfl

theorem advance_eq (checks : Checks) (text : List Char) :
    advance checks context text = pure (context.advance checks text) := by
  rw [advance, maskLine_eq, pure_bind, lineOf_eq, pure_bind, partOf_eq, pure_bind, scopeOf_eq,
    pure_bind, CaseLabels.behind_eq, pure_bind, Blocks.behind_eq, Context.advance]
  split <;> rfl

end

theorem checkAll_eq (context : Context) (checks : Checks) (lines : List (List Char)) :
    checkAll context checks lines = pure (context.checkAll checks lines) := by
  induction lines generalizing context with
  | nil => rfl
  | cons text below ih =>
    rw [checkAll, checkNext_eq, pure_bind, advance_eq, pure_bind, ih, pure_bind, Context.checkAll]

theorem check_eq (settings : Settings) (source : Source) :
    check settings source = pure (PascalLint.check settings source) := by
  rw [check, checkAll_eq, pure_bind]
  rfl

end Bounded

/-- Reading tokens moves the cursor over glyphs, and does nothing else to it. -/
theorem Scanner.behind_skips (scanner : Scanner) (calls : Nat) :
    ∃ count, (scanner.behind calls).cursor = scanner.cursor.skip count := by
  induction calls generalizing scanner with
  | zero => exact ⟨0, rfl⟩
  | succ calls ih =>
    obtain ⟨first, next⟩ := scanner.next_skips
    obtain ⟨later, behind⟩ := ih scanner.next.2
    refine ⟨first + later, ?_⟩
    rw [Scanner.behind, behind, next, Cursor.skip_add]

/-! ## Checks in bounds -/

/-- A check comes to its report with accesses that are all in bounds, and so does the text of the
    report. Wherever a scanner has come to, in the middle of a token or between two, its cursor is one
    that goes from place to place in the lines without a fault: the number of the line is not zero, the
    offset is the boundary of a character, and what is looked up there is what the scanner sees. -/
theorem check_in_bounds (settings : Settings) (source : Source) :
    Bounded.check settings source = pure (check settings source) ∧
      (Bounded.check settings source).map Report.render = pure (check settings source).render ∧
      ∀ calls steps,
        let cursor := ((Scanner.start settings.dialect source.lines).behind calls).cursor.skip steps
        (∃ count, Bounded.walk source.lines count = pure (Bounded.placeOf cursor)) ∧
          Bounded.look source.lines (Bounded.placeOf cursor) = pure cursor.current ∧
          1 ≤ cursor.position.line ∧
          ∀ text, source.line? cursor.position.line = some text →
            String.Pos.Raw.IsValid (String.ofList text) ⟨cursor.offset⟩ := by
  have report := Bounded.check_eq settings source
  refine ⟨report, by rw [report]; rfl, fun calls steps => ?_⟩
  obtain ⟨first, behind⟩ :=
    (Scanner.start settings.dialect source.lines).behind_skips calls
  have passed : ((Scanner.start settings.dialect source.lines).behind calls).cursor.skip steps =
      (Cursor.start source.lines).skip (first + steps) := by
    rw [behind, Cursor.skip_add]
    rfl
  have stands := (Cursor.standsIn_start source.lines).skip (first + steps)
  rw [passed]
  exact ⟨⟨_, Bounded.walk_eq source.lines _⟩, Bounded.look_eq stands, Bounded.one_le_line stands,
    fun text here => Bounded.isValid_offset stands here⟩

end PascalLint
