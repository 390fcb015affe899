import PascalLint.Proofs.ReportEvidence

/-! # Rules do not interfere

Turning a rule off takes its diagnostics away and changes nothing else. Two runs over the same
lines, one with every rule on, go through contexts that differ in their open blocks at most
(`Context.Agrees`), and only where blocks are not checked; no other rule looks at those.
-/

namespace PascalLint

/-! ## Checks -/

namespace Checks

/-- Every rule. -/
def allOn : Checks := ⟨true, true, true, true, true, true⟩

/-- No rule. -/
def allOff : Checks := ⟨false, false, false, false, false, false⟩

/-- The numbers of the defects that may be reported under the checks. -/
def numbers (checks : Checks) : List Nat :=
  [100, 101, 203, 76, 86]
    ++ (if checks.assignment then [103] else [])
    ++ (if checks.ranges then [201] else [])
    ++ (if checks.undeclaredNames then [104] else [])
    ++ (if checks.caseLabels then [147] else [])
    ++ (if checks.blocks then [202, 204, 205] else [])
    ++ (if checks.pairedKeywords then [52, 54, 8, 51, 206, 207] else [])

theorem allows_eq (checks : Checks) (defect : Defect) :
    checks.allows defect = checks.numbers.contains defect.number := by
  obtain ⟨assignment, ranges, undeclaredNames, caseLabels, blocks, pairedKeywords⟩ := checks
  cases defect <;> revert assignment ranges undeclaredNames caseLabels blocks pairedKeywords <;> decide

theorem has_allOn (rule : Rule) : allOn.has rule = true := by
  cases rule <;> rfl

theorem has_allOff (rule : Rule) : allOff.has rule = false := by
  cases rule <;> rfl

/-- Leaving out what the checks do not allow leaves a rule's diagnostics as they are, or none of
    them. -/
theorem filter_of_rule (checks : Checks) {rule : Rule} {list : List Diagnostic}
    (own : ∀ d ∈ list, d.defect.rule? = some rule) :
    list.filter (checks.allows ·.defect) = if checks.has rule then list else [] := by
  have same : ∀ d ∈ list, checks.allows d.defect = checks.has rule := by
    intro d found
    rw [allows, own d found]
    rfl
  split
  next on => exact List.filter_eq_self.mpr fun d found => (same d found).trans on
  next off =>
    refine List.filter_eq_nil_iff.mpr fun d found => ?_
    rw [same d found]
    exact off

/-- What no rule reports is always allowed. -/
theorem filter_of_none (checks : Checks) {list : List Diagnostic}
    (own : ∀ d ∈ list, d.defect.rule? = none) : list.filter (checks.allows ·.defect) = list := by
  refine List.filter_eq_self.mpr fun d found => ?_
  rw [allows, own d found]
  rfl

end Checks

theorem Rule.Blocks.rule_of_mem_checkEnd {blocks : List Block} {lastLine : Nat} {d : Diagnostic}
    (found : d ∈ checkEnd blocks lastLine) : d.defect.rule? = some .blocks := by
  unfold checkEnd at found
  split at found
  next => cases found
  next =>
    obtain rfl := List.mem_singleton.mp found
    rfl

/-! ## Contexts -/

namespace Context

/-- A context under some checks beside one under which every rule is on. -/
structure Agrees (checks : Checks) (part whole : Context) : Prop where
  rest : ∃ blocks, part = { whole with blocks }
  blocks : checks.blocks = true → part = whole

namespace Agrees

variable {checks : Checks} {part whole : Context} (agrees : Agrees checks part whole)
include agrees

theorem advance (text : List Char) :
    Agrees checks (part.advance checks text) (whole.advance .allOn text) := by
  obtain ⟨⟨blocks, rfl⟩, same⟩ := agrees
  -- What `next` puts in place of the other fields reads the fields that agree.
  constructor
  · by_cases on : checks.blocks = true
    · exact ⟨_, by rw [Context.advance, if_pos on]; rfl⟩
    · exact ⟨_, by rw [Context.advance, if_neg on]; rfl⟩
  · intro on
    rw [same on, Context.advance, if_pos on]
    rfl

theorem line_eq (text : List Char) : part.line text = whole.line text := by
  obtain ⟨blocks, rfl⟩ := agrees.rest
  rfl

/-- A rule that is on looks at the same in both contexts. -/
theorem check_eq {rule : Rule} (on : checks.has rule = true) (line : Line) :
    rule.check part line = rule.check whole line := by
  cases rule with
  -- The only rule that looks at the blocks is on, so they agree.
  | blocks => rw [agrees.blocks on]
  | _ =>
    obtain ⟨blocks, rfl⟩ := agrees.rest
    rfl

theorem filter_ruleCheck (text : List Char) (rule : Rule) :
    (rule.check whole (whole.line text)).filter (checks.allows ·.defect) =
      if checks.has rule then rule.check part (part.line text) else [] := by
  have own : ∀ d ∈ rule.check whole (whole.line text), d.defect.rule? = some rule := by
    intro d found
    obtain ⟨defect, column, rfl, own, -⟩ := Rule.shows_of_mem_check
      (Veils.of_maskLine (whole.lineCount + 1) text whole.opened) found
    exact own
  rw [checks.filter_of_rule own]
  split
  next on => rw [agrees.line_eq, agrees.check_eq on]
  next off => rfl

theorem filter_rules (text : List Char) (rules : List Rule) :
    (rules.flatMap (Rule.check whole (whole.line text))).filter (checks.allows ·.defect) =
      (rules.filter checks.has).flatMap (Rule.check part (part.line text)) := by
  induction rules with
  | nil => rfl
  | cons rule rules ih =>
    rw [List.flatMap_cons, List.filter_append, agrees.filter_ruleCheck, ih]
    by_cases on : checks.has rule = true
    · rw [if_pos on, List.filter_cons_of_pos on, List.flatMap_cons]
    · rw [if_neg on, List.filter_cons_of_neg on, List.nil_append]

theorem filter_check (text : List Char) :
    (whole.check .allOn text).filter (checks.allows ·.defect) = part.check checks text := by
  have strings : (whole.unterminatedString text).filter (checks.allows ·.defect) =
      part.unterminatedString text := by
    obtain ⟨blocks, rfl⟩ := agrees.rest
    refine checks.filter_of_none fun d found => ?_
    obtain ⟨start, -, rfl⟩ := List.mem_map.mp found
    rfl
  have every : Rule.inOrder.filter Checks.allOn.has = Rule.inOrder :=
    List.filter_eq_self.mpr fun rule _ => Checks.has_allOn rule
  rw [check, check, List.filter_append, strings, every, agrees.filter_rules]

theorem filter_checkEnd :
    (whole.checkEnd .allOn).filter (checks.allows ·.defect) = part.checkEnd checks := by
  have literals : (whole.opened.toList.map fun literal => (⟨literal.start, literal.defect⟩ : Diagnostic)).filter
      (checks.allows ·.defect) =
        part.opened.toList.map fun literal => ⟨literal.start, literal.defect⟩ := by
    obtain ⟨blocks, rfl⟩ := agrees.rest
    refine checks.filter_of_none fun d found => ?_
    obtain ⟨literal, -, rfl⟩ := List.mem_map.mp found
    cases literal <;> rfl
  have ends : (Rule.Blocks.checkEnd whole.blocks whole.lineCount).filter (checks.allows ·.defect) =
      if checks.blocks then Rule.Blocks.checkEnd part.blocks part.lineCount else [] := by
    rw [checks.filter_of_rule fun d found => Rule.Blocks.rule_of_mem_checkEnd found]
    change (if checks.blocks = true then _ else _) = _
    split
    next on => rw [agrees.blocks on]
    next off => rfl
  have every : Checks.allOn.blocks = true := rfl
  rw [checkEnd, checkEnd, List.filter_append, literals, if_pos every, ends]

/-- A run under some checks reports what the run with every rule on reports and they allow. -/
theorem filter_checkAll (lines : List (List Char)) :
    (whole.checkAll .allOn lines).filter (checks.allows ·.defect) = part.checkAll checks lines := by
  induction lines generalizing part whole with
  | nil => exact agrees.filter_checkEnd
  | cons text below ih =>
    rw [checkAll, checkAll, List.filter_append, agrees.filter_check, ih (agrees.advance text)]

end Agrees

end Context

/-! ## Fewer rules -/

/-- Under fewer rules a run reports what a run under more of them does and the fewer allow. -/
theorem filter_analyze {fewer checks : Checks}
    (within : ∀ rule, fewer.has rule = true → checks.has rule = true) (lines : List (List Char)) :
    (analyze checks lines).filter (fewer.allows ·.defect) = analyze fewer lines := by
  have start : ∀ checks : Checks, Context.Agrees checks .start .start :=
    fun checks => ⟨⟨[], rfl⟩, fun _ => rfl⟩
  have more : (analyze .allOn lines).filter (checks.allows ·.defect) = analyze checks lines :=
    (start checks).filter_checkAll lines
  have less : (analyze .allOn lines).filter (fewer.allows ·.defect) = analyze fewer lines :=
    (start fewer).filter_checkAll lines
  rw [← more, List.filter_filter, ← less]
  refine List.filter_congr fun d _ => ?_
  -- What the fewer rules allow is allowed under more of them.
  cases owner : d.defect.rule? with
  | none => simp [Checks.allows, owner]
  | some rule =>
    cases on : fewer.has rule with
    | false => simp [Checks.allows, owner, on]
    | true => simp [Checks.allows, owner, on, within rule on]

/-! ## Reports -/

/-- The ordered diagnostics under some checks are those with every rule on whose numbers the checks
    enable, and the tokens do not depend on the checks. -/
theorem findings_check_eq_filter (settings : Settings) (source : Source) :
    (check settings source).findings.all =
        (check { settings with checks := .allOn } source).findings.all.filter
          (settings.checks.numbers.contains ·.defect.number) ∧
      ∀ checks, (check settings source).tokens = (check { settings with checks } source).tokens := by
  refine ⟨?_, fun checks => rfl⟩
  have keep : (settings.checks.numbers.contains ·.defect.number) =
      fun d : Diagnostic => settings.checks.allows d.defect := by
    funext d
    exact (Checks.allows_eq _ _).symm
  have lexical : (lexicalDiagnostics (scan settings.dialect source.lines)).filter
      (settings.checks.allows ·.defect) = lexicalDiagnostics (scan settings.dialect source.lines) := by
    refine settings.checks.filter_of_none fun d found => ?_
    obtain ⟨above, before, c, rest, below, lexeme, distance, -, -, reads, flaw, -⟩ :=
      exists_flaw_of_mem_lexicalDiagnostics found
    exact reads.rule?_eq_none flaw
  have start : Context.Agrees settings.checks .start .start := ⟨⟨[], rfl⟩, fun _ => rfl⟩
  have rules : (analyze .allOn source.lines).filter (settings.checks.allows ·.defect) =
      analyze settings.checks source.lines := start.filter_checkAll source.lines
  rw [keep, findings_check, findings_check, Findings.filter_ofList, List.filter_append, lexical, rules]

end PascalLint
