import PascalLint.Proofs.LineHistory

/-! # One rule in a run

Of all that is recorded for a source, what belongs to one rule is what this rule reports for the lines
one by one, each seen behind the lines above it: no defect belongs to two rules, and strings and
comments that stay open belong to none. So a rule is known if it is known what it reports for a line in
terms of the history of that line (`Context.mem_checkAll_of_history`). The rule of blocks is left out,
as it has one more word to say at the end of the source.
-/

namespace PascalLint

theorem Defect.ne_unterminatedBlock {defect : Defect} {rule : Rule} (own : defect.rule? = some rule)
    (linewise : rule ≠ .blocks) : defect ≠ .unterminatedBlock := by
  rintro rfl
  cases own
  exact linewise rfl

namespace Context

variable {context : Context} {checks : Checks} {rule : Rule}

/-! ## One line -/

theorem filter_rules_own (context : Context) (text : List Char) (rule : Rule) (rules : List Rule) :
    (rules.flatMap (Rule.check context (context.line text))).filter (·.defect.rule? = some rule) =
      (rules.filter (· = rule)).flatMap (Rule.check context (context.line text)) := by
  induction rules with
  | nil => rfl
  | cons other rules ih =>
    rw [List.flatMap_cons, List.filter_append, ih]
    have own : ∀ d ∈ other.check context (context.line text), d.defect.rule? = some other :=
      fun d found => (Rule.line_of_mem_check found).1
    by_cases same : other = rule
    · subst same
      rw [List.filter_eq_self.mpr (by simpa using own), List.filter_cons_of_pos (by simp),
        List.flatMap_cons]
    · have none :
          (other.check context (context.line text)).filter (·.defect.rule? = some rule) = [] := by
        rw [List.filter_eq_nil_iff]
        intro d found
        simp [own d found, same]
      rw [none, List.filter_cons_of_neg (by simpa using same), List.nil_append]

/-- A rule that is on records what it reports, and no other part of a step does. -/
theorem filter_check_own (on : checks.has rule = true) (context : Context) (text : List Char) :
    (context.check checks text).filter (·.defect.rule? = some rule) =
      rule.check context (context.line text) := by
  have strings : (context.unterminatedString text).filter (·.defect.rule? = some rule) = [] := by
    rw [List.filter_eq_nil_iff]
    intro d found
    obtain ⟨start, -, rfl⟩ := List.mem_map.mp found
    simp [Defect.rule?]
  have once : (Rule.inOrder.filter checks.has).filter (· = rule) = [rule] := by
    have alone : Rule.inOrder.filter (· = rule) = [rule] := by
      cases rule <;> rfl
    rw [List.filter_filter, ← alone]
    refine List.filter_congr fun other _ => ?_
    by_cases same : other = rule <;> simp [same, on]
  rw [check, List.filter_append, strings, filter_rules_own, once]
  simp

theorem mem_check_own (on : checks.has rule = true) {text : List Char} {d : Diagnostic}
    (own : d.defect.rule? = some rule) :
    d ∈ context.check checks text ↔ d ∈ rule.check context (context.line text) := by
  rw [← filter_check_own on, List.mem_filter]
  simp [own]

/-! ## Many lines -/

theorem not_mem_checkEnd_own (linewise : rule ≠ .blocks) {d : Diagnostic}
    (own : d.defect.rule? = some rule) : d ∉ context.checkEnd checks := by
  intro found
  rcases List.mem_append.mp found with still | block
  · obtain ⟨literal, -, rfl⟩ := List.mem_map.mp still
    cases literal <;> cases own
  · split at block
    next =>
      have blocks := Rule.Blocks.rule_of_mem_checkEnd block
      rw [own] at blocks
      exact linewise (Option.some.inj blocks)
    next => cases block

theorem mem_checkAll_own (on : checks.has rule = true) (linewise : rule ≠ .blocks)
    {texts : List (List Char)} {d : Diagnostic} (own : d.defect.rule? = some rule) :
    d ∈ context.checkAll checks texts ↔
      ∃ above text below, texts = above ++ text :: below ∧
        d ∈ rule.check (context.after checks above) ((context.after checks above).line text) := by
  induction texts generalizing context with
  | nil => simp [checkAll, not_mem_checkEnd_own linewise own]
  | cons text texts ih =>
    rw [checkAll, List.mem_append, mem_check_own on own, ih]
    constructor
    · rintro (here | ⟨above, other, below, rfl, found⟩)
      · exact ⟨[], text, texts, rfl, here⟩
      · exact ⟨text :: above, other, below, rfl, found⟩
    · rintro ⟨above, other, below, same, found⟩
      cases above with
      | nil =>
        obtain ⟨rfl, rfl⟩ := List.cons.inj same
        exact .inl found
      | cons first above =>
        obtain ⟨rfl, rfl⟩ := List.cons.inj same
        exact .inr ⟨above, other, below, rfl, found⟩

/-- If what a rule reports for a line is known from the lines above it, so is what it reports in a
    run. -/
theorem mem_checkAll_of_history (Reported : List Line → Line → Prop) (on : checks.has rule = true)
    (linewise : rule ≠ .blocks) {texts : List (List Char)} {d : Diagnostic}
    (own : d.defect.rule? = some rule)
    (reports : ∀ front text,
      d ∈ rule.check (context.after checks front) ((context.after checks front).line text) ↔
        Reported (Line.ofTexts (context.lineCount + 1) context.opened front)
          ((context.after checks front).line text)) :
    d ∈ context.checkAll checks texts ↔
      ∃ above line below,
        Line.ofTexts (context.lineCount + 1) context.opened texts = above ++ line :: below ∧
          Reported above line := by
  rw [mem_checkAll_own on linewise own]
  simp only [ofTexts_eq_append_cons_iff checks context]
  constructor
  · rintro ⟨front, text, rest, rfl, found⟩
    exact ⟨_, _, _, ⟨front, text, rest, rfl, rfl, rfl, rfl⟩, (reports front text).mp found⟩
  · rintro ⟨_, _, _, ⟨front, text, rest, rfl, rfl, rfl, rfl⟩, reported⟩
    exact ⟨front, text, rest, rfl, (reports front text).mpr reported⟩

theorem exists_of_mem_checkLines {texts : List (List Char)} {d : Diagnostic}
    (found : d ∈ context.checkLines checks texts) :
    ∃ above text below, texts = above ++ text :: below ∧
      d ∈ (context.after checks above).check checks text := by
  induction texts generalizing context with
  | nil => cases found
  | cons text texts ih =>
    rcases List.mem_append.mp found with here | later
    · exact ⟨[], text, texts, rfl, here⟩
    · obtain ⟨above, other, below, rfl, inside⟩ := ih later
      exact ⟨text :: above, other, below, rfl, inside⟩

end Context

/-- What a run records for a line by a rule is what the rule reports when the line has its turn. -/
theorem filter_analyze_line {checks : Checks} {rule : Rule} (on : checks.has rule = true)
    (linewise : rule ≠ .blocks) (above : List (List Char)) (text : List Char)
    (below : List (List Char)) :
    (analyze checks (above ++ text :: below)).filter
        (fun d => d.defect.rule? = some rule ∧ d.position.line = above.length + 1) =
      rule.check (Context.start.after checks above) ((Context.start.after checks above).line text) := by
  have earlier : (Context.start.checkLines checks above).filter
      (fun d => d.defect.rule? = some rule ∧ d.position.line = above.length + 1) = [] := by
    rw [List.filter_eq_nil_iff]
    intro d found
    simp only [decide_eq_true_eq, not_and]
    intro own
    obtain ⟨front, other, rest, rfl, here⟩ := Context.exists_of_mem_checkLines found
    obtain ⟨-, line, -⟩ := Rule.line_of_mem_check ((Context.mem_check_own on own).mp here)
    rw [Context.lineCount_start_after] at line
    simp only [line, List.length_append, List.length_cons]
    omega
  have later : ((Context.start.after checks (above ++ [text])).checkAll checks below).filter
      (fun d => d.defect.rule? = some rule ∧ d.position.line = above.length + 1) = [] := by
    rw [List.filter_eq_nil_iff]
    intro d found
    simp only [decide_eq_true_eq, not_and]
    intro own line
    -- With this line all of its own diagnostics are settled, and what comes after it is not.
    have unsettled := Context.not_isSettled_of_mem_checkAll found
    rw [Diagnostic.isSettled_of_rule own (Defect.ne_unterminatedBlock own linewise), line] at unsettled
    simp at unsettled
  have here : ((Context.start.after checks above).check checks text).filter
      (fun d => d.defect.rule? = some rule ∧ d.position.line = above.length + 1) =
        ((Context.start.after checks above).check checks text).filter (·.defect.rule? = some rule) := by
    refine List.filter_congr fun d found => ?_
    rw [decide_eq_decide, and_iff_left_iff_imp]
    intro own
    obtain ⟨-, line, -⟩ := Rule.line_of_mem_check ((Context.mem_check_own on own).mp found)
    rw [line, Context.lineCount_start_after]
  rw [analyze, Context.checkAll_append, Context.checkAll, ← Context.after_concat, List.filter_append,
    List.filter_append, earlier, later, here, Context.filter_check_own on, List.nil_append,
    List.append_nil]

end PascalLint
