import PascalLint.Proofs.OpenLiterals

/-! # Line by line

A line is looked at once. What is recorded then is on this line, but for a string of the line above
that this line was to close: one line of delay is all there is, since a string that is open begins on
the line above and nowhere else. So what has been said about some lines stands, whatever comes below
them. Open to revision is only what the end of the source decides, that is strings of the last line,
comments, and open blocks.
-/

namespace PascalLint

/-! ## What is settled -/

namespace Diagnostic

/-- Holds of the diagnostics on the first `count` lines of a source that do not depend on the lines
    below: those on any of the lines, for strings on any but the last. Open comments and blocks are
    left to the end of the source. -/
def isSettled (count : Nat) (d : Diagnostic) : Bool :=
  match d.defect with
  | .unterminatedString => d.position.line < count
  | .unterminatedComment | .unterminatedBlock => false
  | _ => d.position.line ≤ count

theorem isSettled_mono {count more : Nat} (fewer : count ≤ more) {d : Diagnostic}
    (settled : d.isSettled count = true) : d.isSettled more = true := by
  unfold isSettled at *
  split at settled
  next =>
    have inside := of_decide_eq_true settled
    exact decide_eq_true (Nat.lt_of_lt_of_le inside fewer)
  next => cases settled
  next => cases settled
  next =>
    have inside := of_decide_eq_true settled
    exact decide_eq_true (Nat.le_trans inside fewer)

theorem isSettled_of_rule {d : Diagnostic} {rule : Rule} (own : d.defect.rule? = some rule)
    (block : d.defect ≠ .unterminatedBlock) (count : Nat) :
    d.isSettled count = decide (d.position.line ≤ count) := by
  unfold isSettled
  split
  next string =>
    rw [string] at own
    cases own
  next comment =>
    rw [comment] at own
    cases own
  next last => exact absurd last block
  next => rfl

end Diagnostic

/-- A rule speaks about the line that it looks at. -/
theorem Rule.line_of_mem_check {rule : Rule} {context : Context} {text : List Char} {d : Diagnostic}
    (found : d ∈ rule.check context (context.line text)) :
    d.defect.rule? = some rule ∧ d.position.line = context.lineCount + 1 ∧
      d.defect ≠ .unterminatedBlock := by
  obtain ⟨defect, column, rfl, own, -, evidence⟩ := Rule.shows_of_mem_check
    (Veils.of_maskLine (context.lineCount + 1) text context.opened) found
  refine ⟨own, rfl, ?_⟩
  rintro rfl
  -- The evidence for open blocks would be the end of a source of any number of lines.
  have last : (context.line text).position column = ⟨context.lineCount + 2, 0⟩ := evidence _
  exact Nat.succ_ne_self _ (congrArg Position.line last).symm

namespace Context

/-! ## Contexts behind lines -/

theorem lineCount_after (checks : Checks) (context : Context) (lines : List (List Char)) :
    (context.after checks lines).lineCount = context.lineCount + lines.length := by
  induction lines generalizing context with
  | nil => rfl
  | cons text below ih =>
    have step := ih (context.advance checks text)
    rw [lineCount_advance] at step
    change ((context.advance checks text).after checks below).lineCount = _
    rw [step, List.length_cons]
    omega

theorem opened_after (checks : Checks) (context : Context) (lines : List (List Char)) :
    (context.after checks lines).opened =
      openBehind (context.lineCount + 1) context.opened lines := by
  induction lines generalizing context with
  | nil => rfl
  | cons text below ih =>
    have step := ih (context.advance checks text)
    rw [lineCount_advance, opened_advance] at step
    exact step

theorem after_concat (checks : Checks) (context : Context) (above : List (List Char))
    (text : List Char) :
    context.after checks (above ++ [text]) = (context.after checks above).advance checks text :=
  List.foldl_concat _ _ _ _

theorem lineCount_start_after (checks : Checks) (above : List (List Char)) :
    (start.after checks above).lineCount = above.length := by
  rw [lineCount_after]
  exact Nat.zero_add _

/-! ## One line -/

theorem length_unterminatedString_le (context : Context) (text : List Char) :
    (context.unterminatedString text).length ≤ 1 := by
  rw [unterminatedString, List.length_map]
  cases (context.mask text).unterminated <;> simp

/-- A string that a line gives up begins on the line above. -/
theorem line_of_mem_unterminatedString {checks : Checks} {above : List (List Char)} {text : List Char}
    {d : Diagnostic} (found : d ∈ (start.after checks above).unterminatedString text) :
    d.defect = .unterminatedString ∧ d.position.line = above.length := by
  obtain ⟨position, given, rfl⟩ := List.mem_map.mp found
  have opened := eq_string_of_unterminated (Option.mem_toList.mp given)
  rw [opened_after] at opened
  exact ⟨rfl, line_of_openBehind_string opened⟩

theorem line_of_mem_rules {checks : Checks} {above : List (List Char)} {text : List Char}
    {rules : List Rule} {d : Diagnostic} (found : d ∈ rules.flatMap
      (Rule.check (start.after checks above) ((start.after checks above).line text))) :
    d.position.line = above.length + 1 ∧ ∀ count, d.isSettled count = decide (above.length + 1 ≤ count) := by
  obtain ⟨rule, -, here⟩ := List.mem_flatMap.mp found
  obtain ⟨own, line, block⟩ := Rule.line_of_mem_check here
  rw [lineCount_start_after] at line
  refine ⟨line, fun count => ?_⟩
  rw [Diagnostic.isSettled_of_rule own block, line]

/-- What is recorded when a line has its turn is settled with this line and no earlier. -/
theorem isSettled_of_mem_check {checks : Checks} {above : List (List Char)} {text : List Char}
    {d : Diagnostic} (found : d ∈ (start.after checks above).check checks text) (count : Nat) :
    d.isSettled count = decide (above.length + 1 ≤ count) := by
  cases List.mem_append.mp found with
  | inl string =>
    obtain ⟨defect, line⟩ := line_of_mem_unterminatedString string
    simp only [Diagnostic.isSettled, defect, line]
    rfl
  | inr rule => exact (line_of_mem_rules rule).2 count

/-! ## Many lines -/

/-- The diagnostics for some lines, without those for what they leave open. -/
def checkLines (context : Context) (checks : Checks) : List (List Char) → List Diagnostic
  | [] => []
  | text :: below => context.check checks text ++ (context.advance checks text).checkLines checks below

theorem checkAll_append (checks : Checks) (context : Context) (above below : List (List Char)) :
    context.checkAll checks (above ++ below) =
      context.checkLines checks above ++ (context.after checks above).checkAll checks below := by
  induction above generalizing context with
  | nil => rfl
  | cons text above ih =>
    rw [List.cons_append, checkAll, ih, checkLines, List.append_assoc]
    rfl

theorem not_isSettled_of_mem_checkEnd {checks : Checks} {lines : List (List Char)} {d : Diagnostic}
    (found : d ∈ (start.after checks lines).checkEnd checks) : d.isSettled lines.length = false := by
  cases List.mem_append.mp found with
  | inl still =>
    obtain ⟨literal, opened, rfl⟩ := List.mem_map.mp still
    have opened := Option.mem_toList.mp opened
    rw [opened_after] at opened
    cases literal with
    | comment style begin => rfl
    | string begin =>
      have last : begin.line = lines.length := line_of_openBehind_string opened
      simp [Diagnostic.isSettled, OpenLiteral.defect, OpenLiteral.start, last]
  | inr block =>
    split at block
    next =>
      unfold Rule.Blocks.checkEnd at block
      split at block
      next => cases block
      next =>
        obtain rfl := List.mem_singleton.mp block
        rfl
    next => cases block

/-- Below some lines nothing is recorded that would have been settled. -/
theorem not_isSettled_of_mem_checkAll {checks : Checks} {above below : List (List Char)}
    {d : Diagnostic} (found : d ∈ (start.after checks above).checkAll checks below) :
    d.isSettled above.length = false := by
  induction below generalizing above with
  | nil => exact not_isSettled_of_mem_checkEnd found
  | cons text below ih =>
    cases List.mem_append.mp found with
    | inl here =>
      rw [isSettled_of_mem_check here]
      simp
    | inr later =>
      rw [← after_concat] at later
      have open' := ih later
      apply Bool.eq_false_iff.mpr
      intro settled
      have more : above.length ≤ (above ++ [text]).length := by simp
      rw [Diagnostic.isSettled_mono more settled] at open'
      cases open'

end Context

/-- What is settled about some lines is recorded in the same order whatever comes below. -/
theorem filter_analyze_append (checks : Checks) (above below : List (List Char)) :
    (analyze checks (above ++ below)).filter (·.isSettled above.length) =
      (Context.start.checkLines checks above).filter (·.isSettled above.length) := by
  have open' : ((Context.start.after checks above).checkAll checks below).filter
      (·.isSettled above.length) = [] := by
    rw [List.filter_eq_nil_iff]
    intro d found
    simp [Context.not_isSettled_of_mem_checkAll found]
  rw [analyze, Context.checkAll_append, List.filter_append, open', List.append_nil]

/-- When a line below others has its turn, every diagnostic that is recorded is on this line, except for
    at most one, which is for a string and on the line above. So the diagnostics on the lines above but
    for those that the end of a source decides (open strings of the last of these lines, open comments,
    open blocks) are the same without the lines below, in the order of recording and also in findings
    that have other diagnostics already. -/
theorem analyze_never_revises (checks : Checks) :
    (∀ above text, let recorded := (Context.start.after checks above).check checks text
      (∀ d ∈ recorded, d.position.line = above.length + 1 ∨
        d.defect = .unterminatedString ∧ d.position.line = above.length) ∧
      recorded.countP (·.position.line ≠ above.length + 1) ≤ 1) ∧
    ∀ above below,
      (analyze checks (above ++ below)).filter (·.isSettled above.length) =
          (analyze checks above).filter (·.isSettled above.length) ∧
      ∀ before, ((Findings.ofList before).recordAll (analyze checks (above ++ below))).all.filter
          (·.isSettled above.length) =
        ((Findings.ofList before).recordAll (analyze checks above)).all.filter
          (·.isSettled above.length) := by
  constructor
  · intro above text recorded
    constructor
    · intro d found
      cases List.mem_append.mp found with
      | inl string => exact .inr (Context.line_of_mem_unterminatedString string)
      | inr rule => exact .inl (Context.line_of_mem_rules rule).1
    · -- Only the part that is recorded for a string is on another line.
      have rules : ∀ rules : List Rule, (rules.flatMap (Rule.check (Context.start.after checks above)
          ((Context.start.after checks above).line text))).countP
            (·.position.line ≠ above.length + 1) = 0 := by
        intro rules
        rw [List.countP_eq_zero]
        intro d found
        simp [(Context.line_of_mem_rules found).1]
      have strings := (Context.start.after checks above).length_unterminatedString_le text
      change (Context.check _ checks text).countP _ ≤ 1
      rw [Context.check, List.countP_append, rules, Nat.add_zero]
      exact Nat.le_trans List.countP_le_length strings
  · intro above below
    have same : (analyze checks (above ++ below)).filter (·.isSettled above.length) =
        (analyze checks above).filter (·.isSettled above.length) := by
      have alone := filter_analyze_append checks above []
      rw [List.append_nil] at alone
      rw [filter_analyze_append, alone]
    refine ⟨same, fun before => ?_⟩
    rw [Findings.recordAll_ofList, Findings.recordAll_ofList, Findings.filter_ofList,
      Findings.filter_ofList, List.filter_append, List.filter_append, same]

end PascalLint
