import PascalLint.Proofs.Independence

/-! # Text that masking hides

What comments and strings hold is hidden from the rules by masking, with one exception: the texts of
case labels are read from the lines as they were written. So two sources whose masked lines are equal
have the same diagnostics if the texts of their labels are equal, and in any case the same apart from
those about labels. The exception does show: a label that is a string counts as a range if two dots
are in the string.

The proof goes along two runs whose contexts stay equal; only the lines differ, and only in their
characters as they were written (`Line.Alike`).
-/

namespace PascalLint

/-! ## The texts of labels -/

/-- The texts in front of the colon of a line that are taken as labels if the line has any, given the
    line as it was written and masked. -/
def Rule.CaseLabels.texts (raw masked : List Char) : List (List Char) :=
  match colon? masked with
  | none => []
  | some colon =>
    (items 0 (Text.splitOn ',' (masked.take colon))).map fun (start, length) =>
      (raw.drop start).take length

/-- The texts of labels, line by line. -/
def labelTexts (lines : List (List Char)) : List (List (List Char)) :=
  List.zipWith (fun raw masked => Rule.CaseLabels.texts raw masked.text) lines (maskLines 1 none lines)

/-! ## Lines that look alike -/

/-- Two lines that differ in hidden characters at most. -/
structure Line.Alike (line other : Line) : Prop where
  number : line.number = other.number
  masked : line.masked = other.masked

/-- Two lines are alike in everything that does not read them as they were written. -/
theorem Line.Alike.congr {line other : Line} (alike : line.Alike other) {α : Type} (view : Line → α)
    (blind : ∀ number masked raw raw', view ⟨number, raw, masked⟩ = view ⟨number, raw', masked⟩) :
    view line = view other := by
  obtain ⟨number, raw, masked⟩ := line
  obtain ⟨number', raw', masked'⟩ := other
  obtain ⟨rfl, rfl⟩ := alike
  exact blind number masked raw raw'

namespace Rule

variable {line other : Line} (alike : line.Alike other)
include alike

theorem CaseLabels.check_eq (scope : Scope)
    (same : texts line.raw line.masked = texts other.raw other.masked) :
    check scope line = check scope other := by
  have diagnostic : line.diagnostic = other.diagnostic := alike.congr Line.diagnostic fun _ _ _ _ => rfl
  simp only [texts, alike.masked] at same
  simp only [check, alike.masked, diagnostic]
  cases found : colon? other.masked with
  | none => rfl
  | some colon =>
    simp only [found] at same ⊢
    -- Equal texts, label by label, are found to be labels or not alike.
    have labels := List.map_inj_left.mp same
    refine congrArg _ (List.filter_congr fun item inside => ?_)
    rw [labels item inside]

theorem Blocks.follow_eq (blocks : List Block) (words : List Word) :
    follow line blocks words = follow other blocks words := by
  have diagnostic : line.diagnostic = other.diagnostic := alike.congr Line.diagnostic fun _ _ _ _ => rfl
  have position : line.position = other.position := alike.congr Line.position fun _ _ _ _ => rfl
  induction words generalizing blocks with
  | nil => rfl
  | cons word rest ih =>
    rw [follow.eq_def, follow.eq_def other]
    simp only [ih, diagnostic, position]

/-- Every rule says the same about lines that look alike; the rule of case labels does so if the
    texts of the labels are equal. -/
theorem check_eq_of_alike (context : Context) (rule : Rule)
    (same : rule = .caseLabels →
      CaseLabels.texts line.raw line.masked = CaseLabels.texts other.raw other.masked) :
    rule.check context line = rule.check context other := by
  cases rule with
  | blocks =>
    have malformed : Blocks.malformedEnd line = Blocks.malformedEnd other :=
      alike.congr Blocks.malformedEnd fun _ _ _ _ => rfl
    have words : line.words = other.words := alike.congr Line.words fun _ _ _ _ => rfl
    rw [check, check, Blocks.check, Blocks.check, malformed, words, Blocks.follow_eq alike]
  | caseLabels =>
    have scope : context.scopeOf line = context.scopeOf other :=
      alike.congr context.scopeOf fun _ _ _ _ => rfl
    have declares : context.declaration? line = context.declaration? other :=
      alike.congr context.declaration? fun _ _ _ _ => rfl
    have applies : CaseLabels.applies line (CaseLabels.behind line context.caseLine) =
        CaseLabels.applies other (CaseLabels.behind other context.caseLine) :=
      alike.congr (fun line => CaseLabels.applies line (CaseLabels.behind line context.caseLine))
        fun _ _ _ _ => rfl
    rw [check, check, Context.unlessDeclaration, Context.unlessDeclaration, scope, declares, applies,
      CaseLabels.check_eq alike _ (same rfl)]
  | assignment => exact alike.congr (check context · .assignment) fun _ _ _ _ => rfl
  | ranges => exact alike.congr (check context · .ranges) fun _ _ _ _ => rfl
  | undeclaredNames => exact alike.congr (check context · .undeclaredNames) fun _ _ _ _ => rfl
  | pairedKeywords => exact alike.congr (check context · .pairedKeywords) fun _ _ _ _ => rfl

end Rule

/-! ## Two runs -/

namespace Context

section Line

variable {context : Context} {text other : List Char} (same : context.mask text = context.mask other)
include same

theorem alike_line : (context.line text).Alike (context.line other) :=
  ⟨rfl, congrArg MaskedLine.text same⟩

theorem advance_eq (checks : Checks) : context.advance checks text = context.advance checks other := by
  have alike := alike_line same
  have next : context.next text = context.next other := by
    have part : context.partOf (context.line text) = context.partOf (context.line other) :=
      alike.congr context.partOf fun _ _ _ _ => rfl
    have scope : context.scopeOf (context.line text) = context.scopeOf (context.line other) :=
      alike.congr context.scopeOf fun _ _ _ _ => rfl
    have caseLine : Rule.CaseLabels.behind (context.line text) context.caseLine =
        Rule.CaseLabels.behind (context.line other) context.caseLine :=
      alike.congr (Rule.CaseLabels.behind · context.caseLine) fun _ _ _ _ => rfl
    have words : (context.line text).words = (context.line other).words :=
      alike.congr Line.words fun _ _ _ _ => rfl
    have blocks : Rule.Blocks.behind (context.line text) context.blocks =
        Rule.Blocks.behind (context.line other) context.blocks := by
      rw [Rule.Blocks.behind, Rule.Blocks.behind, words, Rule.Blocks.follow_eq alike]
    simp only [Context.next, same, part, scope, caseLine, blocks]
    rfl
  rw [advance, advance, next]

theorem check_eq {checks : Checks}
    (labels : checks.caseLabels = true → Rule.CaseLabels.texts text (context.mask text).text =
      Rule.CaseLabels.texts other (context.mask other).text) :
    context.check checks text = context.check checks other := by
  have strings : context.unterminatedString text = context.unterminatedString other := by
    rw [unterminatedString, unterminatedString, same]
  have rules : ∀ rule ∈ Rule.inOrder.filter checks.has,
      rule.check context (context.line text) = rule.check context (context.line other) := by
    intro rule inside
    refine rule.check_eq_of_alike (alike_line same) context fun reads => labels ?_
    have on := (List.mem_filter.mp inside).2
    rwa [reads] at on
  rw [check, check, strings, List.flatMap_def, List.flatMap_def, List.map_congr_left rules]

end Line

/-- From equal contexts, lines with equal masks and equal texts of labels are reported alike. -/
theorem checkAll_eq {checks : Checks} {context : Context} {lines others : List (List Char)}
    (masks : maskLines (context.lineCount + 1) context.opened lines =
      maskLines (context.lineCount + 1) context.opened others)
    (labels : checks.caseLabels = true →
      List.zipWith (fun raw masked => Rule.CaseLabels.texts raw masked.text) lines
          (maskLines (context.lineCount + 1) context.opened lines) =
        List.zipWith (fun raw masked => Rule.CaseLabels.texts raw masked.text) others
          (maskLines (context.lineCount + 1) context.opened others)) :
    context.checkAll checks lines = context.checkAll checks others := by
  induction lines generalizing context others with
  | nil =>
    cases others with
    | nil => rfl
    | cons other below => cases masks
  | cons text below ih =>
    cases others with
    | nil => cases masks
    | cons other others =>
      obtain ⟨here, later⟩ := List.cons.inj masks
      have same : context.mask text = context.mask other := here
      have labelsHere : checks.caseLabels = true →
          Rule.CaseLabels.texts text (context.mask text).text =
            Rule.CaseLabels.texts other (context.mask other).text :=
        fun on => (List.cons.inj (labels on)).1
      have labelsLater := fun on => (List.cons.inj (labels on)).2
      -- The contexts below the two lines are equal, so the lines below them are reported alike.
      rw [checkAll, checkAll, check_eq same labelsHere, advance_eq same]
      refine congrArg _ (ih ?_ ?_)
      · rw [lineCount_advance, opened_advance]
        rw [here] at later
        exact later
      · rw [lineCount_advance, opened_advance]
        rw [here] at labelsLater
        exact labelsLater

end Context

/-! ## Reports -/

/-- What a run reports is allowed under its checks. -/
theorem allows_of_mem_analyze {checks : Checks} {lines : List (List Char)} {d : Diagnostic}
    (found : d ∈ analyze checks lines) : checks.allows d.defect = true := by
  rw [← filter_analyze fun _ on => on] at found
  exact (List.mem_filter.mp found).2

/-- Without the rule of case labels a run reports the same except for bad labels. -/
theorem filter_analyze_badCaseLabel (checks : Checks) (lines : List (List Char)) :
    (analyze checks lines).filter (·.defect ≠ .badCaseLabel) =
      analyze (checks.set false .caseLabels) lines := by
  have within : ∀ rule, (checks.set false .caseLabels).has rule = true → checks.has rule = true := by
    intro rule on
    rw [Checks.has_set] at on
    split at on
    · cases on
    · exact on
  rw [← filter_analyze within]
  refine List.filter_congr fun d found => ?_
  have allowed := allows_of_mem_analyze found
  have owned : d.defect.rule? = some .caseLabels ↔ d.defect = .badCaseLabel := by
    cases d.defect <;> simp [Defect.rule?]
  by_cases label : d.defect = .badCaseLabel
  · rw [Checks.allows, owned.mpr label, Option.all_some, Checks.has_set, if_pos rfl]
    simp [label]
  · -- The switch of another rule, and what belongs to no rule, is as it was.
    have same : (checks.set false .caseLabels).allows d.defect = checks.allows d.defect := by
      cases owner : d.defect.rule? with
      | none => rw [Checks.allows, Checks.allows, owner, Option.all_none, Option.all_none]
      | some rule =>
        have other : Rule.caseLabels ≠ rule := fun equal => label (owned.mp (by rw [owner, equal]))
        rw [Checks.allows, Checks.allows, owner, Option.all_some, Option.all_some, Checks.has_set,
          if_neg other]
    rw [same, allowed]
    simp [label]

/-- Sources whose masked lines are equal have the same diagnostics, but for those of bad case labels;
    and these too if the texts of the labels are equal. -/
theorem analyze_of_same_masks (checks : Checks) {lines others : List (List Char)}
    (masks : maskLines 1 none lines = maskLines 1 none others) :
    (analyze checks lines).filter (·.defect ≠ .badCaseLabel) =
        (analyze checks others).filter (·.defect ≠ .badCaseLabel) ∧
      (labelTexts lines = labelTexts others → analyze checks lines = analyze checks others) := by
  constructor
  · have off : (checks.set false .caseLabels).caseLabels = false := rfl
    rw [filter_analyze_badCaseLabel, filter_analyze_badCaseLabel]
    refine Context.checkAll_eq masks fun on => ?_
    rw [off] at on
    cases on
  · intro labels
    exact Context.checkAll_eq masks fun _ => labels

/-- A comment over two lines and a string behind the colon, with words in them that rules look for. -/
theorem analyze_of_same_masks_comment :
    let lines := [['c', 'a', 's', 'e', ' ', 'c', ' ', 'o', 'f', '{', 'x', '=', '1'],
      ['e', 'n', 'd', '}', '1', ',', ' ', 'f', ':', ' ', 's', '(', '\'', 'y', '\'', ')']]
    let others := [['c', 'a', 's', 'e', ' ', 'c', ' ', 'o', 'f', '{', '.', '.', '.'],
      ['r', 'e', 'c', '}', '1', ',', ' ', 'f', ':', ' ', 's', '(', '\'', ':', '\'', ')']]
    maskLines 1 none lines = maskLines 1 none others ∧ labelTexts lines = labelTexts others ∧
      analyze {} lines = [⟨⟨2, 7⟩, .badCaseLabel⟩, ⟨⟨2, 0⟩, .unterminatedBlock⟩] ∧
      analyze {} others = [⟨⟨2, 7⟩, .badCaseLabel⟩, ⟨⟨2, 0⟩, .unterminatedBlock⟩] := by
  intro lines others
  have masks : maskLines 1 none lines = maskLines 1 none others := by decide +kernel
  have labels : labelTexts lines = labelTexts others := by decide +kernel
  have reports : analyze {} lines = [⟨⟨2, 7⟩, .badCaseLabel⟩, ⟨⟨2, 0⟩, .unterminatedBlock⟩] := by
    decide +kernel
  have same := (analyze_of_same_masks {} masks).2 labels
  exact ⟨masks, labels, reports, same ▸ reports⟩

/-- The two dots in the string of the first source make it a label, and nothing else tells the sources
    apart. -/
theorem analyze_dots_in_label :
    let lines := [['c', 'a', 's', 'e', ' ', 'c', ' ', 'o', 'f'],
      ['\'', 'a', '.', '.', 'b', '\'', ':', ' ', ';']]
    let others := [['c', 'a', 's', 'e', ' ', 'c', ' ', 'o', 'f'],
      ['\'', 'a', 'b', 'c', 'd', '\'', ':', ' ', ';']]
    let checks := Checks.allOff.set true .caseLabels
    maskLines 1 none lines = maskLines 1 none others ∧ analyze checks lines = [] ∧
      analyze checks others = [⟨⟨2, 0⟩, .badCaseLabel⟩] := by
  decide +kernel

end PascalLint
