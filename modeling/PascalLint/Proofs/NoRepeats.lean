import Mathlib.Data.List.Nodup
import PascalLint.Proofs.BlockNesting
import PascalLint.Proofs.OnlineAnalysis
import PascalLint.Proofs.ReadingOrder
import PascalLint.Proofs.TokenStream

/-! # No defect is reported twice

Findings keep all that is recorded, so that no diagnostic is among them twice is for those that record
to see to. A rule goes over the words, labels or characters of a line from left to right and reports one
kind of defect at each place (`Line.nodup_map_diagnostic`); different rules report different defects.
Diagnostics of different lines differ in their lines, and a string is reported with the line that gives
it up or at the end, of which the first is settled and the second is not. The scanner moves on with every
token, and how far into its token a defect is put depends on the defect alone.
-/

namespace PascalLint

/-! ## One line -/

theorem Line.nodup_map_diagnostic {α : Type} (line : Line) (defect : Defect) (column : α → Nat)
    {list : List α} (increasing : list.Pairwise fun x later => column x < column later) :
    (list.map fun x => line.diagnostic defect (column x)).Nodup := by
  apply List.pairwise_map.mpr
  apply increasing.imp
  intro x later before same
  have place := congrArg (·.position.column) same
  exact Nat.ne_of_lt before place

namespace Rule

theorem Assignment.nodup_check (scope : Scope) (line : Line) : (check scope line).Nodup := by
  unfold check
  split
  next => exact .nil
  next =>
    split
    next => exact .nil
    next =>
      split
      next => exact .nil
      next => exact List.nodup_singleton _

theorem Ranges.nodup_check (line : Line) : (check line).Nodup := by
  apply line.nodup_map_diagnostic .tripleDot fun column => column
  exact pairwise_columns 0 line.masked

theorem UndeclaredNames.nodup_check (scope : Scope) (line : Line) : (check scope line).Nodup := by
  apply line.nodup_map_diagnostic .undeclaredName Word.start
  exact (Word.pairwise_ofText 0 line.masked).filter _

theorem CaseLabels.le_of_mem_items {start : Nat} {parts : List (List Char)} {item : Nat × Nat}
    (found : item ∈ items start parts) : start ≤ item.1 := by
  induction parts generalizing start with
  | nil => cases found
  | cons part parts ih =>
    have behind (later : item ∈ items (start + part.length + 1) parts) : start ≤ item.1 := by
      have next := ih later
      omega
    simp only [items] at found
    split at found
    next blank => exact behind found
    next solid =>
      rcases List.mem_cons.mp found with rfl | later
      · exact Nat.le_add_right _ _
      · exact behind later

theorem CaseLabels.pairwise_items (column : Nat) (parts : List (List Char)) :
    (items column parts).Pairwise fun item later => item.1 < later.1 := by
  induction parts generalizing column with
  | nil => exact .nil
  | cons part parts ih =>
    simp only [items]
    split
    next blank => exact ih _
    next solid =>
      refine List.pairwise_cons.mpr ⟨fun later found => ?_, ih _⟩
      -- A label begins in its part, and a later one behind the comma that ends the part.
      have start := le_of_mem_items found
      have indent : Text.indent part ≤ part.length := (List.takeWhile_sublist _).length_le
      change column + Text.indent part < later.1
      omega

theorem CaseLabels.nodup_check (scope : Scope) (line : Line) : (check scope line).Nodup := by
  unfold check
  split
  next => exact .nil
  next =>
    apply line.nodup_map_diagnostic .badCaseLabel Prod.fst
    exact (pairwise_items 0 _).filter _

/-- Unmatched `end`s are reported at some of the words, in their order. -/
theorem Blocks.sublist_follow (line : Line) (blocks : List Block) (words : List Word) :
    (follow line blocks words).2.Sublist
      (words.map fun word => line.diagnostic .unmatchedEnd word.start) := by
  fun_induction follow line blocks words with
  | case1 blocks => exact .slnil
  | case2 blocks word rest still ih => exact ih.cons _
  | case3 blocks word rest kind enters ih => exact ih.cons _
  | case4 word rest behind diagnostics followed leaves ih =>
    rw [followed] at ih
    exact ih.cons_cons _
  | case5 word rest innermost outer leaves ih => exact ih.cons _

theorem Blocks.nodup_check (blocks : List Block) (line : Line) : (check blocks line).Nodup := by
  apply List.Nodup.append
  · unfold malformedEnd
    split
    next => exact .nil
    next =>
      split
      next => exact List.nodup_singleton _
      next => exact .nil
  · apply (Blocks.sublist_follow line blocks line.words).nodup
    exact line.nodup_map_diagnostic .unmatchedEnd Word.start (Word.pairwise_ofText 0 line.masked)
  · intro d malformed unmatched
    obtain ⟨word, -, rfl⟩ := List.mem_map.mp ((Blocks.sublist_follow _ _ _).mem unmatched)
    cases defect_of_mem_malformedEnd malformed

theorem PairedKeywords.nodup_checkHeader (line : Line) (opener : Opener) (stop : Nat)
    (partner : Word) : (checkHeader line opener stop partner).Nodup ∧
      ∀ d ∈ checkHeader line opener stop partner, d.defect ≠ .emptyBody := by
  simp only [checkHeader]
  split
  next => simp [Line.diagnostic]
  next =>
    split
    next => simp [Line.diagnostic]
    next => simp

theorem PairedKeywords.nodup_checkBody (line : Line) (opener : Opener) (stop : Nat)
    (partner : Word) : (checkBody line opener stop partner).Nodup ∧
      ∀ d ∈ checkBody line opener stop partner, d.defect = .emptyBody := by
  unfold checkBody
  split
  next => simp
  next =>
    split
    next => simp
    next => simp [Line.diagnostic]

theorem PairedKeywords.nodup_check (line : Line) : (check line).Nodup := by
  unfold check
  split
  next => exact .nil
  next word leading =>
    split
    next => exact .nil
    next opener opens =>
      unfold checkOpener
      split
      next => exact List.nodup_singleton _
      next partner paired =>
        obtain ⟨header, other⟩ := nodup_checkHeader line opener word.stop partner
        obtain ⟨body, own⟩ := nodup_checkBody line opener word.stop partner
        apply header.append body
        intro d inHeader inBody
        exact other d inHeader (own d inBody)

theorem nodup_unlessDeclaration {context : Context} {line : Line} {diagnostics : List Diagnostic}
    (nodup : diagnostics.Nodup) : (context.unlessDeclaration line diagnostics).Nodup := by
  unfold Context.unlessDeclaration
  split
  next => exact .nil
  next => exact nodup

theorem nodup_check (context : Context) (line : Line) (rule : Rule) :
    (rule.check context line).Nodup := by
  cases rule with
  | assignment => exact nodup_unlessDeclaration (Assignment.nodup_check _ line)
  | ranges => exact nodup_unlessDeclaration (Ranges.nodup_check line)
  | undeclaredNames => exact nodup_unlessDeclaration (UndeclaredNames.nodup_check _ line)
  | caseLabels =>
    apply nodup_unlessDeclaration
    split
    next => exact CaseLabels.nodup_check _ line
    next => exact .nil
  | blocks => exact Blocks.nodup_check _ line
  | pairedKeywords => exact nodup_unlessDeclaration (PairedKeywords.nodup_check line)

end Rule

/-! ## All lines -/

namespace Context

theorem rule?_of_mem_unterminatedString {context : Context} {text : List Char} {d : Diagnostic}
    (found : d ∈ context.unterminatedString text) : d.defect.rule? = none := by
  obtain ⟨position, -, rfl⟩ := List.mem_map.mp found
  rfl

theorem nodup_check (context : Context) (checks : Checks) (text : List Char) :
    (context.check checks text).Nodup := by
  apply List.Nodup.append
  · apply (Option.toList_nodup _).map
    intro first second same
    exact congrArg Diagnostic.position same
  · apply List.nodup_flatMap.mpr
    refine ⟨fun rule _ => Rule.nodup_check context _ rule, ?_⟩
    have order : (Rule.inOrder.filter checks.has).Nodup := List.Nodup.filter _ (by decide)
    apply order.imp
    intro rule other different d here there
    -- What both rules report would belong to both of them.
    have own := (Rule.line_of_mem_check here).1
    rw [(Rule.line_of_mem_check there).1] at own
    exact different (Option.some.inj own).symm
  · intro d string ruled
    obtain ⟨rule, -, here⟩ := List.mem_flatMap.mp ruled
    have own := (Rule.line_of_mem_check here).1
    rw [rule?_of_mem_unterminatedString string] at own
    cases own

theorem nodup_checkEnd (context : Context) (checks : Checks) : (context.checkEnd checks).Nodup := by
  unfold checkEnd Rule.Blocks.checkEnd
  cases opened : context.opened with
  | none =>
    split
    next => split <;> simp
    next => simp
  | some literal =>
    have other : literal.defect ≠ .unterminatedBlock := by
      cases literal <;> simp [OpenLiteral.defect]
    split
    next => split <;> simp [other]
    next => simp

theorem nodup_checkAll (checks : Checks) (above below : List (List Char)) :
    ((start.after checks above).checkAll checks below).Nodup := by
  induction below generalizing above with
  | nil => exact nodup_checkEnd _ checks
  | cons text below ih =>
    have later := ih (above ++ [text])
    rw [after_concat] at later
    apply List.Nodup.append (nodup_check _ checks text) later
    -- With a line all that is recorded for it is settled, and what comes after it is not.
    intro d here there
    rw [← after_concat] at there
    have open' := not_isSettled_of_mem_checkAll there
    rw [isSettled_of_mem_check here] at open'
    simp at open'

theorem category_of_mem_checkAll {checks : Checks} {context : Context} {lines : List (List Char)}
    {d : Diagnostic} (found : d ∈ context.checkAll checks lines) : d.defect.category ≠ .lexical := by
  have ruled {d : Diagnostic} {rule : Rule} (own : d.defect.rule? = some rule) :
      d.defect.category ≠ .lexical := by
    intro lexical
    rw [Defect.rule?_of_lexical lexical] at own
    cases own
  induction lines generalizing context with
  | nil =>
    cases List.mem_append.mp found with
    | inl still =>
      obtain ⟨literal, -, rfl⟩ := List.mem_map.mp still
      cases literal <;> simp [OpenLiteral.defect, Defect.category]
    | inr block =>
      split at block
      next => exact ruled (Rule.Blocks.rule_of_mem_checkEnd block)
      next => cases block
  | cons text below ih =>
    cases List.mem_append.mp found with
    | inl here =>
      cases List.mem_append.mp here with
      | inl string =>
        obtain ⟨position, -, rfl⟩ := List.mem_map.mp string
        simp [Defect.category]
      | inr rule =>
        obtain ⟨rule, -, here⟩ := List.mem_flatMap.mp rule
        exact ruled (Rule.line_of_mem_check here).1
    | inr later => exact ih later

end Context

/-! ## The scanner -/

theorem diagnostic_of_mem_scan {dialect : Dialect} {lines : List (List Char)} {scanned : Scanned}
    {d : Diagnostic} (token : scanned ∈ scan dialect lines) (recorded : scanned.diagnostic = some d) :
    d.defect.category = .lexical ∧
      d.position = ⟨scanned.position.line, scanned.position.column + d.defect.distance⟩ := by
  cases exists_lexeme_of_mem_scan token with
  | inl last =>
    rw [last.2] at recorded
    cases recorded
  | inr read =>
    obtain ⟨above, before, c, rest, below, lexeme, -, -, reads, rfl⟩ := read
    obtain ⟨⟨defect, distance⟩, flaw, rfl⟩ := Option.map_eq_some_iff.mp recorded
    obtain ⟨lexical, rfl⟩ := reads.flaw_eq flaw
    exact ⟨lexical, rfl⟩

theorem nodup_lexicalDiagnostics (dialect : Dialect) (lines : List (List Char)) :
    (lexicalDiagnostics (scan dialect lines)).Nodup := by
  have tokens := (Scanner.start dialect lines).pairwise_position_tokens
  apply List.Pairwise.filterMap _ _ (List.Pairwise.and_mem.mp tokens)
  intro scanned later both d recorded e recorded' same
  obtain ⟨first, second, before⟩ := both
  obtain ⟨-, place⟩ := diagnostic_of_mem_scan first recorded
  obtain ⟨-, place'⟩ := diagnostic_of_mem_scan second recorded'
  rw [same, place', Position.mk.injEq] at place
  rw [Position.lt_iff] at before
  omega

/-! ## Reports -/

/-- The findings of a check are what the scanner and the analysis of lines have recorded, all of it, and
    no two of them have one position and one number. -/
theorem check_reports_once (settings : Settings) (source : Source) :
    let recorded := lexicalDiagnostics (scan settings.dialect source.lines) ++
      analyze settings.checks source.lines
    let findings := (check settings source).findings
    findings.all.Perm recorded ∧
      findings.all.Pairwise fun d e => d.position = e.position → d.defect.number ≠ e.defect.number := by
  intro recorded findings
  have all : findings = Findings.ofList recorded := findings_check settings source
  have perm : findings.all.Perm recorded := by
    rw [all]
    exact (Findings.sorts_ofList recorded).perm
  have nodup : recorded.Nodup := by
    apply List.Nodup.append (nodup_lexicalDiagnostics settings.dialect source.lines)
      (Context.nodup_checkAll settings.checks [] source.lines)
    intro d scanned analyzed
    obtain ⟨token, found, recorded⟩ := List.mem_filterMap.mp scanned
    exact Context.category_of_mem_checkAll analyzed (diagnostic_of_mem_scan found recorded).1
  refine ⟨perm, (perm.nodup_iff.mpr nodup).imp ?_⟩
  intro d e different place number
  apply different
  obtain ⟨position, defect⟩ := d
  obtain rfl : position = e.position := place
  obtain rfl : defect = e.defect := Defect.number_injective number
  rfl

end PascalLint
