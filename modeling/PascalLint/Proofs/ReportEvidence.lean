import PascalLint.Proofs.Recording
import PascalLint.Proofs.RuleEvidence
import PascalLint.Report

/-! # The evidence for every diagnostic of a report

A context that follows some lines (`Context.Follows`) knows how many they are and where among them
the open literal begins; every line that is looked at preserves this. So whatever a check reports
is in range and points at its evidence, also where a literal has been open for any number of lines.
-/

namespace PascalLint

/-! ## Where open literals begin -/

namespace OpenLiteral

/-- The characters that a literal begins with. -/
def opener : OpenLiteral → List Char
  | string _ => ['\'']
  | comment .brace _ => ['{']
  | comment .paren _ => ['(', '*']

/-- The literal begins on one of the lines. -/
def BeginsIn (literal : OpenLiteral) (lines : List (List Char)) : Prop :=
  ∃ above raw below, lines = above ++ raw :: below ∧ literal.start.line = above.length + 1 ∧
    literal.opener <+: raw.drop literal.start.column

theorem BeginsIn.append {literal : OpenLiteral} {lines : List (List Char)}
    (begins : literal.BeginsIn lines) (more : List (List Char)) : literal.BeginsIn (lines ++ more) := by
  obtain ⟨above, raw, below, rfl, line, here⟩ := begins
  exact ⟨above, raw, below ++ more, by simp, line, here⟩

theorem getElem?_of_prefix_drop {text front : List Char} {c : Char} {column : Nat}
    (found : c :: front <+: text.drop column) : text[column]? = some c := by
  obtain ⟨behind, same⟩ := found
  rw [← List.head?_drop, ← same]
  rfl

theorem BeginsIn.pointsInto {literal : OpenLiteral} {lines : List (List Char)}
    (begins : literal.BeginsIn lines) :
    Diagnostic.PointsInto ⟨literal.start, literal.defect⟩ lines := by
  obtain ⟨above, raw, below, same, line, here⟩ := begins
  refine ⟨above, raw, below, same, line, ?_, ?_⟩
  · have short := here.length_le
    have nonempty : 0 < literal.opener.length := by
      unfold opener
      split <;> decide
    rw [List.length_drop] at short
    simp only
    omega
  · match literal with
    | string start => exact getElem?_of_prefix_drop here
    | comment .brace start => exact .inl (getElem?_of_prefix_drop here)
    | comment .paren start => exact .inr here

/-- The literal begins on a text that begins at a column of a line. -/
def BeginsAt (literal : OpenLiteral) (line column : Nat) (text : List Char) : Prop :=
  ∃ inside, literal.start = ⟨line, column + inside⟩ ∧ literal.opener <+: text.drop inside

theorem BeginsAt.behind {literal : OpenLiteral} {line next : Nat} {after : List Char}
    (begins : literal.BeginsAt line next after) (column : Nat) (front : List Char)
    (passed : next = column + front.length) :
    literal.BeginsAt line column (front ++ after) := by
  obtain ⟨inside, start, here⟩ := begins
  refine ⟨front.length + inside, ?_, ?_⟩
  · rw [start, passed, Nat.add_assoc]
  · rwa [List.drop_length_add_append]

end OpenLiteral

namespace Mask

theorem beginsAt_of_maskCode {line column : Nat} {text : List Char} {literal : OpenLiteral}
    (opened : (maskCode line column text).2 = some literal) : literal.BeginsAt line column text := by
  fun_induction maskCode line column text with
  | case1 column => cases opened
  | case2 column rest body after found ih =>
    obtain rfl := eq_append_of_splitAtQuote found
    have whole := (ih opened).behind column ('\'' :: body ++ ['\'']) (by simp [Nat.add_assoc])
    simpa using whole
  | case3 column rest missing =>
    obtain rfl : OpenLiteral.string ⟨line, column⟩ = literal := Option.some.inj opened
    exact ⟨0, rfl, rest, rfl⟩
  | case4 column rest => cases opened
  | case5 column rest body after found ih =>
    obtain rfl := eq_append_of_splitAfterBrace found
    exact (ih opened).behind column ('{' :: body) (by simp [Nat.add_assoc])
  | case6 column rest missing =>
    obtain rfl : OpenLiteral.comment .brace ⟨line, column⟩ = literal := Option.some.inj opened
    exact ⟨0, rfl, rest, rfl⟩
  | case7 column rest body after found ih =>
    obtain rfl := eq_append_of_splitAfterStarParen found
    exact (ih opened).behind column ('(' :: '*' :: body) (by simp [Nat.add_assoc])
  | case8 column rest missing =>
    obtain rfl : OpenLiteral.comment .paren ⟨line, column⟩ = literal := Option.some.inj opened
    exact ⟨0, rfl, rest, rfl⟩
  | case9 column c rest quote slashes brace paren ih => exact (ih opened).behind column [c] rfl

end Mask

/-- A literal that a line leaves open was open before, or begins on the line. -/
theorem beginsAt_of_maskLine {line : Nat} {text : List Char} {before : Option OpenLiteral}
    {literal : OpenLiteral} (opened : (maskLine line text before).opened = some literal) :
    before = some literal ∨ literal.BeginsAt line 0 text := by
  match before with
  | none => exact .inr (Mask.beginsAt_of_maskCode opened)
  | some (.string start) =>
    simp only [maskLine] at opened
    split at opened
    next body after found =>
      obtain rfl := Mask.eq_append_of_splitAtQuote found
      have begins := Mask.beginsAt_of_maskCode opened
      have whole := begins.behind 0 (body ++ ['\'']) (by simp)
      exact .inr (by simpa using whole)
    next missing => cases opened
  | some (.comment style start) =>
    simp only [maskLine] at opened
    split at opened
    next body after found =>
      obtain rfl := Mask.eq_append_of_splitAfterComment found
      have begins := Mask.beginsAt_of_maskCode opened
      exact .inr (begins.behind 0 body (by simp))
    next missing => exact .inl opened

theorem eq_string_of_unterminated {line : Nat} {text : List Char} {before : Option OpenLiteral}
    {start : Position} (open' : (maskLine line text before).unterminated = some start) :
    before = some (.string start) := by
  unfold maskLine at open'
  split at open'
  next => cases open'
  next =>
    split at open'
    next => cases open'
    next => rw [Option.some.inj open']
  next =>
    split at open'
    next => cases open'
    next => cases open'

/-! ## Contexts -/

namespace Context

/-- What a context has to know about the lines above it. -/
structure Follows (context : Context) (above : List (List Char)) : Prop where
  lineCount : context.lineCount = above.length
  opened : ∀ literal, context.opened = some literal → literal.BeginsIn above
  blocks : context.blocks ≠ [] → above ≠ []

theorem follows_start : start.Follows [] where
  lineCount := rfl
  opened literal none := by cases none
  blocks some := absurd rfl some

theorem Follows.advance {context : Context} {above : List (List Char)} (follows : context.Follows above)
    (checks : Checks) (text : List Char) : (context.advance checks text).Follows (above ++ [text]) where
  lineCount := by
    rw [lineCount_advance, follows.lineCount, List.length_append, List.length_singleton]
  opened literal found := by
    rw [opened_advance] at found
    -- A literal may stay open over any number of lines; its place among them does not change.
    rcases beginsAt_of_maskLine found with before | ⟨inside, start, here⟩
    · exact (follows.opened literal before).append [text]
    · refine ⟨above, text, [], rfl, ?_, ?_⟩
      · rw [start, follows.lineCount]
      · rwa [start, Nat.zero_add]
  blocks some := by simp

theorem Follows.pointsInto_of_mem_check {context : Context} {above : List (List Char)}
    (follows : context.Follows above) {checks : Checks} {text : List Char} (below : List (List Char))
    {d : Diagnostic} (found : d ∈ context.check checks text) : d.PointsInto (above ++ text :: below) := by
  rcases List.mem_append.mp found with string | rule
  · obtain ⟨start, unterminated, rfl⟩ := List.mem_map.mp string
    have opened := eq_string_of_unterminated (Option.mem_toList.mp unterminated)
    exact ((follows.opened _ opened).append (text :: below)).pointsInto
  · obtain ⟨rule, -, here⟩ := List.mem_flatMap.mp rule
    obtain ⟨defect, column, rfl, -, inside, evidence⟩ := Rule.shows_of_mem_check
      (Veils.of_maskLine (context.lineCount + 1) text context.opened) here
    refine ⟨above, text, below, rfl, ?_, inside, evidence _⟩
    rw [← follows.lineCount]
    rfl

theorem Follows.pointsInto_of_mem_checkEnd {context : Context} {lines : List (List Char)}
    (follows : context.Follows lines) {checks : Checks} {d : Diagnostic}
    (found : d ∈ context.checkEnd checks) : d.PointsInto lines := by
  rcases List.mem_append.mp found with still | block
  · obtain ⟨literal, opened, rfl⟩ := List.mem_map.mp still
    exact (follows.opened literal (Option.mem_toList.mp opened)).pointsInto
  · split at block
    next =>
      unfold Rule.Blocks.checkEnd at block
      split at block
      next => cases block
      next some =>
        obtain rfl := List.mem_singleton.mp block
        -- Blocks are open only behind some line, so there is a last one to report them on.
        have nonempty := follows.blocks (by simpa using some)
        have split := List.dropLast_concat_getLast nonempty
        refine ⟨lines.dropLast, lines.getLast nonempty, [], split.symm, ?_, Nat.zero_le _, ?_⟩
        · rw [follows.lineCount, List.length_dropLast]
          exact (Nat.sub_one_add_one (by simpa using nonempty)).symm
        · rw [follows.lineCount]
          rfl
    next => cases block

/-- Every diagnostic of a run over the lines below a context points into the lines. -/
theorem Follows.pointsInto_of_mem_checkAll {context : Context} {above below : List (List Char)}
    (follows : context.Follows above) {checks : Checks} {d : Diagnostic}
    (found : d ∈ context.checkAll checks below) : d.PointsInto (above ++ below) := by
  induction below generalizing context above with
  | nil =>
    rw [List.append_nil]
    exact follows.pointsInto_of_mem_checkEnd found
  | cons text below ih =>
    rcases List.mem_append.mp found with here | later
    · exact follows.pointsInto_of_mem_check below here
    · have whole := ih (follows.advance checks text) later
      rwa [List.append_assoc] at whole

end Context

/-! ## Reports -/

/-- The findings of a check are what the scan records and then the analysis, in this order. -/
theorem findings_check (settings : Settings) (source : Source) :
    (check settings source).findings = Findings.ofList
      (lexicalDiagnostics (scan settings.dialect source.lines) ++
        analyze settings.checks source.lines) :=
  Findings.recordAll_ofList _ _

theorem ordered_findings_check (settings : Settings) (source : Source) :
    (check settings source).findings.Ordered :=
  findings_check settings source ▸ Findings.ordered_ofList _

theorem mem_check {settings : Settings} {source : Source} {d : Diagnostic} :
    d ∈ (check settings source).findings.all ↔
      d ∈ lexicalDiagnostics (scan settings.dialect source.lines) ∨
        d ∈ analyze settings.checks source.lines := by
  rw [findings_check, Findings.mem_ofList, List.mem_append]

/-- What the message for an undeclared name quotes. -/
theorem Diagnostic.message_undeclaredName {d : Diagnostic} {raw : List Char} {count : Nat}
    (name : d.defect = .undeclaredName) (evidence : d.defect.Evidence count raw d.position) :
    d.message raw = "Unknown identifier `" ++
      String.ofList (Identifier.run (raw.drop d.position.column)) ++ "`." := by
  rw [name] at evidence
  obtain ⟨word, stands, start, -⟩ := evidence
  obtain ⟨c, first, -⟩ := stands.starts
  have quoted : d.name raw = word.characters := by
    rw [Diagnostic.name, ← start, stands.run]
  obtain ⟨rest, characters⟩ := List.head?_eq_some_iff.mp first
  have shown : d.message raw = "Unknown identifier `" ++ String.ofList (c :: rest) ++ "`." := by
    unfold message
    rw [name, quoted, characters]
  rw [shown, ← characters, ← quoted]
  rfl

/-- Every diagnostic of a report is on a line of the source, where the line has the evidence for it. -/
theorem line_of_mem_findings {settings : Settings} {source : Source} {d : Diagnostic}
    (found : d ∈ (check settings source).findings.all) :
    ∃ raw, source.line? d.position.line = some raw ∧ 1 ≤ d.position.line ∧
      d.position.line ≤ source.lines.length ∧ d.position.column ≤ raw.length ∧
      d.defect.Evidence source.lines.length raw d.position := by
  have points : d.PointsInto source.lines := by
    rcases mem_check.mp found with lexical | rule
    · exact pointsInto_of_mem_lexicalDiagnostics lexical
    · exact Context.follows_start.pointsInto_of_mem_checkAll rule
  obtain ⟨above, raw, below, same, line, column, evidence⟩ := points
  refine ⟨raw, ?_, by omega, ?_, column, evidence⟩
  · rw [line, source.line?_of_split same]
  · rw [same, List.length_append, List.length_cons]
    omega

/-- Every diagnostic of a report is on a line of the source, in the line's columns or right behind
    them, and what it tells of stands there. -/
theorem evidence_of_mem_check {settings : Settings} {source : Source} {d : Diagnostic}
    (found : d ∈ (check settings source).findings.all) :
    ∃ raw, source.line? d.position.line = some raw ∧ 1 ≤ d.position.line ∧
      d.position.line ≤ source.lines.length ∧ d.position.column ≤ raw.length ∧
      d.defect.Evidence source.lines.length raw d.position ∧
      (d.defect = .undeclaredName → d.message raw = "Unknown identifier `" ++
        String.ofList (Identifier.run (raw.drop d.position.column)) ++ "`.") := by
  obtain ⟨raw, line, first, last, column, evidence⟩ := line_of_mem_findings found
  exact ⟨raw, line, first, last, column, evidence, fun name => d.message_undeclaredName name evidence⟩

theorem evidence_of_mem_check_name :
    let source := Source.ofLines [['x', '=', '1']]
    let d : Diagnostic := ⟨⟨1, 0⟩, .undeclaredName⟩
    d ∈ (check {} source).findings.all ∧ ∃ raw, source.line? 1 = some raw ∧
      d.defect.Evidence 1 raw d.position ∧ d.message raw = "Unknown identifier `" ++
        String.ofList (Identifier.run raw) ++ "`." := by
  have found : (⟨⟨1, 0⟩, .undeclaredName⟩ : Diagnostic) ∈
      (check {} (Source.ofLines [['x', '=', '1']])).findings.all := by
    decide +kernel
  obtain ⟨raw, line, -, -, -, evidence, message⟩ := evidence_of_mem_check found
  exact ⟨found, raw, line, evidence, message rfl⟩

end PascalLint
