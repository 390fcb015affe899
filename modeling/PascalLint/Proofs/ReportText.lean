import Mathlib.Algebra.GroupWithZero.Nat
import PascalLint.Proofs.Parts
import PascalLint.Proofs.ReadingOrder
import PascalLint.Proofs.ReportRows

/-! # The text of a report and its summary

The text goes through the source line by line, the summary through the findings, and the last line of
the text has the numbers, which are counted apart from both. They agree because the findings are in
order, all of them are on lines of the source, and what is counted is what is there. No row has a
new-line in it but for one that the source has in its lines or in its name, so the rows are the lines of
the text (`Report.splitOn_rowsText`), and those for carets are the ones that begin with six blanks.
-/

namespace PascalLint

theorem Text.not_mem_intercalate {c : Char} {separator : List Char} (plain : c ∉ separator)
    {parts : List (List Char)} (absent : ∀ part ∈ parts, c ∉ part) :
    c ∉ separator.intercalate parts := by
  induction parts with
  | nil => exact List.not_mem_nil
  | cons part parts ih =>
    obtain ⟨here, later⟩ := List.forall_mem_cons.mp absent
    cases parts with
    | nil => simpa using here
    | cons next parts =>
      rw [List.intercalate_cons_of_ne_nil (List.cons_ne_nil _ _), List.mem_append, List.mem_append,
        not_or, not_or]
      exact ⟨⟨here, plain⟩, ih later⟩

namespace Report

/-! ## Rows as texts -/

/-- The characters before the text of a source line. -/
def Row.label (number : Nat) : List Char :=
  (Text.rightAligned 4 number ++ ": ").toList

theorem Row.text_source (number : Nat) (text : List Char) :
    (Row.source number text).text.toList = Row.label number ++ text := by
  rw [Row.text, String.toList_append, String.toList_ofList, Row.label]

theorem Row.label_eq (number : Nat) :
    Row.label number =
      List.replicate (4 - (toString number).length) ' ' ++ Nat.toDigits 10 number ++ [':', ' '] := by
  simp only [Row.label, Text.rightAligned, Text.repeated, String.toList_append, String.toList_ofList,
    Nat.toString_eq_repr, Nat.toList_repr]
  rfl

theorem Row.mem_label {number : Nat} {c : Char} (found : c ∈ Row.label number) :
    c.isDigit = true ∨ c = ':' ∨ c = ' ' := by
  rw [Row.label_eq, List.mem_append, List.mem_append] at found
  obtain (space | digit) | rest := found
  · exact .inr (.inr (List.eq_of_mem_replicate space))
  · exact .inl (Nat.isDigit_of_mem_toDigits (by decide) (by decide) digit)
  · exact .inr (by simpa using rest)

theorem toList_caretPadding (text : List Char) (column : Nat) :
    (caretPadding text column).toList = (text.take column).flatMap fun c => (blankFor c).toList := by
  rw [caretPadding, String.toList_join, List.flatMap_map]

theorem mem_caretPadding {text : List Char} {column : Nat} {c : Char}
    (found : c ∈ (caretPadding text column).toList) : c = '\t' ∨ c = ' ' := by
  rw [toList_caretPadding, List.mem_flatMap] at found
  obtain ⟨above, -, blank⟩ := found
  rw [blankFor] at blank
  split at blank
  · exact .inl (List.mem_singleton.mp blank)
  · rw [Text.repeated, String.toList_ofList] at blank
    exact .inr (List.eq_of_mem_replicate blank)

theorem Row.text_caret (text : List Char) (d : Diagnostic) :
    (Row.caret text d).text.toList =
      List.replicate 6 ' ' ++ (caretPadding text d.position.column).toList
        ++ '^' :: ' ' :: (d.message text).toList := by
  simp only [Row.text, String.toList_append, List.append_assoc]
  rfl

theorem not_mem_toList {text : List Char} {c : Char} (missing : c ∉ text) :
    c ∉ (String.ofList text).toList := by
  rwa [String.toList_ofList]

theorem not_mem_description (defect : Defect) : '\n' ∉ defect.description.toList := by
  -- A literal is unfolded into its characters here; its bytes would take long to decode.
  cases defect <;> exact not_mem_toList (by decide)

theorem not_mem_message (d : Diagnostic) (text : List Char) : '\n' ∉ (d.message text).toList := by
  rw [Diagnostic.message]
  split
  · rename_i c rest _ name
    -- The name that is quoted is made up of characters of identifiers.
    have plain : '\n' ∉ c :: rest := by
      rw [← name]
      intro found
      exact absurd (List.all_eq_true.mp List.all_takeWhile _ found) (by decide)
    rw [String.toList_append, String.toList_append, List.mem_append, List.mem_append, not_or, not_or]
    exact ⟨⟨not_mem_toList (by decide), not_mem_toList plain⟩, not_mem_toList (by decide)⟩
  · exact not_mem_description _

theorem Row.not_mem_caret (text : List Char) (d : Diagnostic) :
    '\n' ∉ (Row.caret text d).text.toList := by
  rw [Row.text_caret]
  intro found
  simp only [List.mem_append, List.mem_cons] at found
  obtain (space | padding) | (same | same | message) := found
  · cases List.eq_of_mem_replicate space
  · cases mem_caretPadding padding <;> contradiction
  · cases same
  · cases same
  · exact not_mem_message d text message

theorem Row.not_mem_source {number : Nat} {text : List Char} (plain : '\n' ∉ text) :
    '\n' ∉ (Row.source number text).text.toList := by
  rw [Row.text_source, List.mem_append, not_or]
  refine ⟨fun found => ?_, plain⟩
  rcases Row.mem_label found with digit | same | same
  · exact absurd digit (by decide)
  · exact absurd same (by decide)
  · exact absurd same (by decide)

theorem not_mem_toString (number : Nat) : '\n' ∉ (toString number).toList := by
  rw [Nat.toString_eq_repr, Nat.toList_repr]
  intro found
  exact absurd (Nat.isDigit_of_mem_toDigits (by decide) (by decide) found) (by decide)

theorem not_mem_breakdown (counts : List (Category × Nat)) : '\n' ∉ (breakdown counts).toList := by
  rw [breakdown]
  split
  · exact not_mem_toList List.not_mem_nil
  · rw [String.toList_append, String.toList_append, String.toList_intercalate]
    simp only [List.mem_append, not_or]
    refine ⟨⟨not_mem_toList (by decide), ?_⟩, not_mem_toList (by decide)⟩
    refine Text.not_mem_intercalate (not_mem_toList (by decide)) fun part found => ?_
    rw [List.map_map] at found
    obtain ⟨⟨category, count⟩, -, rfl⟩ := List.mem_map.mp found
    simp only [Function.comp_apply, String.toList_append, List.mem_append, not_or]
    refine ⟨⟨not_mem_toString count, not_mem_toList (by decide)⟩, ?_⟩
    cases category <;> exact not_mem_toList (by decide)

/-- Rows of a listing are for lines of the source. -/
theorem mem_listingRows {report : Report} {number : Nat} {lines : List (List Char)} {row : Row}
    (found : row ∈ report.listingRows number lines) :
    (∃ line, ∃ text ∈ lines, row = .source line text) ∨ ∃ text d, row = .caret text d := by
  induction lines generalizing number with
  | nil => cases found
  | cons text below ih =>
    rcases List.mem_append.mp found with here | later
    · rcases List.mem_cons.mp here with rfl | caret
      · exact .inl ⟨number, text, List.mem_cons_self, rfl⟩
      · obtain ⟨d, -, rfl⟩ := List.mem_map.mp caret
        exact .inr ⟨text, d, rfl⟩
    · rcases ih later with ⟨line, text, inside, rfl⟩ | caret
      · exact .inl ⟨line, text, List.mem_cons_of_mem _ inside, rfl⟩
      · exact .inr caret

/-- A row has a new-line only if the source has one in its name or in a line. -/
theorem not_mem_row {settings : Settings} {source : Source}
    (named : ∀ name, source.file = some name → '\n' ∉ name.toList)
    (plain : ∀ line ∈ source.lines, '\n' ∉ line) {row : Row}
    (found : row ∈ (check settings source).rows) : '\n' ∉ row.text.toList := by
  have bar : ∀ row ∈ (check settings source).barRows, '\n' ∉ row.text.toList := by
    intro row found
    rw [barRows] at found
    split at found
    · rw [List.mem_singleton.mp found]
      exact not_mem_toList (by decide)
    · cases found
  rw [rows_check, headRows, footRows] at found
  simp only [List.mem_append, List.mem_cons, List.not_mem_nil, or_false] at found
  obtain ((file | line) | listing) | (rfl | rfl) | line := found
  · obtain ⟨name, same, rfl⟩ := List.mem_map.mp file
    rw [Row.text, String.toList_append, List.mem_append, not_or]
    exact ⟨not_mem_toList (by decide), named name (Option.mem_toList.mp same)⟩
  · exact bar row line
  · rcases mem_listingRows listing with ⟨number, text, inside, rfl⟩ | ⟨text, d, rfl⟩
    · exact Row.not_mem_source (plain text inside)
    · exact Row.not_mem_caret text d
  · exact not_mem_toList List.not_mem_nil
  · simp only [Row.text, String.toList_append, List.mem_append, not_or]
    exact ⟨⟨⟨not_mem_toList (by decide), not_mem_toString _⟩, not_mem_toList (by decide)⟩,
      not_mem_breakdown _⟩
  · exact bar row line

/-! ## Rows that begin with blanks -/

/-- Six blanks, which only a row with a caret begins with. -/
def indent : List Char :=
  List.replicate 6 ' '

theorem isPrefixOf_indent {front behind : List Char} {c : Char} (short : front.length < 6)
    (other : c ≠ ' ') : indent.isPrefixOf (front ++ c :: behind) = false := by
  rw [Bool.eq_false_iff, Ne, List.isPrefixOf_iff_prefix]
  intro begins
  have same := begins.getElem (i := front.length) (by simpa [indent] using short)
  rw [List.getElem_append_right (Nat.le_refl _)] at same
  simp only [indent, List.getElem_replicate, Nat.sub_self, List.getElem_cons_zero] at same
  exact other same.symm

theorem isPrefixOf_toString (number : Nat) {front : List Char} (short : front.length < 6)
    (behind : List Char) :
    indent.isPrefixOf (front ++ ((toString number).toList ++ behind)) = false := by
  obtain ⟨digit, digits, written⟩ := List.exists_cons_of_ne_nil (Nat.toDigits_ne_nil (n := number) (b := 10))
  rw [Nat.toString_eq_repr, Nat.toList_repr, written, List.cons_append]
  refine isPrefixOf_indent short fun blank => ?_
  have isDigit : digit.isDigit = true :=
    Nat.isDigit_of_mem_toDigits (by decide) (by decide) (written ▸ List.mem_cons_self)
  rw [blank] at isDigit
  exact absurd isDigit (by decide)

/-- The rows with carets are those that begin with six blanks. -/
theorem Row.isPrefixOf_text (row : Row) : indent.isPrefixOf row.text.toList = row.isCaret := by
  cases row with
  | file name =>
    rw [Row.text, String.toList_append]
    rfl
  | bar => rfl
  | source number text =>
    have short : (Text.repeated (4 - (toString number).length) ' ').toList.length < 6 := by
      rw [Text.repeated, String.toList_ofList, List.length_replicate]
      omega
    simp only [Row.text, Text.rightAligned, String.toList_append, List.append_assoc]
    exact isPrefixOf_toString number short _
  | caret text d =>
    rw [Row.text_caret, List.append_assoc]
    exact List.isPrefixOf_iff_prefix.mpr (List.prefix_append _ _)
  | stray d =>
    simp only [Row.text, Diagnostic.render, Position.render, String.toList_append, List.append_assoc]
    exact isPrefixOf_toString d.position.line (show ([] : List Char).length < 6 by decide) _
  | empty => rfl
  | total count counts =>
    simp only [Row.text, String.toList_append, List.append_assoc]
    rfl

/-! ## Lines of a text -/

/-- The text of rows. -/
def rowsText (rows : List Row) : String :=
  String.join (rows.map fun row => row.text ++ "\n")

theorem rowsText_nil : rowsText [] = "" :=
  rfl

theorem rowsText_append (front rows : List Row) :
    rowsText (front ++ rows) = rowsText front ++ rowsText rows := by
  rw [rowsText, List.map_append, String.join_append]
  rfl

theorem rowsText_cons (row : Row) (rows : List Row) :
    rowsText (row :: rows) = row.text ++ "\n" ++ rowsText rows := by
  rw [rowsText, List.map_cons, String.join_cons]
  rfl

/-- The lines that a row takes up. -/
def Row.lines (row : Row) : List (List Char) :=
  Text.splitOn '\n' row.text.toList

theorem Row.lines_caret (text : List Char) (d : Diagnostic) :
    (Row.caret text d).lines = [(Row.caret text d).text.toList] :=
  Text.splitOn_of_not_mem (Row.not_mem_caret text d)

theorem Row.lines_source {number : Nat} {text : List Char} (plain : '\n' ∉ text) :
    (Row.source number text).lines = [(Row.source number text).text.toList] :=
  Text.splitOn_of_not_mem (Row.not_mem_source plain)

/-- The lines of a text are those of its rows, and an empty one behind the last new-line. -/
theorem splitOn_rowsText (rows : List Row) :
    Text.splitOn '\n' (rowsText rows).toList = rows.flatMap Row.lines ++ [[]] := by
  induction rows with
  | nil => rfl
  | cons row rows ih =>
    rw [rowsText_cons, String.toList_append, String.toList_append, List.append_assoc, List.flatMap_cons,
      List.append_assoc, ← ih]
    exact Text.splitOn_append_cons '\n' row.text.toList _

/-- The lines of the text of a check that begin with six blanks are those for its carets. -/
theorem filter_splitOn_render {settings : Settings} {source : Source}
    (named : ∀ name, source.file = some name → '\n' ∉ name.toList)
    (plain : ∀ line ∈ source.lines, '\n' ∉ line) :
    (Text.splitOn '\n' (check settings source).render.toList).filter indent.isPrefixOf =
      ((check settings source).rows.filter Row.isCaret).map (·.text.toList) := by
  have single : (check settings source).rows.flatMap Row.lines =
      (check settings source).rows.map (·.text.toList) := by
    rw [List.map_eq_flatMap]
    exact List.flatMap_congr fun row found => Text.splitOn_of_not_mem (not_mem_row named plain found)
  have lines := splitOn_rowsText (check settings source).rows
  rw [single] at lines
  rw [show (check settings source).render = rowsText (check settings source).rows from rfl, lines,
    List.filter_append, List.filter_map]
  have carets : indent.isPrefixOf ∘ (fun row : Row => row.text.toList) = Row.isCaret :=
    funext Row.isPrefixOf_text
  rw [carets]
  exact List.append_nil _

/-! ## The parts of a text -/

/-- The line above and below the text of a source that comes from a file. -/
def barText (source : Source) : String :=
  if source.file.isSome then Text.repeated 50 '=' ++ "\n" else ""

/-- The text above the listing of a source. -/
def headText (source : Source) : String :=
  match source.file with
  | some name => "File: " ++ name ++ "\n" ++ barText source
  | none => ""

/-- The text of the row for a diagnostic of a summary. -/
def caretLine (source : Source) (d : DiagnosticSummary) : String :=
  "      " ++ caretPadding ((source.line? d.line).getD []) d.column ++ "^ " ++ d.message

/-- The text of source lines of which the first has the given number. Below each line are the carets for
    the diagnostics on it. -/
def listingText (source : Source) (diagnostics : List DiagnosticSummary) (number : Nat) :
    List (List Char) → String
  | [] => ""
  | text :: below =>
    Text.rightAligned 4 number ++ ": " ++ String.ofList text ++ "\n"
      ++ String.join ((diagnostics.filter (·.line = number)).map (caretLine source · ++ "\n"))
      ++ listingText source diagnostics (number + 1) below

theorem rowsText_barRows (report : Report) : rowsText report.barRows = barText report.source := by
  rw [barRows, barText]
  split <;> rfl

theorem rowsText_headRows (report : Report) : rowsText report.headRows = headText report.source := by
  rw [headRows, rowsText_append, rowsText_barRows, headText]
  cases file : report.source.file with
  | none =>
    rw [barText, file]
    rfl
  | some name =>
    rw [Option.toList_some, List.map_singleton, rowsText_cons, Row.text]
    exact congrArg (· ++ _) (String.append_empty)

theorem rowsText_footRows (report : Report) :
    rowsText report.footRows = "\n" ++ "Found " ++ toString report.findings.count ++ " error(s)"
      ++ breakdown report.counts ++ "\n" ++ barText report.source := by
  rw [footRows, rowsText_append, rowsText_barRows, rowsText_cons, rowsText_cons, rowsText_nil, Row.text,
    Row.text]
  simp only [String.append_assoc, String.empty_append, String.append_empty]

theorem rowsText_listingRows {report : Report} (ordered : report.findings.Ordered) {number : Nat}
    {lines : List (List Char)} (here : ∀ index, lines[index]? = report.source.line? (number + index)) :
    rowsText (report.listingRows number lines) =
      listingText report.source (report.findings.all.map report.summarize) number lines := by
  induction lines generalizing number with
  | nil => rfl
  | cons text below ih =>
    have line : report.source.line? number = some text := (here 0).symm
    have later : rowsText (report.listingRows (number + 1) below) = _ := ih fun index => by
      rw [Nat.add_assoc, Nat.add_comm 1]
      exact here (index + 1)
    have carets : rowsText ((report.findings.onLine number).map (.caret text)) =
        String.join (((report.findings.all.map report.summarize).filter (·.line = number)).map
          (caretLine report.source · ++ "\n")) := by
      rw [ordered.onLine_eq, List.filter_map, List.map_map, rowsText, List.map_map]
      refine congrArg String.join (List.map_congr_left fun d found => ?_)
      have own : d.position.line = number := beq_iff_eq.mp (List.mem_filter.mp found).2
      simp only [Function.comp_apply, Row.text, caretLine, summarize, own, line, Option.getD_some]
    rw [listingRows, lineRows, rowsText_append, rowsText_cons, carets, later, listingText, Row.text]

/-- The text of a check in terms of its summary. -/
theorem render_check (settings : Settings) (source : Source) (includeTokens : Bool) :
    let summary := (check settings source).summary includeTokens
    (check settings source).render = headText source
      ++ listingText source summary.diagnostics 1 source.lines
      ++ "\n" ++ "Found " ++ toString summary.errors ++ " error(s)"
      ++ breakdown summary.counts ++ "\n" ++ barText source := by
  intro summary
  have listing : rowsText ((check settings source).listingRows 1 source.lines) = _ :=
    rowsText_listingRows (ordered_findings_check settings source) fun index => by
      rw [Nat.add_comm 1]
      rfl
  have parts : (check settings source).render = _ := congrArg rowsText (rows_check settings source)
  rw [parts, rowsText_append, rowsText_append, rowsText_headRows, listing, rowsText_footRows]
  simp only [String.append_assoc]
  rfl

/-- The diagnostics of a summary are those on the first line, those on the second, and so on. -/
theorem flatMap_diagnostics_check (settings : Settings) (source : Source) (includeTokens : Bool) :
    let diagnostics := ((check settings source).summary includeTokens).diagnostics
    (List.range' 1 source.lines.length).flatMap
      (fun number => diagnostics.filter (·.line = number)) = diagnostics := by
  intro diagnostics
  have all : diagnostics = (check settings source).findings.all.map (check settings source).summarize :=
    rfl
  have line (number : Nat) : diagnostics.filter (·.line = number) =
      ((check settings source).findings.all.filter (·.position.line == number)).map
        (check settings source).summarize := by
    rw [all, List.filter_map]
    rfl
  simp only [line]
  rw [← List.map_flatMap, Findings.flatMap_filter_line (ordered_findings_check settings source).sorted,
    filter_onLines_findings_check, all]

end Report

/-! ## The text and the summary -/

/-- The text of a report and its summary agree. The text lists the source, with the carets for the
    diagnostics of the summary below the lines that they are on, and ends with the numbers of the summary;
    line by line these diagnostics are all of them, in order, and none is on a line that the source does not
    have. Every finding has exactly one row with a caret, in the order of the findings, and above this row
    there are only carets for the same line and then the line itself. The carets have the positions and
    messages of the diagnostics in the summary, in order, and where the source has no new-lines in its
    lines and its name they are the lines of the text that begin with six blanks. The total in the last
    line is the number of these carets, of the diagnostics in the summary, of those by category taken
    together, and of all that was recorded; there are errors if it is not zero. -/
theorem report_and_summary_agree (settings : Settings) (source : Source) (includeTokens : Bool) :
    let report := check settings source
    let summary := report.summary includeTokens
    let carets := report.rows.filter Report.Row.isCaret
    report.render = Report.headText source
        ++ Report.listingText source summary.diagnostics 1 source.lines
        ++ "\n" ++ "Found " ++ toString summary.errors ++ " error(s)"
        ++ Report.breakdown summary.counts ++ "\n" ++ Report.barText source ∧
      (List.range' 1 source.lines.length).flatMap
          (fun number => summary.diagnostics.filter (·.line = number)) = summary.diagnostics ∧
      report.strayRows = [] ∧
      report.rows = report.headRows ++ report.listingRows 1 source.lines
        ++ [.empty, .total summary.errors summary.counts] ++ report.barRows ∧
      carets.filterMap Report.Row.diagnostic? = report.findings.all ∧
      (∀ front text d back, report.rows = front ++ .caret text d :: back →
        source.line? d.position.line = some text ∧
          Report.EndsInLine front d.position.line text) ∧
      carets.filterMap Report.Row.message? = summary.diagnostics.map (·.message) ∧
      carets.map Report.Row.text = summary.diagnostics.map (Report.caretLine source) ∧
      ((∀ name, source.file = some name → '\n' ∉ name.toList) →
        (∀ line ∈ source.lines, '\n' ∉ line) →
        (Text.splitOn '\n' report.render.toList).filter Report.indent.isPrefixOf =
          summary.diagnostics.map fun d => (Report.caretLine source d).toList) ∧
      summary.errors = carets.length ∧
      summary.errors = summary.diagnostics.length ∧
      summary.errors = (summary.counts.map (·.2)).sum ∧
      summary.errors = (lexicalDiagnostics (scan settings.dialect source.lines)).length +
        (analyze settings.checks source.lines).length ∧
      (report.hasErrors = true ↔ summary.errors ≠ 0) := by
  intro report summary carets
  have ordered : report.findings.Ordered := ordered_findings_check settings source
  have caretRows : carets = report.findings.all.map (Report.caretRow source) :=
    Report.filter_isCaret_rows_check settings source
  have summaries : summary.diagnostics = report.findings.all.map report.summarize := rfl
  have total : summary.errors = report.findings.all.length := ordered.counted
  have texts : carets.map Report.Row.text = summary.diagnostics.map (Report.caretLine source) := by
    rw [caretRows, summaries, List.map_map, List.map_map]
    rfl
  refine ⟨Report.render_check settings source includeTokens,
    Report.flatMap_diagnostics_check settings source includeTokens,
    Report.strayRows_check settings source, ?_, ?_,
    fun front text d back split => Report.endsInLine_of_rows_check split, ?_, texts,
    fun named plain => ?_, ?_, ?_, ?_, ?_, ?_⟩
  · rw [List.append_assoc _ [_, _]]
    exact Report.rows_check settings source
  · rw [caretRows, List.filterMap_map]
    exact List.filterMap_some
  · rw [caretRows, List.filterMap_map, summaries, List.map_map]
    exact congrFun List.filterMap_eq_map _
  · have lines : (Text.splitOn '\n' report.render.toList).filter Report.indent.isPrefixOf = _ :=
      Report.filter_splitOn_render named plain
    have split := congrArg (List.map String.toList) texts
    rw [List.map_map, List.map_map] at split
    exact lines.trans split
  · rw [caretRows, List.length_map, total]
  · rw [summaries, List.length_map, total]
  · have added : _ = summary.errors := ordered.add_countOf
    rw [← added, Nat.add_assoc]
    rfl
  · have perm : report.findings.all.Perm (lexicalDiagnostics (scan settings.dialect source.lines) ++
        analyze settings.checks source.lines) := by
      rw [show report.findings = _ from findings_check settings source]
      exact (Findings.sorts_ofList _).perm
    rw [total, perm.length_eq, List.length_append]
  · have same : report.hasErrors = !(summary.errors == 0) := rfl
    simp [same]

/-- Three diagnostics of a source that comes from a file, two of them on one line. -/
theorem report_and_summary_agree_three :
    let source : Source := ⟨some "a.pas", .utf8, [['?', ' ', '?'], ['?']]⟩
    let report := check {} source
    ((Text.splitOn '\n' report.render.toList).filter Report.indent.isPrefixOf).length = 3 ∧
      (report.summary false).errors = 3 := by
  intro source report
  have named : ∀ name, source.file = some name → '\n' ∉ name.toList := by
    rintro name ⟨⟩
    exact Report.not_mem_toList (by decide)
  obtain ⟨-, -, -, -, -, -, -, -, lines, -, count, -⟩ := report_and_summary_agree {} source false
  have errors : (report.summary false).errors = 3 := by decide +kernel
  rw [lines named (by decide), List.length_map, ← count]
  exact ⟨errors, errors⟩

end PascalLint
