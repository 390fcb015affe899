import PascalLint.Proofs.ReportEvidence
import PascalLint.Summary

/-! # The rows of a report

A report goes through the source line by line and asks on each line for the diagnostics there. It has a
row with a caret for every finding, in the order of the findings, because they are ordered by line and
every one of them is on a line of the source: of diagnostics in reading order those on a line come before
those on the lines below it (`Findings.filter_onLines`), so line by line means one after the other.
-/

namespace PascalLint

namespace Findings

/-- Holds for what is on one of `count` lines, of which `line` is the first. -/
def onLines (line count : Nat) (d : Diagnostic) : Bool :=
  line ≤ d.position.line && d.position.line < line + count

theorem onLines_iff {line count : Nat} {d : Diagnostic} :
    onLines line count d = true ↔ line ≤ d.position.line ∧ d.position.line < line + count := by
  simp [onLines]

/-- Of diagnostics in reading order those on a line come before those on the lines below it. -/
theorem filter_onLines {list : List Diagnostic}
    (ordered : list.Pairwise fun d e => d.position ≤ e.position) (line count : Nat) :
    list.filter (onLines line (count + 1)) =
      list.filter (·.position.line == line) ++ list.filter (onLines (line + 1) count) := by
  induction list with
  | nil => rfl
  | cons d list ih =>
    obtain ⟨first, tail⟩ := List.pairwise_cons.mp ordered
    have ih := ih tail
    rcases Nat.lt_trichotomy d.position.line line with above | here | below
    · simp only [List.filter_cons, onLines_iff, beq_iff_eq, ih]
      rw [if_neg (by omega), if_neg (by omega), if_neg (by omega)]
    · simp only [List.filter_cons, onLines_iff, beq_iff_eq, ih]
      rw [if_pos (by omega), if_pos here, if_neg (by omega), List.cons_append]
    · -- Whatever follows is below the line as well, so nothing at all is on it.
      have after : ∀ e ∈ d :: list, line < e.position.line := by
        intro e found
        rcases List.mem_cons.mp found with rfl | later
        · exact below
        · have order := Position.le_iff.mp (first e later)
          omega
      have none : (d :: list).filter (·.position.line == line) = [] := by
        rw [List.filter_eq_nil_iff]
        intro e found same
        exact absurd (beq_iff_eq.mp same) (Nat.ne_of_gt (after e found))
      rw [none, List.nil_append]
      apply List.filter_congr
      intro e found
      have := after e found
      rw [Bool.eq_iff_iff, onLines_iff, onLines_iff]
      omega

/-- Line by line means one after the other. -/
theorem flatMap_filter_line {list : List Diagnostic}
    (ordered : list.Pairwise fun d e => d.position ≤ e.position) (line count : Nat) :
    (List.range' line count).flatMap (fun number => list.filter (·.position.line == number)) =
      list.filter (onLines line count) := by
  induction count generalizing line with
  | zero =>
    refine (List.filter_eq_nil_iff.mpr fun d _ inside => ?_).symm
    have := onLines_iff.mp inside
    omega
  | succ count ih => rw [List.range'_succ, List.flatMap_cons, ih, filter_onLines ordered]

end Findings

namespace Report

/-! ## Rows with carets -/

/-- The diagnostic that a row has a caret for. -/
def Row.diagnostic? : Row → Option Diagnostic
  | .caret _ d => some d
  | _ => none

/-- Holds for a row with a caret. -/
def Row.isCaret (row : Row) : Bool :=
  row.diagnostic?.isSome

/-- The message behind the caret of a row. -/
def Row.message? : Row → Option String
  | .caret text d => some (d.message text)
  | _ => none

theorem filterMap_diagnostic?_caret (text : List Char) (list : List Diagnostic) :
    (list.map (Row.caret text)).filterMap Row.diagnostic? = list := by
  rw [List.filterMap_map]
  exact List.filterMap_some

/-- The carets below some source lines are those for the diagnostics on these lines, in order. -/
theorem filterMap_diagnostic?_listingRows {report : Report} (ordered : report.findings.Ordered)
    (number : Nat) (lines : List (List Char)) :
    (report.listingRows number lines).filterMap Row.diagnostic? =
      report.findings.all.filter (Findings.onLines number lines.length) := by
  induction lines generalizing number with
  | nil =>
    refine (List.filter_eq_nil_iff.mpr fun d _ inside => ?_).symm
    have := Findings.onLines_iff.mp inside
    simp only [List.length_nil] at this
    omega
  | cons text below ih =>
    rw [listingRows, lineRows, List.cons_append, List.filterMap_cons_none rfl, List.filterMap_append,
      filterMap_diagnostic?_caret, ih, List.length_cons, Findings.filter_onLines ordered.sorted,
      ordered.onLine_eq]

/-- The rows end with the source line that has the given number and carets for this line. -/
def EndsInLine (rows : List Row) (number : Nat) (text : List Char) : Prop :=
  ∃ above, ∃ list : List Diagnostic,
    rows = above ++ .source number text :: list.map (.caret text) ∧
      ∀ d ∈ list, d.position.line = number

theorem EndsInLine.below {rows : List Row} {number : Nat} {text : List Char}
    (ends : EndsInLine rows number text) (above : List Row) :
    EndsInLine (above ++ rows) number text := by
  obtain ⟨rows, list, rfl, own⟩ := ends
  exact ⟨above ++ rows, list, (List.append_assoc _ _ _).symm, own⟩

/-- A caret for a line stands below the line, with no rows but carets for the line in between. -/
theorem endsInLine_of_lineRows {report : Report} (ordered : report.findings.Ordered) {number : Nat}
    {line text : List Char} {front back : List Row} {d : Diagnostic}
    (split : report.lineRows number line = front ++ .caret text d :: back) :
    text = line ∧ d.position.line = number ∧ EndsInLine front number line := by
  cases front with
  | nil => simp [lineRows] at split
  | cons row front =>
    obtain ⟨rfl, carets⟩ := List.cons.inj split
    obtain ⟨list, rest, all, rfl, here⟩ := List.map_eq_append_iff.mp carets
    obtain ⟨e, more, rfl, same, -⟩ := List.map_eq_cons_iff.mp here
    obtain ⟨rfl, rfl⟩ := Row.caret.inj same
    have own : ∀ e ∈ report.findings.onLine number, e.position.line = number := by
      intro e found
      rw [ordered.onLine_eq] at found
      exact beq_iff_eq.mp (List.mem_filter.mp found).2
    rw [all] at own
    exact ⟨rfl, own e (by simp), [], list, rfl, fun x found => own x (by simp [found])⟩

/-- A caret in a listing stands below the source line that its diagnostic is on. -/
theorem endsInLine_of_listingRows {report : Report} (ordered : report.findings.Ordered) {number : Nat}
    {lines : List (List Char)} {front back : List Row} {text : List Char} {d : Diagnostic}
    (split : report.listingRows number lines = front ++ .caret text d :: back) :
    ∃ index, lines[index]? = some text ∧ d.position.line = number + index ∧
      EndsInLine front d.position.line text := by
  induction lines generalizing number front with
  | nil => simp [listingRows] at split
  | cons line below ih =>
    rcases List.append_eq_append_iff.mp split with ⟨more, rfl, rest⟩ | ⟨tail, here, rest⟩
    · obtain ⟨index, found, place, ends⟩ := ih rest
      exact ⟨index + 1, found, by omega, ends.below _⟩
    · cases tail with
      | nil =>
        -- The listing of the lines below would begin with a caret.
        cases below <;> simp [listingRows, lineRows] at rest
      | cons row tail =>
        obtain ⟨rfl, -⟩ := List.cons.inj rest
        obtain ⟨rfl, place, ends⟩ := endsInLine_of_lineRows ordered here
        exact ⟨0, rfl, place, place ▸ ends⟩

/-! ## The rows of a report -/

/-- The row for a diagnostic below the line of the source that it is on. -/
def caretRow (source : Source) (d : Diagnostic) : Row :=
  .caret ((source.line? d.position.line).getD []) d

/-- The bar above and below the text of a source that comes from a file. -/
def barRows (report : Report) : List Row :=
  if report.source.file.isSome then [.bar] else []

/-- The rows above the listing of a report. -/
def headRows (report : Report) : List Row :=
  report.source.file.toList.map .file ++ report.barRows

/-- The rows below the listing of a report. -/
def footRows (report : Report) : List Row :=
  [.empty, .total report.findings.count report.counts] ++ report.barRows

theorem diagnostic?_of_mem_headRows {report : Report} {row : Row} (found : row ∈ report.headRows) :
    row.diagnostic? = none := by
  unfold headRows barRows at found
  cases name : report.source.file <;> simp [name] at found
  rcases found with rfl | rfl <;> rfl

theorem diagnostic?_of_mem_footRows {report : Report} {row : Row} (found : row ∈ report.footRows) :
    row.diagnostic? = none := by
  unfold footRows barRows at found
  split at found <;> simp at found
  · rcases found with rfl | rfl | rfl <;> rfl
  · rcases found with rfl | rfl <;> rfl

/-- All diagnostics are on lines of the source, so there are no rows for others. -/
theorem strayRows_check (settings : Settings) (source : Source) :
    (check settings source).strayRows = [] := by
  rw [strayRows, List.map_eq_nil_iff, List.filter_eq_nil_iff]
  intro d found
  obtain ⟨raw, line, -⟩ := line_of_mem_findings found
  have same : (check settings source).source = source := rfl
  simp [same, line]

theorem rows_check (settings : Settings) (source : Source) :
    (check settings source).rows = (check settings source).headRows
      ++ (check settings source).listingRows 1 source.lines ++ (check settings source).footRows := by
  simp only [rows, strayRows_check, headRows, footRows, barRows, List.append_assoc, List.nil_append]
  rfl

/-- All diagnostics are on the lines that the listing has. -/
theorem filter_onLines_findings_check (settings : Settings) (source : Source) :
    (check settings source).findings.all.filter (Findings.onLines 1 source.lines.length) =
      (check settings source).findings.all := by
  rw [List.filter_eq_self]
  intro d found
  obtain ⟨raw, -, first, last, -⟩ := line_of_mem_findings found
  exact Findings.onLines_iff.mpr ⟨first, by omega⟩

/-- Each diagnostic has exactly one row with a caret, and these rows are in the order of the
    findings. -/
theorem filterMap_diagnostic?_rows_check (settings : Settings) (source : Source) :
    (check settings source).rows.filterMap Row.diagnostic? =
      (check settings source).findings.all := by
  have head := List.filterMap_eq_nil_iff.mpr fun row =>
    @diagnostic?_of_mem_headRows (check settings source) row
  have foot := List.filterMap_eq_nil_iff.mpr fun row =>
    @diagnostic?_of_mem_footRows (check settings source) row
  rw [rows_check, List.filterMap_append, List.filterMap_append, head, foot, List.nil_append,
    List.append_nil, filterMap_diagnostic?_listingRows (ordered_findings_check settings source),
    filter_onLines_findings_check]

/-- What a list in front does not have stands behind it. -/
theorem split_behind {α : Type} {head list front back : List α} {x : α}
    (split : head ++ list = front ++ x :: back) (missing : x ∉ head) :
    ∃ before, front = head ++ before ∧ list = before ++ x :: back := by
  rcases List.append_eq_append_iff.mp split with ⟨before, rfl, rest⟩ | ⟨tail, rfl, rest⟩
  · exact ⟨before, rfl, rest⟩
  · cases tail with
    | nil => exact ⟨[], by simp, by simpa using rest.symm⟩
    | cons y tail =>
      obtain ⟨rfl, -⟩ := List.cons.inj rest
      exact absurd (by simp) missing

/-- What a list behind does not have stands in front of it. -/
theorem split_before {α : Type} {list foot front back : List α} {x : α}
    (split : list ++ foot = front ++ x :: back) (missing : x ∉ foot) :
    ∃ after, list = front ++ x :: after := by
  rcases List.append_eq_append_iff.mp split with ⟨tail, rfl, rest⟩ | ⟨tail, rfl, rest⟩
  · exact absurd (by simp [rest]) missing
  · cases tail with
    | nil =>
      rw [List.nil_append] at rest
      exact absurd (rest ▸ List.mem_cons_self) missing
    | cons y tail =>
      obtain ⟨rfl, -⟩ := List.cons.inj rest
      exact ⟨tail, rfl⟩

/-- A caret in the text of a report stands below the source line that its diagnostic is on. -/
theorem endsInLine_of_rows_check {settings : Settings} {source : Source} {front back : List Row}
    {text : List Char} {d : Diagnostic}
    (split : (check settings source).rows = front ++ .caret text d :: back) :
    source.line? d.position.line = some text ∧ EndsInLine front d.position.line text := by
  rw [rows_check, List.append_assoc] at split
  obtain ⟨before, rfl, rest⟩ := split_behind split fun found => by
    cases diagnostic?_of_mem_headRows found
  obtain ⟨after, listing⟩ := split_before rest fun found => by
    cases diagnostic?_of_mem_footRows found
  obtain ⟨index, found, place, ends⟩ :=
    endsInLine_of_listingRows (ordered_findings_check settings source) listing
  refine ⟨?_, ends.below _⟩
  rw [place, Nat.add_comm]
  exact found

/-- The rows with carets for lines of a source are determined by their diagnostics. -/
theorem filter_isCaret {source : Source} {rows : List Row}
    (own : ∀ text d, Row.caret text d ∈ rows → source.line? d.position.line = some text) :
    (rows.filter Row.isCaret) = (rows.filterMap Row.diagnostic?).map (caretRow source) := by
  induction rows with
  | nil => rfl
  | cons row rows ih =>
    have ih := ih fun text d found => own text d (List.mem_cons_of_mem row found)
    cases row with
    | caret text d =>
      have here : caretRow source d = .caret text d := by
        rw [caretRow, own text d List.mem_cons_self, Option.getD_some]
      rw [List.filter_cons_of_pos rfl, ih, ← here]
      rfl
    | _ => rw [List.filter_cons_of_neg Bool.false_ne_true, List.filterMap_cons_none rfl, ih]

/-- The rows with carets are those for the findings, in the order of the findings. -/
theorem filter_isCaret_rows_check (settings : Settings) (source : Source) :
    (check settings source).rows.filter Row.isCaret =
      (check settings source).findings.all.map (caretRow source) := by
  rw [← filterMap_diagnostic?_rows_check]
  apply filter_isCaret
  intro text d found
  obtain ⟨front, back, split⟩ := List.append_of_mem found
  exact (endsInLine_of_rows_check split).1

/-- Each finding has a row with a caret. -/
theorem exists_caret_of_mem_findings {settings : Settings} {source : Source} {d : Diagnostic}
    (found : d ∈ (check settings source).findings.all) :
    ∃ front text back, (check settings source).rows = front ++ .caret text d :: back ∧
      source.line? d.position.line = some text := by
  rw [← filterMap_diagnostic?_rows_check, List.mem_filterMap] at found
  obtain ⟨row, inside, own⟩ := found
  cases row with
  | caret text e =>
    cases own
    obtain ⟨front, back, split⟩ := List.append_of_mem inside
    exact ⟨front, text, back, split, (endsInLine_of_rows_check split).1⟩
  | _ => cases own

end Report

end PascalLint
