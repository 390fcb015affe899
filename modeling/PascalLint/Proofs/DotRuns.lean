import PascalLint.Proofs.RuleEvidence
import PascalLint.Proofs.RuleRuns

/-! # Triple dots in runs of dots

A run of dots is reported once for every three of them, from the left, and what is left of it is too
short to be reported. The search for the next three dots starts behind the last ones, so it never
puts together dots of two runs, and it comes to an end because every find is further on in the line.
-/

namespace PascalLint

/-! ## Runs of a mark -/

namespace Text

/-- There are `length` marks from the column `start` on, and no further one before or behind them. -/
def IsRun (mark : Char) (text : List Char) (start length : Nat) : Prop :=
  ∃ before behind, text = before ++ (List.replicate length mark ++ behind) ∧ before.length = start ∧
    before.getLast? ≠ some mark ∧ behind.head? ≠ some mark

variable {mark : Char}

/-- A text begins with a run, which may be empty. -/
theorem exists_replicate_append (mark : Char) (text : List Char) :
    ∃ length behind, text = List.replicate length mark ++ behind ∧ behind.head? ≠ some mark := by
  induction text with
  | nil => exact ⟨0, [], rfl, by simp⟩
  | cons c text ih =>
    by_cases same : c = mark
    · obtain ⟨length, behind, rfl, other⟩ := ih
      exact ⟨length + 1, behind, by rw [same, List.replicate_succ, List.cons_append], other⟩
    · exact ⟨0, c :: text, rfl, by simpa using same⟩

theorem replicate_append_inj {length length' : Nat} {behind behind' : List Char}
    (other : behind.head? ≠ some mark) (other' : behind'.head? ≠ some mark)
    (same : List.replicate length mark ++ behind = List.replicate length' mark ++ behind') :
    length = length' ∧ behind = behind' := by
  induction length generalizing length' with
  | zero =>
    cases length' with
    | zero => exact ⟨rfl, same⟩
    | succ length' => simp [show behind = _ from same, List.replicate_succ] at other
  | succ length ih =>
    cases length' with
    | zero => simp [← show _ = behind' from same, List.replicate_succ] at other'
    | succ length' =>
      rw [List.replicate_succ, List.replicate_succ, List.cons_append, List.cons_append] at same
      obtain ⟨rfl, behind⟩ := ih (List.cons.inj same).2
      exact ⟨rfl, behind⟩

/-- A run of a text is the one that the text begins with, or it is behind that one and the character
    that ends it. -/
theorem isRun_append {length start count : Nat} {behind : List Char}
    (other : behind.head? ≠ some mark) :
    IsRun mark (List.replicate length mark ++ behind) start count ↔
      (start = 0 ∧ count = length) ∨
        ∃ c rest inside, behind = c :: rest ∧ start = length + 1 + inside ∧
          IsRun mark rest inside count := by
  constructor
  · rintro ⟨before, after, same, rfl, ends, other'⟩
    rcases List.eq_nil_or_concat before with rfl | ⟨front, last, rfl⟩
    · exact .inl ⟨rfl, (replicate_append_inj other other' same).1.symm⟩
    · have foreign : last ∉ List.replicate length mark := by
        intro found
        exact ends (by simp [List.eq_of_mem_replicate found])
      -- The last character before the run is no mark, so it is behind the marks in front.
      rcases List.append_eq_append_iff.mp same with ⟨between, whole, rfl⟩ | ⟨between, whole, -⟩
      · cases between with
        | nil =>
          rw [List.append_nil] at whole
          exact absurd (by simp [← whole]) foreign
        | cons c inside =>
          refine .inr ⟨c, _, inside.length, rfl, ?_, inside, after, rfl, rfl, fun final => ends ?_, other'⟩
          · rw [whole, List.length_append, List.length_replicate, List.length_cons]
            omega
          · rw [whole]
            simp [List.getLast?_append, List.getLast?_cons, final]
      · exact absurd (by simp [whole]) foreign
  · rintro (⟨rfl, rfl⟩ | ⟨c, rest, inside, rfl, rfl, before, after, rfl, rfl, ends, other'⟩)
    · exact ⟨[], behind, rfl, rfl, by simp, other⟩
    · refine ⟨List.replicate length mark ++ c :: before, after, by simp, by simp; omega, ?_, other'⟩
      cases last : before.getLast? with
      | none => simpa [List.getLast?_append, List.getLast?_cons, last] using other
      | some d => simpa [List.getLast?_append, List.getLast?_cons, last] using ends

end Text

/-! ## Columns -/

namespace Rule.Ranges

theorem columns_other {c : Char} (other : c ≠ '.') (first : Nat) (rest : List Char) :
    columns first (c :: rest) = columns (first + 1) rest := by
  rw [columns]
  rintro tail rfl
  exact absurd rfl other

/-- A run is reported once for every three of its dots. -/
theorem columns_run {length : Nat} {behind : List Char} (other : behind.head? ≠ some '.')
    (first : Nat) : columns first (List.replicate length '.' ++ behind) =
      (List.range (length / 3)).map (first + 3 * ·) ++ columns (first + length) behind := by
  match length with
  | 0 => rfl
  | 1 =>
    change columns first ('.' :: behind) = columns (first + 1) behind
    rw [columns]
    rintro rest - rfl
    exact other rfl
  | 2 =>
    change columns first ('.' :: '.' :: behind) = columns (first + 2) behind
    rw [columns, columns]
    · rintro rest - rfl
      exact other rfl
    · rintro rest - more
      obtain ⟨-, rfl⟩ := List.cons.inj more
      exact other rfl
  | length + 3 =>
    have later : (List.range (length / 3 + 1)).map (first + 3 * ·) =
        first :: (List.range (length / 3)).map (first + 3 + 3 * ·) := by
      rw [List.range_succ_eq_map, List.map_cons, List.map_map]
      refine congrArg (first :: ·) (List.map_congr_left fun k _ => ?_)
      simp only [Function.comp_apply]
      omega
    change columns first ('.' :: '.' :: '.' :: (List.replicate length '.' ++ behind)) = _
    rw [columns, columns_run other, Nat.add_div_right length (by decide), later, List.cons_append,
      Nat.add_right_comm]
    rfl

theorem mem_columns_iff {first column : Nat} {text : List Char} :
    column ∈ columns first text ↔
      ∃ start length k, Text.IsRun '.' text start length ∧ k < length / 3 ∧
        column = first + start + 3 * k := by
  -- Both sides go from run to run.
  obtain ⟨length, behind, rfl, other⟩ := Text.exists_replicate_append '.' text
  have later : column ∈ columns (first + length) behind ↔
      ∃ c rest inside count k, behind = c :: rest ∧ Text.IsRun '.' rest inside count ∧
        k < count / 3 ∧ column = first + length + 1 + inside + 3 * k := by
    cases behind with
    | nil => simp [columns]
    | cons c rest =>
      have shorter : rest.length < (List.replicate length '.' ++ c :: rest).length := by
        rw [List.length_append, List.length_cons]
        omega
      rw [columns_other (by simpa using other), mem_columns_iff]
      simp
  rw [columns_run other, List.mem_append, later]
  simp only [Text.isRun_append other, List.mem_map, List.mem_range]
  constructor
  · rintro (⟨k, inRun, rfl⟩ | ⟨c, rest, inside, count, k, rfl, run, inRun, rfl⟩)
    · exact ⟨0, length, k, .inl ⟨rfl, rfl⟩, inRun, rfl⟩
    · exact ⟨_, count, k, .inr ⟨c, rest, inside, rfl, rfl, run⟩, inRun, by omega⟩
  · rintro ⟨start, count, k, ⟨rfl, rfl⟩ | ⟨c, rest, inside, rfl, rfl, run⟩, inRun, rfl⟩
    · exact .inl ⟨k, inRun, rfl⟩
    · exact .inr ⟨c, rest, inside, count, k, rfl, run, inRun, by omega⟩
termination_by text.length

/-! ## Searching -/

/-- The search for three dots from a column of the line on, which goes on behind what it finds, ends
    with these columns. -/
inductive Search (line : Line) : Nat → List Nat → Prop
  | missed {start : Nat} (none : line.find? start ['.', '.', '.'] = none) : Search line start []
  | found {start column : Nat} {later : List Nat}
      (here : line.find? start ['.', '.', '.'] = some column)
      (behind : Search line (column + 3) later) : Search line start (column :: later)

theorem columns_of_missed {text : List Char} (none : Text.find? ['.', '.', '.'] text = none)
    (first : Nat) : columns first text = [] := by
  fun_induction columns first text with
  | case1 first => rfl
  | case2 first rest ih => simp [Text.find?] at none
  | case3 first c rest other ih =>
    rw [Text.find?] at none
    split at none
    next => cases none
    next => exact ih (by simpa using none)

theorem columns_of_found {text : List Char} {index : Nat}
    (found : Text.find? ['.', '.', '.'] text = some index) (first : Nat) :
    columns first text = (first + index) :: columns (first + index + 3) (text.drop (index + 3)) ∧
      index + 3 ≤ text.length := by
  fun_induction columns first text generalizing index with
  | case1 first => simp [Text.find?] at found
  | case2 first rest ih =>
    obtain rfl : 0 = index := by simpa [Text.find?] using found
    exact ⟨rfl, by simp⟩
  | case3 first c rest other ih =>
    rw [Text.find?] at found
    split at found
    next begins =>
      obtain ⟨tail, same⟩ := List.isPrefixOf_iff_prefix.mp begins
      obtain ⟨dot, behind⟩ := List.cons.inj same
      exact absurd behind.symm (other tail dot.symm)
    next =>
      obtain ⟨before, later, rfl⟩ := Option.map_eq_some_iff.mp found
      obtain ⟨same, inside⟩ := ih later
      have place : first + (before + 1) = first + 1 + before := by omega
      exact ⟨by rw [same, place]; rfl, Nat.succ_le_succ inside⟩

theorem search_columns (line : Line) (start : Nat) :
    Search line start (columns start (line.masked.drop start)) := by
  cases found : Text.find? ['.', '.', '.'] (line.masked.drop start) with
  | none =>
    rw [columns_of_missed found]
    exact .missed (by rw [Line.find?, found]; rfl)
  | some index =>
    obtain ⟨same, inside⟩ := columns_of_found found start
    rw [List.length_drop] at inside
    have further : line.masked.length - (start + index + 3) < line.masked.length - start := by omega
    rw [same, List.drop_drop, ← Nat.add_assoc]
    refine .found ?_ (search_columns line (start + index + 3))
    rw [Line.find?, found, Option.map_some, Nat.add_comm]
termination_by line.masked.length - start

end Rule.Ranges

theorem Defect.rule?_eq_ranges_iff {defect : Defect} :
    defect.rule? = some .ranges ↔ defect = .tripleDot := by
  cases defect <;> decide

/-! ## Reports -/

/-- On a line that is no declaration the search for three dots comes to an end, and what it finds is
    reported from left to right: for each run of dots the column at which it begins and every third one
    behind it, as many as there are whole threes in the run. -/
theorem triple_dots_by_runs {checks : Checks} (on : checks.ranges = true) {lines : List (List Char)}
    {above below : List Line} {line : Line}
    (split : Line.ofTexts 1 none lines = above ++ line :: below) (plain : line.PlainBelow above) :
    let reported := (analyze checks lines).filter fun d =>
      d.defect = .tripleDot ∧ d.position.line = line.number
    ∃ columns, reported = columns.map (line.diagnostic .tripleDot) ∧
      Rule.Ranges.Search line 0 columns ∧ columns.Pairwise (· < ·) ∧
      ∀ column, column ∈ columns ↔
        ∃ start length k, Text.IsRun '.' line.masked start length ∧ k < length / 3 ∧
          column = start + 3 * k := by
  intro reported
  obtain ⟨front, text, rest, rfl, rfl, rfl, -⟩ :=
    (Context.ofTexts_eq_append_cons_iff checks .start).mp split
  have remembers := Context.remembers_after checks front
  have same : reported = Rule.Ranges.check ((Context.start.after checks front).line text) := by
    have switched : checks.has .ranges = true := on
    have here := filter_analyze_line switched (by decide) front text rest
    rw [Rule.check, Context.unlessDeclaration, if_neg ((remembers.plainBelow_iff _).mp plain)] at here
    rw [← here]
    refine List.filter_congr fun d _ => ?_
    simp only [Defect.rule?_eq_ranges_iff, Context.line, Context.lineCount_start_after]
  refine ⟨_, same, Rule.Ranges.search_columns _ 0, Rule.Ranges.pairwise_columns 0 _, fun column => ?_⟩
  rw [Rule.Ranges.mem_columns_iff]
  simp only [Nat.zero_add]

/-- Runs of seven, two and three dots in a statement, of which the last one ends the line. -/
theorem triple_dots_by_runs_statement :
    let lines := ["begin".toList, "a[1.......2..3{...}] := b...".toList]
    let above := Line.ofTexts 1 none (lines.take 1)
    let line : Line := ⟨2, "a[1.......2..3{...}] := b...".toList, "a[1.......2..3     ] := b...".toList⟩
    Line.ofTexts 1 none lines = above ++ line :: [] ∧ line.PlainBelow above ∧
      ∃ columns, Rule.Ranges.Search line 0 columns ∧
        columns.map (line.diagnostic .tripleDot) =
          [⟨⟨2, 3⟩, .tripleDot⟩, ⟨⟨2, 6⟩, .tripleDot⟩, ⟨⟨2, 25⟩, .tripleDot⟩] := by
  intro lines above line
  have split : Line.ofTexts 1 none lines = above ++ line :: [] := by decide +kernel
  have plain : line.PlainBelow above :=
    ((Context.remembers_after {} (lines.take 1)).plainBelow_iff line).mpr (by decide +kernel)
  have on : ({} : Checks).ranges = true := rfl
  obtain ⟨columns, reported, search, -, -⟩ := triple_dots_by_runs on split plain
  refine ⟨split, plain, columns, search, ?_⟩
  rw [← reported]
  decide +kernel

end PascalLint
