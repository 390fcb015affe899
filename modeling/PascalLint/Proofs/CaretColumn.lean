import PascalLint.Proofs.ReportText
import PascalLint.Proofs.TokenStream

/-! # Carets below what they point to

A terminal shows a character at a display column, which depends on the widths of the characters before
it and, for tabs, on the column that they begin at. The white space before a caret takes up the same
columns as the characters of the source line above it if both begin at one display column
(`displayColumn_caretPadding`). The caret's line begins with six spaces, the source line with its
number in a field of four and two characters more, and that is six columns up to line 9999.
-/

namespace PascalLint

open PascalLint.Unicode (displayWidth)

/-! ## Display columns -/

namespace Text

/-- The display column behind a character; a tab goes on to the next multiple of eight. -/
def columnBehind (column : Nat) (c : Char) : Nat :=
  if c = '\t' then (column / 8 + 1) * 8 else column + displayWidth c

/-- The display column behind a text that begins at a column. -/
def displayColumn (column : Nat) (text : List Char) : Nat :=
  text.foldl columnBehind column

/-- The display column of the first occurrence of a character, or of the end of the text. -/
def columnOf (mark : Char) (text : List Char) : Nat :=
  displayColumn 0 (text.takeWhile (· != mark))

theorem displayColumn_append (column : Nat) (front text : List Char) :
    displayColumn column (front ++ text) = displayColumn (displayColumn column front) text :=
  List.foldl_append

theorem displayColumn_add {text : List Char} (tabs : '\t' ∉ text) (column shift : Nat) :
    displayColumn (column + shift) text = displayColumn column text + shift := by
  -- Only the width of a tab depends on where it begins.
  induction text generalizing column with
  | nil => rfl
  | cons c text ih =>
    rw [List.mem_cons, not_or] at tabs
    obtain ⟨other, tabs⟩ := tabs
    have here (column : Nat) : columnBehind column c = column + displayWidth c := if_neg (Ne.symm other)
    simp only [displayColumn, List.foldl_cons, here, Nat.add_right_comm column shift]
    exact ih tabs (column + displayWidth c)

theorem columnBehind_le {column other : Nat} (le : column ≤ other) (c : Char) :
    columnBehind column c ≤ columnBehind other c := by
  unfold columnBehind
  split <;> omega

theorem displayColumn_le {column other : Nat} (le : column ≤ other) (text : List Char) :
    displayColumn column text ≤ displayColumn other text := by
  induction text generalizing column other with
  | nil => exact le
  | cons c text ih => exact ih (columnBehind_le le c)

/-- Holds of the characters of ASCII that are not control characters. -/
def IsGraphic (c : Char) : Prop :=
  0x20 ≤ c.toNat ∧ c.toNat < 0x7F

instance : DecidablePred IsGraphic := fun _ => inferInstanceAs (Decidable (_ ∧ _))

theorem isGraphic_of_isDigit {c : Char} (digit : c.isDigit = true) : IsGraphic c := by
  rw [Char.isDigit, Bool.and_eq_true, decide_eq_true_eq, decide_eq_true_eq] at digit
  obtain ⟨low, high⟩ : 48 ≤ c.toNat ∧ c.toNat ≤ 57 := digit
  exact ⟨by omega, by omega⟩

theorem IsGraphic.displayWidth {c : Char} (graphic : IsGraphic c) : displayWidth c = 1 := by
  obtain ⟨low, high⟩ := graphic
  have control : Unicode.isControl c = false := by
    simp only [Unicode.isControl, Bool.or_eq_false_iff, Bool.and_eq_false_iff, decide_eq_false_iff_not]
    omega
  rw [Unicode.displayWidth, control, if_neg Bool.false_ne_true, if_pos (by omega)]

theorem displayColumn_of_graphic {text : List Char} (graphic : ∀ c ∈ text, IsGraphic c) (column : Nat) :
    displayColumn column text = column + text.length := by
  induction text generalizing column with
  | nil => rfl
  | cons c text ih =>
    obtain ⟨here, behind⟩ := List.forall_mem_cons.mp graphic
    have one : columnBehind column c = column + 1 := by
      rw [columnBehind, if_neg, here.displayWidth]
      rintro rfl
      exact absurd here (by decide)
    rw [displayColumn, List.foldl_cons, one]
    exact (ih behind (column + 1)).trans (by rw [List.length_cons, Nat.add_assoc, Nat.add_comm 1])

theorem graphic_replicate_space (count : Nat) : ∀ c ∈ List.replicate count ' ', IsGraphic c := by
  intro c found
  rw [List.eq_of_mem_replicate found]
  decide

end Text

open Text

namespace Report

/-! ## The rows of source lines -/

theorem Row.graphic_label (number : Nat) : ∀ c ∈ Row.label number, IsGraphic c := by
  intro c found
  obtain digit | rfl | rfl := Row.mem_label found
  · exact isGraphic_of_isDigit digit
  · decide
  · decide

theorem length_toString (number : Nat) :
    (toString number).length = (Nat.toDigits 10 number).length := by
  rw [← String.length_toList, Nat.toString_eq_repr, Nat.toList_repr]

theorem Row.length_label (number : Nat) :
    (Row.label number).length = 6 + ((toString number).length - 4) := by
  simp only [Row.label_eq, List.length_append, List.length_replicate, List.length_cons,
    List.length_nil, length_toString]
  omega

/-- The numbers that fit into their field. -/
theorem length_toString_le_iff (number : Nat) : (toString number).length ≤ 4 ↔ number < 10000 := by
  rw [length_toString]
  exact Nat.length_toDigits_le_iff (by decide) (by decide)

/-- The text of a source line begins at the sixth column, or as much further right as the number does
    not fit into its field. -/
theorem Row.displayColumn_label (number : Nat) (text : List Char) :
    displayColumn 0 (Row.label number ++ text) =
      displayColumn (6 + ((toString number).length - 4)) text := by
  rw [displayColumn_append, displayColumn_of_graphic (Row.graphic_label number), Row.length_label,
    Nat.zero_add]

/-! ## The rows of carets -/

theorem displayColumn_blankFor (column : Nat) (c : Char) :
    displayColumn column (blankFor c).toList = columnBehind column c := by
  by_cases tab : c = '\t'
  · subst tab
    rfl
  · rw [blankFor, if_neg tab, columnBehind, if_neg tab, Text.repeated, String.toList_ofList,
      displayColumn_of_graphic (graphic_replicate_space _), List.length_replicate]

/-- The white space before a caret is as wide as the text above it, at any column. -/
theorem displayColumn_caretPadding (start : Nat) (text : List Char) (column : Nat) :
    displayColumn start (caretPadding text column).toList =
      displayColumn start (text.take column) := by
  rw [toList_caretPadding]
  generalize text.take column = before
  -- Both sides begin each character at the same column, so a tab of the one is as wide as the other's.
  induction before generalizing start with
  | nil => rfl
  | cons c before ih =>
    rw [List.flatMap_cons, displayColumn_append, displayColumn_blankFor, ih]
    rfl

/-- The display column of a caret. -/
theorem Row.columnOf_caret (text : List Char) (d : Diagnostic) :
    columnOf '^' (Row.caret text d).text.toList = displayColumn 6 (text.take d.position.column) := by
  -- The first caret of the row is the one behind the white space.
  have blank : ∀ c ∈ List.replicate 6 ' ' ++ (caretPadding text d.position.column).toList,
      (c != '^') = true := by
    intro c found
    obtain space | padding := List.mem_append.mp found
    · rw [List.eq_of_mem_replicate space]
      decide
    · obtain rfl | rfl := mem_caretPadding padding <;> decide
  rw [columnOf, Row.text_caret, List.takeWhile_append_of_pos blank, List.takeWhile_cons_of_neg (by decide),
    List.append_nil, displayColumn_append, displayColumn_of_graphic (graphic_replicate_space 6),
    displayColumn_caretPadding, Nat.zero_add, List.length_replicate]

end Report

open Report (Row EndsInLine)

/-- A caret stands below the character that its diagnostic is for, or below the end of the line, on the
    first 9999 lines of a source. In the text of the report its line comes below that of the source line,
    with nothing but carets for the same line in between. From line 10000 on the number pushes the source
    line to the right and the caret stays where it is: without tabs before the character the caret is as
    many columns too far to the left as the number has digits above four, and it is never too far to the
    right. -/
theorem caret_below_character {settings : Settings} {source : Source}
    (plain : ∀ line ∈ source.lines, '\n' ∉ line) {front back : List Row} {text : List Char}
    {d : Diagnostic} (split : (check settings source).rows = front ++ .caret text d :: back) :
    let number := d.position.line
    let listing := (Row.source number text).text.toList
    let caret := (Row.caret text d).text.toList
    let before := Row.label number ++ text.take d.position.column
    source.line? number = some text ∧ d.position.column ≤ text.length ∧
      EndsInLine front number text ∧ '\n' ∉ listing ∧ '\n' ∉ caret ∧
      (∃ above, ∃ list : List Diagnostic, ∃ below,
        Text.splitOn '\n' (check settings source).render.toList =
            above ++ listing :: list.map (fun e => (Row.caret text e).text.toList) ++ caret :: below ∧
          ∀ e ∈ list, e.position.line = number) ∧
      listing = before ++ text.drop d.position.column ∧
      (number < 10000 → columnOf '^' caret = displayColumn 0 before) ∧
      columnOf '^' caret ≤ displayColumn 0 before ∧
      ('\t' ∉ text.take d.position.column →
        columnOf '^' caret + ((toString number).length - 4) = displayColumn 0 before) := by
  intro number listing caret before
  obtain ⟨line, ends⟩ := Report.endsInLine_of_rows_check split
  have inside : d.position.column ≤ text.length := by
    have found : d ∈ (check settings source).findings.all := by
      rw [← Report.filterMap_diagnostic?_rows_check, split]
      exact List.mem_filterMap.mpr ⟨.caret text d, by simp, rfl⟩
    obtain ⟨raw, same, -, -, column, -⟩ := line_of_mem_findings found
    obtain rfl : text = raw := Option.some.inj (line.symm.trans same)
    exact column
  have own : text ∈ source.lines := by
    rw [Source.line?.eq_def] at line
    split at line
    · cases line
    · exact List.mem_of_getElem? line
  have mark : columnOf '^' caret = displayColumn 6 (text.take d.position.column) :=
    Row.columnOf_caret text d
  have character : displayColumn 0 before =
      displayColumn (6 + ((toString number).length - 4)) (text.take d.position.column) :=
    Row.displayColumn_label number _
  -- Both columns are those behind the same characters; only where these begin may differ.
  refine ⟨line, inside, ends, Row.not_mem_source (plain text own), Row.not_mem_caret text d, ?_, ?_, ?_, ?_,
    ?_⟩
  · obtain ⟨above, list, rfl, same⟩ := ends
    have lines : Text.splitOn '\n' (check settings source).render.toList = _ :=
      Report.splitOn_rowsText (check settings source).rows
    have carets : (list.map (Row.caret text)).flatMap Row.lines =
        list.map fun e => (Row.caret text e).text.toList := by
      rw [List.flatMap_map, List.map_eq_flatMap]
      exact List.flatMap_congr fun e _ => Row.lines_caret text e
    refine ⟨above.flatMap Row.lines, list, back.flatMap Row.lines ++ [[]], ?_, same⟩
    rw [lines, split, List.flatMap_append, List.flatMap_append, List.flatMap_cons, List.flatMap_cons,
      carets, Row.lines_source (plain text own), Row.lines_caret, List.append_assoc]
    rfl
  · rw [List.append_assoc, List.take_append_drop]
    exact Row.text_source number text
  · intro fits
    have none : (toString number).length - 4 = 0 :=
      Nat.sub_eq_zero_of_le ((Report.length_toString_le_iff number).mpr fits)
    rw [mark, character, none]
  · rw [mark, character]
    exact displayColumn_le (Nat.le_add_right _ _) _
  · intro tabs
    rw [mark, character, displayColumn_add tabs]

theorem caret_below_character_wide :
    let text := ['\t', '表', '?']
    let d : Diagnostic := ⟨⟨1, 2⟩, .unknownSymbol⟩
    ∃ front back, (check {} (.ofLines [text])).rows = front ++ .caret text d :: back ∧
      columnOf '^' (Row.caret text d).text.toList = displayColumn 0 (Row.label 1 ++ ['\t', '表']) := by
  intro text d
  have found : d ∈ (check {} (.ofLines [text])).findings.all := by decide +kernel
  obtain ⟨front, line, back, split, same⟩ := Report.exists_caret_of_mem_findings found
  obtain rfl : text = line := Option.some.inj same
  obtain ⟨-, -, -, -, -, -, -, fits, -⟩ := caret_below_character (by decide) split
  exact ⟨front, back, split, fits (by decide)⟩

/-! ## A line whose number has five digits -/

theorem Trivia.size_empty_lines (count : Nat) (rest : List Glyph) :
    size (Glyph.ofLines (List.replicate count []) ++ rest) = count + size rest := by
  induction count with
  | zero => rw [List.replicate_zero, Glyph.ofLines_nil, List.nil_append, Nat.zero_add]
  | succ count ih =>
    rw [List.replicate_succ, Glyph.ofLines_cons, List.map_nil, List.nil_append, List.cons_append,
      size_lineEnd, ih, Nat.add_right_comm]

theorem Glyph.length_empty_lines (count : Nat) :
    (ofLines (List.replicate count [])).length = count := by
  induction count with
  | zero => rfl
  | succ count ih =>
    rw [List.replicate_succ, ofLines_cons, List.map_nil, List.nil_append, List.length_cons, ih]

/-- The scanner passes over empty lines and records an unknown character below them. -/
theorem mem_findings_below_empty_lines (settings : Settings) (count : Nat) :
    (⟨⟨count + 1, 0⟩, .unknownSymbol⟩ : Diagnostic) ∈
      (check settings (.ofLines (List.replicate count [] ++ [['?']]))).findings.all := by
  let scanner := Scanner.start settings.dialect (List.replicate count [] ++ [['?']])
  have glyphs : scanner.cursor.rest =
      Glyph.ofLines (List.replicate count []) ++ [.char '?', .lineEnd] :=
    Glyph.ofLines_append _ _
  have token : Trivia.size [.char '?', .lineEnd] = 0 := by
    rw [Trivia.size, if_neg (by decide)]
    rfl
  have size : Trivia.size scanner.cursor.rest = (Glyph.ofLines (List.replicate count [])).length := by
    rw [glyphs, Trivia.size_empty_lines, token, Glyph.length_empty_lines, Nat.add_zero]
  have rest : scanner.skipTrivia.cursor.rest = [.char '?', .lineEnd] := by
    rw [Scanner.rest_skipTrivia, size, glyphs, List.drop_left]
  have position : scanner.skipTrivia.cursor.position = ⟨count + 1, 0⟩ := by
    rw [Scanner.skipTrivia, Cursor.position_skip, size, glyphs, List.take_left]
    refine (Position.behind_ofLines 1 _).trans ?_
    rw [List.length_replicate, Nat.add_comm]
  have more : scanner.skipTrivia.atEnd = false := by
    rw [Scanner.atEnd, Cursor.atEnd, rest]
    rfl
  have recorded : scanner.next.1.diagnostic = some ⟨⟨count + 1, 0⟩, .unknownSymbol⟩ := by
    simp only [Scanner.next, Scanner.read, rest, position]
    cases scanner.skipTrivia.dialect <;> rfl
  have first : scanner.next.1 ∈ scanner.tokens := by
    rw [Scanner.tokens_of_more more]
    exact List.mem_cons_self
  exact mem_check.mpr (.inl (List.mem_filterMap.mpr ⟨scanner.next.1, first, recorded⟩))

theorem caret_below_empty_lines (settings : Settings) (count : Nat) :
    ∃ front back, (check settings (.ofLines (List.replicate count [] ++ [['?']]))).rows =
      front ++ .caret ['?'] ⟨⟨count + 1, 0⟩, .unknownSymbol⟩ :: back := by
  obtain ⟨front, text, back, split, line⟩ :=
    Report.exists_caret_of_mem_findings (mem_findings_below_empty_lines settings count)
  have last : (List.replicate count [] ++ [['?']])[count]? = some ['?'] := by
    rw [List.getElem?_append_right (by simp), List.length_replicate, Nat.sub_self]
    rfl
  obtain rfl : ['?'] = text := Option.some.inj (last.symm.trans line)
  exact ⟨front, back, split⟩

/-- On line 10000 the caret is one column to the left of its character. -/
theorem caret_left_of_character :
    let source := Source.ofLines (List.replicate 9999 [] ++ [['?']])
    let d : Diagnostic := ⟨⟨10000, 0⟩, .unknownSymbol⟩
    (∀ line ∈ source.lines, '\n' ∉ line) ∧
      (∃ front back, (check {} source).rows = front ++ .caret ['?'] d :: back) ∧
        columnOf '^' (Row.caret ['?'] d).text.toList = 6 ∧
        displayColumn 0 (Row.label 10000 ++ ['?'].take 0) = 7 := by
  intro source d
  refine ⟨?_, caret_below_empty_lines {} 9999, Row.columnOf_caret _ _, ?_⟩
  · intro line inside
    obtain empty | single := List.mem_append.mp inside
    · rw [List.eq_of_mem_replicate empty]
      exact List.not_mem_nil
    · rw [List.mem_singleton.mp single]
      decide
  · rw [Row.displayColumn_label]
    rfl

end PascalLint
