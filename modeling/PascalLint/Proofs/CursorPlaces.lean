import PascalLint.Proofs.BoundedCursor

/-! # The places that a cursor comes to

A cursor comes to the places of its lines one after the other: each column of the first line and the
one behind its last character, then those of the second line, and so on. Then it is behind all lines
and stays there. What it sees and the byte offset that it keeps are those of the place that it has
come to.
-/

namespace PascalLint

namespace Position

/-! ## The sequence of places -/

/-- The places on a line: one before each of its characters and one at its end. -/
def onLine (number : Nat) (line : List Char) : List Position :=
  (List.range (line.length + 1)).map (⟨number, ·⟩)

/-- The places in some lines, of which the first has the given number, in reading order. -/
def inLines (number : Nat) : List (List Char) → List Position
  | [] => []
  | line :: below => onLine number line ++ inLines (number + 1) below

theorem length_onLine (number : Nat) (line : List Char) :
    (onLine number line).length = line.length + 1 := by
  simp [onLine]

/-- Behind some glyphs of a line is the place with their number. -/
theorem behind_take_onLine (number : Nat) {line : List Char} {count : Nat}
    (within : count < line.length + 1) (below : List Glyph) :
    (onLine number line)[count]? =
      some (behind ⟨number, 0⟩ ((line.map Glyph.char ++ .lineEnd :: below).take count)) := by
  have short : count ≤ (line.map Glyph.char).length := by
    rw [List.length_map]
    omega
  have front : min count line.length = count := by omega
  rw [List.take_append_of_le_length short, ← List.map_take, behind_map_char, List.length_take,
    front, onLine, List.getElem?_map, List.getElem?_range within, Option.map_some, Nat.zero_add]

/-- Behind `count` glyphs of some lines is the place with that number in the sequence, or, when the
    sequence has no such place, the beginning of the line below. -/
theorem behind_take_ofLines (number : Nat) (lines : List (List Char)) (count : Nat) :
    behind ⟨number, 0⟩ ((Glyph.ofLines lines).take count) =
      (inLines number lines)[count]?.getD ⟨number + lines.length, 0⟩ := by
  induction lines generalizing number count with
  | nil => simp [inLines, behind]
  | cons line below ih =>
    rw [inLines, Glyph.ofLines_cons]
    by_cases within : count < line.length + 1
    · have shown : count < (onLine number line).length := by rwa [length_onLine]
      rw [List.getElem?_append_left shown, behind_take_onLine number within]
      rfl
    · -- The glyphs of the line and its end are passed, and the rest is counted from the next line.
      obtain ⟨more, rfl⟩ := Nat.exists_eq_add_of_le (Nat.le_of_not_lt within)
      have glyphs : (line.map Glyph.char ++ .lineEnd :: Glyph.ofLines below).take
          (line.length + 1 + more) =
            line.map Glyph.char ++ .lineEnd :: (Glyph.ofLines below).take more := by
        have size : line.length + 1 + more = (line.map Glyph.char).length + (more + 1) := by
          rw [List.length_map]
          omega
        rw [size, List.take_length_add_append, List.take_succ_cons]
      have places : (onLine number line ++ inLines (number + 1) below)[line.length + 1 + more]? =
          (inLines (number + 1) below)[more]? := by
        rw [← length_onLine number line, List.getElem?_append_right (Nat.le_add_right _ _),
          Nat.add_sub_cancel_left]
      rw [glyphs, places, behind_append, behind_map_char, behind, ih, List.length_cons,
        Nat.add_assoc, Nat.add_comm 1]

end Position

namespace Cursor

/-! ## What is at a place -/

/-- The characters before a place on its line; none behind all lines. -/
def before (lines : List (List Char)) (position : Position) : List Char :=
  (((Source.ofLines lines).line? position.line).getD []).take position.column

/-- The glyph at a place: the character at its column, the end of the line behind the last one, and
    none behind all lines. -/
def glyphAt (lines : List (List Char)) (position : Position) : Option Glyph :=
  ((Source.ofLines lines).line? position.line).map fun text =>
    match text[position.column]? with
    | some c => .char c
    | none => .lineEnd

theorem position_start_skip (lines : List (List Char)) (count : Nat) :
    ((start lines).skip count).position =
      (Position.inLines 1 lines)[count]?.getD ⟨lines.length + 1, 0⟩ := by
  rw [position_skip, Nat.add_comm lines.length]
  exact Position.behind_take_ofLines 1 lines count

section

variable {lines : List (List Char)} {cursor : Cursor} (stands : cursor.StandsIn lines)
include stands

theorem StandsIn.offset_eq :
    cursor.offset = (String.ofList (before lines cursor.position)).utf8ByteSize := by
  rw [← utf8Length_eq]
  cases stands with
  | onLine above before behind below split position offset rest =>
    rw [offset, position, Cursor.before, (Source.ofLines lines).line?_of_split split]
    simp
  | atEnd position offset rest =>
    rw [offset, position]
    rfl

theorem StandsIn.current_eq : cursor.current = glyphAt lines cursor.position := by
  cases stands with
  | onLine above before behind below split position offset rest =>
    rw [current, rest, position, glyphAt, (Source.ofLines lines).line?_of_split split]
    cases behind <;> simp
  | atEnd position offset rest =>
    have none : (Source.ofLines lines).line? (lines.length + 1) = none :=
      (Source.ofLines lines).line?_below
    rw [current, rest, position, glyphAt, none]
    rfl

/-- The cursor has no glyph left just where its line is below all lines. -/
theorem StandsIn.atEnd_iff : cursor.atEnd = true ↔ lines.length < cursor.position.line := by
  cases stands with
  | onLine above before behind below split position offset rest =>
    rw [Cursor.atEnd, rest, position, split]
    simp
  | atEnd position offset rest =>
    rw [Cursor.atEnd, rest, position]
    simp

end

theorem atEnd_iff_current (cursor : Cursor) : cursor.atEnd = true ↔ cursor.current = none := by
  rw [atEnd, current, List.isEmpty_iff, List.head?_eq_none_iff]

theorem peek_skip (cursor : Cursor) (count : Nat) :
    (cursor.skip count).peek = (cursor.skip (count + 1)).current := by
  rw [skip_add]
  rfl

end Cursor

/-! ## The enumeration -/

/-- After `count` steps in some lines a cursor is at the place with that number in the sequence of all
    places on the lines, or at the beginning of the line below the last one when there are not so many.
    Its offset is the number of bytes of the characters before the place on its line. It sees the
    character at the column, the end of the line behind the last character, and nothing below all
    lines; then it is at the end, and only then. What it peeks at is what it sees one step later. A
    cursor of three numbers that looks things up in the lines comes to the same place, without an access
    out of bounds, and sees the same there. -/
theorem cursor_enumerates_places (lines : List (List Char)) (count : Nat) :
    let cursor := (Cursor.start lines).skip count
    cursor.position = (Position.inLines 1 lines)[count]?.getD ⟨lines.length + 1, 0⟩ ∧
      cursor.offset = (String.ofList (Cursor.before lines cursor.position)).utf8ByteSize ∧
      cursor.current = Cursor.glyphAt lines cursor.position ∧
      cursor.peek = ((Cursor.start lines).skip (count + 1)).current ∧
      (cursor.atEnd = true ↔ cursor.current = none) ∧
      (cursor.atEnd = true ↔ lines.length < cursor.position.line) ∧
      Bounded.walk lines count = pure (Bounded.placeOf cursor) ∧
      Bounded.look lines (Bounded.placeOf cursor) = pure cursor.current := by
  intro cursor
  have stands : cursor.StandsIn lines := (Cursor.standsIn_start lines).skip count
  exact ⟨Cursor.position_start_skip lines count, stands.offset_eq, stands.current_eq,
    Cursor.peek_skip (Cursor.start lines) count, cursor.atEnd_iff_current, stands.atEnd_iff,
    Bounded.walk_eq lines count, Bounded.look_eq stands⟩

end PascalLint
