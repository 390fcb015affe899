import PascalLint.Position

/-! # Reading lines glyph by glyph

Lines are read as one stream of glyphs: the characters of each line, followed by a mark for its
end. A cursor is a place in that stream. Its position is kept beside the glyphs that are still to
come, together with the number of bytes before it on its line when the line is written in UTF-8.
-/

namespace PascalLint

/-- A character, or the end of a line. -/
inductive Glyph
  | char (c : Char)
  | lineEnd
deriving DecidableEq, Repr

namespace Glyph

/-- The glyphs of a line. -/
def ofLine (line : List Char) : List Glyph :=
  line.map char ++ [lineEnd]

/-- The glyphs of a list of lines. -/
def ofLines (lines : List (List Char)) : List Glyph :=
  lines.flatMap ofLine

/-- The characters before the next line end. -/
def lineText : List Glyph → List Char
  | char c :: rest => c :: lineText rest
  | _ => []

@[simp]
theorem ofLines_nil : ofLines [] = [] := rfl

@[simp]
theorem ofLines_cons (line : List Char) (lines : List (List Char)) :
    ofLines (line :: lines) = line.map char ++ lineEnd :: ofLines lines := by
  simp [ofLines, ofLine]

theorem ofLines_append (above below : List (List Char)) :
    ofLines (above ++ below) = ofLines above ++ ofLines below := by
  simp [ofLines]

@[simp]
theorem lineText_map_char_append (line : List Char) (rest : List Glyph) :
    lineText (line.map char ++ lineEnd :: rest) = line := by
  induction line with
  | nil => rfl
  | cons c line ih => simp [lineText, ih]

end Glyph

/-- A place in a stream of glyphs. -/
structure Cursor where
  position : Position
  /-- The number of bytes before the cursor on its line. -/
  offset : Nat
  /-- The glyphs from the cursor on. -/
  rest : List Glyph
deriving Repr

namespace Cursor

/-- The cursor before the first glyph of the lines. -/
def start (lines : List (List Char)) : Cursor :=
  ⟨⟨1, 0⟩, 0, Glyph.ofLines lines⟩

/-- The glyph at the cursor; none at the end of the input. -/
def current (cursor : Cursor) : Option Glyph :=
  cursor.rest.head?

/-- The cursor after the current glyph. At the end of the input it stays where it is. -/
def advance (cursor : Cursor) : Cursor :=
  match cursor.rest with
  | [] => cursor
  | .char c :: rest =>
    ⟨⟨cursor.position.line, cursor.position.column + 1⟩, cursor.offset + c.utf8Size, rest⟩
  | .lineEnd :: rest => ⟨⟨cursor.position.line + 1, 0⟩, 0, rest⟩

/-- The glyph after the current one. -/
def peek (cursor : Cursor) : Option Glyph :=
  cursor.advance.current

/-- Holds at the end of the input. -/
def atEnd (cursor : Cursor) : Bool :=
  cursor.rest.isEmpty

/-- The cursor after `count` glyphs. -/
def skip (cursor : Cursor) : Nat → Cursor
  | 0 => cursor
  | count + 1 => cursor.advance.skip count

@[simp]
theorem rest_advance (cursor : Cursor) : cursor.advance.rest = cursor.rest.drop 1 := by
  obtain ⟨position, offset, rest⟩ := cursor
  match rest with
  | [] => rfl
  | .char c :: rest => rfl
  | .lineEnd :: rest => rfl

@[simp]
theorem rest_skip (cursor : Cursor) (count : Nat) :
    (cursor.skip count).rest = cursor.rest.drop count := by
  induction count generalizing cursor with
  | zero => rfl
  | succ count ih => simp [skip, ih, Nat.add_comm count 1]

theorem skip_add (cursor : Cursor) (m n : Nat) :
    cursor.skip (m + n) = (cursor.skip m).skip n := by
  induction m generalizing cursor with
  | zero => simp [skip]
  | succ m ih => simp [skip, Nat.add_right_comm m 1 n, ih]

end Cursor

end PascalLint
