import PascalLint.Cursor

/-! # Places in a source

Where a cursor stands in the lines that it was started on. The position and the byte offset that it
keeps are those of the place whose glyphs are still to come (`Cursor.StandsIn`), which holds at the
start and after every step. Two cursors that pass over glyphs of the same shape come to the same
position: `Position.behind` looks at line ends only.
-/

namespace PascalLint

namespace Position

/-! ## Positions behind glyphs -/

/-- The position behind some glyphs of which the first stands at `position`. -/
def behind (position : Position) : List Glyph → Position
  | [] => position
  | .char _ :: rest => behind ⟨position.line, position.column + 1⟩ rest
  | .lineEnd :: rest => behind ⟨position.line + 1, 0⟩ rest

theorem behind_append (position : Position) (first second : List Glyph) :
    position.behind (first ++ second) = (position.behind first).behind second := by
  induction first generalizing position with
  | nil => rfl
  | cons glyph first ih => cases glyph <;> exact ih _

theorem behind_map_char (position : Position) (text : List Char) :
    position.behind (text.map .char) = ⟨position.line, position.column + text.length⟩ := by
  induction text generalizing position with
  | nil => rfl
  | cons c text ih =>
    rw [List.map_cons, behind, ih, List.length_cons, Nat.add_assoc, Nat.add_comm 1]

theorem behind_ofLines (first : Nat) (lines : List (List Char)) :
    behind ⟨first, 0⟩ (Glyph.ofLines lines) = ⟨first + lines.length, 0⟩ := by
  induction lines generalizing first with
  | nil => rfl
  | cons line lines ih =>
    rw [Glyph.ofLines_cons, behind_append, behind_map_char, behind, ih, List.length_cons,
      Nat.add_assoc, Nat.add_comm 1]

theorem le_behind (position : Position) (glyphs : List Glyph) : position ≤ position.behind glyphs := by
  induction glyphs generalizing position with
  | nil => exact le_refl position
  | cons glyph glyphs ih =>
    cases glyph with
    | char c =>
      have later := ih ⟨position.line, position.column + 1⟩
      simp only [behind, le_iff] at *
      omega
    | lineEnd =>
      have later := ih ⟨position.line + 1, 0⟩
      simp only [behind, le_iff] at *
      omega

theorem lt_behind (position : Position) {glyphs : List Glyph} (nonempty : glyphs ≠ []) :
    position < position.behind glyphs := by
  obtain ⟨glyph, glyphs, rfl⟩ := List.exists_cons_of_ne_nil nonempty
  cases glyph with
  | char c =>
    have later := le_behind ⟨position.line, position.column + 1⟩ glyphs
    simp only [behind, le_iff, lt_iff] at *
    omega
  | lineEnd =>
    have later := le_behind ⟨position.line + 1, 0⟩ glyphs
    simp only [behind, le_iff, lt_iff] at *
    omega

end Position

namespace Cursor

theorem position_skip (cursor : Cursor) (count : Nat) :
    (cursor.skip count).position = cursor.position.behind (cursor.rest.take count) := by
  induction count generalizing cursor with
  | zero => rfl
  | succ count ih =>
    obtain ⟨position, offset, rest⟩ := cursor
    rw [skip, ih]
    cases rest with
    | nil => simp [advance]
    | cons glyph rest => cases glyph <;> rfl

/-! ## Cursors in lines -/

/-- The number of bytes of a text that is written in UTF-8. -/
def utf8Length (text : List Char) : Nat :=
  text.foldl (fun bytes c => bytes + c.utf8Size) 0

/-- A cursor in some lines stands on one of them, between the characters `before` and `behind`, or
    behind all of them. -/
inductive StandsIn (lines : List (List Char)) (cursor : Cursor) : Prop
  | onLine (above : List (List Char)) (before behind : List Char) (below : List (List Char))
      (split : lines = above ++ (before ++ behind) :: below)
      (position : cursor.position = ⟨above.length + 1, before.length⟩)
      (offset : cursor.offset = utf8Length before)
      (rest : cursor.rest = behind.map .char ++ .lineEnd :: Glyph.ofLines below)
  | atEnd (position : cursor.position = ⟨lines.length + 1, 0⟩) (offset : cursor.offset = 0)
      (rest : cursor.rest = [])

/-- A cursor that has come to the beginning of a line, behind the lines `above`. -/
theorem standsIn_lineStart (above below : List (List Char)) :
    StandsIn (above ++ below) ⟨⟨above.length + 1, 0⟩, 0, Glyph.ofLines below⟩ := by
  cases below with
  | nil => exact .atEnd (by simp) rfl rfl
  | cons line below => exact .onLine above [] line below rfl rfl rfl (Glyph.ofLines_cons line below)

theorem standsIn_start (lines : List (List Char)) : StandsIn lines (start lines) :=
  standsIn_lineStart [] lines

theorem StandsIn.advance {lines : List (List Char)} {cursor : Cursor}
    (stands : cursor.StandsIn lines) : cursor.advance.StandsIn lines := by
  obtain ⟨position, offset, rest⟩ := cursor
  cases stands with
  | onLine above before behind below split place bytes glyphs =>
    subst split place bytes glyphs
    cases behind with
    | nil =>
      have next := standsIn_lineStart (above ++ [before]) below
      simpa [Cursor.advance] using next
    | cons c behind =>
      refine .onLine above (before ++ [c]) behind below (by simp) ?_ ?_ rfl
      · simp [Cursor.advance]
      · simp [Cursor.advance, utf8Length]
  | atEnd place bytes glyphs =>
    subst place bytes glyphs
    exact .atEnd rfl rfl rfl

theorem StandsIn.skip {lines : List (List Char)} {cursor : Cursor}
    (stands : cursor.StandsIn lines) (count : Nat) : (cursor.skip count).StandsIn lines := by
  induction count generalizing cursor with
  | zero => exact stands
  | succ count ih => exact ih stands.advance

/-- A cursor before a character stands on a line, and the characters from its column on are those
    that it has still to read there. -/
theorem StandsIn.line_of_char {lines : List (List Char)} {cursor : Cursor}
    (stands : cursor.StandsIn lines) {c : Char} {rest : List Glyph}
    (here : cursor.rest = .char c :: rest) :
    ∃ above before below, lines = above ++ (before ++ c :: Glyph.lineText rest) :: below ∧
      cursor.position = ⟨above.length + 1, before.length⟩ := by
  cases stands with
  | onLine above before behind below split place bytes glyphs =>
    rw [here] at glyphs
    cases behind with
    | nil => cases glyphs
    | cons d behind =>
      obtain ⟨rfl, rfl⟩ : c = d ∧ rest = behind.map .char ++ .lineEnd :: Glyph.ofLines below := by
        simpa using glyphs
      exact ⟨above, before, below, by simpa using split, place⟩
  | atEnd place bytes glyphs =>
    rw [here] at glyphs
    cases glyphs

end Cursor

end PascalLint
