import Mathlib.Data.List.Induction
import PascalLint.Proofs.BoundedText
import PascalLint.Proofs.Place
import PascalLint.Source

/-! # Cursors with bounded access

A cursor as three numbers: a line, a column and a byte offset. What it sees is looked up in the lines,
where the line before the first one and an offset inside a character are faults. It follows the cursor
that has the glyphs beside it step by step (`Bounded.walk_eq`), because that one keeps to the places in
the lines (`Cursor.StandsIn`).
-/

namespace PascalLint

theorem Cursor.utf8Length_eq (text : List Char) :
    utf8Length text = (String.ofList text).utf8ByteSize := by
  induction text using List.reverseRecOn with
  | nil => rfl
  | append_singleton text c ih =>
    have more : utf8Length (text ++ [c]) = utf8Length text + c.utf8Size := by simp [utf8Length]
    rw [more, ih, String.ofList_append, String.utf8ByteSize_append]
    simp

theorem Cursor.utf8Length_cons (c : Char) (text : List Char) :
    utf8Length (c :: text) = c.utf8Size + utf8Length text := by
  rw [utf8Length_eq, utf8Length_eq, String.ofList_cons, String.utf8ByteSize_append,
    String.utf8ByteSize_singleton]

namespace Bounded

/-! ## Places -/

/-- A line, a column and the byte offset of the column on the line. -/
structure Place where
  position : Position
  offset : Nat
deriving DecidableEq, Repr

/-- The place that a cursor keeps beside its glyphs. -/
def placeOf (cursor : Cursor) : Place :=
  ⟨cursor.position, cursor.offset⟩

/-- The text from a byte offset on. -/
def textFrom : List Char → Nat → Bounded (List Char)
  | text, 0 => pure text
  | [], offset + 1 => throw (.boundary (offset + 1))
  | c :: rest, offset + 1 =>
    if c.utf8Size ≤ offset + 1 then textFrom rest (offset + 1 - c.utf8Size)
    else throw (.boundary (offset + 1))

/-- The glyph at a place in the lines; none behind all of them. -/
def look (lines : List (List Char)) (place : Place) : Bounded (Option Glyph) := do
  match lines[← pred place.position.line]? with
  | none => return none
  | some text =>
    match ← textFrom text place.offset with
    | c :: _ => return some (.char c)
    | [] => return some .lineEnd

/-- The place behind the glyph at a place. At the end of the input it is the same one. -/
def pass (lines : List (List Char)) (place : Place) : Bounded Place := do
  match ← look lines place with
  | none => return place
  | some (.char c) =>
    return ⟨⟨place.position.line, place.position.column + 1⟩, place.offset + c.utf8Size⟩
  | some .lineEnd => return ⟨⟨place.position.line + 1, 0⟩, 0⟩

/-- The place behind the first `count` glyphs of the lines. -/
def walk (lines : List (List Char)) : Nat → Bounded Place
  | 0 => return ⟨⟨1, 0⟩, 0⟩
  | count + 1 => do pass lines (← walk lines count)

theorem textFrom_append (before behind : List Char) :
    textFrom (before ++ behind) (Cursor.utf8Length before) = pure behind := by
  induction before with
  | nil =>
    unfold textFrom
    rfl
  | cons c before ih =>
    -- Every character takes a byte at least, so the offset behind it is not the one before it.
    obtain ⟨size, more⟩ := Nat.exists_eq_succ_of_ne_zero (Nat.ne_of_gt c.utf8Size_pos)
    have offset : Cursor.utf8Length (c :: before) = size + Cursor.utf8Length before + 1 := by
      rw [Cursor.utf8Length_cons]
      omega
    have left : size + Cursor.utf8Length before + 1 - c.utf8Size = Cursor.utf8Length before := by
      omega
    rw [offset, List.cons_append, textFrom, if_pos (by omega), left, ih]

/-- The glyph at the place of a cursor that stands in the lines is the one that the cursor is at. -/
theorem look_eq {lines : List (List Char)} {cursor : Cursor} (stands : cursor.StandsIn lines) :
    look lines (placeOf cursor) = pure cursor.current := by
  obtain ⟨position, offset, rest⟩ := cursor
  cases stands with
  | onLine above before behind below split place bytes glyphs =>
    subst split place bytes glyphs
    have here : (above ++ (before ++ behind) :: below)[above.length]? = some (before ++ behind) := by
      simp
    simp only [look, placeOf, pred, pure_bind, here, textFrom_append]
    cases behind <;> rfl
  | atEnd place bytes glyphs =>
    subst place bytes glyphs
    have past : lines[lines.length]? = none := List.getElem?_eq_none (Nat.le_refl _)
    simp only [look, placeOf, pred, pure_bind, past]
    rfl

theorem pass_eq {lines : List (List Char)} {cursor : Cursor} (stands : cursor.StandsIn lines) :
    pass lines (placeOf cursor) = pure (placeOf cursor.advance) := by
  rw [pass, look_eq stands, pure_bind]
  obtain ⟨position, offset, rest⟩ := cursor
  match rest with
  | [] => rfl
  | .char c :: rest => rfl
  | .lineEnd :: rest => rfl

theorem walk_eq (lines : List (List Char)) (count : Nat) :
    walk lines count = pure (placeOf ((Cursor.start lines).skip count)) := by
  induction count with
  | zero => rfl
  | succ count ih =>
    rw [walk, ih, pure_bind, pass_eq ((Cursor.standsIn_start lines).skip count), Cursor.skip_add]
    rfl

theorem one_le_line {lines : List (List Char)} {cursor : Cursor} (stands : cursor.StandsIn lines) :
    1 ≤ cursor.position.line := by
  cases stands with
  | onLine above before behind below split place => exact place ▸ Nat.succ_pos _
  | atEnd place => exact place ▸ Nat.succ_pos _

/-- The offset of a cursor that stands in the lines is the boundary of a character on its line. -/
theorem isValid_offset {source : Source} {cursor : Cursor} (stands : cursor.StandsIn source.lines)
    {text : List Char} (here : source.line? cursor.position.line = some text) :
    String.Pos.Raw.IsValid (String.ofList text) ⟨cursor.offset⟩ := by
  cases stands with
  | onLine above before behind below split place bytes glyphs =>
    rw [place, source.line?_of_split split] at here
    obtain rfl : before ++ behind = text := Option.some.inj here
    refine String.Pos.Raw.isValid_iff_exists_append.mpr
      ⟨String.ofList before, String.ofList behind, String.ofList_append, ?_⟩
    rw [bytes, Cursor.utf8Length_eq]
    exact String.Pos.Raw.ext String.byteIdx_rawEndPos.symm
  | atEnd place bytes glyphs =>
    rw [place, source.line?_below] at here
    cases here

end Bounded

end PascalLint
