import PascalLint.Pattern.Fault
import PascalLint.Unicode.WhiteSpace

/-! # Reading patterns

What is still to be read of a written pattern, and where in the pattern that is. A pattern may be
written in verbose form, in which white space and comments stand for nothing.
-/

namespace PascalLint.Pattern

/-- What is still to be read of a pattern, and the place of the first character of it. -/
structure Input where
  rest : List Char
  place : Position
deriving Repr

/-- The place behind a character. -/
def placeAfter (place : Position) (c : Char) : Position :=
  if c == '\n' then ⟨place.line + 1, 0⟩ else ⟨place.line, place.column + 1⟩

/-- What is behind white space and comments. The flag says that it begins inside a comment. -/
def skipBlanks (inComment : Bool) : List Char → Position → Input
  | [], place => ⟨[], place⟩
  | c :: rest, place =>
    if inComment then skipBlanks (c != '\n') rest (placeAfter place c)
    else if c == '#' then skipBlanks true rest (placeAfter place c)
    else if Unicode.isWhiteSpace c then skipBlanks false rest (placeAfter place c)
    else ⟨c :: rest, place⟩

theorem length_skipBlanks_le (inComment : Bool) (rest : List Char) (place : Position) :
    (skipBlanks inComment rest place).rest.length ≤ rest.length := by
  induction rest generalizing inComment place with
  | nil => simp [skipBlanks]
  | cons c rest ih =>
    simp only [skipBlanks, List.length_cons]
    split
    · exact Nat.le_succ_of_le (ih ..)
    · split
      · exact Nat.le_succ_of_le (ih ..)
      · split
        · exact Nat.le_succ_of_le (ih ..)
        · simp

namespace Input

/-- A whole pattern. -/
def ofText (text : List Char) : Input := ⟨text, ⟨1, 0⟩⟩

/-- What is behind the first character. -/
def advance (input : Input) : Input :=
  match input.rest with
  | [] => input
  | c :: rest => ⟨rest, placeAfter input.place c⟩

/-- What is behind white space and comments, if they stand for nothing. -/
def skip (verbose : Bool) (input : Input) : Input :=
  if verbose then skipBlanks false input.rest input.place else input

/-- What is behind the first character and what stands for nothing. -/
def next (verbose : Bool) (input : Input) : Input :=
  input.advance.skip verbose

/-- What is behind a word, if that is at the front. -/
def after? (word : List Char) (input : Input) : Option Input :=
  match word with
  | [] => some input
  | c :: word => if input.rest.head? == some c then input.advance.after? word else none

/-- The stretch of the first character. -/
def here (input : Input) : Span := ⟨input.place, input.advance.place⟩

/-- The stretch without characters at the front. -/
def nowhere (input : Input) : Span := ⟨input.place, input.place⟩

/-- The stretch from a place to the front. -/
def since (input : Input) (first : Position) : Span := ⟨first, input.place⟩

theorem length_skip_le (verbose : Bool) (input : Input) :
    (input.skip verbose).rest.length ≤ input.rest.length := by
  unfold skip
  split
  · exact length_skipBlanks_le ..
  · exact Nat.le_refl _

theorem length_advance {input : Input} {c : Char} {rest : List Char}
    (found : input.rest = c :: rest) : input.advance.rest = rest := by
  simp [advance, found]

theorem length_next_lt (verbose : Bool) {input : Input} {c : Char} {rest : List Char}
    (found : input.rest = c :: rest) :
    (input.next verbose).rest.length < input.rest.length := by
  have bound := length_skip_le verbose input.advance
  rw [length_advance found] at bound
  rw [found, List.length_cons]
  exact Nat.lt_succ_of_le bound

/-- The characters at the front that are of a kind, and what is behind them. -/
def collect (verbose : Bool) (kind : Char → Bool) (input : Input) : List Char × Input :=
  match _found : input.rest with
  | [] => ([], input)
  | c :: _ =>
    if kind c then
      let (more, behind) := (input.next verbose).collect verbose kind
      (c :: more, behind)
    else ([], input)
termination_by input.rest.length
decreasing_by exact length_next_lt verbose _found

end Input

/-- A fault at a stretch. -/
def faultAt {α : Type} (kind : FaultKind) (span : Span) : Except Fault α :=
  .error ⟨kind, span, none⟩

end PascalLint.Pattern
