import PascalLint.Diagnostic
import PascalLint.Lexeme
import PascalLint.Trivia

/-! # Scanning

A scanner reads tokens off a cursor: it skips the trivia, reads a lexeme, and goes on behind it.
Past the last token it gives the end token again and again; the stream of tokens ends with the
first of these.
-/

namespace PascalLint

/-- A token with the position where it begins, the number of characters that it takes up, and the
    diagnostic for its flaw. -/
structure Scanned where
  position : Position
  token : Token
  size : Nat
  diagnostic : Option Diagnostic
deriving DecidableEq, Repr

/-- A place in a source, and the dialect that it is read in. -/
structure Scanner where
  dialect : Dialect
  cursor : Cursor

namespace Scanner

/-- The scanner at the start of the lines. -/
def start (dialect : Dialect) (lines : List (List Char)) : Scanner :=
  ⟨dialect, .start lines⟩

/-- Holds if all glyphs have been read. -/
def atEnd (scanner : Scanner) : Bool :=
  scanner.cursor.atEnd

/-- The scanner before the next token. -/
def skipTrivia (scanner : Scanner) : Scanner :=
  { scanner with cursor := scanner.cursor.skip (Trivia.size scanner.cursor.rest) }

/-- The token at the scanner, which stands before it, and the scanner behind the token. -/
def read (scanner : Scanner) : Scanned × Scanner :=
  let position := scanner.cursor.position
  match scanner.cursor.rest with
  | .char c :: rest =>
    let lexeme := Lexeme.read scanner.dialect c (Glyph.lineText rest)
    let diagnostic := lexeme.flaw.map fun (defect, distance) =>
      ⟨⟨position.line, position.column + distance⟩, defect⟩
    (⟨position, lexeme.token, lexeme.size, diagnostic⟩,
      { scanner with cursor := scanner.cursor.skip lexeme.size })
  | _ => (⟨position, .endOfInput, 0, none⟩, scanner)

/-- The next token and the scanner behind it. -/
def next (scanner : Scanner) : Scanned × Scanner :=
  scanner.skipTrivia.read

theorem rest_skipTrivia (scanner : Scanner) :
    scanner.skipTrivia.cursor.rest = scanner.cursor.rest.drop (Trivia.size scanner.cursor.rest) :=
  scanner.cursor.rest_skip _

theorem read_skips (scanner : Scanner) :
    ∃ count, scanner.read.2 = ⟨scanner.dialect, scanner.cursor.skip count⟩ := by
  unfold read
  split
  · exact ⟨_, rfl⟩
  · exact ⟨0, rfl⟩

theorem next_skips (scanner : Scanner) :
    ∃ count, scanner.next.2 = ⟨scanner.dialect, scanner.cursor.skip count⟩ := by
  obtain ⟨count, same⟩ := scanner.skipTrivia.read_skips
  refine ⟨Trivia.size scanner.cursor.rest + count, ?_⟩
  rw [next, same, Cursor.skip_add]
  rfl

/-- Before the end of the input, a character follows the trivia. -/
theorem exists_char_of_more {scanner : Scanner} (more : scanner.skipTrivia.atEnd = false) :
    ∃ c rest, scanner.skipTrivia.cursor.rest = .char c :: rest := by
  match glyphs : scanner.skipTrivia.cursor.rest with
  | [] => simp [atEnd, Cursor.atEnd, glyphs] at more
  | .lineEnd :: rest =>
    rw [rest_skipTrivia] at glyphs
    exact absurd glyphs (Trivia.drop_size_ne_lineEnd _ _)
  | .char c :: rest => exact ⟨c, rest, rfl⟩

/-- The number of glyphs that are still to be read. -/
def remaining (scanner : Scanner) : Nat :=
  scanner.cursor.rest.length

theorem remaining_next_lt {scanner : Scanner} (more : scanner.skipTrivia.atEnd = false) :
    scanner.next.2.remaining < scanner.remaining := by
  have after : scanner.skipTrivia.remaining ≤ scanner.remaining := by
    simp [skipTrivia, remaining]
  obtain ⟨c, rest, glyphs⟩ := exists_char_of_more more
  have positive := Lexeme.size_read_pos scanner.skipTrivia.dialect c (Glyph.lineText rest)
  refine Nat.lt_of_lt_of_le ?_ after
  simp only [next, read, remaining, glyphs, Cursor.rest_skip, List.length_drop, List.length_cons]
  omega

/-- The tokens from the scanner on, with the end token last. -/
def tokens (scanner : Scanner) : List Scanned :=
  if _ : scanner.skipTrivia.atEnd then [scanner.next.1]
  else scanner.next.1 :: scanner.next.2.tokens
termination_by scanner.remaining
decreasing_by
  rename_i more
  exact remaining_next_lt (by simpa using more)

end Scanner

/-- The tokens of the lines, with the end token last. -/
def scan (dialect : Dialect) (lines : List (List Char)) : List Scanned :=
  (Scanner.start dialect lines).tokens

/-- The diagnostics of a list of tokens, in order. -/
def lexicalDiagnostics (tokens : List Scanned) : List Diagnostic :=
  tokens.filterMap (·.diagnostic)

end PascalLint
