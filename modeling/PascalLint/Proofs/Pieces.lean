import PascalLint.Proofs.Gap
import PascalLint.Proofs.Place
import PascalLint.Proofs.TokenGrammar
import PascalLint.Scanner

/-! # Scanning loses nothing

The glyphs that a scanner passes over come in pieces, one for each token: the gap before the token
and its lexeme. The pieces make up the whole stream (`Scanner.pieces_reading`), every gap is one, and
every lexeme has the form of its token and is not the front of a longer one.
-/

namespace PascalLint

open PascalLint.Identifier (mayStart mayContinue)

/-! ## Lexemes of tokens -/

/-- The text is an identifier, and it does not go on in what follows it. -/
structure FitsWord (text following : List Char) : Prop where
  starts : ∃ c, text.head? = some c ∧ mayStart c = true
  inside : ∀ c ∈ text, mayContinue c = true
  ends : ∀ c, following.head? = some c → mayContinue c = false

/-- What is read as a character constant: one character and a quote behind the first quote, or else
    all up to the next quote behind that character, or the rest of the line. -/
def FitsCharacter (text following : List Char) : Prop :=
  (text = ['\''] ∧ following = []) ∨
    ∃ c body, '\'' ∉ body ∧
      (text = '\'' :: c :: body ++ ['\''] ∨ text = '\'' :: c :: body ∧ following = [])

/-- The text is a lexeme of the token before what follows on its line. -/
def Token.Fits (dialect : Dialect) (text following : List Char) : Token → Prop
  | name => FitsWord text following ∧ Reserved.lookup? dialect text = none
  | reserved word => FitsWord text following ∧ Reserved.lookup? dialect text = some word
  | integer =>
    text ≠ [] ∧ (∀ c ∈ text, c.isDigit = true) ∧
      ∀ c, following.head? = some c → c.isDigit = false
  | character => FitsCharacter text following
  | punct p =>
    text = p.spelling ∧
      ∀ q : Punct, p.spelling.length < q.spelling.length → ¬q.spelling <+: text ++ following
  | endOfInput => ∃ c, text = [c] ∧ BeginsNoToken c

/-- A punctuator has one character or two. -/
theorem Punct.spelling_cases (p : Punct) :
    (∃ c, p.spelling = [c]) ∨ ∃ first second, p.spelling = [first, second] := by
  cases p <;> first | exact .inl ⟨_, rfl⟩ | exact .inr ⟨_, _, rfl⟩

namespace Lexeme

variable {dialect : Dialect} {c : Char} {rest : List Char}

theorem fits_word (start : mayStart c = true) :
    ∃ text following, c :: rest = text ++ following ∧
      text.length = (word dialect (c :: Identifier.run rest)).size ∧
      (word dialect (c :: Identifier.run rest)).token.Fits dialect text following := by
  have fits : FitsWord (c :: Identifier.run rest) (rest.drop (Identifier.run rest).length) := by
    refine ⟨⟨c, rfl, start⟩, fun d found => ?_, Text.ends_of_drop_takeWhile mayContinue rest⟩
    rcases List.mem_cons.mp found with rfl | later
    · exact Identifier.mayContinue_of_mayStart start
    · exact List.all_eq_true.mp List.all_takeWhile d later
  refine ⟨c :: Identifier.run rest, rest.drop (Identifier.run rest).length, ?_, rfl, ?_⟩
  · rw [List.cons_append, Identifier.run, Text.takeWhile_append_drop]
  · unfold word
    split
    next reserved found => exact ⟨fits, found⟩
    next none => exact ⟨fits, none⟩

theorem fits_character :
    ∃ text following, '\'' :: rest = text ++ following ∧
      text.length = (character rest).size ∧
      (character rest).token.Fits dialect text following := by
  rcases character_cases rest with ⟨rfl, same⟩ | ⟨c, after, rfl, same⟩ |
    ⟨c, body, after, rfl, -, quotes, same⟩ | ⟨c, body, rfl, quotes, same⟩
  · rw [same]
    exact ⟨['\''], [], rfl, rfl, .inl ⟨rfl, rfl⟩⟩
  · rw [same]
    exact ⟨['\'', c, '\''], after, rfl, rfl, .inr ⟨c, [], by simp, .inl rfl⟩⟩
  · rw [same]
    exact ⟨'\'' :: c :: body ++ ['\''], after, by simp, by simp, .inr ⟨c, body, quotes, .inl rfl⟩⟩
  · rw [same]
    exact ⟨'\'' :: c :: body, [], by simp, by simp, .inr ⟨c, body, quotes, .inr ⟨rfl, rfl⟩⟩⟩

/-- The characters of a lexeme are those of its token, and those of no longer one. -/
theorem Reads.fits {lexeme : Lexeme} (reads : Reads dialect c rest lexeme) :
    ∃ text following, c :: rest = text ++ following ∧ text.length = lexeme.size ∧
      lexeme.token.Fits dialect text following := by
  cases reads with
  | integer digit =>
    refine ⟨c :: rest.takeWhile Char.isDigit, rest.drop (rest.takeWhile Char.isDigit).length, ?_, rfl,
      List.cons_ne_nil _ _, ?_, Text.ends_of_drop_takeWhile Char.isDigit rest⟩
    · rw [List.cons_append, Text.takeWhile_append_drop]
    · intro d found
      rcases List.mem_cons.mp found with rfl | later
      · exact digit
      · exact List.all_eq_true.mp List.all_takeWhile d later
  | character quote =>
    subst quote
    exact fits_character
  | word start => exact fits_word start
  | @pair p second spelled next =>
    obtain ⟨following, rfl⟩ := List.head?_eq_some_iff.mp next
    refine ⟨p.spelling, following, by simp [spelled], rfl, rfl, fun q longer found => ?_⟩
    rcases q.spelling_cases with ⟨d, single⟩ | ⟨first, second, double⟩
    · simp [spelled, single] at longer
    · simp [spelled, double] at longer
  | @single p spelled alone =>
    refine ⟨p.spelling, rest, by simp [spelled], rfl, rfl, fun q longer found => ?_⟩
    rcases q.spelling_cases with ⟨d, single⟩ | ⟨first, second, double⟩
    · simp [spelled, single] at longer
    · -- A longer one would have its second character next, and then it would have been read.
      rw [double, spelled] at found
      obtain ⟨rfl, behind⟩ := List.cons_prefix_cons.mp found
      obtain ⟨tail, same⟩ := behind
      exact alone q second double (List.head?_eq_some_iff.mpr ⟨tail, same.symm⟩)
  | unknown none => exact ⟨[c], rest, rfl, rfl, c, rfl, none⟩

end Lexeme

/-! ## Pieces -/

/-- The glyphs from a cursor up to a later one. -/
def Cursor.passed (cursor later : Cursor) : List Glyph :=
  cursor.rest.take (cursor.rest.length - later.rest.length)

theorem Cursor.passed_skip (cursor : Cursor) (count : Nat) :
    cursor.passed (cursor.skip count) = cursor.rest.take count := by
  rw [passed, rest_skip, List.length_drop]
  rcases Nat.le_total count cursor.rest.length with short | long
  · rw [Nat.sub_sub_self short]
  · rw [Nat.sub_eq_zero_of_le long, Nat.sub_zero, List.take_length, List.take_of_length_le long]

/-- A token with the glyphs before it that belong to no token, and its own. -/
structure Piece where
  gap : List Glyph
  lexeme : List Glyph
  scanned : Scanned

/-- The glyphs of a piece. -/
def Piece.glyphs (piece : Piece) : List Glyph :=
  piece.gap ++ piece.lexeme

namespace Scanner

/-- The piece of the next token: what the scanner passes over before the token, and from where the
    token begins to where the scanner goes on. -/
def piece (scanner : Scanner) : Piece where
  gap := scanner.cursor.passed scanner.skipTrivia.cursor
  lexeme := scanner.skipTrivia.cursor.passed scanner.next.2.cursor
  scanned := scanner.next.1

/-- The pieces from the scanner on, that of the end token last. -/
def pieces (scanner : Scanner) : List Piece :=
  if _ : scanner.skipTrivia.atEnd then [scanner.piece]
  else scanner.piece :: scanner.next.2.pieces
termination_by scanner.remaining
decreasing_by
  rename_i more
  exact remaining_next_lt (by simpa using more)

theorem map_scanned_pieces (scanner : Scanner) : scanner.pieces.map Piece.scanned = scanner.tokens := by
  fun_induction pieces scanner with
  | case1 scanner ended => rw [tokens, dif_pos ended]; rfl
  | case2 scanner more ih => rw [tokens, dif_neg more, List.map_cons, ih]; rfl

end Scanner

/-- The pieces of a source from a position on. -/
inductive Reading (dialect : Dialect) : Position → List Piece → Prop
  | last {position : Position} {piece : Piece} (gap : Gap True piece.gap) (nothing : piece.lexeme = [])
      (token : piece.scanned = ⟨position.behind piece.gap, .endOfInput, 0, none⟩) :
      Reading dialect position [piece]
  | token {position : Position} {piece : Piece} {text : List Char} {behind : List Piece}
      (gap : Gap False piece.gap) (lexeme : piece.lexeme = text.map .char) (nonempty : text ≠ [])
      (start : piece.scanned.position = position.behind piece.gap)
      (size : piece.scanned.size = text.length)
      (fits : piece.scanned.token.Fits dialect text
        (Glyph.lineText (behind.flatMap Piece.glyphs)))
      (rest : Reading dialect (position.behind piece.glyphs) behind) :
      Reading dialect position (piece :: behind)

namespace Scanner

theorem gap_piece (scanner : Scanner) :
    scanner.piece.gap = scanner.cursor.rest.take (Trivia.size scanner.cursor.rest) :=
  scanner.cursor.passed_skip _

theorem position_skipTrivia (scanner : Scanner) :
    scanner.skipTrivia.cursor.position = scanner.cursor.position.behind scanner.piece.gap := by
  rw [gap_piece]
  exact scanner.cursor.position_skip _

/-- The piece of the next token leads to where the scanner goes on. -/
theorem next_eq (scanner : Scanner) :
    ∃ count, scanner.next.2 = ⟨scanner.dialect, scanner.skipTrivia.cursor.skip count⟩ ∧
      scanner.piece.lexeme = scanner.skipTrivia.cursor.rest.take count := by
  obtain ⟨count, same⟩ := scanner.skipTrivia.read_skips
  refine ⟨count, same, ?_⟩
  rw [← Cursor.passed_skip, piece, next, same]

theorem glyphs_piece (scanner : Scanner) :
    scanner.piece.glyphs ++ scanner.next.2.cursor.rest = scanner.cursor.rest := by
  obtain ⟨count, same, lexeme⟩ := scanner.next_eq
  rw [Piece.glyphs, gap_piece, lexeme, same, Cursor.rest_skip, List.append_assoc,
    List.take_append_drop, rest_skipTrivia, List.take_append_drop]

theorem position_next (scanner : Scanner) :
    scanner.next.2.cursor.position = scanner.cursor.position.behind scanner.piece.glyphs := by
  obtain ⟨count, same, lexeme⟩ := scanner.next_eq
  rw [Piece.glyphs, Position.behind_append, ← position_skipTrivia, lexeme, same]
  exact Cursor.position_skip _ _

/-- A token other than the last takes up characters of a line, and they fit it. -/
theorem piece_fits {scanner : Scanner} (more : scanner.skipTrivia.atEnd = false) :
    ∃ text, scanner.piece.lexeme = text.map .char ∧ text ≠ [] ∧
      scanner.next.1.position = scanner.skipTrivia.cursor.position ∧
      scanner.next.1.size = text.length ∧
      scanner.next.1.token.Fits scanner.dialect text
        (Glyph.lineText scanner.next.2.cursor.rest) := by
  obtain ⟨c, rest, here⟩ := exists_char_of_more more
  obtain ⟨text, following, split, size, fits⟩ :=
    (Lexeme.reads_read scanner.dialect c (Glyph.lineText rest)).fits
  obtain ⟨behind, whole, stop⟩ := Glyph.eq_lineText_append rest
  -- The line at the token is the lexeme and what follows it, and then comes no character.
  have glyphs : scanner.skipTrivia.cursor.rest =
      text.map .char ++ (following.map .char ++ behind) := by
    rw [here, ← List.append_assoc, ← List.map_append, ← split, List.map_cons, List.cons_append,
      ← whole]
  have read : scanner.next.1.position = scanner.skipTrivia.cursor.position ∧
      scanner.next.1.size = text.length ∧ scanner.next.1.token.Fits scanner.dialect text following ∧
      scanner.next.2.cursor = scanner.skipTrivia.cursor.skip text.length := by
    rw [size]
    simp only [next, Scanner.read, here]
    exact ⟨trivial, rfl, fits, rfl⟩
  obtain ⟨start, taken, fits, cursor⟩ := read
  have length : (text.map Glyph.char).length = text.length := List.length_map _
  refine ⟨text, ?_, ?_, start, taken, ?_⟩
  · rw [piece, cursor, Cursor.passed_skip, glyphs, ← length, List.take_left]
  · rintro rfl
    have positive := Lexeme.size_read_pos scanner.dialect c (Glyph.lineText rest)
    rw [← size] at positive
    exact Nat.lt_irrefl 0 positive
  · rw [cursor, Cursor.rest_skip, glyphs, ← length, List.drop_left, Glyph.lineText_append stop]
    exact fits

theorem pieces_reading {scanner : Scanner} (ended : Glyph.Ended scanner.cursor.rest) :
    scanner.pieces.flatMap Piece.glyphs = scanner.cursor.rest ∧
      Reading scanner.dialect scanner.cursor.position scanner.pieces := by
  fun_induction pieces scanner with
  | case1 scanner finished =>
    have nothing : scanner.skipTrivia.cursor.rest = [] := by
      simpa [atEnd, Cursor.atEnd] using finished
    have read : scanner.next =
        (⟨scanner.skipTrivia.cursor.position, .endOfInput, 0, none⟩, scanner.skipTrivia) := by
      simp only [next, Scanner.read, nothing]
    constructor
    · have whole := scanner.glyphs_piece
      rw [read, nothing, List.append_nil] at whole
      rw [List.flatMap_singleton, whole]
    · refine .last ?_ ?_ ?_
      · rw [gap_piece]
        exact (Trivia.gap_take_size ended).mono fun _ => trivial
      · simp only [piece, Cursor.passed, nothing, List.take_nil]
      · rw [← position_skipTrivia]
        exact congrArg Prod.fst read
  | case2 scanner more ih =>
    have more : scanner.skipTrivia.atEnd = false := by simpa using more
    obtain ⟨count, next, -⟩ := scanner.next_eq
    have later : Glyph.Ended scanner.next.2.cursor.rest := by
      rw [next, Cursor.rest_skip, rest_skipTrivia, List.drop_drop]
      exact ended.drop _
    obtain ⟨whole, reading⟩ := ih later
    obtain ⟨text, lexeme, nonempty, start, size, fits⟩ := piece_fits more
    constructor
    · rw [List.flatMap_cons, whole, glyphs_piece]
    · refine .token ?_ lexeme nonempty ?_ size ?_ ?_
      · rw [gap_piece]
        -- A character follows the gap, so no comment in it is open.
        refine (Trivia.gap_take_size ended).mono fun nothing => ?_
        obtain ⟨c, rest, here⟩ := exists_char_of_more more
        rw [rest_skipTrivia, nothing] at here
        cases here
      · rw [← position_skipTrivia]
        exact start
      · rw [whole]
        exact fits
      · rw [← position_next]
        have dialect : scanner.next.2.dialect = scanner.dialect := by rw [next]
        rwa [dialect] at reading

end Scanner

/-- The tokens of a source with what stands between them make up the source, and they follow the
    grammar of gaps and tokens. -/
theorem scan_reading (dialect : Dialect) (lines : List (List Char)) :
    let pieces := (Scanner.start dialect lines).pieces
    pieces.map Piece.scanned = scan dialect lines ∧
      pieces.flatMap Piece.glyphs = Glyph.ofLines lines ∧ Reading dialect ⟨1, 0⟩ pieces :=
  ⟨Scanner.map_scanned_pieces _, Scanner.pieces_reading (Glyph.ended_ofLines lines)⟩

end PascalLint
