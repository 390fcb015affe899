import PascalLint.Proofs.LetterCase
import PascalLint.Proofs.TokenStream

/-! # Letter case and tokens

Comments and lexemes have the same lengths in whatever letter case they are written, and a lexeme is
the same token: integers and punctuators have no letters, what a character constant holds is not looked
at, and a word is looked up by its case folding. So a source in small letters has the tokens of the
source itself.
-/

namespace PascalLint

/-! ## Trivia -/

/-- The glyph in small letters. -/
def Glyph.lower : Glyph → Glyph
  | char c => char c.toLower
  | lineEnd => lineEnd

namespace Glyph

theorem ofLines_lower (lines : List (List Char)) :
    ofLines (lines.map Text.lower) = (ofLines lines).map lower := by
  induction lines with
  | nil => rfl
  | cons line lines ih => simp [ih, Text.lower, lower, Function.comp_def]

theorem lineText_lower (glyphs : List Glyph) :
    lineText (glyphs.map lower) = Text.lower (lineText glyphs) := by
  fun_induction lineText glyphs with
  | case1 c rest ih => simp [lower, lineText, ih]
  | case2 glyphs ended =>
    cases glyphs with
    | nil => rfl
    | cons glyph rest =>
      cases glyph with
      | lineEnd => rfl
      | char c => exact absurd rfl (ended c rest)

theorem lower_eq_char_iff {glyph : Glyph} {mark : Char} (plain : mark.isAlpha = false) :
    glyph.lower = char mark ↔ glyph = char mark := by
  cases glyph with
  | char c => simp [lower, Letter.toLower_eq_iff plain]
  | lineEnd => simp [lower]

theorem front_of_map_lower {glyphs tail : List Glyph} {mark : Char} (plain : mark.isAlpha = false)
    (front : glyphs.map lower = char mark :: tail) :
    ∃ behind, glyphs = char mark :: behind ∧ behind.map lower = tail := by
  obtain ⟨glyph, behind, rfl, same, later⟩ := List.map_eq_cons_iff.mp front
  exact ⟨behind, by rw [(lower_eq_char_iff plain).mp same], later⟩

end Glyph

namespace Trivia

theorem throughBrace_lower (glyphs : List Glyph) :
    throughBrace (glyphs.map Glyph.lower) = throughBrace glyphs := by
  fun_induction throughBrace glyphs with
  | case1 => rfl
  | case2 rest => rfl
  | case3 glyph rest other ih =>
    rw [List.map_cons, throughBrace, ih]
    rwa [Glyph.lower_eq_char_iff (by decide)]

theorem throughStarParen_lower (glyphs : List Glyph) :
    throughStarParen (glyphs.map Glyph.lower) = throughStarParen glyphs := by
  fun_induction throughStarParen glyphs with
  | case1 => rfl
  | case2 rest => rfl
  | case3 glyph rest other ih =>
    rw [List.map_cons, throughStarParen, ih]
    intro tail star paren
    obtain ⟨behind, closer, -⟩ := Glyph.front_of_map_lower (by decide) paren
    exact other behind ((Glyph.lower_eq_char_iff (by decide)).mp star) closer

theorem commentSize_lower (glyphs : List Glyph) :
    commentSize (glyphs.map Glyph.lower) = commentSize glyphs := by
  fun_cases commentSize glyphs with
  | case1 rest => exact congrArg (· + 1) (throughBrace_lower rest)
  | case2 rest => exact congrArg (· + 2) (throughStarParen_lower rest)
  | case3 rest =>
    have length := congrArg List.length (Glyph.lineText_lower rest)
    rw [Text.length_lower] at length
    exact congrArg (· + 2) length
  | case4 glyphs brace paren slashes =>
    -- A mark in the small form is a mark in the text, so no comment begins there either.
    rw [commentSize]
    · intro tail opener
      obtain ⟨rest, same, -⟩ := Glyph.front_of_map_lower (by decide) opener
      exact brace rest same
    · intro tail opener
      obtain ⟨behind, rfl, later⟩ := Glyph.front_of_map_lower (by decide) opener
      obtain ⟨rest, rfl, -⟩ := Glyph.front_of_map_lower (by decide) later
      exact paren rest rfl
    · intro tail opener
      obtain ⟨behind, rfl, later⟩ := Glyph.front_of_map_lower (by decide) opener
      obtain ⟨rest, rfl, -⟩ := Glyph.front_of_map_lower (by decide) later
      exact slashes rest rfl

theorem size_lower (glyphs : List Glyph) : size (glyphs.map Glyph.lower) = size glyphs := by
  fun_induction size glyphs with
  | case1 => exact size_nil
  | case2 below ih => simp [Glyph.lower, ih]
  | case3 c below white ih => simp [Glyph.lower, size, white, ih]
  | case4 c below white none =>
    have comment := commentSize_lower (.char c :: below)
    rw [List.map_cons, Glyph.lower, none] at comment
    rw [List.map_cons, Glyph.lower, size, Letter.isWhiteSpace_toLower, if_neg white, comment]
  | case5 c below white length found ih =>
    have comment := commentSize_lower (.char c :: below)
    rw [List.map_cons, Glyph.lower, found] at comment
    rw [List.map_cons, Glyph.lower, size, Letter.isWhiteSpace_toLower, if_neg white, comment]
    simp only [← List.map_drop, ih]

end Trivia

/-! ## Lexemes -/

namespace Letter

theorem toLower_of_isDigit {c : Char} (digit : c.isDigit = true) : c.toLower = c := by
  have same := apply_toLower (fun c => if c.isDigit then some c else none) (by decide) c
  simpa [digit] using same

end Letter

theorem Text.lower_of_isDigit {text : List Char} (digits : ∀ c ∈ text, c.isDigit = true) :
    lower text = text := by
  induction text with
  | nil => rfl
  | cons c text ih =>
    obtain ⟨first, others⟩ := List.forall_mem_cons.mp digits
    rw [lower_cons, Letter.toLower_of_isDigit first, ih others]

theorem Reserved.lookup?_lower (dialect : Dialect) (name : List Char) :
    lookup? dialect (Text.lower name) = lookup? dialect name := by
  simp only [lookup?, Text.foldCaseText_lower]

theorem Punct.isAlpha_of_mem_spelling {p : Punct} {c : Char} (found : c ∈ p.spelling) :
    c.isAlpha = false := by
  have plain : p.spelling.any Char.isAlpha = false := by cases p <;> decide
  simpa using List.any_eq_false.mp plain c found

theorem BeginsNoToken.lower {c : Char} (none : BeginsNoToken c) : BeginsNoToken c.toLower where
  digit := by rw [Letter.isDigit_toLower, none.digit]
  quote := by
    rw [Ne, Letter.toLower_eq_iff (by decide)]
    exact none.quote
  start := by rw [Letter.mayStart_toLower, none.start]
  punct p found := by
    have plain := Punct.isAlpha_of_mem_spelling found
    rw [(Letter.toLower_eq_iff plain).mp rfl] at none
    exact none.punct p found

namespace Lexeme

theorem character_lower (rest : List Char) : character (Text.lower rest) = character rest := by
  fun_cases character rest with
  | case1 => rfl
  | case2 c below => rfl
  | case3 c rest other skipped quote =>
    have quoteless : (Text.lower rest).takeWhile (· != '\'') = Text.lower skipped :=
      Text.lower_takeWhile rest fun d => by rw [bne, Letter.beq_toLower (by decide), bne]
    rw [Text.lower_cons, character]
    · simp only [quoteless, Text.length_lower, skipped, quote]
    · intro tail closed
      cases rest with
      | nil => cases closed
      | cons d rest =>
        obtain ⟨same, -⟩ := List.cons.inj closed
        exact other rest (by rw [(Letter.toLower_eq_iff (by decide)).mp same])

theorem word_lower (dialect : Dialect) (characters : List Char) :
    word dialect (Text.lower characters) = word dialect characters := by
  simp only [word, Reserved.lookup?_lower, Text.length_lower]

theorem Reads.lower {dialect : Dialect} {c : Char} {rest : List Char} {lexeme : Lexeme}
    (reads : Reads dialect c rest lexeme) :
    Reads dialect c.toLower (Text.lower rest) lexeme := by
  cases reads with
  | integer digit =>
    have digits : ∀ d ∈ rest.takeWhile Char.isDigit, d.isDigit = true :=
      List.all_eq_true.mp List.all_takeWhile
    have same := Text.lower_takeWhile rest Letter.isDigit_toLower
    rw [Text.lower_of_isDigit digits] at same
    rw [← same, Letter.toLower_of_isDigit digit]
    exact .integer digit
  | character quote =>
    rw [← character_lower]
    exact .character (by rw [quote]; rfl)
  | word start =>
    rw [← word_lower, Text.lower_cons, ← Text.run_lower]
    exact .word (by rwa [Letter.mayStart_toLower])
  | @pair p second spelled next =>
    have plain : ∀ d ∈ [c, second], d.isAlpha = false := fun d found =>
      Punct.isAlpha_of_mem_spelling (by rwa [spelled])
    simp only [List.forall_mem_cons] at plain
    rw [(Letter.toLower_eq_iff plain.1).mpr rfl]
    exact .pair spelled ((Text.head?_lower_iff plain.2.1).mpr next)
  | @single p spelled alone =>
    have plain : c.isAlpha = false := Punct.isAlpha_of_mem_spelling (p := p) (by simp [spelled])
    rw [(Letter.toLower_eq_iff plain).mpr rfl]
    refine .single spelled fun q second pair next => alone q second pair ?_
    have other : second.isAlpha = false := Punct.isAlpha_of_mem_spelling (p := q) (by simp [pair])
    exact (Text.head?_lower_iff other).mp next
  | unknown none => exact .unknown none.lower

theorem read_lower (dialect : Dialect) (c : Char) (rest : List Char) :
    read dialect c.toLower (Text.lower rest) = read dialect c rest :=
  (eq_read_of_reads (reads_read dialect c rest).lower).symm

end Lexeme

/-! ## The stream of tokens -/

/-- The cursor at the same place of the source in small letters. -/
def Cursor.lower (cursor : Cursor) : Cursor :=
  { cursor with rest := cursor.rest.map Glyph.lower }

namespace Cursor

theorem advance_lower (cursor : Cursor) : cursor.lower.advance = cursor.advance.lower := by
  obtain ⟨position, offset, rest⟩ := cursor
  match rest with
  | [] => rfl
  | .lineEnd :: rest => rfl
  | .char c :: rest => simp [lower, advance, Glyph.lower]

theorem skip_lower (cursor : Cursor) (count : Nat) :
    cursor.lower.skip count = (cursor.skip count).lower := by
  induction count generalizing cursor with
  | zero => rfl
  | succ count ih => rw [skip, advance_lower, ih, skip]

end Cursor

/-- The scanner at the same place of the source in small letters. -/
def Scanner.lower (scanner : Scanner) : Scanner :=
  ⟨scanner.dialect, scanner.cursor.lower⟩

namespace Scanner

theorem skipTrivia_lower (scanner : Scanner) :
    scanner.lower.skipTrivia = scanner.skipTrivia.lower := by
  have size : Trivia.size scanner.cursor.lower.rest = Trivia.size scanner.cursor.rest :=
    Trivia.size_lower scanner.cursor.rest
  simp only [skipTrivia, lower, Cursor.skip_lower, size]

theorem read_lower (scanner : Scanner) :
    scanner.lower.read = (scanner.read.1, scanner.read.2.lower) := by
  obtain ⟨dialect, position, offset, rest⟩ := scanner
  match rest with
  | [] => rfl
  | .lineEnd :: rest => rfl
  | .char c :: rest =>
    have same := Lexeme.read_lower dialect c (Glyph.lineText rest)
    rw [← Glyph.lineText_lower] at same
    have behind := Cursor.skip_lower ⟨position, offset, .char c :: rest⟩
      (Lexeme.read dialect c (Glyph.lineText rest)).size
    simp only [lower, Cursor.lower, read, List.map_cons, Glyph.lower, same] at behind ⊢
    rw [behind]

theorem next_lower (scanner : Scanner) :
    scanner.lower.next = (scanner.next.1, scanner.next.2.lower) := by
  rw [next, skipTrivia_lower, read_lower, next]

theorem tokens_lower (scanner : Scanner) : scanner.lower.tokens = scanner.tokens := by
  have ended (scanner : Scanner) : scanner.lower.skipTrivia.atEnd = scanner.skipTrivia.atEnd := by
    rw [skipTrivia_lower]
    simp [atEnd, Cursor.atEnd, lower, Cursor.lower]
  have same : scanner.lower.tokens = scanner.tokens.map id := tokens_map ended next_lower scanner
  rw [same, List.map_id]

end Scanner

theorem scan_lower (dialect : Dialect) (lines : List (List Char)) :
    scan dialect (lines.map Text.lower) = scan dialect lines := by
  have start : Scanner.start dialect (lines.map Text.lower) = (Scanner.start dialect lines).lower := by
    simp only [Scanner.start, Cursor.start, Glyph.ofLines_lower, Scanner.lower, Cursor.lower]
  rw [scan, start, Scanner.tokens_lower, scan]

end PascalLint
