import PascalLint.Proofs.Comment
import PascalLint.Proofs.Place
import PascalLint.Proofs.TokenGrammar
import PascalLint.Scanner

/-! # Scanning a masked stream

`Masks` relates a stream of glyphs to the same stream with its comments and the contents of its
character constants blanked. The two have the same shape, so that a cursor comes to the same
positions in both. The scanner cannot tell them apart: it passes over as much before the next token,
reads the same token there, and is left with streams that are related again. Hence both give the
same tokens (`Scanner.Masked.tokens_eq`), which is a statement about the scanner alone.
-/

namespace PascalLint

open PascalLint.Unicode (isWhiteSpace)

namespace Glyph

/-- A space in place of a character; a line end stays one. -/
def blank : Glyph → Glyph
  | char _ => char ' '
  | lineEnd => lineEnd

theorem head?_lineText {glyphs : List Glyph} {c : Char} :
    (lineText glyphs).head? = some c ↔ glyphs.head? = some (char c) := by
  match glyphs with
  | [] => simp [lineText]
  | char d :: rest => simp [lineText]
  | lineEnd :: rest => simp [lineText]

end Glyph

/-! ## Masked streams -/

/-- The stream `masked` is the first stream with comments and the contents of character constants
    blanked. -/
inductive Masks : List Glyph → List Glyph → Prop
  | nil : Masks [] []
  | lineEnd {rest masked : List Glyph} (tail : Masks rest masked) :
      Masks (.lineEnd :: rest) (.lineEnd :: masked)
  | code {c : Char} {rest masked : List Glyph} (quote : c ≠ '\'')
      (plain : Trivia.commentSize (.char c :: rest) = 0) (tail : Masks rest masked) :
      Masks (.char c :: rest) (.char c :: masked)
  | constant {body : List Char} {rest masked : List Glyph} (nonempty : body ≠ [])
      (quotes : '\'' ∉ body) (tail : Masks rest masked) :
      Masks (('\'' :: body ++ ['\'']).map .char ++ rest)
        (('\'' :: Mask.blank body ++ ['\'']).map .char ++ masked)
  | comment {front rest masked : List Glyph} (nonempty : front ≠ [])
      (size : Trivia.commentSize (front ++ rest) = front.length) (tail : Masks rest masked) :
      Masks (front ++ rest) (front.map .blank ++ masked)

namespace Masks

variable {glyphs masked : List Glyph}

/-- The two streams have the same shape. -/
theorem map_blank (masks : Masks glyphs masked) :
    masked.map Glyph.blank = glyphs.map Glyph.blank := by
  induction masks with
  | nil => rfl
  | lineEnd _ ih => simp [ih]
  | code _ _ _ ih => simp [ih]
  | constant _ _ _ ih => simp [ih, Mask.blank, Glyph.blank, Function.comp_def, List.map_const']
  | comment _ _ _ ih =>
    have twice : Glyph.blank ∘ Glyph.blank = Glyph.blank := by
      funext glyph
      cases glyph <;> rfl
    simp [ih, twice]

theorem length_eq (masks : Masks glyphs masked) : masked.length = glyphs.length := by
  simpa using congrArg List.length masks.map_blank

end Masks

theorem Position.behind_map_blank (position : Position) (glyphs : List Glyph) :
    position.behind (glyphs.map .blank) = position.behind glyphs := by
  induction glyphs generalizing position with
  | nil => rfl
  | cons glyph glyphs ih => cases glyph <;> exact ih _

namespace Masks

variable {glyphs masked : List Glyph}

/-- As many glyphs of either stream lead to the same position. -/
theorem behind_take (masks : Masks glyphs masked) (position : Position) (count : Nat) :
    position.behind (masked.take count) = position.behind (glyphs.take count) := by
  rw [← Position.behind_map_blank, List.map_take, masks.map_blank, ← List.map_take,
    Position.behind_map_blank]

/-- A character that masking has left is the one of the first stream. -/
theorem head?_of_masked (masks : Masks glyphs masked) {c : Char} (visible : c ≠ ' ')
    (found : masked.head? = some (.char c)) : glyphs.head? = some (.char c) := by
  cases masks with
  | nil => cases found
  | lineEnd tail => cases found
  | code quote plain tail => exact found
  | constant nonempty quotes tail => exact found
  | comment nonempty size tail =>
    rename_i front rest below
    obtain ⟨glyph, front, rfl⟩ := List.exists_cons_of_ne_nil nonempty
    cases glyph with
    | char d =>
      obtain rfl : ' ' = c := by simpa [Glyph.blank] using found
      exact absurd rfl visible
    | lineEnd => simp [Glyph.blank] at found

/-- A character of the first stream that begins no literal is left by masking. -/
theorem tail_of_head? (masks : Masks glyphs masked) {c : Char}
    (literal : c ∉ ['\'', '/', '{', '(']) (found : glyphs.head? = some (.char c)) :
    masked.head? = some (.char c) ∧ Masks (glyphs.drop 1) (masked.drop 1) := by
  cases masks with
  | nil => cases found
  | lineEnd tail => cases found
  | code quote plain tail => exact ⟨found, tail⟩
  | constant nonempty quotes tail =>
    obtain rfl : '\'' = c := by simpa using found
    exact absurd (by decide) literal
  | comment nonempty size tail =>
    obtain ⟨d, below, same, opener⟩ := Trivia.head_of_comment nonempty size
    rw [same] at found
    obtain rfl : d = c := by simpa using found
    exact absurd (List.mem_cons_of_mem _ opener) literal

/-! ## Trivia -/

/-- Nothing but blanks stands in place of a comment. -/
theorem size_map_blank (front rest : List Glyph) :
    Trivia.size (front.map .blank ++ rest) = front.length + Trivia.size rest := by
  induction front with
  | nil => simp
  | cons glyph front ih =>
    have step : Trivia.size (glyph.blank :: (front.map .blank ++ rest)) =
        Trivia.size (front.map .blank ++ rest) + 1 := by
      cases glyph with
      | char c => exact Trivia.size_whiteSpace _ (by decide)
      | lineEnd => exact Trivia.size_lineEnd _
    rw [List.map_cons, List.cons_append, step, ih, List.length_cons]
    omega

/-- A comment in the masked stream is one in the first stream. -/
theorem commentSize_of_masked (masks : Masks glyphs masked) {c : Char}
    (plain : Trivia.commentSize (.char c :: glyphs) = 0) :
    Trivia.commentSize (.char c :: masked) = 0 := by
  rcases Trivia.commentSize_cases (.char c :: masked) with
    none | ⟨rest, same, -⟩ | ⟨style, rest, same, -⟩
  · exact none
  · obtain ⟨rfl, rfl⟩ : c = '/' ∧ masked = .char '/' :: rest := by simpa using same
    obtain ⟨below, rfl⟩ := List.head?_eq_some_iff.mp (masks.head?_of_masked (by decide) rfl)
    simp [Trivia.commentSize] at plain
  · cases style with
    | brace =>
      obtain ⟨rfl, -⟩ : c = '{' ∧ masked = rest := by simpa [CommentStyle.opener] using same
      simp [Trivia.commentSize] at plain
    | paren =>
      obtain ⟨rfl, rfl⟩ : c = '(' ∧ masked = .char '*' :: rest := by
        simpa [CommentStyle.opener] using same
      obtain ⟨below, rfl⟩ := List.head?_eq_some_iff.mp (masks.head?_of_masked (by decide) rfl)
      simp [Trivia.commentSize] at plain

/-- The scanner passes over as much of either stream before the next token, and the rests are
    related again. -/
theorem skip (masks : Masks glyphs masked) :
    Trivia.size masked = Trivia.size glyphs ∧
      Masks (glyphs.drop (Trivia.size glyphs)) (masked.drop (Trivia.size glyphs)) := by
  induction masks with
  | nil => simpa using Masks.nil
  | lineEnd tail ih => simpa using ih
  | @code c rest below quote plain tail ih =>
    cases white : isWhiteSpace c with
    | true =>
      rw [Trivia.size_whiteSpace _ white, Trivia.size_whiteSpace _ white]
      simpa using ih
    | false =>
      have none : Trivia.size (.char c :: rest) = 0 := Trivia.size_eq_zero_iff.mpr ⟨white, plain⟩
      have none' : Trivia.size (.char c :: below) = 0 :=
        Trivia.size_eq_zero_iff.mpr ⟨white, tail.commentSize_of_masked plain⟩
      rw [none, none']
      exact ⟨rfl, .code quote plain tail⟩
  | @constant body rest below nonempty quotes tail ih =>
    have none : ∀ behind : List Glyph, Trivia.size (.char '\'' :: behind) = 0 := fun behind =>
      Trivia.size_eq_zero_iff.mpr ⟨by decide, by simp [Trivia.commentSize]⟩
    simp only [List.cons_append, List.map_cons, none]
    exact ⟨trivial, .constant nonempty quotes tail⟩
  | @comment front rest below nonempty size tail ih =>
    rw [Trivia.size_comment nonempty size, size_map_blank, ih.1]
    refine ⟨rfl, ?_⟩
    rw [List.drop_length_add_append, ← List.length_map Glyph.blank, List.drop_length_add_append]
    exact ih.2

/-! ## Lexemes -/

/-- A run of characters of which none begins a literal is the same in either stream. -/
theorem takeWhile (masks : Masks glyphs masked) {p : Char → Bool}
    (stops : ∀ c ∈ [' ', '\'', '/', '{', '('], p c = false) :
    (Glyph.lineText masked).takeWhile p = (Glyph.lineText glyphs).takeWhile p ∧
      Masks (glyphs.drop ((Glyph.lineText glyphs).takeWhile p).length)
        (masked.drop ((Glyph.lineText glyphs).takeWhile p).length) := by
  induction masks with
  | nil => exact ⟨rfl, .nil⟩
  | lineEnd tail ih => exact ⟨rfl, .lineEnd tail⟩
  | @code c rest below quote plain tail ih =>
    cases go : p c with
    | true => simpa [Glyph.lineText, go] using ih
    | false => simpa [Glyph.lineText, go] using Masks.code quote plain tail
  | @constant body rest below nonempty quotes tail ih =>
    have stop : p '\'' = false := stops _ (by decide)
    simpa [Glyph.lineText, stop] using Masks.constant nonempty quotes tail
  | @comment front rest below nonempty size tail ih =>
    obtain ⟨c, behind, same, opener⟩ := Trivia.head_of_comment nonempty size
    have stop : p c = false :=
      stops c (List.mem_cons_of_mem _ (List.mem_cons_of_mem _ opener))
    have space : p ' ' = false := stops _ (by decide)
    have first : front.map Glyph.blank ++ below = .char ' ' :: (front.map Glyph.blank ++ below).tail := by
      obtain ⟨glyph, front, rfl⟩ := List.exists_cons_of_ne_nil nonempty
      obtain ⟨rfl, -⟩ : glyph = .char c ∧ front ++ rest = behind := by simpa using same
      rfl
    have whole := Masks.comment nonempty size tail
    rw [first, same] at whole ⊢
    simpa [Glyph.lineText, stop, space] using whole

/-- The token that begins with a character which masking has left is read in the same way, and the
    rests behind it are related again. -/
theorem read_code (masks : Masks glyphs masked) (dialect : Dialect) {c : Char} (quote : c ≠ '\'') :
    Lexeme.read dialect c (Glyph.lineText masked) = Lexeme.read dialect c (Glyph.lineText glyphs) ∧
      Masks ((Glyph.char c :: glyphs).drop (Lexeme.read dialect c (Glyph.lineText glyphs)).size)
        ((Glyph.char c :: masked).drop (Lexeme.read dialect c (Glyph.lineText glyphs)).size) := by
  have reads := Lexeme.reads_read dialect c (Glyph.lineText glyphs)
  suffices Lexeme.Reads dialect c (Glyph.lineText masked)
      (Lexeme.read dialect c (Glyph.lineText glyphs)) ∧ _ from
    ⟨(Lexeme.eq_read_of_reads this.1).symm, this.2⟩
  revert reads
  generalize Lexeme.read dialect c (Glyph.lineText glyphs) = lexeme
  intro reads
  cases reads with
  | integer digit =>
    obtain ⟨same, tail⟩ := masks.takeWhile (p := Char.isDigit) (by simp)
    refine ⟨?_, by simpa [Lexeme.integer] using tail⟩
    rw [← same]
    exact .integer digit
  | character isQuote => exact absurd isQuote quote
  | word start =>
    have stops : ∀ c ∈ [' ', '\'', '/', '{', '('], Identifier.mayContinue c = false := by
      simp only [List.forall_mem_cons, List.not_mem_nil, false_implies, implies_true, and_true]
      decide
    obtain ⟨same, tail⟩ := masks.takeWhile stops
    refine ⟨?_, by simpa [Lexeme.word, Identifier.run] using tail⟩
    rw [Identifier.run, ← same]
    exact .word start
  | @pair p second spelled next =>
    have plain : ∀ x ∈ ['=', '.', '>'], x ∉ ['\'', '/', '{', '('] := by simp
    obtain ⟨kept, tail⟩ := masks.tail_of_head? (plain _ (Punct.second_mem spelled))
      (Glyph.head?_lineText.mp next)
    refine ⟨.pair spelled (Glyph.head?_lineText.mpr kept), ?_⟩
    simpa [Lexeme.punct, spelled] using tail
  | @single p spelled alone =>
    refine ⟨.single spelled fun q second longer next => ?_, ?_⟩
    · have visible : ∀ x ∈ ['=', '.', '>'], x ≠ ' ' := by simp
      have found := masks.head?_of_masked (visible _ (Punct.second_mem longer))
        (Glyph.head?_lineText.mp next)
      exact alone q second longer (Glyph.head?_lineText.mpr found)
    · simpa [Lexeme.punct, spelled] using masks
  | unknown none => exact ⟨.unknown none, by simpa using masks⟩

end Masks

/-! ## Character constants -/

private theorem lineText_constant (body : List Char) (rest : List Glyph) :
    Glyph.lineText ((body ++ ['\'']).map .char ++ rest) = body ++ '\'' :: Glyph.lineText rest := by
  induction body with
  | nil => rfl
  | cons c body ih => simpa [Glyph.lineText] using ih

/-- A constant with something in it is read up to the quote that closes it. -/
theorem Lexeme.read_constant (dialect : Dialect) {body : List Char} (rest : List Glyph)
    (nonempty : body ≠ []) (quotes : '\'' ∉ body) :
    Lexeme.read dialect '\'' (Glyph.lineText ((body ++ ['\'']).map .char ++ rest)) =
      ⟨.character, body.length + 2,
        if body.length = 1 then none else some (.badCharConstant, 1)⟩ := by
  rw [lineText_constant]
  exact Lexeme.character_closed (Glyph.lineText rest) nonempty quotes

namespace Scanner

/-! ## Scanners on related streams -/

/-- The scanner `masked` stands at the same position of the masked stream. -/
structure Masked (scanner masked : Scanner) : Prop where
  dialect : masked.dialect = scanner.dialect
  position : masked.cursor.position = scanner.cursor.position
  masks : Masks scanner.cursor.rest masked.cursor.rest

namespace Masked

variable {scanner masked : Scanner}

theorem skipTrivia (related : Masked scanner masked) :
    Masked scanner.skipTrivia masked.skipTrivia := by
  obtain ⟨dialect, position, masks⟩ := related
  obtain ⟨size, rests⟩ := masks.skip
  refine ⟨dialect, ?_, ?_⟩
  · simp only [Scanner.skipTrivia, Cursor.position_skip, position, size]
    exact masks.behind_take _ _
  · simpa only [Scanner.skipTrivia, Cursor.rest_skip, size] using rests

/-- Two scanners before the same character read the same if they see the same lexeme. -/
private theorem read_of_lexeme {dialect : Dialect} {position : Position} {offset offset' : Nat}
    {c : Char} {rest rest' : List Glyph} {lexeme : Lexeme}
    (masks : Masks (.char c :: rest) (.char c :: rest'))
    (first : Lexeme.read dialect c (Glyph.lineText rest) = lexeme)
    (second : Lexeme.read dialect c (Glyph.lineText rest') = lexeme)
    (behind : Masks ((Glyph.char c :: rest).drop lexeme.size)
      ((Glyph.char c :: rest').drop lexeme.size)) :
    (Scanner.read ⟨dialect, ⟨position, offset', .char c :: rest'⟩⟩).1 =
        (Scanner.read ⟨dialect, ⟨position, offset, .char c :: rest⟩⟩).1 ∧
      Masked (Scanner.read ⟨dialect, ⟨position, offset, .char c :: rest⟩⟩).2
        (Scanner.read ⟨dialect, ⟨position, offset', .char c :: rest'⟩⟩).2 := by
  simp only [Scanner.read, first, second, true_and]
  refine ⟨rfl, ?_, ?_⟩
  · simp only [Cursor.position_skip]
    exact masks.behind_take _ _
  · simpa only [Cursor.rest_skip] using behind

private theorem read_of_masks {dialect : Dialect} {position : Position} {offset offset' : Nat}
    {glyphs glyphs' : List Glyph} (masks : Masks glyphs glyphs')
    (ready : Trivia.size glyphs = 0) :
    (Scanner.read ⟨dialect, ⟨position, offset', glyphs'⟩⟩).1 =
        (Scanner.read ⟨dialect, ⟨position, offset, glyphs⟩⟩).1 ∧
      Masked (Scanner.read ⟨dialect, ⟨position, offset, glyphs⟩⟩).2
        (Scanner.read ⟨dialect, ⟨position, offset', glyphs'⟩⟩).2 := by
  cases masks with
  | nil => exact ⟨rfl, rfl, rfl, .nil⟩
  | lineEnd tail => simp at ready
  | code quote plain tail =>
    obtain ⟨same, behind⟩ := tail.read_code dialect quote
    exact read_of_lexeme (.code quote plain tail) rfl same behind
  | @constant body rest below nonempty quotes tail =>
    -- Both constants are closed by their second quote and have as many characters in them.
    have first := Lexeme.read_constant dialect rest nonempty quotes
    have solid : Mask.blank body ≠ [] := by simpa [Mask.blank] using nonempty
    have second := Lexeme.read_constant dialect below solid (by simp [Mask.blank])
    rw [Mask.length_blank] at second
    refine read_of_lexeme (.constant nonempty quotes tail) first second ?_
    have beyond : ∀ inner : List Char, inner.length = body.length →
        (inner.map Glyph.char).drop (body.length + 1) = [] := fun inner same =>
      List.drop_of_length_le (by simp [same])
    simpa [List.drop_append, beyond] using tail
  | comment nonempty size tail =>
    rw [Trivia.size_comment nonempty size] at ready
    exact absurd (Nat.eq_zero_of_add_eq_zero_right ready) (by simpa using nonempty)

/-- Before a token both scanners read the same, and they stand at the same position behind it. -/
theorem read (related : Masked scanner masked) (ready : Trivia.size scanner.cursor.rest = 0) :
    masked.read.1 = scanner.read.1 ∧ Masked scanner.read.2 masked.read.2 := by
  obtain ⟨dialect, ⟨position, offset, glyphs⟩⟩ := scanner
  obtain ⟨dialect', ⟨position', offset', glyphs'⟩⟩ := masked
  obtain ⟨rfl, rfl, masks⟩ := related
  exact read_of_masks masks ready

theorem next (related : Masked scanner masked) :
    masked.next.1 = scanner.next.1 ∧ Masked scanner.next.2 masked.next.2 := by
  refine related.skipTrivia.read ?_
  rw [Scanner.skipTrivia, Cursor.rest_skip]
  exact Trivia.size_drop_size _

theorem atEnd_eq (related : Masked scanner masked) : masked.atEnd = scanner.atEnd := by
  have length := related.masks.length_eq
  rw [Bool.eq_iff_iff]
  simp only [Scanner.atEnd, Cursor.atEnd, List.isEmpty_iff_length_eq_zero, length]

/-- The two scanners give the same tokens. -/
theorem tokens_eq (related : Masked scanner masked) : masked.tokens = scanner.tokens := by
  fun_induction Scanner.tokens scanner generalizing masked with
  | case1 scanner ended =>
    rw [Scanner.tokens, dif_pos (by rw [related.skipTrivia.atEnd_eq, ended]), related.next.1]
  | case2 scanner more ih =>
    rw [Scanner.tokens, dif_neg (by rw [related.skipTrivia.atEnd_eq]; exact more), related.next.1,
      ih related.next.2]

end Masked

end Scanner

end PascalLint
