import Mathlib.Data.List.Nodup
import PascalLint.Proofs.MaskedScan
import PascalLint.Proofs.OnlineAnalysis
import PascalLint.Proofs.TokenStream
import PascalLint.Proofs.Words

/-! # The words of both passes

The rules look for words in masked lines, and the scanner reads names and reserved words in the lines
themselves. Where masking and scanning agree on comments and constants, they see the same words, but for
what the scanner reads right behind a character of an identifier: `1x` is an integer and a name for the
scanner, and no word for the rules.

That a word is read follows a scanner over the masked stream. What it passes over between tokens is
white there, a constant has only spaces in it, and no other token has an identifier begin inside it; so
the scanner comes to stand before the word.
-/

namespace PascalLint

open PascalLint.Identifier (mayStart mayContinue)
open PascalLint.Unicode (isWhiteSpace)

/-! ## Words among tokens -/

/-- Holds of names and reserved words. -/
def Token.isWord : Token → Bool
  | .name | .reserved _ => true
  | _ => false

namespace Line

/-- Holds of a name or reserved word on the line before which no identifier character stands. -/
def hasBare (line : Line) (scanned : Scanned) : Bool :=
  scanned.token.isWord && scanned.position.line == line.number &&
    match scanned.position.column with
    | 0 => true
    | before + 1 => (line.raw[before]?).all (!mayContinue ·)

/-- The characters that a token takes up on the line. -/
def lexeme (line : Line) (scanned : Scanned) : Word :=
  ⟨scanned.position.column, (line.raw.drop scanned.position.column).take scanned.size⟩

theorem hasBare_iff {line : Line} {scanned : Scanned} :
    line.hasBare scanned = true ↔ scanned.token.isWord = true ∧ scanned.position.line = line.number ∧
      ∀ before c, scanned.position.column = before + 1 → line.raw[before]? = some c →
        mayContinue c = false := by
  unfold hasBare
  split
  next first => simp [first]
  next before next =>
    simp only [next, Bool.and_eq_true, beq_iff_eq, Option.all_eq_true, Bool.not_eq_true', and_assoc,
      Nat.succ_eq_add_one, Nat.add_right_cancel_iff]
    constructor
    · rintro ⟨word, here, bare⟩
      refine ⟨word, here, ?_⟩
      rintro _ c rfl
      exact bare c
    · rintro ⟨word, here, bare⟩
      exact ⟨word, here, fun c => bare before c rfl⟩

end Line

namespace Lexeme

theorem token_character (rest : List Char) : (character rest).token = .character := by
  unfold character
  split <;> rfl

theorem isWord_word (dialect : Dialect) (characters : List Char) :
    (word dialect characters).token.isWord = true := by
  unfold word
  split <;> rfl

/-- A name or reserved word begins with a letter or an underscore and goes on as far as it can. -/
theorem Reads.start_of_isWord {dialect : Dialect} {c : Char} {rest : List Char} {lexeme : Lexeme}
    (reads : Reads dialect c rest lexeme) (word : lexeme.token.isWord = true) :
    mayStart c = true ∧ lexeme.size = (c :: Identifier.run rest).length := by
  cases reads with
  | word start => exact ⟨start, rfl⟩
  | character quote =>
    rw [token_character] at word
    cases word
  | integer digit => cases word
  | pair spelled next => cases word
  | single spelled alone => cases word
  | unknown none => cases word

theorem Reads.quote_of_character {dialect : Dialect} {c : Char} {rest : List Char} {lexeme : Lexeme}
    (reads : Reads dialect c rest lexeme) (constant : lexeme.token = .character) : c = '\'' := by
  cases reads with
  | character quote => exact quote
  | word start =>
    have other := isWord_word dialect (c :: Identifier.run rest)
    rw [constant] at other
    cases other
  | integer digit => cases constant
  | pair spelled next => cases constant
  | single spelled alone => cases constant
  | unknown none => cases constant

end Lexeme

namespace Scanner

theorem lexeme_append (scanner : Scanner) :
    scanner.piece.lexeme ++ scanner.next.2.cursor.rest = scanner.skipTrivia.cursor.rest := by
  obtain ⟨count, same, lexeme⟩ := scanner.next_eq
  rw [lexeme, same, Cursor.rest_skip, List.take_append_drop]

theorem read_fst {scanner : Scanner} {c : Char} {rest : List Glyph}
    (here : scanner.cursor.rest = .char c :: rest) :
    scanner.read.1.token = (Lexeme.read scanner.dialect c (Glyph.lineText rest)).token ∧
      scanner.read.1.size = (Lexeme.read scanner.dialect c (Glyph.lineText rest)).size := by
  simp only [read, here, and_self]

/-- A name or reserved word is on one of the lines, where it stands from its column on. -/
theorem line_of_isWord {dialect : Dialect} {lines : List (List Char)} {scanned : Scanned}
    (found : scanned ∈ scan dialect lines) (word : scanned.token.isWord = true) :
    ∃ above before c rest below, lines = above ++ (before ++ c :: rest) :: below ∧
      scanned.position = ⟨above.length + 1, before.length⟩ ∧ mayStart c = true ∧
      scanned.size = (c :: Identifier.run rest).length := by
  cases exists_lexeme_of_mem_scan found with
  | inl last =>
    rw [last.1] at word
    cases word
  | inr read =>
    obtain ⟨above, before, c, rest, below, lexeme, split, -, reads, rfl⟩ := read
    obtain ⟨start, size⟩ := reads.start_of_isWord word
    exact ⟨above, before, c, rest, below, split, rfl, start, size⟩

end Scanner

/-! ## What a masked stream hides -/

/-- Between tokens a masked stream has white space and line ends only. -/
theorem Masks.not_isDark_of_mem_trivia {glyphs masked : List Glyph} (masks : Masks glyphs masked) :
    ∀ glyph ∈ masked.take (Trivia.size masked), glyph.isDark = false := by
  induction masks with
  | nil => simp
  | lineEnd tail ih =>
    rw [Trivia.size_lineEnd, List.take_succ_cons]
    exact List.forall_mem_cons.mpr ⟨rfl, ih⟩
  | @code c rest below quote plain tail ih =>
    by_cases white : isWhiteSpace c = true
    · rw [Trivia.size_whiteSpace _ white, List.take_succ_cons]
      exact List.forall_mem_cons.mpr ⟨by simp [Glyph.isDark, white], ih⟩
    · have none : Trivia.size (.char c :: below) = 0 :=
        Trivia.size_eq_zero_iff.mpr ⟨by simpa using white, tail.commentSize_of_masked plain⟩
      simp [none]
  | @constant body rest below nonempty quotes tail ih =>
    have none (behind : List Glyph) : Trivia.size (.char '\'' :: behind) = 0 :=
      Trivia.size_eq_zero_iff.mpr ⟨by decide, by simp [Trivia.commentSize]⟩
    simp [none]
  | @comment front rest below nonempty size tail ih =>
    rw [size_map_blank, ← List.length_map Glyph.blank, List.take_length_add_append]
    refine List.forall_mem_append.mpr ⟨?_, ih⟩
    intro glyph found
    obtain ⟨old, -, rfl⟩ := List.mem_map.mp found
    cases old <;> rfl

/-- An identifier begins inside of no token but a constant. -/
theorem Token.Fits.eq_character {dialect : Dialect} {text following : List Char} {token : Token}
    (fits : token.Fits dialect text following) {front back : List Char} {c : Char}
    (split : text = front ++ c :: back) (inside : front ≠ []) (start : mayStart c = true)
    (bare : ∀ d, front.getLast? = some d → mayContinue d = false) : token = .character := by
  obtain ⟨front, last, rfl⟩ := (List.eq_nil_or_concat front).resolve_left inside
  have ended : mayContinue last = false := bare last (by simp)
  have word (fits : FitsWord text following) : False := by
    have more := fits.inside last (by simp [split])
    rw [ended] at more
    cases more
  cases token with
  | character => rfl
  | name => exact (word fits.1).elim
  | reserved keyword => exact (word fits.1).elim
  | integer =>
    have digit := fits.2.1 c (by simp [split])
    rw [Identifier.not_isDigit_of_mayStart start] at digit
    cases digit
  | punct p =>
    have found : c ∈ p.spelling := by
      rw [← fits.1, split]
      simp
    exfalso
    rcases Punct.mem_spelling found with known | rfl | rfl | rfl | rfl
    · obtain ⟨q, known⟩ := Option.isSome_iff_exists.mp known
      have other := (Punct.plain_of_ofChar? known).2.1
      rw [start] at other
      cases other
    all_goals exact absurd start (by decide)
  | endOfInput =>
    obtain ⟨d, single, -⟩ := fits
    have length := congrArg List.length (single.symm.trans split)
    simp only [List.concat_eq_append, List.length_append, List.length_cons, List.length_nil] at length
    omega

namespace Scanner

/-- A glyph behind `front` is behind the first of two parts as well, or it is in that part. -/
private theorem behind_or_inside {first second front rest : List Glyph} {glyph : Glyph}
    (same : first ++ second = front ++ glyph :: rest) :
    (∃ inner, front = first ++ inner ∧ second = inner ++ glyph :: rest) ∨
      ∃ back, first = front ++ glyph :: back := by
  cases List.append_eq_append_iff.mp same with
  | inl later =>
    obtain ⟨inner, behind, inside⟩ := later
    exact .inl ⟨inner, behind, inside⟩
  | inr sooner =>
    obtain ⟨inner, inside, behind⟩ := sooner
    cases inner with
    | nil => exact .inl ⟨[], by simpa using inside.symm, by simpa using behind.symm⟩
    | cons other back =>
      obtain ⟨rfl, -⟩ := List.cons.inj behind
      exact .inr ⟨back, inside⟩

namespace Masked

variable {scanner masked : Scanner} (related : Masked scanner masked)
include related

/-- What is passed over before a token holds no word. -/
theorem behind_gap {front below : List Glyph} {c : Char} (start : mayStart c = true)
    (here : masked.cursor.rest = front ++ .char c :: below) :
    ∃ inner, front = masked.piece.gap ++ inner ∧
      masked.skipTrivia.cursor.rest = inner ++ .char c :: below := by
  have whole : masked.piece.gap ++ masked.skipTrivia.cursor.rest = front ++ .char c :: below := by
    rw [gap_piece, rest_skipTrivia, List.take_append_drop, here]
  cases behind_or_inside whole with
  | inl behind => exact behind
  | inr inside =>
    obtain ⟨back, inside⟩ := inside
    have white := related.masks.not_isDark_of_mem_trivia (.char c)
      (by rw [← gap_piece, inside]; simp)
    simp [Glyph.isDark, Identifier.not_isWhiteSpace_of_mayStart start] at white

/-- A constant has only spaces between its quotes. -/
theorem blank_of_character (more : masked.skipTrivia.atEnd = false)
    (constant : masked.next.1.token = .character) {c : Char}
    (inside : Glyph.char c ∈ masked.piece.lexeme) : c = '\'' ∨ c = ' ' := by
  obtain ⟨text, lexeme, -, -, length, -⟩ := piece_fits more
  obtain ⟨first, rest, here⟩ := exists_char_of_more more
  obtain ⟨token, size⟩ := read_fst here
  have whole := masked.lexeme_append
  have masks := related.skipTrivia.masks
  have ready : Trivia.size scanner.skipTrivia.cursor.rest = 0 := by
    rw [rest_skipTrivia]
    exact Trivia.size_drop_size _
  change masked.next.1.token = _ at token
  change masked.next.1.size = _ at size
  rw [lexeme] at whole inside
  generalize scanner.skipTrivia.cursor.rest = glyphs at masks ready
  rw [here] at whole masks
  generalize stream : Glyph.char first :: rest = seen at whole masks
  cases masks with
  | nil => cases stream
  | lineEnd tail => cases stream
  | code quote plain tail =>
    obtain ⟨rfl, rfl⟩ : first = _ ∧ rest = _ := by simpa using stream
    exact absurd ((Lexeme.reads_read _ _ _).quote_of_character (token.symm.trans constant)) quote
  | @constant body _ below nonempty quotes tail =>
    obtain ⟨rfl, rfl⟩ : first = '\'' ∧ rest = (Mask.blank body ++ ['\'']).map .char ++ below := by
      simpa using stream
    have solid : Mask.blank body ≠ [] := by simpa [Mask.blank] using nonempty
    rw [Lexeme.read_constant _ below solid (by simp [Mask.blank]), length] at size
    obtain ⟨taken, -⟩ := List.append_inj whole (by simp [size])
    simp only [taken, Mask.blank, List.mem_map, List.mem_append, List.mem_cons, List.mem_replicate,
      List.not_mem_nil, or_false, Glyph.char.injEq, exists_eq_right] at inside
    tauto
  | comment nonempty size tail =>
    rw [Trivia.size_comment nonempty size] at ready
    exact absurd (Nat.eq_zero_of_add_eq_zero_right ready) (by simpa using nonempty)

/-- No token goes on past the beginning of a word. -/
theorem not_inside_lexeme (more : masked.skipTrivia.atEnd = false) {front back : List Glyph} {c : Char}
    (start : mayStart c = true) (inside : masked.piece.lexeme = front ++ .char c :: back)
    (nonempty : front ≠ []) (bare : ∀ d, front.getLast? = some (.char d) → mayContinue d = false) :
    False := by
  obtain ⟨text, lexeme, -, -, -, fits⟩ := piece_fits more
  have found : Glyph.char c ∈ masked.piece.lexeme := by
    rw [inside]
    simp
  rw [lexeme] at inside
  obtain ⟨before, tail, split, rfl, tails⟩ := List.map_eq_append_iff.mp inside
  obtain ⟨d, after, rfl, same, -⟩ := List.map_eq_cons_iff.mp tails
  obtain rfl : d = c := Glyph.char.inj same
  have nonempty : before ≠ [] := by simpa using nonempty
  have bare : ∀ e, before.getLast? = some e → mayContinue e = false := by
    intro e last
    apply bare e
    rw [List.getLast?_map, last]
    rfl
  -- Such a token could only be a constant, and of a constant the quotes alone are to be seen.
  have constant := fits.eq_character split nonempty start bare
  cases related.blank_of_character more constant found with
  | inl quote => exact absurd start (by rw [quote]; decide)
  | inr space => exact absurd start (by rw [space]; decide)

/-- A word is read where it begins, provided that no identifier character stands before it. -/
theorem exists_token {front below : List Glyph} {c : Char} (start : mayStart c = true)
    (here : masked.cursor.rest = front ++ .char c :: below)
    (bare : ∀ d, front.getLast? = some (.char d) → mayContinue d = false) :
    ∃ scanned ∈ masked.tokens, scanned.position = masked.cursor.position.behind front ∧
      scanned.token.isWord = true ∧
      scanned.size = (c :: Identifier.run (Glyph.lineText below)).length := by
  induction masked using items_induction generalizing scanner front with
  | ended masked finished =>
    obtain ⟨inner, -, behind⟩ := related.behind_gap start here
    have nothing : masked.skipTrivia.cursor.rest = [] := by
      simpa [atEnd, Cursor.atEnd] using finished
    simp [nothing] at behind
  | more masked unfinished ih =>
    obtain ⟨inner, rfl, behind⟩ := related.behind_gap start here
    rw [tokens_of_more unfinished]
    cases inner with
    | nil =>
      -- The gap ends right before the word.
      obtain ⟨token, size⟩ := read_fst behind
      rw [← Lexeme.eq_read_of_reads (.word start)] at token size
      refine ⟨masked.next.1, List.mem_cons_self, ?_, ?_, size⟩
      · rw [List.append_nil, position_next_fst, position_skipTrivia]
      · rw [← Lexeme.isWord_word masked.dialect (c :: Identifier.run (Glyph.lineText below))]
        exact congrArg Token.isWord token
    | cons glyph inner =>
      cases behind_or_inside (masked.lexeme_append.trans behind) with
      | inl later =>
        -- The token ends before the word, so a later one is read there.
        obtain ⟨left, same, rest⟩ := later
        have bare' : ∀ d, left.getLast? = some (.char d) → mayContinue d = false := by
          intro d last
          apply bare d
          rw [same, List.getLast?_append, List.getLast?_append, last]
          rfl
        obtain ⟨scanned, found, position, word, size⟩ := ih related.next.2 rest bare'
        refine ⟨scanned, .tail _ found, ?_, word, size⟩
        rw [position, position_next, same, Piece.glyphs, Position.behind_append,
          Position.behind_append, Position.behind_append]
      | inr inside =>
        exfalso
        obtain ⟨back, inside⟩ := inside
        apply related.not_inside_lexeme unfinished start inside (List.cons_ne_nil glyph inner)
        intro d last
        apply bare d
        rw [List.getLast?_append, last]
        rfl

end Masked

end Scanner

/-! ## Lines -/

theorem length_maskLines (first : Nat) (opened : Option OpenLiteral) (lines : List (List Char)) :
    (maskLines first opened lines).length = lines.length := by
  induction lines generalizing first opened with
  | nil => rfl
  | cons text below ih => rw [maskLines, List.length_cons, ih, List.length_cons]

/-- The masked lines of a source around the one that the rules look at. -/
theorem map_text_maskLines (checks : Checks) (above : List (List Char)) (text : List Char)
    (below : List (List Char)) :
    ∃ front back, front.length = above.length ∧
      (maskLines 1 none (above ++ text :: below)).map (·.text) =
        front ++ ((Context.start.after checks above).line text).masked :: back := by
  let masked := maskLine (1 + above.length) text (openBehind 1 none above)
  refine ⟨(maskLines 1 none above).map (·.text),
    (maskLines (1 + above.length + 1) masked.opened below).map (·.text), ?_, ?_⟩
  · rw [List.length_map, length_maskLines]
  · have here : ((Context.start.after checks above).line text).masked = masked.text := by
      rw [Context.line, Context.mask, Context.opened_after, Context.lineCount_start_after,
        Nat.add_comm above.length]
      rfl
    rw [maskLines_append, List.map_append, here]
    rfl

namespace Word.StandsIn

variable {word : Word} {text : List Char}

theorem take_drop (stands : word.StandsIn text) :
    (text.drop word.start).take word.characters.length = word.characters := by
  rw [← stands.run]
  exact (List.prefix_iff_eq_take.mp (List.takeWhile_prefix mayContinue)).symm

/-- The text before a word, its first character, and what is behind that. -/
theorem split (stands : word.StandsIn text) :
    ∃ before c rest, text = before ++ c :: rest ∧ before.length = word.start ∧ mayStart c = true ∧
      word.characters = c :: Identifier.run rest := by
  obtain ⟨c, first, start⟩ := stands.head?
  obtain ⟨rest, behind⟩ := List.head?_eq_some_iff.mp first
  have inside := stands.stop_le
  have run := stands.run
  refine ⟨text.take word.start, c, rest, ?_, ?_, start, ?_⟩
  · rw [← behind, List.take_append_drop]
  · rw [List.length_take]
    omega
  · rw [← run, behind, Identifier.run,
      List.takeWhile_cons_of_pos (Identifier.mayContinue_of_mayStart start), Identifier.run]

end Word.StandsIn

section Lines

variable {above below : List (List Char)} {text : List Char}

/-- Every word of a masked line is read as a token. -/
theorem exists_token_of_word (dialect : Dialect) {lines : List (List Char)} {word : Word}
    (masks : Masks (Glyph.ofLines lines) (Glyph.ofLines (above ++ text :: below)))
    (stands : word.StandsIn text) :
    ∃ scanned ∈ scan dialect (above ++ text :: below),
      scanned.position = ⟨above.length + 1, word.start⟩ ∧ scanned.token.isWord = true ∧
        scanned.size = word.characters.length := by
  obtain ⟨before, c, rest, rfl, column, start, characters⟩ := stands.split
  have related : Scanner.Masked (.start dialect lines)
      (.start dialect (above ++ (before ++ c :: rest) :: below)) := ⟨rfl, rfl, masks⟩
  have here : (Scanner.start dialect (above ++ (before ++ c :: rest) :: below)).cursor.rest =
      (Glyph.ofLines above ++ before.map .char) ++
        .char c :: (rest.map .char ++ .lineEnd :: Glyph.ofLines below) := by
    simp [Scanner.start, Cursor.start, Glyph.ofLines_append]
  have bare : ∀ d, (Glyph.ofLines above ++ before.map Glyph.char).getLast? = some (.char d) →
      mayContinue d = false := by
    intro d last
    rcases List.eq_nil_or_concat before with rfl | ⟨front, e, rfl⟩
    · rw [List.map_nil, List.append_nil] at last
      exact absurd last (Glyph.ended_ofLines above d)
    · obtain rfl : e = d := by simpa using last
      apply stands.alone front.length e
      · simp [← column]
      · simp
  obtain ⟨scanned, found, position, word, size⟩ := related.exists_token start here bare
  refine ⟨scanned, found, ?_, word, ?_⟩
  · rw [position, Position.behind_append]
    change ((⟨1, 0⟩ : Position).behind _).behind _ = _
    rw [Position.behind_ofLines, Position.behind_map_char, column, Nat.add_comm 1, Nat.zero_add]
  · rw [size, characters, Glyph.lineText_map_char_append]

/-- Every name or reserved word that is read on a line stands there, unless it is the end of an
    identifier. -/
theorem exists_word_of_token {dialect : Dialect} {scanned : Scanned}
    (found : scanned ∈ scan dialect (above ++ text :: below)) (isWord : scanned.token.isWord = true)
    (line : scanned.position.line = above.length + 1)
    (bare : ∀ before c, scanned.position.column = before + 1 → text[before]? = some c →
      mayContinue c = false) :
    ∃ word : Word, word.StandsIn text ∧ word.start = scanned.position.column ∧
      word.characters.length = scanned.size := by
  obtain ⟨above', before, c, rest, below', split, position, start, size⟩ :=
    Scanner.line_of_isWord found isWord
  rw [position] at line bare
  obtain ⟨rfl, same⟩ := List.append_inj split (Nat.succ.inj line).symm
  obtain ⟨rfl, rfl⟩ := List.cons.inj same
  refine ⟨⟨before.length, c :: Identifier.run rest⟩, ⟨⟨c, rfl, start⟩, ?_, bare⟩, ?_, size.symm⟩
  · rw [List.drop_left, Identifier.run,
      List.takeWhile_cons_of_pos (Identifier.mayContinue_of_mayStart start), Identifier.run]
  · rw [position]

end Lines

/-! ## One line of a source -/

/-- The tokens of two sources of which one is the masked form of the other. -/
theorem scan_of_masks (dialect : Dialect) {lines masked : List (List Char)}
    (masks : Masks (Glyph.ofLines lines) (Glyph.ofLines masked)) :
    scan dialect masked = scan dialect lines := by
  have related : Scanner.Masked (.start dialect lines) (.start dialect masked) := ⟨rfl, rfl, masks⟩
  exact related.tokens_eq

/-- Words in the order of their columns are determined by which they are. -/
theorem Word.eq_of_sorted {words others : List Word}
    (sorted : words.Pairwise fun word later => word.start < later.start)
    (sorted' : others.Pairwise fun word later => word.start < later.start)
    (same : ∀ word, word ∈ words ↔ word ∈ others) : words = others := by
  have distinct {list : List Word} (sorted : list.Pairwise fun word later => word.start < later.start) :
      list.Nodup := by
    apply sorted.imp
    intro word later before equal
    exact Nat.ne_of_lt before (congrArg Word.start equal)
  have perm := (List.perm_ext_iff_of_nodup (distinct sorted) (distinct sorted')).mpr same
  apply perm.eq_of_pairwise _ sorted sorted'
  intro word later _ _ before after
  exact absurd before (Nat.not_lt_of_lt after)

namespace Line

/-- The line is one of a source, and the source with its lines masked, which is a masked stream, has the
    masked form of the line in its place. -/
structure IsOf (line : Line) (lines : List (List Char)) : Prop where
  veils : Veils line.raw line.masked
  masks : ∃ above below, line.number = above.length + 1 ∧
    Masks (Glyph.ofLines lines) (Glyph.ofLines (above ++ line.masked :: below))

namespace IsOf

variable {line : Line} {lines : List (List Char)} (own : line.IsOf lines) (dialect : Dialect)
include own

theorem exists_token {word : Word} (found : word ∈ line.words) :
    ∃ scanned ∈ (scan dialect lines).filter line.hasBare,
      word.start = scanned.position.column ∧ word.characters.length = scanned.size := by
  obtain ⟨veils, above, below, number, masks⟩ := own
  have stands := Word.standsIn_of_mem_words found
  obtain ⟨scanned, token, position, isWord, size⟩ := exists_token_of_word dialect masks stands
  rw [scan_of_masks dialect masks] at token
  have bare : line.hasBare scanned = true := by
    apply hasBare_iff.mpr
    rw [position]
    exact ⟨isWord, number.symm, (stands.of_veils veils).alone⟩
  exact ⟨scanned, List.mem_filter.mpr ⟨token, bare⟩, by rw [position], size.symm⟩

theorem exists_word {scanned : Scanned} (found : scanned ∈ (scan dialect lines).filter line.hasBare) :
    ∃ word ∈ line.words,
      word.start = scanned.position.column ∧ word.characters.length = scanned.size := by
  obtain ⟨veils, above, below, number, masks⟩ := own
  obtain ⟨token, bare⟩ := List.mem_filter.mp found
  obtain ⟨isWord, here, alone⟩ := hasBare_iff.mp bare
  rw [← scan_of_masks dialect masks] at token
  have alone' : ∀ before c, scanned.position.column = before + 1 → line.masked[before]? = some c →
      mayContinue c = false := by
    intro before c next seen
    -- An identifier character of the masked line is one of the line.
    by_contra identifier
    have identifier : mayContinue c = true := by simpa using identifier
    have raw := veils.getElem?_eq seen (Identifier.ne_of_mayContinue identifier).1
    rw [alone before c next raw] at identifier
    cases identifier
  obtain ⟨word, stands, place⟩ := exists_word_of_token token isWord (here.trans number) alone'
  exact ⟨word, Word.mem_words_iff.mpr stands, place⟩

theorem lexeme_eq {word : Word} (found : word ∈ line.words) {scanned : Scanned}
    (start : word.start = scanned.position.column) (size : word.characters.length = scanned.size) :
    line.lexeme scanned = word := by
  have stands := (Word.standsIn_of_mem_words found).of_veils own.veils
  rw [lexeme, ← start, ← size, stands.take_drop]

theorem words_eq : line.words = ((scan dialect lines).filter line.hasBare).map line.lexeme := by
  apply Word.eq_of_sorted
  · exact Word.pairwise_ofText 0 line.masked
  · apply List.pairwise_map.mpr
    apply ((Scanner.pairwise_position_tokens _).filter line.hasBare).imp_of_mem
    intro scanned later first second before
    -- The tokens are on one line, so that they are in the order of their columns.
    have here := (hasBare_iff.mp (List.mem_filter.mp first).2).2.1
    have there := (hasBare_iff.mp (List.mem_filter.mp second).2).2.1
    rw [Position.lt_iff] at before
    change scanned.position.column < later.position.column
    omega
  · intro word
    constructor
    · intro found
      obtain ⟨scanned, token, start, size⟩ := own.exists_token dialect found
      exact List.mem_map.mpr ⟨scanned, token, own.lexeme_eq found start size⟩
    · intro found
      obtain ⟨scanned, token, rfl⟩ := List.mem_map.mp found
      obtain ⟨word, inside, start, size⟩ := own.exists_word dialect token
      rwa [own.lexeme_eq inside start size]

end IsOf

end Line

/-! ## All lines -/

theorem isOf_line_after (checks : Checks) {above below : List (List Char)} {text : List Char}
    (plain : ∀ line ∈ above ++ text :: below, PlainQuotes line)
    (closed : ∀ masked ∈ maskLines 1 none (above ++ text :: below), ∀ start,
      masked.opened ≠ some (.string start)) :
    ((Context.start.after checks above).line text).IsOf (above ++ text :: below) := by
  obtain ⟨front, back, length, texts⟩ := map_text_maskLines checks above text below
  refine ⟨Veils.of_maskLine _ text _, front, back, ?_, ?_⟩
  · rw [length]
    exact congrArg (· + 1) (Context.lineCount_start_after checks above)
  · rw [← texts]
    cases masksFrom_lines plain (by simp) closed with
    | code masks => exact masks

/-- On lines whose quotes are plain and of which none leaves a string open, the words of a masked line
    are the names and reserved words that the scanner reads on the line, without those before which a
    character of an identifier stands: in the same order, with the same characters, and from the same
    columns to the same columns. -/
theorem words_are_tokens (dialect : Dialect) (checks : Checks) (above : List (List Char))
    (text : List Char) (below : List (List Char))
    (plain : ∀ line ∈ above ++ text :: below, PlainQuotes line)
    (closed : ∀ masked ∈ maskLines 1 none (above ++ text :: below), ∀ start,
      masked.opened ≠ some (.string start)) :
    let line := (Context.start.after checks above).line text
    let tokens := (scan dialect (above ++ text :: below)).filter line.hasBare
    line.words = tokens.map line.lexeme ∧
      line.words.map (fun word => (word.start, word.stop)) =
        tokens.map fun scanned =>
          (scanned.position.column, scanned.position.column + scanned.size) := by
  intro line tokens
  have own : line.IsOf (above ++ text :: below) := isOf_line_after checks plain closed
  have words : line.words = tokens.map line.lexeme := own.words_eq dialect
  refine ⟨words, ?_⟩
  rw [words, List.map_map]
  apply List.map_congr_left
  intro scanned found
  obtain ⟨word, inside, start, size⟩ := own.exists_word dialect found
  rw [Function.comp_apply, own.lexeme_eq inside start size, Word.stop, start, size]

/-- A comment that goes on from the line above, a number that runs into a name, and a constant. -/
theorem words_are_tokens_comment :
    let text := ['b', '}', 'c', '1', ' ', '2', 'x', ' ', '\'', 'd', '\'', 'E', 'n', 'd']
    let lines := [['a', '{'], text]
    (∀ line ∈ lines, PlainQuotes line) ∧
      (∀ masked ∈ maskLines 1 none lines, ∀ start, masked.opened ≠ some (.string start)) ∧
      let line := (Context.start.after {} [['a', '{']]).line text
      line.words = [⟨2, ['c', '1']⟩, ⟨11, ['E', 'n', 'd']⟩] ∧
        line.words = ((scan .standard lines).filter line.hasBare).map line.lexeme := by
  intro text lines
  have plain : ∀ line ∈ lines, PlainQuotes line := by
    intro line found
    simp only [lines, text, List.mem_cons, List.not_mem_nil, or_false] at found
    cases found with
    | inl first =>
      rw [first]
      exact ⟨by decide, by decide⟩
    | inr second =>
      rw [second]
      exact ⟨by decide, by decide⟩
  have opened : (maskLines 1 none lines).map (·.opened) = [some (.comment .brace ⟨1, 1⟩), none] := by
    decide +kernel
  have closed : ∀ masked ∈ maskLines 1 none lines, ∀ start,
      masked.opened ≠ some (.string start) := by
    intro masked found start same
    have member := List.mem_map_of_mem (f := (·.opened)) found
    simp [opened, same] at member
  obtain ⟨words, -⟩ := words_are_tokens .standard {} [['a', '{']] text [] plain closed
  exact ⟨plain, closed, by decide +kernel, words⟩

end PascalLint
