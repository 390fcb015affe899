import Mathlib.Data.List.Basic
import Mathlib.Data.Nat.Digits.Defs
import PascalLint.Proofs.Evidence
import PascalLint.Proofs.TokenStream

/-! # The flaws of tokens

What the scanner records is read off its tokens: for each token before the last, its kind and its
lexeme tell whether there is a diagnostic and which (`Token.flaw?`). A diagnostic is inside its lexeme
or, for a quote that ends a line, right behind it, and lexemes do not overlap, so the diagnostics come
in the order of their positions.
-/

namespace PascalLint

/-! ## Lexemes -/

/-- The characters of a token on its line. -/
def Scanned.lexeme (lines : List (List Char)) (scanned : Scanned) : List Char :=
  ((lines[scanned.position.line - 1]?.getD []).drop scanned.position.column).take scanned.size

/-- The number that is written by decimal digits, the last of which is for the units. -/
def Text.decimal (digits : List Char) : Nat :=
  Nat.ofDigits 10 (digits.reverse.map fun digit => digit.toNat - '0'.toNat)

/-- The diagnostic for a token before the end of the input, given its position and its lexeme. -/
def Token.flaw? (position : Position) (lexeme : List Char) : Token → Option Diagnostic
  | endOfInput => some ⟨position, .unknownSymbol⟩
  | integer => if 32767 < Text.decimal lexeme then some ⟨position, .integerOutOfRange⟩ else none
  | character =>
    match lexeme with
    | ['\'', _, '\''] => none
    | _ => some ⟨⟨position.line, position.column + 1⟩, .badCharConstant⟩
  | name | reserved _ | punct _ => none

theorem Token.flaw?_character {position : Position} {lexeme : List Char}
    (other : ∀ c, lexeme ≠ ['\'', c, '\'']) :
    character.flaw? position lexeme =
      some ⟨⟨position.line, position.column + 1⟩, .badCharConstant⟩ := by
  rw [flaw?]
  exact other

namespace Lexeme

theorem value_eq_decimal (digits : List Char) : value digits = Text.decimal digits := by
  rw [Text.decimal, Nat.ofDigits_eq_foldr, List.foldr_map, List.foldr_reverse, value]
  simp only [Nat.cast_id, Nat.add_comm]

variable {dialect : Dialect} {c : Char} {rest : List Char} {lexeme : Lexeme}

theorem flaw?_character (line column : Nat) :
    (character rest).token.flaw? ⟨line, column⟩ (('\'' :: rest).take (character rest).size) =
      (character rest).flaw.map fun (defect, distance) => ⟨⟨line, column + distance⟩, defect⟩ := by
  rcases character_cases rest with ⟨rfl, same⟩ | ⟨c, after, rfl, same⟩ |
    ⟨c, body, after, rfl, nonempty, quotes, same⟩ | ⟨c, body, rfl, quotes, same⟩
  · rw [same]
    rfl
  · rw [same]
    rfl
  · -- There are four characters at least.
    rw [same]
    refine Token.flaw?_character fun d three => ?_
    have length := congrArg List.length three
    have positive := List.length_pos_iff.mpr nonempty
    simp only [List.length_take, List.length_cons, List.length_append, List.length_nil] at length
    omega
  · rw [same]
    refine Token.flaw?_character fun d three => ?_
    -- A quote behind the first character would have closed the constant.
    have whole : ('\'' :: c :: body).take (body.length + 2) = '\'' :: c :: body :=
      List.take_of_length_le (Nat.le_refl _)
    rw [whole] at three
    obtain rfl : body = ['\''] := (List.cons.inj (List.cons.inj three).2).2
    simp at quotes

/-- What is wrong with a lexeme is told by its token and its characters. -/
theorem Reads.flaw?_eq (reads : Reads dialect c rest lexeme) (line column : Nat) :
    lexeme.token.flaw? ⟨line, column⟩ ((c :: rest).take lexeme.size) =
      lexeme.flaw.map fun (defect, distance) => ⟨⟨line, column + distance⟩, defect⟩ := by
  cases reads with
  | integer digit =>
    have digits : (c :: rest).take (c :: rest.takeWhile Char.isDigit).length =
        c :: rest.takeWhile Char.isDigit :=
      (List.prefix_iff_eq_take.mp (List.cons_prefix_cons.mpr ⟨rfl, List.takeWhile_prefix _⟩)).symm
    have flaw : (Lexeme.integer (c :: rest.takeWhile Char.isDigit)).flaw =
        if 32767 < Text.decimal (c :: rest.takeWhile Char.isDigit) then
          some (.integerOutOfRange, 0) else none := by
      rw [← value_eq_decimal]
      rfl
    rw [flaw]
    simp only [Lexeme.integer, digits, Token.flaw?]
    split <;> rfl
  | character quote =>
    subst quote
    exact flaw?_character line column
  | word start =>
    unfold Lexeme.word
    cases Reserved.lookup? dialect (c :: Identifier.run rest) <;> rfl
  | pair spelled next => rfl
  | single spelled alone => rfl
  | unknown none => rfl

/-- A flaw is inside its lexeme, or behind a quote that ends its line. -/
theorem Reads.distance_cases (reads : Reads dialect c rest lexeme) {defect : Defect} {distance : Nat}
    (flaw : lexeme.flaw = some (defect, distance)) :
    distance < lexeme.size ∨ distance = 1 ∧ lexeme.size = 1 ∧ rest = [] := by
  cases reads with
  | integer digit =>
    simp only [Lexeme.integer] at flaw
    split at flaw <;> cases flaw
    exact .inl (Nat.succ_pos _)
  | character quote =>
    rcases character_cases rest with ⟨rfl, same⟩ | ⟨c, after, rfl, same⟩ |
      ⟨c, body, after, rfl, nonempty, quotes, same⟩ | ⟨c, body, rfl, quotes, same⟩ <;>
      rw [same] at flaw ⊢ <;> cases flaw
    · exact .inr ⟨rfl, rfl, rfl⟩
    · exact .inl (Nat.succ_lt_succ (Nat.succ_pos _))
    · exact .inl (Nat.succ_lt_succ (Nat.succ_pos _))
  | word start => cases flaw
  | pair spelled next => cases flaw
  | single spelled alone => cases flaw
  | unknown none =>
    cases flaw
    exact .inl Nat.one_pos

end Lexeme

/-! ## Tokens -/

/-- The position behind a token. -/
def Scanned.stop (scanned : Scanned) : Position :=
  ⟨scanned.position.line, scanned.position.column + scanned.size⟩

namespace Scanner

theorem position_next_eq_stop {scanner : Scanner} (more : scanner.skipTrivia.atEnd = false) :
    scanner.next.2.cursor.position = scanner.next.1.stop := by
  obtain ⟨text, lexeme, -, start, size, -⟩ := piece_fits more
  rw [position_next, Piece.glyphs, Position.behind_append, ← position_skipTrivia, lexeme,
    Position.behind_map_char, Scanned.stop, start, size]

/-- A token ends before the ones that follow it begin. -/
theorem pairwise_stop_items (scanner : Scanner) :
    scanner.items.Pairwise (·.stop ≤ ·.position) := by
  induction scanner using items_induction with
  | ended scanner finished => simp [items_of_ended finished]
  | more scanner unfinished ih =>
    rw [items_of_more unfinished, List.pairwise_cons]
    refine ⟨fun later found => ?_, ih⟩
    have gap := scanner.next.2.position_le_skipTrivia
    rw [position_next_eq_stop unfinished] at gap
    exact Position.le_trans gap (position_le_of_mem_tokens (List.dropLast_subset _ found))

/-- Each token but the last is read at a character of a line. -/
theorem exists_reads_of_mem_items {scanner : Scanner} {lines : List (List Char)}
    (stands : scanner.cursor.StandsIn lines) {item : Scanned} (found : item ∈ scanner.items) :
    ∃ before c rest lexeme, lines[item.position.line - 1]? = some (before ++ c :: rest) ∧
      before.length = item.position.column ∧ Lexeme.Reads scanner.dialect c rest lexeme ∧
      item.token = lexeme.token ∧ item.size = lexeme.size ∧
      item.lexeme lines = (c :: rest).take lexeme.size ∧
      item.diagnostic = lexeme.flaw.map fun (defect, distance) =>
        ⟨⟨item.position.line, item.position.column + distance⟩, defect⟩ := by
  induction scanner using items_induction with
  | ended scanner finished => simp [items_of_ended finished] at found
  | more scanner unfinished ih =>
    rw [items_of_more unfinished] at found
    cases found with
    | head =>
      obtain ⟨c, rest, here⟩ := exists_char_of_more unfinished
      have behind : scanner.skipTrivia.cursor.StandsIn lines := stands.skip _
      obtain ⟨above, before, below, rfl, position⟩ := behind.line_of_char here
      have reads := Lexeme.reads_read scanner.dialect c (Glyph.lineText rest)
      generalize given : Lexeme.read scanner.dialect c (Glyph.lineText rest) = lexeme at reads
      have item : scanner.next.1 = ⟨⟨above.length + 1, before.length⟩, lexeme.token, lexeme.size,
          lexeme.flaw.map fun (defect, distance) =>
            ⟨⟨above.length + 1, before.length + distance⟩, defect⟩⟩ := by
        simp only [next, read, here, position, ← given]
        rfl
      rw [item]
      exact ⟨before, c, Glyph.lineText rest, lexeme, by simp, rfl, reads, rfl, rfl,
        by simp [Scanned.lexeme], rfl⟩
    | tail _ later =>
      obtain ⟨count, same⟩ := scanner.next_skips
      have dialect : scanner.next.2.dialect = scanner.dialect := by rw [same]
      rw [← dialect]
      exact ih (standsIn_next stands) later

/-- The diagnostics of tokens that do not overlap do not come to one position. -/
theorem pairwise_diagnostics_items {scanner : Scanner} {lines : List (List Char)}
    (stands : scanner.cursor.StandsIn lines) :
    (lexicalDiagnostics scanner.items).Pairwise (·.position < ·.position) := by
  apply List.Pairwise.filterMap _ _ (List.Pairwise.and_mem.mp scanner.pairwise_stop_items)
  intro first second both d recorded e recorded'
  obtain ⟨inside, later, apart⟩ := both
  obtain ⟨before, c, rest, lexeme, line, column, reads, -, size, -, flaw⟩ :=
    exists_reads_of_mem_items stands inside
  obtain ⟨before', c', rest', lexeme', line', column', -, -, -, -, flaw'⟩ :=
    exists_reads_of_mem_items stands later
  rw [recorded] at flaw
  rw [recorded'] at flaw'
  obtain ⟨⟨defect, distance⟩, here, rfl⟩ := Option.map_eq_some_iff.mp flaw.symm
  obtain ⟨⟨defect', distance'⟩, -, rfl⟩ := Option.map_eq_some_iff.mp flaw'.symm
  simp only [Scanned.stop, Position.le_iff, Position.lt_iff] at apart ⊢
  rcases reads.distance_cases here with inside | ⟨rfl, single, rfl⟩
  · omega
  · -- Nothing of the line is left behind the quote, so the other token is further down.
    have other : first.position.line ≠ second.position.line := by
      intro same
      rw [same, line', Option.some.injEq] at line
      have length := congrArg List.length line
      simp only [List.length_append, List.length_cons, List.length_nil] at length
      omega
    omega

end Scanner

/-- The scanner records what the lexemes of its tokens tell. Every token but the last has a lexeme on
    its line that fits it; it has a diagnostic if it is an end token, an integer above the largest one,
    or a character constant that is not one character between two quotes, and nothing else is recorded.
    The diagnostics come in the order of their positions, of which no two are equal. -/
theorem lexicalDiagnostics_by_lexemes (dialect : Dialect) (lines : List (List Char)) :
    let stream := scan dialect lines
    lexicalDiagnostics stream =
        stream.dropLast.filterMap (fun scanned =>
          scanned.token.flaw? scanned.position (scanned.lexeme lines)) ∧
      (∀ scanned ∈ stream.dropLast, ∃ before following,
        lines[scanned.position.line - 1]? = some (before ++ scanned.lexeme lines ++ following) ∧
          before.length = scanned.position.column ∧
          scanned.token.Fits dialect (scanned.lexeme lines) following) ∧
      (lexicalDiagnostics stream).Pairwise (·.position < ·.position) := by
  intro stream
  have stands := Cursor.standsIn_start lines
  have items : lexicalDiagnostics stream = lexicalDiagnostics stream.dropLast :=
    (Scanner.start dialect lines).lexicalDiagnostics_tokens
  refine ⟨?_, ?_, ?_⟩
  · rw [items]
    apply List.filterMap_congr
    intro scanned found
    obtain ⟨before, c, rest, lexeme, -, column, reads, token, -, text, flaw⟩ :=
      Scanner.exists_reads_of_mem_items stands found
    rw [flaw, token, text]
    exact (reads.flaw?_eq scanned.position.line scanned.position.column).symm
  · intro scanned found
    obtain ⟨before, c, rest, lexeme, line, column, reads, token, -, text, -⟩ :=
      Scanner.exists_reads_of_mem_items stands found
    obtain ⟨characters, following, split, size, fits⟩ := reads.fits
    obtain rfl : characters = scanned.lexeme lines := by
      rw [text, split, ← size, List.take_left]
    refine ⟨before, following, ?_, column, token ▸ fits⟩
    rw [line, split, List.append_assoc]
  · rw [items]
    exact Scanner.pairwise_diagnostics_items stands

end PascalLint
