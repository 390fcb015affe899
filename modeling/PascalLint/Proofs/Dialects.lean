import PascalLint.Proofs.TokenStream

/-! # Tokens in either dialect

No word is reserved twice, so a dialect that reserves fewer of them makes a name of the others and
leaves what it keeps as it is. The lexeme is the same run of characters whatever the look-up says.
So the scanner passes over the same glyphs in both dialects, and the tokens differ only where an
extension word stands.
-/

namespace PascalLint

/-- The token in the standard dialect. The words of the `while` loop and of the bounds of a `for`
    loop are names there. -/
def Token.demote : Token → Token
  | reserved .whileWord | reserved .doWord | reserved .toWord | reserved .downtoWord => name
  | token => token

/-- The lexeme in the standard dialect. -/
def Lexeme.demote (lexeme : Lexeme) : Lexeme :=
  { lexeme with token := lexeme.token.demote }

/-- The token at its position in the standard dialect. -/
def Scanned.demote (scanned : Scanned) : Scanned :=
  { scanned with token := scanned.token.demote }

theorem Token.demote_reserved (word : Reserved) :
    (reserved word).demote = if word.isExtension then name else reserved word := by
  cases word <;> rfl

/-! ## Words -/

namespace Reserved

theorem isExtension_iff {word : Reserved} :
    word.isExtension = true ↔ word ∈ [whileWord, doWord, toWord, downtoWord] := by
  cases word <;> decide

/-- What a name is in the standard dialect is told by what it is in any dialect. -/
theorem lookup?_standard (dialect : Dialect) (name : List Char) :
    lookup? .standard name = (lookup? dialect name).filter (!·.isExtension) := by
  ext word
  rw [lookup?_eq_some_iff, Option.filter_eq_some_iff, lookup?_eq_some_iff]
  cases dialect <;> simp [Dialect.reserves, and_comm]

end Reserved

/-! ## Lexemes -/

namespace Lexeme

theorem demote_character (rest : List Char) : (character rest).demote = character rest := by
  unfold character
  split <;> rfl

theorem demote_word (dialect : Dialect) (characters : List Char) :
    (word dialect characters).demote = word .standard characters := by
  rw [word, word, Reserved.lookup?_standard dialect]
  cases Reserved.lookup? dialect characters with
  | none => rfl
  | some reserved =>
    rw [demote, Token.demote_reserved]
    cases extension : reserved.isExtension <;> simp [Option.filter, extension]

theorem Reads.standard {dialect : Dialect} {c : Char} {rest : List Char} {lexeme : Lexeme}
    (reads : Reads dialect c rest lexeme) : Reads .standard c rest lexeme.demote := by
  -- Only what is read of a word depends on the dialect.
  cases reads with
  | integer digit => exact .integer digit
  | character quote =>
    rw [demote_character]
    exact .character quote
  | word start =>
    rw [demote_word]
    exact .word start
  | pair spelled next => exact .pair spelled next
  | single spelled alone => exact .single spelled alone
  | unknown none => exact .unknown none

theorem read_standard (dialect : Dialect) (c : Char) (rest : List Char) :
    read .standard c rest = (read dialect c rest).demote :=
  (eq_read_of_reads (reads_read dialect c rest).standard).symm

end Lexeme

/-! ## The stream of tokens -/

namespace Scanner

/-- The scanner at the same place in the standard dialect. -/
def standard (scanner : Scanner) : Scanner :=
  { scanner with dialect := .standard }

theorem next_standard (scanner : Scanner) :
    scanner.standard.next = (scanner.next.1.demote, scanner.next.2.standard) := by
  have same : scanner.standard.skipTrivia = scanner.skipTrivia.standard := rfl
  rw [next, next, same]
  obtain ⟨dialect, position, offset, rest⟩ := scanner.skipTrivia
  cases rest with
  | nil => rfl
  | cons glyph rest =>
    cases glyph with
    | lineEnd => rfl
    | char c =>
      simp only [read, standard, Lexeme.read_standard dialect]
      rfl

theorem tokens_standard (scanner : Scanner) :
    scanner.standard.tokens = scanner.tokens.map Scanned.demote := by
  have ended (scanner : Scanner) : scanner.standard.skipTrivia.atEnd = scanner.skipTrivia.atEnd := rfl
  exact tokens_map ended next_standard scanner

end Scanner

theorem lexicalDiagnostics_demote (tokens : List Scanned) :
    lexicalDiagnostics (tokens.map Scanned.demote) = lexicalDiagnostics tokens := by
  rw [lexicalDiagnostics, List.filterMap_map]
  rfl

/-- In the standard dialect a source has the tokens of the extended one, at the same positions, but for
    `while`, `do`, `to` and `downto`, which are names, and it has the same diagnostics. A name is a word
    of the standard dialect if and only if it is this word in the extended one and none of those four. -/
theorem scan_standard (lines : List (List Char)) :
    scan .standard lines = (scan .extended lines).map Scanned.demote ∧
      lexicalDiagnostics (scan .standard lines) = lexicalDiagnostics (scan .extended lines) ∧
      (∀ checks file encoding,
        (check ⟨.standard, checks⟩ ⟨file, encoding, lines⟩).findings =
          (check ⟨.extended, checks⟩ ⟨file, encoding, lines⟩).findings) ∧
      ∀ name word, Reserved.lookup? .standard name = some word ↔
        Reserved.lookup? .extended name = some word ∧
          word ∉ [.whileWord, .doWord, .toWord, .downtoWord] := by
  have stream : scan .standard lines = (scan .extended lines).map Scanned.demote :=
    Scanner.tokens_standard (.start .extended lines)
  have lexical : lexicalDiagnostics (scan .standard lines) =
      lexicalDiagnostics (scan .extended lines) := by
    rw [stream, lexicalDiagnostics_demote]
  refine ⟨stream, lexical, fun checks file encoding => ?_, fun name word => ?_⟩
  · simp only [check, lexical]
  · rw [Reserved.lookup?_standard .extended, Option.filter_eq_some_iff, ← Reserved.isExtension_iff]
    simp

end PascalLint
