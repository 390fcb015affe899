import PascalLint.Diagnostic
import PascalLint.Proofs.Comment
import PascalLint.Proofs.Place
import PascalLint.Proofs.TokenGrammar
import PascalLint.Proofs.Words
import PascalLint.Rule.Basic
import PascalLint.Scanner

/-! # The evidence for a diagnostic

What stands where a diagnostic points (`Defect.Evidence`), in terms of the line as it was written.
This module shows it for the diagnostics of the scanner: a token is read where the trivia before it
has been passed over, and there the grammar of tokens says what stands.
-/

namespace PascalLint

open PascalLint.Unicode (isWhiteSpace)

/-! ## Evidence -/

/-- One of some words ends at a column of a line, in whatever letter case. -/
def EndsWord (raw : List Char) (column : Nat) (words : List Reserved) : Prop :=
  ∃ word : Word, word.StandsIn raw ∧ word.stop = column ∧ ∃ w ∈ words, word.text = w.spelling

/-- What stands at the position of a defect in its line `raw`, in a source of `count` lines. -/
def Defect.Evidence (count : Nat) (raw : List Char) (position : Position) : Defect → Prop
  | unknownSymbol =>
    ∃ c, raw[position.column]? = some c ∧ isWhiteSpace c = false ∧ BeginsNoToken c
  | badCharConstant =>
    ∃ quote, position.column = quote + 1 ∧ raw[quote]? = some '\'' ∧ raw[quote + 2]? ≠ some '\''
  | integerOutOfRange =>
    let digits := (raw.drop position.column).takeWhile Char.isDigit
    digits ≠ [] ∧ 32767 < Lexeme.value digits
  | unterminatedString => raw[position.column]? = some '\''
  | unterminatedComment =>
    raw[position.column]? = some '{' ∨ ['(', '*'] <+: raw.drop position.column
  | tripleDot => ['.', '.', '.'] <+: raw.drop position.column
  | equalsForAssignment =>
    raw[position.column]? = some '=' ∧
      ∀ before c, position.column = before + 1 → raw[before]? = some c → c ≠ '<' ∧ c ≠ '>'
  | undeclaredName =>
    ∃ word : Word, word.StandsIn raw ∧ word.start = position.column ∧
      word.text ∈ [['x'], ['y'], ['k'], ['i'], ['c', 'h']]
  | malformedEnd =>
    ∃ word : Word, word.StandsIn raw ∧ word.start = position.column ∧
      ['e', 'n', 'd'] <+: word.text
  | unmatchedEnd =>
    ∃ word : Word, word.StandsIn raw ∧ word.start = position.column ∧ word.text = ['e', 'n', 'd']
  | unterminatedBlock => position = ⟨count, 0⟩
  | badCaseLabel => ∃ c, raw[position.column]? = some c ∧ isWhiteSpace c = false
  | missingThen => EndsWord raw position.column [.ifWord]
  | missingDo => EndsWord raw position.column [.forWord, .whileWord]
  | missingOf => EndsWord raw position.column [.caseWord]
  | headerWithoutAssignment => EndsWord raw position.column [.forWord]
  | emptyCondition => EndsWord raw position.column [.ifWord, .forWord, .whileWord, .caseWord]
  | emptyBody => EndsWord raw position.column [.thenWord, .doWord, .ofWord]

/-- A diagnostic is on one of the lines, in its columns or right behind them, where the line has the
    evidence for it. -/
def Diagnostic.PointsInto (d : Diagnostic) (lines : List (List Char)) : Prop :=
  ∃ above raw below, lines = above ++ raw :: below ∧ d.position.line = above.length + 1 ∧
    d.position.column ≤ raw.length ∧ d.defect.Evidence lines.length raw d.position

/-! ## Lexical diagnostics -/

namespace Scanner

/-- A token is read off the source where nothing is to be passed over before it. -/
theorem mem_tokens {scanner : Scanner} {scanned : Scanned} (found : scanned ∈ scanner.tokens) :
    ∃ count, Trivia.size (scanner.cursor.skip count).rest = 0 ∧
      scanned = (Scanner.mk scanner.dialect (scanner.cursor.skip count)).read.1 := by
  have first : ∀ scanner : Scanner, ∃ count, Trivia.size (scanner.cursor.skip count).rest = 0 ∧
      scanner.next.1 = (Scanner.mk scanner.dialect (scanner.cursor.skip count)).read.1 := by
    intro scanner
    refine ⟨Trivia.size scanner.cursor.rest, ?_, rfl⟩
    rw [Cursor.rest_skip, Trivia.size_drop_size]
  fun_induction tokens scanner with
  | case1 scanner ended =>
    obtain rfl := List.mem_singleton.mp found
    exact first scanner
  | case2 scanner more ih =>
    rcases List.mem_cons.mp found with rfl | later
    · exact first scanner
    · obtain ⟨passed, same⟩ := scanner.next_skips
      obtain ⟨count, bare, read⟩ := ih later
      rw [same] at bare read
      rw [← Cursor.skip_add] at bare read
      exact ⟨passed + count, bare, read⟩

end Scanner

/-- What a lexeme has wrong stands on the line, behind the characters before it. -/
theorem Lexeme.Reads.evidence {dialect : Dialect} {c : Char} {rest : List Char} {lexeme : Lexeme}
    {defect : Defect} {distance : Nat} (reads : Reads dialect c rest lexeme)
    (flaw : lexeme.flaw = some (defect, distance)) (dark : isWhiteSpace c = false)
    (before : List Char) (count line : Nat) :
    before.length + distance ≤ (before ++ c :: rest).length ∧
      defect.Evidence count (before ++ c :: rest) ⟨line, before.length + distance⟩ := by
  cases reads with
  | integer digit =>
    have split : ((before ++ c :: rest).drop before.length).takeWhile Char.isDigit =
        c :: rest.takeWhile Char.isDigit := by
      rw [List.drop_left, List.takeWhile_cons_of_pos digit]
    simp only [Lexeme.integer] at flaw
    split at flaw
    next large =>
      obtain ⟨rfl, rfl⟩ : Defect.integerOutOfRange = defect ∧ 0 = distance := by simpa using flaw
      refine ⟨by simp, ?_⟩
      simp only [Defect.Evidence, Nat.add_zero, split]
      exact ⟨List.cons_ne_nil _ _, large⟩
    next => cases flaw
  | character quote =>
    subst quote
    have place (tail : List Char) : (before ++ '\'' :: tail)[before.length]? = some '\'' := by simp
    have next (tail : List Char) : (before ++ '\'' :: tail)[before.length + 2]? = tail[1]? := by
      rw [List.getElem?_append_right (by omega), show before.length + 2 - before.length = 2 by omega]
      rfl
    obtain ⟨rfl, rfl, other⟩ := character_flaw flaw
    exact ⟨by simp, before.length, rfl, place rest, by rwa [next]⟩
  | word start => cases flaw
  | pair spelled next => cases flaw
  | single spelled alone => cases flaw
  | unknown none =>
    obtain ⟨rfl, rfl⟩ : Defect.unknownSymbol = defect ∧ 0 = distance := by simpa using flaw
    exact ⟨by simp, c, by simp, dark, none⟩

/-- The number of characters between the start of a token and the place of its defect. -/
def Defect.distance : Defect → Nat
  | .badCharConstant => 1
  | _ => 0

/-- A lexeme has lexical defects only, and how far from its start one is depends on the defect alone. -/
theorem Lexeme.Reads.flaw_eq {dialect : Dialect} {c : Char} {rest : List Char} {lexeme : Lexeme}
    {defect : Defect} {distance : Nat} (reads : Reads dialect c rest lexeme)
    (flaw : lexeme.flaw = some (defect, distance)) :
    defect.category = .lexical ∧ distance = defect.distance := by
  cases reads with
  | integer digit =>
    simp only [Lexeme.integer] at flaw
    split at flaw
    next =>
      cases flaw
      exact ⟨rfl, rfl⟩
    next => cases flaw
  | character quote =>
    obtain ⟨rfl, rfl, -⟩ := character_flaw flaw
    exact ⟨rfl, rfl⟩
  | word start => cases flaw
  | pair spelled next => cases flaw
  | single spelled alone => cases flaw
  | unknown none =>
    cases flaw
    exact ⟨rfl, rfl⟩

theorem Defect.rule?_of_lexical {defect : Defect} (lexical : defect.category = .lexical) :
    defect.rule? = none := by
  cases defect <;> first | rfl | cases lexical

/-- What a lexeme has wrong is the business of no rule. -/
theorem Lexeme.Reads.rule?_eq_none {dialect : Dialect} {c : Char} {rest : List Char}
    {lexeme : Lexeme} {defect : Defect} {distance : Nat} (reads : Reads dialect c rest lexeme)
    (flaw : lexeme.flaw = some (defect, distance)) : defect.rule? = none :=
  Defect.rule?_of_lexical (reads.flaw_eq flaw).1

/-- A token is read at a character on one of the lines, if it is not the last one. -/
theorem exists_lexeme_of_mem_scan {dialect : Dialect} {lines : List (List Char)} {scanned : Scanned}
    (found : scanned ∈ scan dialect lines) :
    (scanned.token = .endOfInput ∧ scanned.diagnostic = none) ∨
      ∃ above before c rest below lexeme, lines = above ++ (before ++ c :: rest) :: below ∧
        isWhiteSpace c = false ∧ Lexeme.Reads dialect c rest lexeme ∧
        scanned = ⟨⟨above.length + 1, before.length⟩, lexeme.token, lexeme.size,
          lexeme.flaw.map fun (defect, distance) =>
            ⟨⟨above.length + 1, before.length + distance⟩, defect⟩⟩ := by
  -- The scanner reads the token at a cursor that stands somewhere in the lines.
  obtain ⟨count, bare, rfl⟩ := Scanner.mem_tokens found
  have stands := (Cursor.standsIn_start lines).skip count
  simp only [Scanner.start] at bare ⊢
  generalize (Cursor.start lines).skip count = cursor at bare stands ⊢
  unfold Scanner.read
  split
  next c rest here =>
    obtain ⟨above, before, below, split, position⟩ := stands.line_of_char here
    obtain ⟨dark, -⟩ := Trivia.size_eq_zero_iff.mp (here ▸ bare)
    exact .inr ⟨above, before, c, Glyph.lineText rest, below, _, split, dark,
      Lexeme.reads_read dialect c _, by simp only [position]⟩
  next => exact .inl ⟨rfl, rfl⟩

/-- A lexical diagnostic is for what a lexeme on one of the lines has wrong. -/
theorem exists_flaw_of_mem_lexicalDiagnostics {dialect : Dialect} {lines : List (List Char)}
    {d : Diagnostic} (found : d ∈ lexicalDiagnostics (scan dialect lines)) :
    ∃ above before c rest below lexeme distance, lines = above ++ (before ++ c :: rest) :: below ∧
      isWhiteSpace c = false ∧ Lexeme.Reads dialect c rest lexeme ∧
      lexeme.flaw = some (d.defect, distance) ∧
      d.position = ⟨above.length + 1, before.length + distance⟩ := by
  obtain ⟨scanned, token, flawed⟩ := List.mem_filterMap.mp found
  cases exists_lexeme_of_mem_scan token with
  | inl last =>
    rw [last.2] at flawed
    cases flawed
  | inr read =>
    obtain ⟨above, before, c, rest, below, lexeme, split, dark, reads, rfl⟩ := read
    obtain ⟨⟨defect, distance⟩, flaw, rfl⟩ := Option.map_eq_some_iff.mp flawed
    exact ⟨above, before, c, rest, below, lexeme, distance, split, dark, reads, flaw, rfl⟩

theorem pointsInto_of_mem_lexicalDiagnostics {dialect : Dialect} {lines : List (List Char)}
    {d : Diagnostic} (found : d ∈ lexicalDiagnostics (scan dialect lines)) : d.PointsInto lines := by
  obtain ⟨above, before, c, rest, below, lexeme, distance, split, dark, reads, flaw, position⟩ :=
    exists_flaw_of_mem_lexicalDiagnostics found
  obtain ⟨inside, evidence⟩ := reads.evidence flaw dark before lines.length
    (above.length + 1)
  refine ⟨above, before ++ c :: rest, below, split, ?_, ?_, ?_⟩
  · rw [position]
  · rwa [position]
  · rwa [position]

end PascalLint
