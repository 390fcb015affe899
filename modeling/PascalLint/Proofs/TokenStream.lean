import PascalLint.Proofs.Pieces
import PascalLint.Report

/-! # The stream of tokens

An end token stands for two things, a character that begins no token and the end of the input. Only
the second ends the stream: a token takes up characters of one line and leaves the end of that line to
be read, so a scanner is at the end of the input behind the last token and behind no other
(`Scanner.atEnd_next_of_more`). Each of the other tokens begins further on than the one before it, at a
character that is not white space, and that bounds their number.
-/

namespace PascalLint

open PascalLint.Unicode (isWhiteSpace)

/-- Holds of the characters other than white space. -/
def Glyph.isDark : Glyph → Bool
  | .char c => !isWhiteSpace c
  | .lineEnd => false

theorem Glyph.countP_isDark_ofLines (lines : List (List Char)) :
    (ofLines lines).countP isDark = lines.flatten.countP (!isWhiteSpace ·) := by
  induction lines with
  | nil => rfl
  | cons line lines ih =>
    rw [ofLines_cons, List.countP_append, List.countP_map, List.countP_cons_of_neg (by decide), ih,
      List.flatten_cons, List.countP_append]
    rfl

namespace Scanner

/-! ## Calls for tokens -/

/-- The scanner behind its next `count` tokens. -/
def behind (scanner : Scanner) : Nat → Scanner
  | 0 => scanner
  | count + 1 => scanner.next.2.behind count

/-- The token that a scanner is asked for behind its next `count` tokens. -/
def call (scanner : Scanner) (count : Nat) : Scanned :=
  (scanner.behind count).next.1

/-- The tokens from the scanner on without the last one. -/
def items (scanner : Scanner) : List Scanned :=
  scanner.tokens.dropLast

theorem tokens_of_ended {scanner : Scanner} (ended : scanner.skipTrivia.atEnd = true) :
    scanner.tokens = [scanner.next.1] := by
  rw [tokens, dif_pos ended]

theorem tokens_of_more {scanner : Scanner} (more : scanner.skipTrivia.atEnd = false) :
    scanner.tokens = scanner.next.1 :: scanner.next.2.tokens := by
  rw [tokens, dif_neg (by simp [more])]

theorem items_of_ended {scanner : Scanner} (ended : scanner.skipTrivia.atEnd = true) :
    scanner.items = [] := by
  rw [items, tokens_of_ended ended, List.dropLast_singleton]

theorem items_of_more {scanner : Scanner} (more : scanner.skipTrivia.atEnd = false) :
    scanner.items = scanner.next.1 :: scanner.next.2.items := by
  have some : scanner.next.2.tokens ≠ [] := by
    rw [tokens]
    split <;> simp
  rw [items, tokens_of_more more, List.dropLast_cons_of_ne_nil some, items]

/-- Tokens follow one another until nothing but trivia is left. -/
theorem items_induction {motive : Scanner → Prop}
    (ended : ∀ scanner : Scanner, scanner.skipTrivia.atEnd = true → motive scanner)
    (more : ∀ scanner : Scanner, scanner.skipTrivia.atEnd = false → motive scanner.next.2 →
      motive scanner) (scanner : Scanner) : motive scanner := by
  fun_induction tokens scanner with
  | case1 scanner finished => exact ended scanner finished
  | case2 scanner unfinished ih => exact more scanner (by simpa using unfinished) ih

/-- A change of the scanner that changes each token in one way changes the stream so. -/
theorem tokens_map {change : Scanner → Scanner} {effect : Scanned → Scanned}
    (atEnd : ∀ scanner, (change scanner).skipTrivia.atEnd = scanner.skipTrivia.atEnd)
    (next : ∀ scanner, (change scanner).next = (effect scanner.next.1, change scanner.next.2))
    (scanner : Scanner) : (change scanner).tokens = scanner.tokens.map effect := by
  induction scanner using items_induction with
  | ended scanner finished =>
    rw [tokens_of_ended finished, tokens_of_ended ((atEnd scanner).trans finished), next]
    rfl
  | more scanner unfinished ih =>
    rw [tokens_of_more unfinished, tokens_of_more ((atEnd scanner).trans unfinished), next, ih]
    rfl

theorem tokens_congr {scanner other : Scanner} (same : scanner.skipTrivia = other.skipTrivia) :
    scanner.tokens = other.tokens := by
  have next : scanner.next = other.next := by
    rw [Scanner.next, Scanner.next, same]
  cases ended : other.skipTrivia.atEnd with
  | true => rw [tokens_of_ended ended, tokens_of_ended (by rwa [same]), next]
  | false => rw [tokens_of_more ended, tokens_of_more (by rwa [same]), next]

/-! ## The end of the input -/

theorem next_of_ended {scanner : Scanner} (ended : scanner.skipTrivia.atEnd = true) :
    scanner.next =
      (⟨scanner.skipTrivia.cursor.position, .endOfInput, 0, none⟩, scanner.skipTrivia) := by
  have nothing : scanner.skipTrivia.cursor.rest = [] := by
    simpa [atEnd, Cursor.atEnd] using ended
  simp only [next, read, nothing]

theorem skipTrivia_of_atEnd {scanner : Scanner} (ended : scanner.atEnd = true) :
    scanner.skipTrivia = scanner := by
  have nothing : scanner.cursor.rest = [] := by
    simpa [atEnd, Cursor.atEnd] using ended
  rw [skipTrivia, nothing, Trivia.size_nil]
  rfl

/-- At the end of the input every call gives the same token and leaves the scanner there. -/
theorem call_of_ended {scanner : Scanner} (ended : scanner.skipTrivia.atEnd = true) (count : Nat) :
    scanner.call count = ⟨scanner.skipTrivia.cursor.position, .endOfInput, 0, none⟩ ∧
      (scanner.behind (count + 1)).atEnd = true := by
  induction count generalizing scanner with
  | zero =>
    rw [call, behind, behind, behind, next_of_ended ended]
    exact ⟨rfl, ended⟩
  | succ count ih =>
    have stays := skipTrivia_of_atEnd ended
    have later := @ih scanner.skipTrivia (by rwa [stays])
    rw [stays] at later
    rw [call, behind, behind, next_of_ended ended]
    exact later

/-- The calls before the last token give the tokens before it, and then comes the end of the input. -/
theorem items_eq_calls (scanner : Scanner) :
    scanner.items = (List.range scanner.items.length).map scanner.call ∧
      (scanner.behind scanner.items.length).skipTrivia.atEnd = true := by
  induction scanner using items_induction with
  | ended scanner finished =>
    rw [items_of_ended finished]
    exact ⟨rfl, finished⟩
  | more scanner unfinished ih =>
    rw [items_of_more unfinished, List.length_cons, List.range_succ_eq_map, List.map_cons, List.map_map]
    exact ⟨congrArg (scanner.next.1 :: ·) ih.1, ih.2⟩

theorem call_add (scanner : Scanner) (first second : Nat) :
    scanner.call (first + second) = (scanner.behind first).call second ∧
      scanner.behind (first + second) = (scanner.behind first).behind second := by
  induction first generalizing scanner with
  | zero => simp [behind]
  | succ first ih =>
    rw [Nat.add_right_comm]
    exact ih scanner.next.2

theorem tokens_eq_items_append (scanner : Scanner) :
    scanner.tokens = scanner.items ++ [scanner.call scanner.items.length] := by
  induction scanner using items_induction with
  | ended scanner finished =>
    rw [items_of_ended finished, tokens_of_ended finished]
    rfl
  | more scanner unfinished ih =>
    rw [items_of_more unfinished, tokens_of_more unfinished, ih]
    rfl

/-- Behind a token that is not the last the end of its line is still to be read. -/
theorem atEnd_next_of_more {scanner : Scanner} (ended : Glyph.Ended scanner.cursor.rest)
    (more : scanner.skipTrivia.atEnd = false) : scanner.next.2.atEnd = false := by
  obtain ⟨text, lexeme, nonempty, -⟩ := piece_fits more
  have whole := scanner.glyphs_piece
  cases rest : scanner.next.2.cursor.rest with
  | cons glyph below => simp [atEnd, Cursor.atEnd, rest]
  | nil =>
    -- Otherwise the last glyph of all would be a character of the token.
    rw [rest, List.append_nil, Piece.glyphs, lexeme] at whole
    obtain ⟨front, c, rfl⟩ := (List.eq_nil_or_concat text).resolve_left nonempty
    apply absurd _ (ended c)
    rw [← whole]
    simp

theorem ended_next {scanner : Scanner} (ended : Glyph.Ended scanner.cursor.rest) :
    Glyph.Ended scanner.next.2.cursor.rest := by
  obtain ⟨count, same⟩ := scanner.next_skips
  rw [same, Cursor.rest_skip]
  exact ended.drop count

theorem atEnd_behind_of_lt {scanner : Scanner} (ended : Glyph.Ended scanner.cursor.rest) {count : Nat}
    (before : count < scanner.items.length) : (scanner.behind (count + 1)).atEnd = false := by
  induction scanner using items_induction generalizing count with
  | ended scanner finished =>
    rw [items_of_ended finished] at before
    cases before
  | more scanner unfinished ih =>
    rw [items_of_more unfinished, List.length_cons] at before
    cases count with
    | zero => exact atEnd_next_of_more ended unfinished
    | succ count => exact ih (ended_next ended) (Nat.lt_of_succ_lt_succ before)

/-! ## Positions -/

theorem position_next_fst (scanner : Scanner) :
    scanner.next.1.position = scanner.skipTrivia.cursor.position := by
  rw [next, read]
  split <;> rfl

theorem position_lt_next {scanner : Scanner} (more : scanner.skipTrivia.atEnd = false) :
    scanner.next.1.position < scanner.next.2.cursor.position := by
  obtain ⟨text, lexeme, nonempty, -⟩ := piece_fits more
  rw [position_next_fst, position_skipTrivia, position_next, Piece.glyphs, Position.behind_append]
  apply Position.lt_behind
  simpa [lexeme] using nonempty

theorem position_le_skipTrivia (scanner : Scanner) :
    scanner.cursor.position ≤ scanner.skipTrivia.cursor.position := by
  rw [position_skipTrivia]
  exact Position.le_behind _ _

/-- No token begins before the trivia has been passed over. -/
theorem position_le_of_mem_tokens {scanner : Scanner} {scanned : Scanned}
    (found : scanned ∈ scanner.tokens) : scanner.skipTrivia.cursor.position ≤ scanned.position := by
  induction scanner using items_induction with
  | ended scanner finished =>
    rw [tokens_of_ended finished] at found
    obtain rfl := List.mem_singleton.mp found
    rw [position_next_fst]
    exact Position.le_refl _
  | more scanner unfinished ih =>
    rw [tokens_of_more unfinished] at found
    cases found with
    | head =>
      rw [position_next_fst]
      exact Position.le_refl _
    | tail _ later =>
      have here := position_lt_next unfinished
      have gap := scanner.next.2.position_le_skipTrivia
      have there := ih later
      rw [position_next_fst] at here
      simp only [Position.lt_iff, Position.le_iff] at *
      omega

theorem pairwise_position_tokens (scanner : Scanner) :
    scanner.tokens.Pairwise (·.position < ·.position) := by
  induction scanner using items_induction with
  | ended scanner finished =>
    rw [tokens_of_ended finished]
    exact List.pairwise_singleton _ _
  | more scanner unfinished ih =>
    rw [tokens_of_more unfinished, List.pairwise_cons]
    refine ⟨fun scanned later => ?_, ih⟩
    have here := position_lt_next unfinished
    have gap := scanner.next.2.position_le_skipTrivia
    have there := position_le_of_mem_tokens later
    exact Position.lt_of_lt_of_le here (Position.le_trans gap there)

theorem standsIn_next {scanner : Scanner} {lines : List (List Char)}
    (stands : scanner.cursor.StandsIn lines) : scanner.next.2.cursor.StandsIn lines := by
  obtain ⟨count, same⟩ := scanner.next_skips
  rw [same]
  exact stands.skip count

/-- The last token is behind the last line. -/
theorem call_length_items {scanner : Scanner} {lines : List (List Char)}
    (stands : scanner.cursor.StandsIn lines) :
    scanner.call scanner.items.length = ⟨⟨lines.length + 1, 0⟩, .endOfInput, 0, none⟩ := by
  induction scanner using items_induction with
  | ended scanner finished =>
    have nothing : scanner.skipTrivia.cursor.rest = [] := by
      simpa [atEnd, Cursor.atEnd] using finished
    rw [items_of_ended finished, List.length_nil, (call_of_ended finished 0).1]
    have behind : scanner.skipTrivia.cursor.StandsIn lines := stands.skip _
    cases behind with
    | onLine above before behind below split position offset rest => simp [nothing] at rest
    | atEnd position offset rest => rw [position]
  | more scanner unfinished ih =>
    rw [items_of_more unfinished, List.length_cons]
    exact ih (standsIn_next stands)

/-- All but the last token are on one of the lines. -/
theorem line_le_of_mem_items {scanner : Scanner} {lines : List (List Char)}
    (stands : scanner.cursor.StandsIn lines) {item : Scanned} (found : item ∈ scanner.items) :
    item.position.line ≤ lines.length := by
  have increasing := scanner.pairwise_position_tokens
  rw [tokens_eq_items_append, call_length_items stands, List.pairwise_append] at increasing
  have before := increasing.2.2 item found _ List.mem_cons_self
  simp only [Position.lt_iff] at before
  omega

/-! ## The number of tokens -/

/-- Each token but the last takes up a character that is not white space. -/
theorem length_items_le (scanner : Scanner) :
    scanner.items.length ≤ scanner.cursor.rest.countP Glyph.isDark := by
  induction scanner using items_induction with
  | ended scanner finished => simp [items_of_ended finished]
  | more scanner unfinished ih =>
    obtain ⟨c, rest, here⟩ := exists_char_of_more unfinished
    have dark : Glyph.isDark (.char c) = true := by
      have bare := Trivia.size_drop_size scanner.cursor.rest
      rw [← rest_skipTrivia, here, Trivia.size_eq_zero_iff] at bare
      simp [Glyph.isDark, bare.1]
    -- The token is not empty, so the scanner goes on behind its first character at the earliest.
    have behind : scanner.next.2.cursor.rest <:+ rest := by
      have positive := Lexeme.size_read_pos scanner.dialect c (Glyph.lineText rest)
      obtain ⟨size, same⟩ := Nat.exists_eq_succ_of_ne_zero (Nat.ne_of_gt positive)
      have shown : scanner.next.2.cursor.rest = (Glyph.char c :: rest).drop
          (Lexeme.read scanner.dialect c (Glyph.lineText rest)).size := by
        simp only [next, read, here, Cursor.rest_skip]
        rfl
      rw [shown, same]
      exact List.drop_suffix size rest
    have count : (Glyph.char c :: rest).countP Glyph.isDark ≤
        scanner.cursor.rest.countP Glyph.isDark := by
      rw [← here, rest_skipTrivia]
      exact (List.drop_sublist _ _).countP_le
    rw [List.countP_cons_of_pos dark] at count
    have later := behind.sublist.countP_le (p := Glyph.isDark)
    rw [items_of_more unfinished, List.length_cons]
    omega

/-! ## Characters that begin no token -/

end Scanner

theorem Lexeme.Reads.endOfInput_cases {dialect : Dialect} {c : Char} {rest : List Char} {lexeme : Lexeme}
    (reads : Reads dialect c rest lexeme) :
    lexeme.token = .endOfInput ∧ lexeme.flaw = some (.unknownSymbol, 0) ∨
      lexeme.token ≠ .endOfInput ∧ ∀ distance, lexeme.flaw ≠ some (.unknownSymbol, distance) := by
  cases reads with
  | integer digit =>
    right
    simp only [Lexeme.integer]
    split <;> simp
  | character quote =>
    right
    rcases character_cases rest with ⟨-, same⟩ | ⟨_, _, -, same⟩ | ⟨_, _, _, -, -, -, same⟩ |
      ⟨_, _, -, -, same⟩ <;> simp [same]
  | word start =>
    right
    simp only [Lexeme.word]
    split <;> simp
  | pair spelled next => simp [Lexeme.punct]
  | single spelled alone => simp [Lexeme.punct]
  | unknown none => simp

namespace Scanner

/-- A token before the last one is an end token exactly if an unknown symbol is recorded for it, and then
    it is recorded where the token begins. -/
theorem endOfInput_cases_of_more {scanner : Scanner} (more : scanner.skipTrivia.atEnd = false) :
    scanner.next.1.token = .endOfInput ∧
        scanner.next.1.diagnostic = some ⟨scanner.next.1.position, .unknownSymbol⟩ ∨
      scanner.next.1.token ≠ .endOfInput ∧
        ∀ d, scanner.next.1.diagnostic = some d → d.defect ≠ .unknownSymbol := by
  obtain ⟨c, rest, here⟩ := exists_char_of_more more
  have reads := Lexeme.reads_read scanner.dialect c (Glyph.lineText rest)
  have dialect : scanner.skipTrivia.dialect = scanner.dialect := rfl
  simp only [next, read, here, dialect]
  cases reads.endOfInput_cases with
  | inl unknown =>
    left
    simp [unknown.1, unknown.2]
  | inr known =>
    right
    refine ⟨known.1, fun d found => ?_⟩
    obtain ⟨⟨defect, distance⟩, flaw, rfl⟩ := Option.map_eq_some_iff.mp found
    rintro rfl
    exact known.2 distance flaw

/-- The last token has no diagnostic. -/
theorem lexicalDiagnostics_tokens (scanner : Scanner) :
    lexicalDiagnostics scanner.tokens = lexicalDiagnostics scanner.items := by
  have finished := scanner.items_eq_calls.2
  have last : (scanner.call scanner.items.length).diagnostic = none := by
    have zero := (scanner.call_add scanner.items.length 0).1
    rw [Nat.add_zero, (call_of_ended finished 0).1] at zero
    rw [zero]
  rw [tokens_eq_items_append]
  simp [lexicalDiagnostics, last]

theorem endOfInput_positions (scanner : Scanner) :
    (scanner.items.filter (·.token = .endOfInput)).map (·.position) =
      ((lexicalDiagnostics scanner.items).filter (·.defect = .unknownSymbol)).map (·.position) := by
  induction scanner using items_induction with
  | ended scanner finished => simp [items_of_ended finished, lexicalDiagnostics]
  | more scanner unfinished ih =>
    simp only [lexicalDiagnostics] at ih
    simp only [items_of_more unfinished, lexicalDiagnostics]
    cases endOfInput_cases_of_more unfinished with
    | inl unknown =>
      rw [List.filter_cons_of_pos (by simpa using unknown.1), List.filterMap_cons_some unknown.2]
      simp [ih]
    | inr known =>
      rw [List.filter_cons_of_neg (by simpa using known.1), ih]
      cases recorded : scanner.next.1.diagnostic with
      | none => rw [List.filterMap_cons_none recorded]
      | some d =>
        rw [List.filterMap_cons_some recorded,
          List.filter_cons_of_neg (by simpa using known.2 d recorded)]

end Scanner

/-! ## Tables -/

namespace TokenTable

theorem add_append {line : Nat} {last : Nat × List Token} (before : line < last.1) (token : Token)
    (table : TokenTable) : add line token (table ++ [last]) = add line token table ++ [last] := by
  induction table with
  | nil => simp [add, before]
  | cons entry table ih =>
    simp only [List.cons_append, add, ih]
    split
    · rfl
    · split <;> rfl

theorem exists_of_mem_add {line : Nat} {token : Token} {table : TokenTable} {entry : Nat × List Token}
    (found : entry ∈ add line token table) : entry.1 = line ∨ ∃ old ∈ table, old.1 = entry.1 := by
  induction table with
  | nil =>
    left
    simp_all [add]
  | cons first table ih =>
    simp only [add] at found
    split at found
    · cases found with
      | head => exact .inl rfl
      | tail _ old => exact .inr ⟨entry, old, rfl⟩
    · split at found
      · cases found with
        | head => exact .inr ⟨first, List.mem_cons_self, rfl⟩
        | tail _ old => exact .inr ⟨entry, .tail _ old, rfl⟩
      · cases found with
        | head => exact .inr ⟨_, List.mem_cons_self, rfl⟩
        | tail _ later =>
          refine (ih later).imp_right fun ⟨old, inside, same⟩ => ?_
          exact ⟨old, .tail _ inside, same⟩

/-- A last token that is further down than all others has an entry of its own, the last one. -/
theorem ofStream_append {items : List Scanned} {final : Scanned}
    (above : ∀ item ∈ items, item.position.line < final.position.line) :
    ∃ table : TokenTable, ofStream (items ++ [final]) = table ++ [(final.position.line, [final.token])] ∧
      ∀ entry ∈ table, entry.1 < final.position.line := by
  induction items with
  | nil =>
    refine ⟨[], rfl, fun entry found => ?_⟩
    cases found
  | cons item items ih =>
    rw [List.forall_mem_cons] at above
    obtain ⟨table, same, lines⟩ := ih above.2
    refine ⟨add item.position.line item.token table, ?_, fun entry found => ?_⟩
    · rw [← add_append above.1, ← same]
      rfl
    · cases exists_of_mem_add found with
      | inl here => omega
      | inr old =>
        obtain ⟨old, inside, same⟩ := old
        have before := lines old inside
        omega

end TokenTable

/-! ## Whole sources -/

/-- A source of `n` lines gives finitely many tokens, each further on than the one before it. The calls
    before the last one leave something to be read, and the last one and all that are made after it give
    the end token behind the last line; no other token is there. There is one token more than characters
    other than white space, at most. The end tokens before the last one are where unknown symbols are
    recorded, one for one. -/
theorem scan_ends_once (dialect : Dialect) (lines : List (List Char)) :
    let scanner := Scanner.start dialect lines
    let final : Scanned := ⟨⟨lines.length + 1, 0⟩, .endOfInput, 0, none⟩
    ∃ items : List Scanned,
      scan dialect lines = items ++ [final] ∧
      items = (List.range items.length).map scanner.call ∧
      (∀ count, (scanner.behind (count + 1)).atEnd = true ↔ items.length ≤ count) ∧
      (∀ count, scanner.call (items.length + count) = final) ∧
      items.length ≤ lines.flatten.countP (!isWhiteSpace ·) ∧
      (scan dialect lines).Pairwise (·.position < ·.position) ∧
      (∀ item ∈ items, item.position.line ≤ lines.length) ∧
      (∀ checks file encoding, ∃ table,
        (check ⟨dialect, checks⟩ ⟨file, encoding, lines⟩).tokens =
          table ++ [(lines.length + 1, [.endOfInput])] ∧
        ∀ entry ∈ table, entry.1 ≤ lines.length) ∧
      (items.filter (·.token = .endOfInput)).map (·.position) =
        ((lexicalDiagnostics (scan dialect lines)).filter (·.defect = .unknownSymbol)).map
          (·.position) := by
  intro scanner final
  have glyphs : Glyph.Ended scanner.cursor.rest := Glyph.ended_ofLines lines
  have last : scanner.call scanner.items.length = final :=
    Scanner.call_length_items (Cursor.standsIn_start lines)
  have stream : scan dialect lines = scanner.items ++ [final] := by
    rw [← last]
    exact scanner.tokens_eq_items_append
  obtain ⟨calls, finished⟩ := scanner.items_eq_calls
  have increasing : (scan dialect lines).Pairwise (·.position < ·.position) :=
    scanner.pairwise_position_tokens
  have inside : ∀ item ∈ scanner.items, item.position.line ≤ lines.length :=
    fun item found => Scanner.line_le_of_mem_items (Cursor.standsIn_start lines) found
  refine ⟨scanner.items, stream, calls, fun count => ?_, fun count => ?_, ?_, increasing, inside,
    fun checks file encoding => ?_, ?_⟩
  · rcases Nat.lt_or_ge count scanner.items.length with before | past
    · have more := Scanner.atEnd_behind_of_lt glyphs before
      exact iff_of_false (by simp [more]) (Nat.not_le_of_lt before)
    · obtain ⟨later, rfl⟩ := Nat.exists_eq_add_of_le past
      have ended := (Scanner.call_of_ended finished later).2
      rw [← (scanner.call_add _ _).2] at ended
      exact iff_of_true ended past
  · rw [(scanner.call_add _ _).1, (Scanner.call_of_ended finished count).1, ← last]
    exact (Scanner.call_of_ended finished 0).1.symm
  · rw [← Glyph.countP_isDark_ofLines]
    exact scanner.length_items_le
  · have before : ∀ item ∈ scanner.items, item.position.line < final.position.line :=
      fun item found => Nat.lt_succ_of_le (inside item found)
    obtain ⟨table, same, lines⟩ := TokenTable.ofStream_append before
    refine ⟨table, ?_, fun entry found => Nat.le_of_lt_succ (lines entry found)⟩
    rw [← stream] at same
    exact same
  · have silent : lexicalDiagnostics (scan dialect lines) = lexicalDiagnostics scanner.items :=
      scanner.lexicalDiagnostics_tokens
    rw [silent]
    exact scanner.endOfInput_positions

end PascalLint
