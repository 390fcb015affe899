import PascalLint.Proofs.OpenComment
import PascalLint.Proofs.TokenStream

/-! # One source above another

A token ends on its line, so lines below it do not change it, and the scanner goes on in them as it
would at their beginning. There is one exception: a block comment that is open at the end of the
lines above takes in a part of those below. Even then no token of the lines above is affected.

`Gap.size_append` says this of what is passed over at the end of the lines above, `Scanner.tokens_extend`
of the stream of tokens.
-/

namespace PascalLint

open PascalLint.Unicode (isWhiteSpace)

/-! ## Gaps above other lines -/

/-- A comment without a terminator takes up all glyphs at least, with more of them below. -/
theorem CommentStyle.length_le_through_append {style : CommentStyle} {glyphs : List Glyph}
    (absent : ¬style.terminator <:+: glyphs) (below : List Glyph) :
    glyphs.length ≤ style.through (glyphs ++ below) := by
  rcases style.through_cases (glyphs ++ below) with ⟨-, all⟩ | ⟨body, rest, split, -, size⟩
  · simp [all]
  · -- A terminator that ends earlier would be one of the glyphs.
    apply Nat.le_of_not_lt
    intro shorter
    have front : body ++ style.terminator <+: glyphs ++ below := by
      rw [split, ← List.append_assoc]
      exact List.prefix_append _ _
    have inside : body ++ style.terminator <+: glyphs := by
      apply List.prefix_of_prefix_length_le front (List.prefix_append _ _)
      rw [List.length_append]
      omega
    exact absent ((List.suffix_append body style.terminator).isInfix.trans inside.isInfix)

namespace Trivia

/-- A comment belongs to what is passed over. -/
theorem commentSize_le_size (glyphs : List Glyph) : commentSize glyphs ≤ size glyphs := by
  by_cases comment : commentSize glyphs = 0
  · rw [comment]
    exact Nat.zero_le _
  · obtain ⟨c, rest, rfl, opener⟩ := head_of_commentSize comment
    have dark : isWhiteSpace c = false := by
      simp only [List.mem_cons, List.not_mem_nil, or_false] at opener
      rcases opener with rfl | rfl | rfl <;> decide
    rw [size, if_neg (by simp [dark])]
    split <;> omega

/-- A closed comment in front changes nothing about what is passed over behind it. -/
theorem size_append_comment {front gap below : List Glyph} (nonempty : front ≠ [])
    (alone : commentSize (front ++ gap) = front.length)
    (extended : commentSize (front ++ (gap ++ below)) = front.length)
    (behind : gap.length ≤ size (gap ++ below) ∧
      (¬EndsInComment gap → size (gap ++ below) = gap.length + size below)) :
    (front ++ gap).length ≤ size (front ++ gap ++ below) ∧
      (¬EndsInComment (front ++ gap) →
        size (front ++ gap ++ below) = (front ++ gap).length + size below) := by
  rw [List.append_assoc, size_comment nonempty extended, List.length_append]
  refine ⟨Nat.add_le_add_left behind.1 _, fun outside => ?_⟩
  rw [behind.2 fun ends => outside (.comment nonempty alone ends), Nat.add_assoc]

end Trivia

/-- What is passed over before more glyphs is passed over in front of them too, and then comes what is
    passed over of them, unless a comment is left open. -/
theorem Gap.size_append {final : Prop} {glyphs : List Glyph} (gap : Gap final glyphs)
    (below : List Glyph) :
    glyphs.length ≤ Trivia.size (glyphs ++ below) ∧
      (¬Trivia.EndsInComment glyphs →
        Trivia.size (glyphs ++ below) = glyphs.length + Trivia.size below) := by
  induction gap with
  | nil => simp
  | @whiteSpace c gap white tail ih =>
    rw [List.cons_append, Trivia.size_whiteSpace _ white, List.length_cons]
    refine ⟨Nat.succ_le_succ ih.1, fun outside => ?_⟩
    rw [ih.2 fun ends => outside (.whiteSpace white ends)]
    omega
  | @lineEnd gap tail ih =>
    rw [List.cons_append, Trivia.size_lineEnd, List.length_cons]
    refine ⟨Nat.succ_le_succ ih.1, fun outside => ?_⟩
    rw [ih.2 fun ends => outside (.lineEnd ends)]
    omega
  | @lineComment text gap ended tail ih =>
    obtain ⟨rest, rfl⟩ := List.head?_eq_some_iff.mp ended
    have size (behind : List Glyph) : Trivia.commentSize
        (.char '/' :: .char '/' :: text.map .char ++ .lineEnd :: behind) =
          (Glyph.char '/' :: .char '/' :: text.map .char).length := by
      simp [Trivia.commentSize]
    exact Trivia.size_append_comment (List.cons_ne_nil _ _) (size rest) (size (rest ++ below)) ih
  | @blockComment style body gap inside tail ih =>
    have size (behind : List Glyph) :
        Trivia.commentSize (style.opener ++ body ++ style.terminator ++ behind) =
          (style.opener ++ body ++ style.terminator).length := by
      rw [List.append_assoc, List.append_assoc, Trivia.commentSize_opener,
        CommentStyle.through_closed inside, List.length_append, List.length_append, Nat.add_assoc]
    have nonempty : style.opener ++ body ++ style.terminator ≠ [] := by
      cases style <;> exact List.cons_ne_nil _ _
    exact Trivia.size_append_comment nonempty (size gap) (size (gap ++ below)) ih
  | @unterminated style body last inside =>
    refine ⟨?_, fun outside => absurd (.unterminated style inside) outside⟩
    have comment := Trivia.commentSize_le_size (style.opener ++ (body ++ below))
    have through := CommentStyle.length_le_through_append inside below
    rw [Trivia.commentSize_opener] at comment
    rw [List.append_assoc, List.length_append]
    omega

/-! ## Scanners above other lines -/

/-- No comment is left open where none is opened. -/
theorem Trivia.EndsInComment.opener_infix {glyphs : List Glyph} (ends : EndsInComment glyphs) :
    ∃ style : CommentStyle, style.opener <:+: glyphs := by
  induction ends with
  | whiteSpace white tail ih =>
    obtain ⟨style, inside⟩ := ih
    exact ⟨style, List.infix_cons inside⟩
  | lineEnd tail ih =>
    obtain ⟨style, inside⟩ := ih
    exact ⟨style, List.infix_cons inside⟩
  | comment nonempty size tail ih =>
    obtain ⟨style, inside⟩ := ih
    exact ⟨style, inside.trans (List.suffix_append _ _).isInfix⟩
  | unterminated style absent => exact ⟨style, (List.prefix_append _ _).isInfix⟩

theorem Scanner.EndsInComment.opener_infix {scanner : Scanner} (ends : scanner.EndsInComment) :
    ∃ style : CommentStyle, style.opener <:+: scanner.cursor.rest := by
  induction ends with
  | trivia ends => exact ends.opener_infix
  | @token scanner more behind ih =>
    obtain ⟨style, inside⟩ := ih
    obtain ⟨count, same⟩ := scanner.next_skips
    rw [same, Cursor.rest_skip] at inside
    exact ⟨style, inside.trans (List.drop_suffix count scanner.cursor.rest).isInfix⟩

theorem Cursor.StandsIn.skip_length {lines : List (List Char)} {cursor : Cursor}
    (stands : cursor.StandsIn lines) :
    cursor.skip cursor.rest.length = ⟨⟨lines.length + 1, 0⟩, 0, []⟩ := by
  have behind := stands.skip cursor.rest.length
  cases behind with
  | onLine above before behind below split position offset rest => simp at rest
  | atEnd position offset rest =>
    generalize cursor.skip cursor.rest.length = last at position offset rest
    obtain ⟨place, bytes, glyphs⟩ := last
    simp only at position offset rest
    rw [position, offset, rest]

namespace Scanner

variable {scanner : Scanner} {above : List (List Char)} (stands : scanner.cursor.StandsIn above)
  (ended : Glyph.Ended scanner.cursor.rest) (finished : scanner.skipTrivia.atEnd = true)
  (below : List Glyph)
include stands ended finished

/-- Where no token is left above, a scanner passes over all that is left, and over the trivia below if
    no comment is open. -/
theorem skipTrivia_extend_of_ended :
    ⟨above.length + 1, 0⟩ ≤ (scanner.extend below).skipTrivia.cursor.position ∧
      (¬Trivia.EndsInComment scanner.cursor.rest → (scanner.extend below).skipTrivia =
        (Scanner.mk scanner.dialect ⟨⟨above.length + 1, 0⟩, 0, below⟩).skipTrivia) := by
  have nothing : scanner.cursor.rest.drop (Trivia.size scanner.cursor.rest) = [] := by
    rw [← rest_skipTrivia]
    simpa [atEnd, Cursor.atEnd] using finished
  have gap := Trivia.gap_take_size ended
  rw [List.take_of_length_le (List.drop_eq_nil_iff.mp nothing)] at gap
  obtain ⟨long, size⟩ := gap.size_append below
  -- The cursor goes through the lines above first.
  have front : (scanner.cursor.extend below).skip scanner.cursor.rest.length =
      ⟨⟨above.length + 1, 0⟩, 0, below⟩ := by
    rw [Cursor.skip_extend below (Nat.le_refl _), stands.skip_length]
    rfl
  constructor
  · obtain ⟨more, same⟩ := Nat.exists_eq_add_of_le long
    have position : (scanner.extend below).skipTrivia.cursor =
        (Cursor.mk ⟨above.length + 1, 0⟩ 0 below).skip more := by
      rw [← front, ← Cursor.skip_add, ← same]
      rfl
    rw [position, Cursor.position_skip]
    exact Position.le_behind _ _
  · intro outside
    have cursor : (scanner.extend below).skipTrivia.cursor =
        (Cursor.mk ⟨above.length + 1, 0⟩ 0 below).skip (Trivia.size below) := by
      rw [← front, ← Cursor.skip_add, ← size outside]
      rfl
    exact congrArg (Scanner.mk scanner.dialect) cursor

omit finished in
/-- A scanner with more glyphs below reads its own tokens first. What it reads then begins below, and
    if no comment is left open it is what a scanner reads that begins there. -/
theorem tokens_extend :
    ∃ rest, (scanner.extend below).tokens = scanner.items ++ rest ∧
      (∀ scanned ∈ rest, above.length < scanned.position.line) ∧
      (¬scanner.EndsInComment →
        rest = (Scanner.mk scanner.dialect ⟨⟨above.length + 1, 0⟩, 0, below⟩).tokens) := by
  induction scanner using items_induction with
  | ended scanner finished =>
    obtain ⟨position, same⟩ := skipTrivia_extend_of_ended stands ended finished below
    refine ⟨(scanner.extend below).tokens, ?_, fun scanned found => ?_, fun outside => ?_⟩
    · rw [items_of_ended finished, List.nil_append]
    · have later := Position.le_trans position (position_le_of_mem_tokens found)
      simp only [Position.le_iff] at later
      omega
    · exact tokens_congr (same fun ends => outside (.trivia ends))
  | more scanner unfinished ih =>
    obtain ⟨rest, tokens, lines, same⟩ := ih (standsIn_next stands) (ended_next ended)
    have next := next_extend below ended unfinished
    have unfinished' : (scanner.extend below).skipTrivia.atEnd = false := by
      obtain ⟨c, glyphs, here⟩ := exists_char_of_more unfinished
      rw [skipTrivia_extend below ended unfinished]
      simp [extend, Cursor.extend, atEnd, Cursor.atEnd, here]
    refine ⟨rest, ?_, lines, fun outside => ?_⟩
    · rw [tokens_of_more unfinished', items_of_more unfinished, next, tokens, List.cons_append]
    · have dialect : scanner.next.2.dialect = scanner.dialect := by
        obtain ⟨count, step⟩ := scanner.next_skips
        rw [step]
      rw [same fun ends => outside (.token unfinished ends), dialect]

end Scanner

/-! ## Lines further down -/

/-- The position as many lines further down. -/
def Position.down (count : Nat) (position : Position) : Position :=
  ⟨position.line + count, position.column⟩

/-- The diagnostic as many lines further down. -/
def Diagnostic.down (count : Nat) (diagnostic : Diagnostic) : Diagnostic :=
  { diagnostic with position := diagnostic.position.down count }

/-- The token, with its diagnostic, as many lines further down. -/
def Scanned.down (count : Nat) (scanned : Scanned) : Scanned :=
  { scanned with
    position := scanned.position.down count
    diagnostic := scanned.diagnostic.map (.down count) }

/-- The cursor as many lines further down. -/
def Cursor.down (count : Nat) (cursor : Cursor) : Cursor :=
  { cursor with position := cursor.position.down count }

/-- The scanner as many lines further down. -/
def Scanner.down (count : Nat) (scanner : Scanner) : Scanner :=
  { scanner with cursor := scanner.cursor.down count }

variable (count : Nat)

theorem Cursor.skip_down (cursor : Cursor) (passed : Nat) :
    (cursor.down count).skip passed = (cursor.skip passed).down count := by
  induction passed generalizing cursor with
  | zero => rfl
  | succ passed ih =>
    have step : (cursor.down count).advance = cursor.advance.down count := by
      obtain ⟨position, offset, rest⟩ := cursor
      match rest with
      | [] => rfl
      | .char c :: rest => rfl
      | .lineEnd :: rest => simp [advance, down, Position.down, Nat.add_right_comm]
    rw [skip, skip, step, ih]

namespace Scanner

theorem skipTrivia_down (scanner : Scanner) :
    (scanner.down count).skipTrivia = scanner.skipTrivia.down count :=
  congrArg (Scanner.mk scanner.dialect) (Cursor.skip_down count _ _)

theorem next_down (scanner : Scanner) :
    (scanner.down count).next = (scanner.next.1.down count, scanner.next.2.down count) := by
  rw [next, next, skipTrivia_down]
  generalize scanner.skipTrivia = scanner
  obtain ⟨dialect, position, offset, rest⟩ := scanner
  cases rest with
  | nil => rfl
  | cons glyph rest =>
    cases glyph with
    | lineEnd => rfl
    | char c =>
      simp only [read, down, Cursor.skip_down]
      simp only [Cursor.down, Scanned.down, Option.map_map]
      rfl

theorem tokens_down (scanner : Scanner) :
    (scanner.down count).tokens = scanner.tokens.map (.down count) :=
  tokens_map (fun scanner => by rw [skipTrivia_down]; rfl) (next_down count) scanner

/-- What is wrong with a token is on its line. -/
theorem line_of_mem_diagnostic {scanner : Scanner} {scanned : Scanned} (found : scanned ∈ scanner.tokens)
    {d : Diagnostic} (flawed : scanned.diagnostic = some d) : d.position.line = scanned.position.line := by
  obtain ⟨count, -, rfl⟩ := mem_tokens found
  unfold read at flawed ⊢
  split at flawed
  · obtain ⟨flaw, -, rfl⟩ := Option.map_eq_some_iff.mp flawed
    rfl
  · cases flawed

end Scanner

/-! ## Whole sources -/

/-- Leaving out tokens by their lines leaves out their diagnostics. -/
theorem filter_lexicalDiagnostics (keep : Nat → Bool) {tokens : List Scanned}
    (own : ∀ scanned ∈ tokens, ∀ d, scanned.diagnostic = some d →
      d.position.line = scanned.position.line) :
    (lexicalDiagnostics tokens).filter (keep ·.position.line) =
      lexicalDiagnostics (tokens.filter (keep ·.position.line)) := by
  rw [lexicalDiagnostics, lexicalDiagnostics, List.filter_filterMap, List.filterMap_filter]
  refine List.filterMap_congr fun scanned found => ?_
  cases flawed : scanned.diagnostic with
  | none => simp
  | some d => simp [Option.filter, own scanned found d flawed]

/-- The tokens and lexical diagnostics on the lines above are those of the lines above alone, without the
    last token. If no block comment is open at the end of these, what is left are the tokens and
    diagnostics of the lines below alone, as many lines further down. -/
theorem scan_append (dialect : Dialect) (above below : List (List Char)) :
    (scan dialect (above ++ below)).filter (·.position.line ≤ above.length) =
        (scan dialect above).dropLast ∧
      (lexicalDiagnostics (scan dialect (above ++ below))).filter (·.position.line ≤ above.length) =
        lexicalDiagnostics (scan dialect above) ∧
      (¬(Scanner.start dialect above).EndsInComment →
        (scan dialect (above ++ below)).filter (above.length < ·.position.line) =
            (scan dialect below).map (.down above.length) ∧
          (lexicalDiagnostics (scan dialect (above ++ below))).filter
              (above.length < ·.position.line) =
            (lexicalDiagnostics (scan dialect below)).map (.down above.length)) := by
  have stands : (Scanner.start dialect above).cursor.StandsIn above := Cursor.standsIn_start above
  obtain ⟨rest, tokens, lines, same⟩ :=
    Scanner.tokens_extend stands (Glyph.ended_ofLines above) (Glyph.ofLines below)
  have joined : (Scanner.start dialect above).extend (Glyph.ofLines below) =
      .start dialect (above ++ below) := by
    simp only [Scanner.start, Scanner.extend, Cursor.start, Cursor.extend, Glyph.ofLines_append]
  rw [joined] at tokens
  have own : ∀ scanned ∈ scan dialect (above ++ below), ∀ d, scanned.diagnostic = some d →
      d.position.line = scanned.position.line :=
    fun scanned found d flawed => Scanner.line_of_mem_diagnostic found flawed
  have items : ∀ item ∈ (Scanner.start dialect above).items, item.position.line ≤ above.length :=
    fun item found => Scanner.line_le_of_mem_items stands found
  have upper : (scan dialect (above ++ below)).filter (·.position.line ≤ above.length) =
      (Scanner.start dialect above).items := by
    have none : rest.filter (·.position.line ≤ above.length) = [] := by
      rw [List.filter_eq_nil_iff]
      intro scanned found
      simpa using lines scanned found
    have all : (Scanner.start dialect above).items.filter (·.position.line ≤ above.length) =
        (Scanner.start dialect above).items := by
      rw [List.filter_eq_self]
      intro item found
      simpa using items item found
    rw [scan, tokens, List.filter_append, none, all, List.append_nil]
  have lower : (scan dialect (above ++ below)).filter (above.length < ·.position.line) = rest := by
    have none : (Scanner.start dialect above).items.filter (above.length < ·.position.line) = [] := by
      rw [List.filter_eq_nil_iff]
      intro item found
      simpa using items item found
    have all : rest.filter (above.length < ·.position.line) = rest := by
      rw [List.filter_eq_self]
      intro scanned found
      simpa using lines scanned found
    rw [scan, tokens, List.filter_append, none, all, List.nil_append]
  refine ⟨upper, ?_, fun outside => ?_⟩
  · rw [filter_lexicalDiagnostics (· ≤ above.length) own, upper]
    exact (Scanner.lexicalDiagnostics_tokens _).symm
  · have moved : rest = (scan dialect below).map (.down above.length) := by
      rw [same outside, scan, ← Scanner.tokens_down]
      simp only [Scanner.start, Scanner.down, Cursor.start, Cursor.down, Position.down,
        Nat.add_comm 1 above.length]
    refine ⟨lower.trans moved, ?_⟩
    rw [filter_lexicalDiagnostics (above.length < ·) own, lower, moved, lexicalDiagnostics,
      lexicalDiagnostics, List.filterMap_map, List.map_filterMap]
    rfl

/-- A colon and a quote at line ends, and what would make them longer tokens on the lines below. -/
theorem scan_append_split_pair :
    let above := [['a', ':'], ['\'']]
    let below := [['=', 'b', '\''], ['#']]
    ¬(Scanner.start .extended above).EndsInComment ∧
      (scan .extended (above ++ below)).filter (2 < ·.position.line) =
        (scan .extended below).map (.down 2) := by
  intro above below
  have outside : ¬(Scanner.start .extended above).EndsInComment := by
    intro ends
    obtain ⟨style, inside⟩ := ends.opener_infix
    revert inside
    cases style <;> decide
  exact ⟨outside, ((scan_append .extended above below).2.2 outside).1⟩

end PascalLint
