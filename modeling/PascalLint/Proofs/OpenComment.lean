import PascalLint.Proofs.LinesBelow
import PascalLint.Proofs.MaskedScan
import PascalLint.Proofs.OpenLiterals

/-! # Comments that take in the rest of a source

A scanner that comes into a block comment without a terminator passes over all that is left and says
nothing; masking is to report the comment. It does, where the two agree on what is a string: on lines
without escaped and doubled quotes of which none leaves a string open. Elsewhere a comment for the
scanner may stand in a string for masking, and then nobody reports it.

To see whether a comment is open, a line of code is put below the source. If none is open, masking
leaves that line as it is (`Settled`), and this is kept on the way of the scanner through the source,
by the relation between scanning a stream and scanning the masked stream. A comment without a
terminator would take in the line as well.
-/

namespace PascalLint

open PascalLint.Unicode (isWhiteSpace)

/-! ## Ending in a comment -/

/-- What is passed over at the front of a stream leads into a block comment that has no terminator. -/
inductive Trivia.EndsInComment : List Glyph → Prop
  | whiteSpace {c : Char} {rest : List Glyph} (white : isWhiteSpace c = true)
      (tail : EndsInComment rest) : EndsInComment (.char c :: rest)
  | lineEnd {rest : List Glyph} (tail : EndsInComment rest) : EndsInComment (.lineEnd :: rest)
  | comment {front rest : List Glyph} (nonempty : front ≠ [])
      (size : commentSize (front ++ rest) = front.length) (tail : EndsInComment rest) :
      EndsInComment (front ++ rest)
  | unterminated (style : CommentStyle) {rest : List Glyph}
      (absent : ¬style.terminator <:+: rest) : EndsInComment (style.opener ++ rest)

/-- A scanner comes to the end of the input inside a block comment, now or behind some tokens. -/
inductive Scanner.EndsInComment : Scanner → Prop
  | trivia {scanner : Scanner} (ends : Trivia.EndsInComment scanner.cursor.rest) :
      EndsInComment scanner
  | token {scanner : Scanner} (more : scanner.skipTrivia.atEnd = false)
      (behind : EndsInComment scanner.next.2) : EndsInComment scanner

theorem Trivia.EndsInComment.ne_nil {glyphs : List Glyph} (ends : EndsInComment glyphs) :
    glyphs ≠ [] := by
  cases ends with
  | whiteSpace white tail => exact List.cons_ne_nil _ _
  | lineEnd tail => exact List.cons_ne_nil _ _
  | comment nonempty size tail => simp [nonempty]
  | unterminated style absent => cases style <;> exact List.cons_ne_nil _ _

/-! ## A line of code below -/

/-- The glyphs of a line of code. -/
def Glyph.signal : List Glyph := [.char 'x', .lineEnd]

/-- The line has no part of a terminator. -/
theorem CommentStyle.terminator_of_signal {style : CommentStyle} {rest : List Glyph}
    (found : style.terminator <:+: rest ++ Glyph.signal) : style.terminator <:+: rest := by
  induction rest with
  | nil => cases style <;> simp [terminator, Glyph.signal, List.infix_cons_iff] at found
  | cons glyph rest ih =>
    rw [List.cons_append, List.infix_cons_iff] at found
    rw [List.infix_cons_iff]
    refine found.imp (fun here => ?_) ih
    cases style with
    | brace => simpa [terminator] using here
    | paren =>
      cases rest with
      | nil => simp [terminator, Glyph.signal] at here
      | cons second rest => simpa [terminator] using here

/-- With a line of code below the glyphs, masking leaves that line as it is. -/
def Settled (glyphs : List Glyph) : Prop :=
  ∃ masked, Masks (glyphs ++ Glyph.signal) (masked ++ Glyph.signal)

/-- A step that goes through the stream and the masked stream alike leads from glyphs that are settled
    to such glyphs. -/
theorem Settled.of_append {front rest : List Glyph} (settled : Settled (front ++ rest))
    (step : ∀ masked, Masks (front ++ (rest ++ Glyph.signal)) masked →
      Masks (rest ++ Glyph.signal) (masked.drop front.length)) : Settled rest := by
  obtain ⟨masked, masks⟩ := settled
  have length : front.length ≤ masked.length := by
    have lengths := masks.length_eq
    simp only [List.length_append] at lengths
    omega
  rw [List.append_assoc] at masks
  have later := step _ masks
  rw [List.drop_append_of_le_length length] at later
  exact ⟨masked.drop front.length, later⟩

namespace Masks

theorem of_lineEnd {rest masked : List Glyph} (masks : Masks (.lineEnd :: rest) masked) :
    Masks rest (masked.drop 1) := by
  generalize whole : Glyph.lineEnd :: rest = glyphs at masks
  cases masks with
  | nil => cases whole
  | lineEnd tail =>
    cases whole
    exact tail
  | code quote plain tail => cases whole
  | constant nonempty quotes tail => cases whole
  | comment nonempty size tail =>
    obtain ⟨c, behind, same, -⟩ := Trivia.head_of_comment nonempty size
    rw [same] at whole
    cases whole

/-- A comment is masked as a whole. -/
theorem of_comment {front rest masked : List Glyph} (nonempty : front ≠ [])
    (size : Trivia.commentSize (front ++ rest) = front.length)
    (masks : Masks (front ++ rest) masked) :
    masked.take front.length = front.map .blank ∧ Masks rest (masked.drop front.length) := by
  have some : Trivia.commentSize (front ++ rest) ≠ 0 := by
    rw [size]
    exact Nat.ne_of_gt (List.length_pos_iff.mpr nonempty)
  generalize whole : front ++ rest = glyphs at masks some size
  cases masks with
  | nil => exact absurd (List.append_eq_nil_iff.mp whole).1 nonempty
  | lineEnd tail => simp [Trivia.commentSize] at some
  | code quote plain tail => exact absurd plain some
  | constant nonempty quotes tail => simp [Trivia.commentSize] at some
  | @comment first behind below nonempty taken tail =>
    obtain ⟨rfl, rfl⟩ := List.append_inj whole (by rw [← size, taken])
    have length : front.length = (front.map Glyph.blank).length := by rw [List.length_map]
    rw [length, List.take_left, List.drop_left]
    exact ⟨rfl, tail⟩

end Masks

namespace Settled

theorem of_whiteSpace {c : Char} {rest : List Glyph} (white : isWhiteSpace c = true)
    (settled : Settled (.char c :: rest)) : Settled rest := by
  have plain : c ∉ ['\'', '/', '{', '('] := by
    intro literal
    simp only [List.mem_cons, List.not_mem_nil, or_false] at literal
    rcases literal with rfl | rfl | rfl | rfl <;> exact absurd white (by decide)
  have settled : Settled ([.char c] ++ rest) := settled
  refine settled.of_append fun masked masks => ?_
  exact (masks.tail_of_head? plain rfl).2

theorem of_lineEnd {rest : List Glyph} (settled : Settled (.lineEnd :: rest)) : Settled rest := by
  have settled : Settled ([.lineEnd] ++ rest) := settled
  exact settled.of_append fun masked masks => masks.of_lineEnd

theorem of_comment {front rest : List Glyph} (nonempty : front ≠ []) (follows : rest ≠ [])
    (size : Trivia.commentSize (front ++ rest) = front.length) (settled : Settled (front ++ rest)) :
    Settled rest := by
  refine settled.of_append fun masked masks => ?_
  have extended := Trivia.commentSize_append Glyph.signal nonempty follows size
  rw [List.append_assoc] at extended
  exact (masks.of_comment nonempty extended).2

/-- A comment without a terminator takes in the line below too. -/
theorem not_unterminated {style : CommentStyle} {rest : List Glyph}
    (absent : ¬style.terminator <:+: rest) : ¬Settled (style.opener ++ rest) := by
  rintro ⟨masked, masks⟩
  have size : Trivia.commentSize (style.opener ++ rest ++ Glyph.signal) =
      (style.opener ++ rest ++ Glyph.signal).length := by
    rw [List.append_assoc, Trivia.commentSize_opener, List.length_append]
    rcases style.through_cases (rest ++ Glyph.signal) with ⟨-, all⟩ | ⟨body, behind, split, -, -⟩
    · rw [all]
    · have found : style.terminator <:+: rest ++ Glyph.signal :=
        ⟨body, behind, by rw [split, List.append_assoc]⟩
      exact absurd (style.terminator_of_signal found) absent
  rw [← List.append_nil (style.opener ++ rest ++ Glyph.signal)] at masks size
  have blanks := (masks.of_comment (by simp [Glyph.signal]) (by simpa using size)).1
  have shown : Glyph.char 'x' ∈ (style.opener ++ rest ++ Glyph.signal).map Glyph.blank := by
    rw [← blanks, List.take_of_length_le (by simpa using Nat.le_of_eq masks.length_eq)]
    exact List.mem_append_right masked List.mem_cons_self
  obtain ⟨glyph, -, blank⟩ := List.mem_map.mp shown
  cases glyph <;> simp [Glyph.blank] at blank

end Settled

/-! ## The way of the scanner -/

theorem Trivia.EndsInComment.not_settled {glyphs : List Glyph} (ends : EndsInComment glyphs) :
    ¬Settled glyphs := by
  induction ends with
  | whiteSpace white tail ih => exact fun settled => ih (settled.of_whiteSpace white)
  | lineEnd tail ih => exact fun settled => ih settled.of_lineEnd
  | comment nonempty size tail ih => exact fun settled => ih (settled.of_comment nonempty tail.ne_nil size)
  | unterminated style absent => exact Settled.not_unterminated absent

namespace Scanner

/-- Behind a token, what is still to be read is settled if it was before. -/
theorem settled_next {scanner : Scanner} (ended : Glyph.Ended scanner.cursor.rest)
    (more : scanner.skipTrivia.atEnd = false) (settled : Settled scanner.cursor.rest) :
    Settled scanner.next.2.cursor.rest := by
  have split := scanner.glyphs_piece
  rw [← split] at settled
  refine settled.of_append fun masked masks => ?_
  rw [← List.append_assoc, split] at masks
  -- Scanners on the two streams, with the line below, read the same token.
  let extended : Scanner := scanner.extend Glyph.signal
  let hidden : Scanner := ⟨scanner.dialect, ⟨scanner.cursor.position, 0, masked⟩⟩
  have related : Masked extended hidden := ⟨rfl, rfl, masks⟩
  have behind := related.next.2.masks
  have here : extended.next.2.cursor.rest = scanner.next.2.cursor.rest ++ Glyph.signal := by
    rw [next_extend Glyph.signal ended more]
    rfl
  have whole : hidden.piece.glyphs ++ hidden.next.2.cursor.rest = masked := hidden.glyphs_piece
  have lengths := behind.length_eq
  have same : hidden.piece.glyphs.length = scanner.piece.glyphs.length := by
    have first := congrArg List.length whole
    have second := congrArg List.length split
    have third := masks.length_eq
    rw [here] at lengths
    simp only [List.length_append] at first second third lengths
    omega
  rw [here] at behind
  rwa [← whole, ← same, List.drop_left]

theorem EndsInComment.not_settled {scanner : Scanner} (ends : scanner.EndsInComment)
    (ended : Glyph.Ended scanner.cursor.rest) : ¬Settled scanner.cursor.rest := by
  induction ends with
  | trivia ends => exact ends.not_settled
  | @token scanner more behind ih =>
    intro settled
    have later : Glyph.Ended scanner.next.2.cursor.rest := by
      obtain ⟨count, same⟩ := scanner.next_skips
      rw [same, Cursor.rest_skip]
      exact ended.drop count
    exact ih later (settled_next ended more settled)

end Scanner

/-! ## Reports -/

/-- If masking leaves no literal open, the glyphs of a source are settled. -/
theorem settled_of_openBehind {lines : List (List Char)} (clear : ∀ line ∈ lines, ClearQuotes line)
    (closed : ∀ masked ∈ maskLines 1 none lines, ∀ start, masked.opened ≠ some (.string start))
    (nothing : openBehind 1 none lines = none) : Settled (Glyph.ofLines lines) := by
  have below : maskLines 1 none (lines ++ [['x']]) =
      maskLines 1 none lines ++ [⟨['x'], none, none⟩] := by
    rw [maskLines_append, nothing]
    simp [maskLines, maskLine, MaskedLine.ofCode, Mask.maskCode, Mask.Code.after]
  have clear' : ∀ line ∈ lines ++ [['x']], ClearQuotes line := by
    intro line found
    rcases List.mem_append.mp found with inside | last
    · exact clear line inside
    · obtain rfl := List.mem_singleton.mp last
      exact ⟨by decide, by decide⟩
  have closed' : ∀ masked ∈ maskLines 1 none (lines ++ [['x']]), ∀ start,
      masked.opened ≠ some (.string start) := by
    rw [below]
    intro masked found start
    rcases List.mem_append.mp found with inside | last
    · exact closed masked inside start
    · obtain rfl := List.mem_singleton.mp last
      simp
  have masks := masksFrom_lines_of_clear clear' (by simp) closed'
  rw [below, List.map_append, Glyph.ofLines_append, Glyph.ofLines_append] at masks
  cases masks with
  | code masks => exact ⟨_, masks⟩

/-- What is open behind some lines is left open by the last of them. -/
theorem mem_opened_of_openBehind {lines : List (List Char)} {literal : OpenLiteral}
    (behind : openBehind 1 none lines = some literal) :
    ∃ masked ∈ maskLines 1 none lines, masked.opened = some literal := by
  cases lines using List.reverseRecOn with
  | nil => cases behind
  | append_singleton above text =>
    rw [openBehind_concat] at behind
    refine ⟨_, ?_, behind⟩
    rw [maskLines_append, Nat.add_comm 1 above.length]
    exact List.mem_append_right _ (List.mem_singleton.mpr rfl)

/-- On lines without escaped and doubled quotes of which none leaves a string open, a block comment
    that the scanner is in at the end of the input is reported. -/
theorem comment_over_rest_reported (settings : Settings) (source : Source)
    (clear : ∀ line ∈ source.lines, ClearQuotes line)
    (closed : ∀ masked ∈ maskLines 1 none source.lines, ∀ start,
      masked.opened ≠ some (.string start))
    (ends : (Scanner.start settings.dialect source.lines).EndsInComment) :
    ∃ d ∈ (check settings source).findings.all, d.defect = .unterminatedComment := by
  have unsettled : ¬Settled (Glyph.ofLines source.lines) :=
    ends.not_settled (Glyph.ended_ofLines source.lines)
  cases opened : openBehind 1 none source.lines with
  | none => exact absurd (settled_of_openBehind clear closed opened) unsettled
  | some literal =>
    cases literal with
    | string start =>
      obtain ⟨masked, found, same⟩ := mem_opened_of_openBehind opened
      exact absurd same (closed masked found start)
    | comment style start =>
      have recorded : ⟨start, .unterminatedComment⟩ ∈ analyze settings.checks source.lines := by
        rw [mem_analyze_literal rfl, mem_literalDiagnostics_comment]
        exact ⟨style, opened⟩
      exact ⟨_, mem_check.mpr (.inr recorded), rfl⟩

/-- A brace in a constant, a backslash, and a comment over the last two lines. -/
theorem comment_over_rest_reported_paren :
    let lines := [['a', '\'', '{', '\'', '(', '*', '\\'], ['*', '}', '\'', 'b', ')', '\'']]
    (∀ line ∈ lines, ClearQuotes line) ∧
      (∀ masked ∈ maskLines 1 none lines, ∀ start, masked.opened ≠ some (.string start)) ∧
      (Scanner.start .extended lines).EndsInComment ∧
      ∃ d ∈ (check {} (.ofLines lines)).findings.all, d.defect = .unterminatedComment := by
  intro lines
  have clear : ∀ line ∈ lines, ClearQuotes line := by
    intro line found
    simp only [lines, List.mem_cons, List.not_mem_nil, or_false] at found
    rcases found with rfl | rfl <;> exact ⟨by decide, by decide⟩
  have opened : (maskLines 1 none lines).map (·.opened) =
      [some (.comment .paren ⟨1, 4⟩), some (.comment .paren ⟨1, 4⟩)] := by
    decide +kernel
  have closed : ∀ masked ∈ maskLines 1 none lines, ∀ start,
      masked.opened ≠ some (.string start) := by
    intro masked found start same
    have member := List.mem_map_of_mem (f := (·.opened)) found
    simp [opened, same] at member
  have ends : (Scanner.start .extended lines).EndsInComment := by
    have first : (Scanner.start .extended lines).skipTrivia.atEnd = false := by decide +kernel
    have second : (Scanner.start .extended lines).next.2.skipTrivia.atEnd = false := by decide +kernel
    have rest : (Scanner.start .extended lines).next.2.next.2.cursor.rest = CommentStyle.paren.opener ++
        (.char '\\' :: .lineEnd :: Glyph.ofLine ['*', '}', '\'', 'b', ')', '\'']) := by
      decide +kernel
    refine .token first (.token second (.trivia ?_))
    rw [rest]
    exact .unterminated .paren (by decide)
  exact ⟨clear, closed, ends, comment_over_rest_reported {} (.ofLines lines) clear closed ends⟩

/-- For the scanner three quotes are a constant and a comment follows; for masking the first two are an
    empty string, and the brace stands in the string behind them. -/
theorem comment_behind_quotes_not_reported :
    let lines := [['\'', '\'', '\'', '{', '\'']]
    (Scanner.start .extended lines).EndsInComment ∧
      (check {} (.ofLines lines)).findings.all = [] := by
  intro lines
  have first : (Scanner.start .extended lines).skipTrivia.atEnd = false := by decide +kernel
  have rest : (Scanner.start .extended lines).next.2.cursor.rest =
      CommentStyle.brace.opener ++ [.char '\'', .lineEnd] := by
    decide +kernel
  have ends : (Scanner.start .extended lines).EndsInComment := by
    refine .token first (.trivia ?_)
    rw [rest]
    exact .unterminated .brace (by decide)
  exact ⟨ends, by decide +kernel⟩

end PascalLint
