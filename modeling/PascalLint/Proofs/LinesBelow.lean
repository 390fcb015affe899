import PascalLint.Proofs.Pieces

/-! # Lines below a scanner

What a scanner reads depends on the glyphs up to the end of the line of the next token, and on no
more of them: with more lines below it passes over the same gap, reads the same token, and goes on in
front of the same glyphs (`Scanner.next_extend`). The exception is a gap up to the end of the
input, for a comment that is left open there takes in what comes below.
-/

namespace PascalLint

open PascalLint.Unicode (isWhiteSpace)

variable (below : List Glyph)

namespace Glyph

theorem lineText_append_of_mem {glyphs : List Glyph} (ended : lineEnd ∈ glyphs) :
    lineText (glyphs ++ below) = lineText glyphs := by
  induction glyphs with
  | nil => cases ended
  | cons glyph glyphs ih =>
    cases glyph with
    | lineEnd => rfl
    | char c =>
      have later : lineEnd ∈ glyphs := by simpa using ended
      rw [List.cons_append, lineText, lineText, ih later]

theorem length_lineText_le (glyphs : List Glyph) : (lineText glyphs).length ≤ glyphs.length := by
  fun_induction lineText glyphs with
  | case1 c rest ih => exact Nat.succ_le_succ ih
  | case2 glyphs other => exact Nat.zero_le _

theorem lineEnd_mem_of_lineText_lt {glyphs : List Glyph}
    (shorter : (lineText glyphs).length < glyphs.length) : lineEnd ∈ glyphs := by
  fun_induction lineText glyphs with
  | case1 c rest ih => exact .tail _ (ih (Nat.lt_of_succ_lt_succ shorter))
  | case2 glyphs other =>
    cases glyphs with
    | nil => cases shorter
    | cons glyph rest =>
      cases glyph with
      | char c => exact absurd rfl (other c rest)
      | lineEnd => exact .head _

theorem Ended.lineEnd_mem {c : Char} {rest : List Glyph} (ended : Ended (char c :: rest)) :
    lineEnd ∈ rest := by
  induction rest generalizing c with
  | nil => exact absurd rfl (ended c)
  | cons glyph rest ih =>
    cases glyph with
    | lineEnd => exact .head _
    | char d => exact .tail _ (ih (ended.drop 1))

end Glyph

/-! ## Comments and gaps -/

/-- A terminator ends a comment whatever comes below. -/
theorem CommentStyle.through_append {style : CommentStyle} {glyphs : List Glyph}
    (found : style.terminator <:+: glyphs) :
    style.through (glyphs ++ below) = style.through glyphs := by
  cases style with
  | brace =>
    simp only [through, terminator] at found ⊢
    fun_induction Trivia.throughBrace glyphs with
    | case1 => simp at found
    | case2 rest => rw [List.cons_append, Trivia.throughBrace]
    | case3 glyph rest other ih =>
      have later : [Glyph.char '}'] <:+: rest := by
        rcases List.infix_cons_iff.mp found with here | later
        · exact absurd (List.cons_prefix_cons.mp here).1.symm other
        · exact later
      rw [List.cons_append, Trivia.throughBrace, ih later]
      exact other
  | paren =>
    simp only [through, terminator] at found ⊢
    fun_induction Trivia.throughStarParen glyphs with
    | case1 => simp at found
    | case2 rest => rw [List.cons_append, List.cons_append, Trivia.throughStarParen]
    | case3 glyph rest other ih =>
      have later : [Glyph.char '*', .char ')'] <:+: rest := by
        rcases List.infix_cons_iff.mp found with ⟨tail, here⟩ | later
        · obtain ⟨star, behind⟩ := List.cons.inj here
          exact absurd behind.symm (other tail star.symm)
        · exact later
      rw [List.cons_append, Trivia.throughStarParen, ih later]
      intro tail star behind
      cases rest with
      | nil => simp at later
      | cons second rest =>
        obtain ⟨paren, -⟩ := List.cons.inj behind
        exact other rest star (by rw [paren])

namespace Trivia

/-- A comment that something follows is closed, so it is the same one with more lines below. -/
theorem commentSize_append {front rest : List Glyph} (nonempty : front ≠ []) (follows : rest ≠ [])
    (size : commentSize (front ++ rest) = front.length) :
    commentSize (front ++ rest ++ below) = front.length := by
  have positive := List.length_pos_iff.mpr nonempty
  have more := List.length_pos_iff.mpr follows
  have whole : (front ++ rest).length = front.length + rest.length := List.length_append
  rcases commentSize_cases (front ++ rest) with none | ⟨tail, same, found⟩ | ⟨style, tail, same, found⟩
  · omega
  · have ended : Glyph.lineEnd ∈ tail := by
      refine Glyph.lineEnd_mem_of_lineText_lt ?_
      rw [same, List.length_cons, List.length_cons] at whole
      omega
    rw [← size, found, same, List.cons_append, List.cons_append, commentSize,
      Glyph.lineText_append_of_mem below ended]
  · rcases style.through_cases tail with ⟨-, all⟩ | ⟨body, behind, split, -, -⟩
    · rw [same, List.length_append] at whole
      omega
    · have closed : style.terminator <:+: tail := ⟨body, behind, by rw [split, List.append_assoc]⟩
      have through := CommentStyle.through_append below closed
      rw [← size, found, same]
      cases style with
      | brace => simp_all [CommentStyle.opener, CommentStyle.through, commentSize]
      | paren => simp_all [CommentStyle.opener, CommentStyle.through, commentSize]

theorem commentSize_append_eq_zero {c : Char} {rest : List Glyph} (follows : rest ≠ [])
    (none : commentSize (.char c :: rest) = 0) : commentSize (.char c :: (rest ++ below)) = 0 := by
  obtain ⟨glyph, rest, rfl⟩ := List.exists_cons_of_ne_nil follows
  rcases commentSize_cases (.char c :: (glyph :: rest ++ below)) with
    absent | ⟨tail, same, -⟩ | ⟨style, tail, same, -⟩
  · exact absent
  · obtain ⟨rfl, rfl, -⟩ : c = '/' ∧ glyph = .char '/' ∧ rest ++ below = tail := by simpa using same
    simp [commentSize] at none
  · cases style with
    | brace =>
      obtain rfl : c = '{' := by simpa [CommentStyle.opener] using (List.cons.inj same).1
      simp [commentSize] at none
    | paren =>
      obtain ⟨rfl, rfl, -⟩ : c = '(' ∧ glyph = .char '*' ∧ rest ++ below = tail := by
        simpa [CommentStyle.opener] using same
      simp [commentSize] at none

/-- As much is passed over before a token with more lines below. -/
theorem size_append {glyphs : List Glyph} (ended : Glyph.Ended glyphs)
    (more : glyphs.drop (size glyphs) ≠ []) : size (glyphs ++ below) = size glyphs := by
  fun_induction size glyphs with
  | case1 => exact absurd rfl more
  | case2 rest ih => rw [List.cons_append, size_lineEnd, ih (ended.drop 1) more]
  | case3 c rest white ih => rw [List.cons_append, size_whiteSpace _ white, ih (ended.drop 1) more]
  | case4 c rest dark none =>
    have follows : rest ≠ [] := List.ne_nil_of_mem ended.lineEnd_mem
    exact size_eq_zero_iff.mpr ⟨by simpa using dark, commentSize_append_eq_zero below follows none⟩
  | case5 c rest dark comment found ih =>
    have behind : (rest.drop comment).drop (size (rest.drop comment)) ≠ [] := by
      rwa [List.drop_drop, Nat.add_comm]
    have follows : rest.drop comment ≠ [] := fun nothing => by
      rw [nothing] at behind
      exact behind List.drop_nil
    have within : comment ≤ rest.length := by
      have positive := List.length_pos_iff.mpr follows
      rw [List.length_drop] at positive
      omega
    have split : .char c :: rest = (.char c :: rest.take comment) ++ rest.drop comment := by
      rw [List.cons_append, List.take_append_drop]
    have length : (Glyph.char c :: rest.take comment).length = comment + 1 := by
      rw [List.length_cons, List.length_take, Nat.min_eq_left within]
    rw [split] at found
    have extended := commentSize_append below (List.cons_ne_nil _ _) follows (found.trans length.symm)
    rw [split, List.append_assoc, size_comment (List.cons_ne_nil _ _) (by rwa [← List.append_assoc]),
      ih (ended.drop (comment + 1)) behind, length]
    omega

end Trivia

/-! ## Tokens -/

theorem Lexeme.size_read_le (dialect : Dialect) (c : Char) (rest : List Char) :
    (read dialect c rest).size ≤ rest.length + 1 := by
  obtain ⟨text, following, split, size, -⟩ := (reads_read dialect c rest).fits
  have length := congrArg List.length split
  rw [List.length_cons, List.length_append] at length
  omega

/-- A cursor with more glyphs below. -/
def Cursor.extend (cursor : Cursor) : Cursor :=
  { cursor with rest := cursor.rest ++ below }

theorem Cursor.skip_extend {cursor : Cursor} {count : Nat} (within : count ≤ cursor.rest.length) :
    (cursor.extend below).skip count = (cursor.skip count).extend below := by
  induction count generalizing cursor with
  | zero => rfl
  | succ count ih =>
    obtain ⟨position, offset, rest⟩ := cursor
    cases rest with
    | nil => cases within
    | cons glyph rest =>
      have fewer : count ≤ rest.length := Nat.le_of_succ_le_succ within
      cases glyph with
      | char c =>
        exact @ih ⟨⟨position.line, position.column + 1⟩, offset + c.utf8Size, rest⟩ fewer
      | lineEnd => exact @ih ⟨⟨position.line + 1, 0⟩, 0, rest⟩ fewer

namespace Scanner

/-- A scanner with more glyphs below. -/
def extend (scanner : Scanner) : Scanner :=
  { scanner with cursor := scanner.cursor.extend below }

theorem skipTrivia_extend {scanner : Scanner} (ended : Glyph.Ended scanner.cursor.rest)
    (more : scanner.skipTrivia.atEnd = false) :
    (scanner.extend below).skipTrivia = scanner.skipTrivia.extend below := by
  obtain ⟨c, glyphs, here⟩ := exists_char_of_more more
  rw [rest_skipTrivia] at here
  have size := Trivia.size_append below ended (by rw [here]; exact List.cons_ne_nil _ _)
  have within : Trivia.size scanner.cursor.rest ≤ scanner.cursor.rest.length := by
    refine Nat.le_of_not_lt fun beyond => ?_
    rw [List.drop_of_length_le (Nat.le_of_lt beyond)] at here
    cases here
  simp only [skipTrivia, extend, Cursor.extend, size]
  exact congrArg (Scanner.mk scanner.dialect) (Cursor.skip_extend below within)

/-- A scanner with more lines below reads the same token and goes on in front of the same glyphs. -/
theorem next_extend {scanner : Scanner} (ended : Glyph.Ended scanner.cursor.rest)
    (more : scanner.skipTrivia.atEnd = false) :
    (scanner.extend below).next = (scanner.next.1, scanner.next.2.extend below) := by
  obtain ⟨c, glyphs, here⟩ := exists_char_of_more more
  have onLine : Glyph.lineEnd ∈ glyphs := by
    have later := ended.drop (Trivia.size scanner.cursor.rest)
    rw [← rest_skipTrivia, here] at later
    exact later.lineEnd_mem
  have here' : (scanner.skipTrivia.extend below).cursor.rest = .char c :: (glyphs ++ below) := by
    rw [extend, Cursor.extend, here, List.cons_append]
  have lexeme : (Lexeme.read scanner.dialect c (Glyph.lineText glyphs)).size ≤
      scanner.skipTrivia.cursor.rest.length := by
    have line := Glyph.length_lineText_le glyphs
    have size := Lexeme.size_read_le scanner.dialect c (Glyph.lineText glyphs)
    rw [here, List.length_cons]
    omega
  have dialect : scanner.skipTrivia.dialect = scanner.dialect := rfl
  have passed := Cursor.skip_extend below lexeme
  rw [next, next, skipTrivia_extend below ended more]
  simp only [read, here, here', Glyph.lineText_append_of_mem below onLine]
  simp only [extend, dialect, passed]
  rfl

end Scanner

end PascalLint
