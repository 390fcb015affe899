import PascalLint.Mask
import PascalLint.Trivia

/-! # Block comments in a stream of glyphs

The two styles of block comment treated alike: each has an opener and a terminator, and a comment
goes on up to the first terminator behind its opener. `CommentStyle.through_cases` says where that
is, `Trivia.commentSize_cases` which comments there are at all.

Masking looks for the terminator line by line. `CommentStyle.through_split` and
`CommentStyle.through_lineEnd` say that it finds the same one: a line that has a terminator ends the
comment behind it, and a line that has none is passed over as a whole.
-/

namespace PascalLint

namespace Glyph

/-- Behind the text of a line comes a line end or nothing. -/
theorem eq_lineText_append (glyphs : List Glyph) :
    ∃ rest, glyphs = (lineText glyphs).map char ++ rest ∧ ∀ c below, rest ≠ char c :: below := by
  fun_induction lineText glyphs with
  | case1 c rest ih =>
    obtain ⟨behind, same, ended⟩ := ih
    refine ⟨behind, ?_, ended⟩
    rw [List.map_cons, List.cons_append, ← same]
  | case2 glyphs other =>
    exact ⟨glyphs, rfl, fun c below same => other c below same⟩

theorem lineText_append {text : List Char} {rest : List Glyph}
    (ended : ∀ c below, rest ≠ char c :: below) : lineText (text.map char ++ rest) = text := by
  induction text with
  | nil =>
    match rest with
    | [] => rfl
    | char c :: below => exact absurd rfl (ended c below)
    | lineEnd :: below => rfl
  | cons c text ih => simp only [List.map_cons, List.cons_append, lineText, ih]

end Glyph

namespace CommentStyle

/-! ## Delimiters -/

/-- The glyphs that open a comment. -/
def opener : CommentStyle → List Glyph
  | brace => [.char '{']
  | paren => [.char '(', .char '*']

/-- The glyphs that close a comment. -/
def terminator : CommentStyle → List Glyph
  | brace => [.char '}']
  | paren => [.char '*', .char ')']

/-- The number of glyphs up to and including the first terminator, of all glyphs if there is
    none. -/
def through : CommentStyle → List Glyph → Nat
  | brace => Trivia.throughBrace
  | paren => Trivia.throughStarParen

/-! ## The first terminator -/

private theorem throughBrace_cases (glyphs : List Glyph) :
    (¬brace.terminator <:+: glyphs ∧ Trivia.throughBrace glyphs = glyphs.length) ∨
      ∃ body rest, glyphs = body ++ (brace.terminator ++ rest) ∧ ¬brace.terminator <:+: body ∧
        Trivia.throughBrace glyphs = body.length + 1 := by
  fun_induction Trivia.throughBrace glyphs with
  | case1 => exact .inl (by simp [terminator])
  | case2 rest => exact .inr ⟨[], rest, rfl, by simp [terminator], rfl⟩
  | case3 glyph rest other ih =>
    have here : ∀ below, ¬brace.terminator <+: glyph :: below := by
      intro below found
      exact other (List.cons_prefix_cons.mp found).1.symm
    rcases ih with ⟨absent, all⟩ | ⟨body, behind, rfl, absent, size⟩
    · refine .inl ⟨fun found => ?_, by rw [all, List.length_cons]⟩
      exact (List.infix_cons_iff.mp found).elim (here rest) absent
    · refine .inr ⟨glyph :: body, behind, rfl, fun found => ?_, by rw [size, List.length_cons]⟩
      exact (List.infix_cons_iff.mp found).elim (here body) absent

private theorem throughStarParen_cases (glyphs : List Glyph) :
    (¬paren.terminator <:+: glyphs ∧ Trivia.throughStarParen glyphs = glyphs.length) ∨
      ∃ body rest, glyphs = body ++ (paren.terminator ++ rest) ∧ ¬paren.terminator <:+: body ∧
        Trivia.throughStarParen glyphs = body.length + 2 := by
  fun_induction Trivia.throughStarParen glyphs with
  | case1 => exact .inl (by simp [terminator])
  | case2 rest => exact .inr ⟨[], rest, rfl, by simp [terminator], rfl⟩
  | case3 glyph rest other ih =>
    have here : ¬paren.terminator <+: glyph :: rest := by
      rintro ⟨below, same⟩
      obtain ⟨star, behind⟩ := List.cons.inj same
      exact other below star.symm behind.symm
    rcases ih with ⟨absent, all⟩ | ⟨body, behind, rfl, absent, size⟩
    · refine .inl ⟨fun found => ?_, by rw [all, List.length_cons]⟩
      exact (List.infix_cons_iff.mp found).elim here absent
    · refine .inr ⟨glyph :: body, behind, rfl, fun found => ?_, by rw [size, List.length_cons]⟩
      refine (List.infix_cons_iff.mp found).elim (fun starts => here ?_) absent
      exact starts.trans ⟨paren.terminator ++ behind, rfl⟩

/-- Either there is no terminator and all glyphs are passed over, or the comment ends with the
    first one. -/
theorem through_cases (style : CommentStyle) (glyphs : List Glyph) :
    (¬style.terminator <:+: glyphs ∧ style.through glyphs = glyphs.length) ∨
      ∃ body rest, glyphs = body ++ (style.terminator ++ rest) ∧ ¬style.terminator <:+: body ∧
        style.through glyphs = body.length + style.terminator.length := by
  cases style with
  | brace => exact throughBrace_cases glyphs
  | paren => exact throughStarParen_cases glyphs

/-! ## The first terminator, line by line -/

private theorem throughStarParen_cons {glyph : Glyph} {rest : List Glyph}
    (other : ∀ below, glyph = .char '*' → rest = .char ')' :: below → False) :
    Trivia.throughStarParen (glyph :: rest) = Trivia.throughStarParen rest + 1 := by
  rw [Trivia.throughStarParen]
  exact other

/-- A line with a terminator ends the comment behind it. -/
theorem through_split {style : CommentStyle} {text body after : List Char} (rest : List Glyph)
    (found : Mask.splitAfterComment style text = some (body, after)) :
    style.through (text.map .char ++ rest) = body.length := by
  cases style with
  | brace =>
    simp only [Mask.splitAfterComment] at found
    fun_induction Mask.splitAfterBrace text generalizing body with
    | case1 => simp at found
    | case2 text =>
      obtain ⟨rfl, rfl⟩ : ['}'] = body ∧ text = after := by simpa using found
      simp [through, Trivia.throughBrace]
    | case3 c text other ih =>
      obtain ⟨⟨inner, behind⟩, deeper, same⟩ := Option.map_eq_some_iff.mp found
      obtain ⟨rfl, rfl⟩ : c :: inner = body ∧ behind = after := by simpa using same
      have plain : Glyph.char c ≠ .char '}' := by simpa using other
      simpa [through, Trivia.throughBrace, plain] using ih deeper
  | paren =>
    simp only [Mask.splitAfterComment] at found
    fun_induction Mask.splitAfterStarParen text generalizing body with
    | case1 => simp at found
    | case2 text =>
      obtain ⟨rfl, rfl⟩ : ['*', ')'] = body ∧ text = after := by simpa using found
      simp [through, Trivia.throughStarParen]
    | case3 c text other ih =>
      obtain ⟨⟨inner, behind⟩, deeper, same⟩ := Option.map_eq_some_iff.mp found
      obtain ⟨rfl, rfl⟩ : c :: inner = body ∧ behind = after := by simpa using same
      have plain : ∀ below, Glyph.char c = .char '*' →
          text.map .char ++ rest = .char ')' :: below → False := by
        intro below star behindStar
        cases text with
        | nil => simp [Mask.splitAfterStarParen] at deeper
        | cons d text =>
          obtain ⟨rfl, -⟩ : d = ')' ∧ text.map .char ++ rest = below := by simpa using behindStar
          exact other text (by simpa using star) rfl
      simp only [through, List.map_cons, List.cons_append]
      rw [throughStarParen_cons plain, List.length_cons]
      exact congrArg (· + 1) (ih deeper)

/-- A comment ends with the terminator behind a body that has none. -/
theorem through_closed {style : CommentStyle} {body : List Glyph}
    (absent : ¬style.terminator <:+: body) (rest : List Glyph) :
    style.through (body ++ (style.terminator ++ rest)) = body.length + style.terminator.length := by
  induction body with
  | nil => cases style <;> rfl
  | cons glyph body ih =>
    rw [List.infix_cons_iff, not_or] at absent
    have deeper := ih absent.2
    cases style with
    | brace =>
      have plain : glyph ≠ .char '}' := by
        rintro rfl
        exact absent.1 ⟨body, rfl⟩
      simp only [through, List.cons_append, List.length_cons] at deeper ⊢
      simp only [Trivia.throughBrace, deeper]
      omega
    | paren =>
      -- The body ends before the star of the terminator, so no terminator begins in it.
      have plain : ∀ below, glyph = .char '*' →
          body ++ (paren.terminator ++ rest) = .char ')' :: below → False := by
        rintro below rfl behindStar
        cases body with
        | nil => simp [terminator] at behindStar
        | cons second body =>
          obtain ⟨rfl, -⟩ := List.cons.inj behindStar
          exact absent.1 ⟨body, rfl⟩
      simp only [through, List.cons_append, List.length_cons] at deeper ⊢
      rw [throughStarParen_cons plain, deeper]
      omega

/-- A line without a terminator is passed over, with its end. -/
theorem through_lineEnd {style : CommentStyle} {text : List Char} (rest : List Glyph)
    (absent : Mask.splitAfterComment style text = none) :
    style.through (text.map .char ++ .lineEnd :: rest) =
      text.length + 1 + style.through rest := by
  cases style with
  | brace =>
    simp only [Mask.splitAfterComment] at absent
    fun_induction Mask.splitAfterBrace text with
    | case1 => simp [through, Trivia.throughBrace, Nat.add_comm]
    | case2 text => simp at absent
    | case3 c text other ih =>
      have deeper := ih (Option.map_eq_none_iff.mp absent)
      have plain : Glyph.char c ≠ .char '}' := by simpa using other
      simp only [through, List.map_cons, List.cons_append, List.length_cons] at deeper ⊢
      simp only [Trivia.throughBrace, deeper]
      omega
  | paren =>
    simp only [Mask.splitAfterComment] at absent
    fun_induction Mask.splitAfterStarParen text with
    | case1 =>
      have step : Trivia.throughStarParen (.lineEnd :: rest) = Trivia.throughStarParen rest + 1 :=
        throughStarParen_cons (by simp)
      simpa [through, Nat.add_comm] using step
    | case2 text => simp at absent
    | case3 c text other ih =>
      have deeper := ih (Option.map_eq_none_iff.mp absent)
      have plain : ∀ below, Glyph.char c = .char '*' →
          text.map .char ++ .lineEnd :: rest = .char ')' :: below → False := by
        intro below star behindStar
        cases text with
        | nil => simp at behindStar
        | cons d text =>
          obtain ⟨rfl, -⟩ : d = ')' ∧ text.map .char ++ .lineEnd :: rest = below := by
            simpa using behindStar
          exact other text (by simpa using star) rfl
      simp only [through, List.map_cons, List.cons_append, List.length_cons] at deeper ⊢
      rw [throughStarParen_cons plain, deeper]
      omega

end CommentStyle

namespace Trivia

open PascalLint.Unicode (isWhiteSpace)

/-! ## Comments at the front of a stream -/

/-- At the front of a stream stands no comment, one up to the end of the line, or a block
    comment. -/
theorem commentSize_cases (glyphs : List Glyph) :
    commentSize glyphs = 0 ∨
      (∃ rest, glyphs = .char '/' :: .char '/' :: rest ∧
        commentSize glyphs = (Glyph.lineText rest).length + 2) ∨
      ∃ (style : CommentStyle) (rest : List Glyph), glyphs = style.opener ++ rest ∧
        commentSize glyphs = style.opener.length + style.through rest := by
  fun_cases commentSize glyphs with
  | case1 rest => exact .inr (.inr ⟨.brace, rest, rfl, Nat.add_comm _ 1⟩)
  | case2 rest => exact .inr (.inr ⟨.paren, rest, rfl, Nat.add_comm _ 2⟩)
  | case3 rest => exact .inr (.inl ⟨rest, rfl, rfl⟩)
  | case4 => exact .inl rfl

/-- A comment begins with a slash, a brace or a parenthesis. -/
theorem head_of_commentSize {glyphs : List Glyph} (comment : commentSize glyphs ≠ 0) :
    ∃ c rest, glyphs = .char c :: rest ∧ c ∈ ['/', '{', '('] := by
  rcases commentSize_cases glyphs with none | ⟨rest, rfl, -⟩ | ⟨style, rest, rfl, -⟩
  · exact absurd none comment
  · exact ⟨'/', _, rfl, by decide⟩
  · cases style with
    | brace => exact ⟨'{', _, rfl, by decide⟩
    | paren => exact ⟨'(', _, rfl, by decide⟩

theorem head_of_comment {front rest : List Glyph} (nonempty : front ≠ [])
    (size : commentSize (front ++ rest) = front.length) :
    ∃ c below, front ++ rest = .char c :: below ∧ c ∈ ['/', '{', '('] := by
  apply head_of_commentSize
  rw [size]
  exact Nat.ne_of_gt (List.length_pos_iff.mpr nonempty)

/-! ## Trivia piece by piece -/

theorem size_whiteSpace {c : Char} (rest : List Glyph) (white : isWhiteSpace c = true) :
    size (.char c :: rest) = size rest + 1 := by
  rw [size, if_pos white]

/-- A comment at the front is passed over, and then what follows it. -/
theorem size_comment {front rest : List Glyph} (nonempty : front ≠ [])
    (comment : commentSize (front ++ rest) = front.length) :
    size (front ++ rest) = front.length + size rest := by
  obtain ⟨glyph, front, rfl⟩ := List.exists_cons_of_ne_nil nonempty
  obtain ⟨c, below, same, opener⟩ := head_of_comment nonempty comment
  obtain ⟨rfl, rfl⟩ : glyph = .char c ∧ front ++ rest = below := by simpa using same
  have dark : isWhiteSpace c = false := by
    simp only [List.mem_cons, List.not_mem_nil, or_false] at opener
    rcases opener with rfl | rfl | rfl <;> decide
  rw [List.cons_append] at comment ⊢
  rw [size, if_neg (by simp [dark]), comment]
  simp only [List.length_cons, List.drop_left]
  omega

/-- Nothing is passed over before a token. -/
theorem size_eq_zero_iff {c : Char} {rest : List Glyph} :
    size (.char c :: rest) = 0 ↔ isWhiteSpace c = false ∧ commentSize (.char c :: rest) = 0 := by
  rw [size]
  split
  next white => simp [white]
  next dark => split <;> simp_all

/-- Behind the trivia comes no more of it. -/
theorem size_drop_size (glyphs : List Glyph) : size (glyphs.drop (size glyphs)) = 0 := by
  fun_induction size glyphs with
  | case1 => simp
  | case2 below ih => simpa using ih
  | case3 c below white ih => simpa using ih
  | case4 c below dark none =>
    exact size_eq_zero_iff.mpr ⟨by simpa using dark, none⟩
  | case5 c below dark comment found ih =>
    rw [List.drop_drop, Nat.add_comm] at ih
    rwa [List.drop_succ_cons]

end Trivia

end PascalLint
