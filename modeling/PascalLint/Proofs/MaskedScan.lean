import PascalLint.Proofs.MaskedStream
import PascalLint.Proofs.Veil

/-! # Scanning masked lines

Masking and scanning recognise comments and character constants independently: masking line by line,
with the literal that is open handed on, scanning in one stream of glyphs. On lines without
backslashes and doubled quotes, on which no string is left open, they agree: the masked lines are a
masked stream (`MasksFrom`), so that the scanner reads the same tokens in the masked lines as in the
lines themselves.

A doubled quote and an escaped one are read differently: for the scanner `''` begins a constant that
holds a quote, for masking it is an empty string.
-/

namespace PascalLint

/-- The glyphs at the beginning of which a literal is open, and their masked form. -/
inductive MasksFrom : Option OpenLiteral → List Glyph → List Glyph → Prop
  | code {glyphs masked : List Glyph} (masks : Masks glyphs masked) : MasksFrom none glyphs masked
  | comment {style : CommentStyle} {start : Position} {front rest masked : List Glyph}
      (size : style.through (front ++ rest) = front.length) (tail : Masks rest masked) :
      MasksFrom (some (.comment style start)) (front ++ rest) (front.map Glyph.blank ++ masked)

/-- A line in which every quote that is not the first of a string closes one, with something between
    the two. -/
structure PlainQuotes (line : List Char) : Prop where
  backslash : '\\' ∉ line
  doubled : ¬['\'', '\''] <:+: line

/-- A line without escaped and doubled quotes, which is what matters of plain quotes: backslashes that
    stand before something else do no harm. -/
structure ClearQuotes (line : List Char) : Prop where
  escaped : ¬['\\', '\''] <:+: line
  doubled : ¬['\'', '\''] <:+: line

theorem PlainQuotes.clear {line : List Char} (plain : PlainQuotes line) : ClearQuotes line where
  escaped found := plain.backslash (found.subset List.mem_cons_self)
  doubled := plain.doubled

theorem ClearQuotes.of_append (front : List Char) {back : List Char}
    (clear : ClearQuotes (front ++ back)) : ClearQuotes back where
  escaped found := clear.escaped (found.trans (List.suffix_append front back).isInfix)
  doubled found := clear.doubled (found.trans (List.suffix_append front back).isInfix)

namespace Mask

/-! ## Strings -/

theorem quote_not_mem_of_splitAtQuote {escaped : Bool} {text body after : List Char}
    (clear : ¬['\\', '\''] <:+: text) (front : escaped = true → text.head? ≠ some '\'')
    (found : splitAtQuote escaped text = some (body, after)) : '\'' ∉ body := by
  induction text generalizing escaped body with
  | nil => cases found
  | cons c text ih =>
    simp only [splitAtQuote] at found
    split at found
    next quote =>
      obtain ⟨rfl, -⟩ : [] = body ∧ text = after := by simpa using found
      simp
    next inside =>
      obtain ⟨⟨inner, behind⟩, split, same⟩ := Option.map_eq_some_iff.mp found
      obtain ⟨rfl, rfl⟩ : c :: inner = body ∧ behind = after := by simpa using same
      have notQuote : '\'' ≠ c := by
        rintro rfl
        cases escaped with
        | true => exact front rfl rfl
        | false => simp at inside
      -- A quote behind a backslash would be an escaped one.
      have deeper : (c == '\\') = true → text.head? ≠ some '\'' := by
        intro backslash quote
        obtain ⟨rest, rfl⟩ := List.head?_eq_some_iff.mp quote
        obtain rfl : c = '\\' := by simpa using backslash
        exact clear ⟨[], rest, rfl⟩
      have below : ¬['\\', '\''] <:+: text := fun inside => clear (List.infix_cons inside)
      simpa [notQuote] using ih below deeper split

end Mask

/-! ## Code -/

theorem Trivia.commentSize_opener (style : CommentStyle) (rest : List Glyph) :
    commentSize (style.opener ++ rest) = style.opener.length + style.through rest := by
  cases style with
  | brace => simp [CommentStyle.opener, CommentStyle.through, commentSize, Nat.add_comm]
  | paren => simp [CommentStyle.opener, CommentStyle.through, commentSize, Nat.add_comm]

theorem Glyph.map_blank_map_char (text : List Char) :
    (text.map char).map blank = (Mask.blank text).map char := by
  simp [Mask.blank, Function.comp_def, blank, List.map_const']

/-- A block comment that ends on its line. -/
private theorem masks_closedComment (style : CommentStyle) (opener : List Char) {text body after : List Char}
    (opens : style.opener = opener.map .char)
    (found : Mask.splitAfterComment style text = some (body, after)) {rest masked : List Glyph}
    (tail : Masks (after.map .char ++ rest) masked) :
    Masks ((opener ++ text).map .char ++ rest) ((Mask.blank (opener ++ body)).map .char ++ masked) := by
  obtain rfl := Mask.eq_append_of_splitAfterComment found
  have size : Trivia.commentSize ((opener ++ body).map .char ++ (after.map .char ++ rest)) =
      ((opener ++ body).map Glyph.char).length := by
    have through := CommentStyle.through_split rest found
    rw [List.map_append, List.append_assoc, ← opens, Trivia.commentSize_opener]
    rw [List.map_append, List.append_assoc] at through
    simp [through, opens]
  have nonempty : (opener ++ body).map Glyph.char ≠ [] := by
    rw [List.map_append, ← opens]
    cases style <;> simp [CommentStyle.opener]
  have whole := Masks.comment nonempty size tail
  rw [Glyph.map_blank_map_char] at whole
  simpa using whole

/-- A block comment that goes on past the end of its line. -/
private theorem masks_openComment (style : CommentStyle) (opener : List Char) {text : List Char}
    (opens : style.opener = opener.map .char) (missing : Mask.splitAfterComment style text = none)
    {start : Position} {rest masked : List Glyph}
    (behind : MasksFrom (some (.comment style start)) rest masked) :
    Masks ((opener ++ text).map .char ++ .lineEnd :: rest)
      ((Mask.blank (opener ++ text)).map .char ++ .lineEnd :: masked) := by
  cases behind with
  | @comment _ _ front rest masked size tail =>
    have length : Trivia.commentSize
        (((opener ++ text).map .char ++ .lineEnd :: front) ++ rest) =
        ((opener ++ text).map Glyph.char ++ .lineEnd :: front).length := by
      have through := CommentStyle.through_lineEnd (front ++ rest) missing
      rw [size] at through
      have split : ((opener ++ text).map .char ++ .lineEnd :: front) ++ rest =
          style.opener ++ (text.map .char ++ .lineEnd :: (front ++ rest)) := by
        simp [opens]
      rw [split, Trivia.commentSize_opener, through]
      simp [opens]
      omega
    have whole := Masks.comment (by simp) length tail
    rw [List.map_append (f := Glyph.blank), Glyph.map_blank_map_char] at whole
    simpa [Glyph.blank] using whole

theorem masks_code {line column : Nat} {text : List Char} (clear : ClearQuotes text)
    {below masked : List Glyph} (behind : MasksFrom (Mask.maskCode line column text).2 below masked) :
    Masks (text.map .char ++ .lineEnd :: below)
      ((Mask.maskCode line column text).1.map .char ++ .lineEnd :: masked) := by
  fun_induction Mask.maskCode line column text with
  | case1 column =>
    cases behind with
    | code masks => exact .lineEnd masks
  | case2 column rest body after found ih =>
    obtain rfl := Mask.eq_append_of_splitAtQuote found
    have inside : ClearQuotes after :=
      ClearQuotes.of_append ('\'' :: body ++ ['\'']) (by simpa using clear)
    have nonempty : body ≠ [] := by
      rintro rfl
      exact clear.doubled ⟨[], after, rfl⟩
    have behindQuote : ClearQuotes (body ++ '\'' :: after) := ClearQuotes.of_append ['\''] clear
    have quotes : '\'' ∉ body :=
      Mask.quote_not_mem_of_splitAtQuote behindQuote.escaped (by simp) found
    have whole := Masks.constant nonempty quotes (ih inside behind)
    simpa [Mask.Code.after] using whole
  | case3 column rest missing => cases behind
  | case4 column rest =>
    cases behind with
    | code masks =>
      have size : Trivia.commentSize (('/' :: '/' :: rest).map .char ++ .lineEnd :: below) =
          (('/' :: '/' :: rest).map Glyph.char).length := by
        simp [Trivia.commentSize]
      have whole := Masks.comment (by simp) size (.lineEnd masks)
      rwa [Glyph.map_blank_map_char] at whole
  | case5 column rest body after found ih =>
    obtain rfl := Mask.eq_append_of_splitAfterBrace found
    have tail := ih (ClearQuotes.of_append ('{' :: body) clear) behind
    have whole := masks_closedComment .brace ['{'] rfl found tail
    simpa [Mask.Code.after] using whole
  | case6 column rest missing => exact masks_openComment .brace ['{'] rfl missing behind
  | case7 column rest body after found ih =>
    obtain rfl := Mask.eq_append_of_splitAfterStarParen found
    have tail := ih (ClearQuotes.of_append ('(' :: '*' :: body) clear) behind
    have whole := masks_closedComment .paren ['(', '*'] rfl found tail
    simpa [Mask.Code.after] using whole
  | case8 column rest missing => exact masks_openComment .paren ['(', '*'] rfl missing behind
  | case9 column c rest quote slash brace paren ih =>
    have code : Trivia.commentSize (.char c :: (rest.map .char ++ .lineEnd :: below)) = 0 := by
      rcases Trivia.commentSize_cases (.char c :: (rest.map .char ++ .lineEnd :: below)) with
        none | ⟨tail, same, -⟩ | ⟨style, tail, same, -⟩
      · exact none
      · exfalso
        cases rest with
        | nil => simp at same
        | cons d rest =>
          obtain ⟨first, second, -⟩ : c = '/' ∧ d = '/' ∧ _ := by simpa using same
          exact slash rest first (by rw [second])
      · exfalso
        cases style with
        | brace => exact brace (by simpa [CommentStyle.opener] using (List.cons.inj same).1)
        | paren =>
          cases rest with
          | nil => simp [CommentStyle.opener] at same
          | cons d rest =>
            obtain ⟨first, second, -⟩ : c = '(' ∧ d = '*' ∧ _ := by
              simpa [CommentStyle.opener] using same
            exact paren rest first (by rw [second])
    have whole := Masks.code quote code (ih (ClearQuotes.of_append [c] clear) behind)
    simpa [Mask.Code.after] using whole

/-! ## Lines -/

/-- A line and the lines below it, with a literal open at its beginning. -/
theorem masksFrom_line {line : Nat} {text : List Char} (clear : ClearQuotes text)
    {opened : Option OpenLiteral} (noString : ∀ start, opened ≠ some (.string start))
    {below masked : List Glyph} (behind : MasksFrom (maskLine line text opened).opened below masked) :
    MasksFrom opened (text.map .char ++ .lineEnd :: below)
      ((maskLine line text opened).text.map .char ++ .lineEnd :: masked) := by
  match opened with
  | none =>
    have whole := masks_code clear behind
    exact .code (by simpa [maskLine, MaskedLine.ofCode, Mask.Code.after] using whole)
  | some (.string start) => exact absurd rfl (noString start)
  | some (.comment style start) =>
    cases found : Mask.splitAfterComment style text with
    | some parts =>
      obtain ⟨body, after⟩ := parts
      simp only [maskLine, found] at behind ⊢
      obtain rfl := Mask.eq_append_of_splitAfterComment found
      have size := CommentStyle.through_split (.lineEnd :: below) found
      have whole : MasksFrom (some (.comment style start))
          (body.map .char ++ (after.map .char ++ .lineEnd :: below)) _ :=
        .comment (by simpa using size) (masks_code (ClearQuotes.of_append body clear) behind)
      rw [Glyph.map_blank_map_char] at whole
      simpa [MaskedLine.ofCode, Mask.Code.after] using whole
    | none =>
      simp only [maskLine, found] at behind ⊢
      cases behind with
      | @comment _ _ front rest masked size tail =>
        have length := CommentStyle.through_lineEnd (front ++ rest) found
        have whole : MasksFrom (some (.comment style start))
            ((text.map .char ++ .lineEnd :: front) ++ rest) _ :=
          .comment (by simp [length, size]; omega) tail
        rw [List.map_append (f := Glyph.blank), Glyph.map_blank_map_char] at whole
        simpa [Glyph.blank] using whole

/-- Masked lines are a masked stream. -/
theorem masksFrom_lines_of_clear {first : Nat} {lines : List (List Char)}
    (clear : ∀ line ∈ lines, ClearQuotes line)
    {opened : Option OpenLiteral} (noString : ∀ start, opened ≠ some (.string start))
    (closed : ∀ masked ∈ maskLines first opened lines, ∀ start,
      masked.opened ≠ some (.string start)) :
    MasksFrom opened (Glyph.ofLines lines)
      (Glyph.ofLines ((maskLines first opened lines).map (·.text))) := by
  induction lines generalizing first opened with
  | nil =>
    match opened with
    | none => exact .code .nil
    | some (.string start) => exact absurd rfl (noString start)
    | some (.comment style start) =>
      have size : style.through ([] ++ []) = ([] : List Glyph).length := by cases style <;> rfl
      exact .comment size .nil
  | cons text below ih =>
    simp only [maskLines, List.map_cons, Glyph.ofLines_cons]
    obtain ⟨here, others⟩ := List.forall_mem_cons.mp closed
    obtain ⟨clearHere, clearBelow⟩ := List.forall_mem_cons.mp clear
    exact masksFrom_line clearHere noString (ih clearBelow here others)

theorem masksFrom_lines {first : Nat} {lines : List (List Char)}
    (plain : ∀ line ∈ lines, PlainQuotes line)
    {opened : Option OpenLiteral} (noString : ∀ start, opened ≠ some (.string start))
    (closed : ∀ masked ∈ maskLines first opened lines, ∀ start,
      masked.opened ≠ some (.string start)) :
    MasksFrom opened (Glyph.ofLines lines)
      (Glyph.ofLines ((maskLines first opened lines).map (·.text))) :=
  masksFrom_lines_of_clear (fun line found => (plain line found).clear) noString closed

/-- On lines whose quotes are plain and of which none leaves a string open, the scanner reads the
    same tokens at the same positions, and finds the same flaws in them, as on the masked lines. -/
theorem scan_maskLines (dialect : Dialect) (lines : List (List Char))
    (plain : ∀ line ∈ lines, PlainQuotes line)
    (closed : ∀ masked ∈ maskLines 1 none lines, ∀ start, masked.opened ≠ some (.string start)) :
    scan dialect ((maskLines 1 none lines).map (·.text)) = scan dialect lines := by
  have masks := masksFrom_lines plain (by simp) closed
  cases masks with
  | code masks =>
    have related : Scanner.Masked (.start dialect lines)
        (.start dialect ((maskLines 1 none lines).map (·.text))) := ⟨rfl, rfl, masks⟩
    exact related.tokens_eq

/-- A comment in braces that holds the other opener and goes on to a quote on the next line, one in
    parentheses that its opener does not close, two constants, and a quote behind slashes. -/
theorem scan_maskLines_comments :
    let lines := [['x', '\'', 'a', '\'', '{', '(', '*'],
      ['\'', '}', '(', '*', ')', '\'', '*', ')', '\'', 'b', 'c', '\''], ['y', '/', '/', '\'']]
    (∀ line ∈ lines, PlainQuotes line) ∧
      (∀ masked ∈ maskLines 1 none lines, ∀ start, masked.opened ≠ some (.string start)) ∧
      scan .extended ((maskLines 1 none lines).map (·.text)) = scan .extended lines := by
  intro lines
  have plain : ∀ line ∈ lines, PlainQuotes line := by
    intro line found
    simp only [lines, List.mem_cons, List.not_mem_nil, or_false] at found
    rcases found with rfl | rfl | rfl <;> exact ⟨by decide, by decide⟩
  have opened : (maskLines 1 none lines).map (·.opened) =
      [some (.comment .brace ⟨1, 4⟩), none, none] := by
    decide +kernel
  have closed : ∀ masked ∈ maskLines 1 none lines, ∀ start,
      masked.opened ≠ some (.string start) := by
    intro masked found start same
    have member := List.mem_map_of_mem (f := (·.opened)) found
    simp [opened, same] at member
  exact ⟨plain, closed, scan_maskLines .extended lines plain closed⟩

end PascalLint
