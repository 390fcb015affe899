import PascalLint.Proofs.Comment

/-! # What stands between tokens

A gap is a sequence of white space, line ends and comments, and every comment in it ends with the
first terminator behind its opener. At the end of the input a block comment may be left open there;
`Trivia.gap_take_size` says that the scanner passes over no other than the last gap with one.
-/

namespace PascalLint

open PascalLint.Unicode (isWhiteSpace)

/-- A sequence of white space, line ends and comments. If `final` holds, its last comment may be
    without a terminator. -/
inductive Gap (final : Prop) : List Glyph → Prop
  | nil : Gap final []
  | whiteSpace {c : Char} {gap : List Glyph} (white : isWhiteSpace c = true)
      (tail : Gap final gap) : Gap final (.char c :: gap)
  | lineEnd {gap : List Glyph} (tail : Gap final gap) : Gap final (.lineEnd :: gap)
  | lineComment (text : List Char) {gap : List Glyph} (ended : gap.head? = some .lineEnd)
      (tail : Gap final gap) : Gap final (.char '/' :: .char '/' :: text.map .char ++ gap)
  | blockComment (style : CommentStyle) {body gap : List Glyph}
      (inside : ¬style.terminator <:+: body) (tail : Gap final gap) :
      Gap final (style.opener ++ body ++ style.terminator ++ gap)
  | unterminated (style : CommentStyle) {body : List Glyph} (last : final)
      (inside : ¬style.terminator <:+: body) : Gap final (style.opener ++ body)

theorem Gap.mono {final other : Prop} (allowed : final → other) {glyphs : List Glyph}
    (gap : Gap final glyphs) : Gap other glyphs := by
  induction gap with
  | nil => exact .nil
  | whiteSpace white _ ih => exact .whiteSpace white ih
  | lineEnd _ ih => exact .lineEnd ih
  | lineComment text ended _ ih => exact .lineComment text ended ih
  | blockComment style inside _ ih => exact .blockComment style inside ih
  | unterminated style last inside => exact .unterminated style (allowed last) inside

/-- The last line of a stream has its end. -/
def Glyph.Ended (glyphs : List Glyph) : Prop :=
  ∀ c, glyphs.getLast? ≠ some (.char c)

namespace Glyph

theorem ended_ofLines (lines : List (List Char)) : Ended (ofLines lines) := by
  intro c last
  induction lines with
  | nil => cases last
  | cons line lines ih =>
    rw [ofLines_cons, List.getLast?_append, List.getLast?_cons] at last
    cases final : (ofLines lines).getLast? with
    | none => simp [final] at last
    | some glyph =>
      rw [final] at ih last
      exact ih last

theorem Ended.drop {glyphs : List Glyph} (ended : Ended glyphs) (count : Nat) :
    Ended (glyphs.drop count) := by
  intro c last
  rw [List.getLast?_drop] at last
  split at last
  · cases last
  · exact ended c last

end Glyph

namespace Trivia

/-- A comment and what is passed over behind it. -/
theorem gap_comment {glyphs : List Glyph} (ended : Glyph.Ended glyphs)
    (comment : commentSize glyphs ≠ 0) (final : Prop)
    (last : glyphs.drop (commentSize glyphs) = [] → final)
    (tail : Gap final ((glyphs.drop (commentSize glyphs)).take
      (size (glyphs.drop (commentSize glyphs))))) :
    Gap final (glyphs.take (commentSize glyphs + size (glyphs.drop (commentSize glyphs)))) := by
  rw [List.take_add]
  rcases commentSize_cases glyphs with none | ⟨rest, rfl, found⟩ | ⟨style, rest, rfl, found⟩
  · exact absurd none comment
  · obtain ⟨behind, split, stop⟩ := Glyph.eq_lineText_append rest
    have whole : .char '/' :: .char '/' :: rest =
        (.char '/' :: .char '/' :: (Glyph.lineText rest).map Glyph.char) ++ behind := by
      rw [List.cons_append, List.cons_append, ← split]
    have length : commentSize (.char '/' :: .char '/' :: rest) =
        (.char '/' :: .char '/' :: (Glyph.lineText rest).map Glyph.char).length := by
      simp [found]
    rw [length, whole, List.drop_left] at tail
    rw [length, whole, List.drop_left, List.take_left]
    match behind with
    | .lineEnd :: below =>
      exact .lineComment (Glyph.lineText rest) (by rw [size_lineEnd]; rfl) tail
    | .char c :: below => exact absurd rfl (stop c below)
    | [] =>
      -- The last line has an end, so a comment that goes up to it is not the end of the stream.
      rw [whole, List.append_nil] at ended
      have last : ∃ c, (('/' :: '/' :: Glyph.lineText rest).map Glyph.char).getLast? = some (.char c) := by
        rw [List.getLast?_map, List.getLast?_cons]
        exact ⟨_, rfl⟩
      obtain ⟨c, last⟩ := last
      exact absurd last (ended c)
  · rcases style.through_cases rest with ⟨absent, all⟩ | ⟨body, below, rfl, absent, size⟩
    · -- Without a terminator the comment takes up all that is left.
      have length : commentSize (style.opener ++ rest) = (style.opener ++ rest).length := by
        rw [found, all, List.length_append]
      rw [length, List.drop_length] at last tail
      rw [length, List.drop_length, List.take_length]
      simpa using Gap.unterminated style (last rfl) absent
    · have length : commentSize (style.opener ++ (body ++ (style.terminator ++ below))) =
          (style.opener ++ body ++ style.terminator).length := by
        rw [found, size, List.length_append, List.length_append, Nat.add_assoc]
      have whole : style.opener ++ (body ++ (style.terminator ++ below)) =
          (style.opener ++ body ++ style.terminator) ++ below := by
        simp
      rw [length, whole, List.drop_left] at tail
      rw [length, whole, List.drop_left, List.take_left]
      exact .blockComment style absent tail

/-- What is passed over before a token is a gap, with an open comment in it only if nothing
    follows. -/
theorem gap_take_size {glyphs : List Glyph} (ended : Glyph.Ended glyphs) :
    Gap (glyphs.drop (size glyphs) = []) (glyphs.take (size glyphs)) := by
  fun_induction size glyphs with
  | case1 => exact .nil
  | case2 below ih => exact .lineEnd (ih (ended.drop 1))
  | case3 c below white ih => exact .whiteSpace white (ih (ended.drop 1))
  | case4 c below dark none => exact .nil
  | case5 c below dark comment found ih =>
    have order : size (below.drop comment) + comment + 1 = comment + 1 + size (below.drop comment) := by
      omega
    have whole := gap_comment ended (by rw [found]; exact Nat.succ_ne_zero comment)
      ((.char c :: below).drop (comment + 1 + size (below.drop comment)) = [])
    rw [found, List.drop_succ_cons] at whole
    rw [order]
    apply whole
    · intro nothing
      rw [← List.drop_drop, List.drop_succ_cons, nothing, List.drop_nil]
    · rw [← List.drop_drop, List.drop_succ_cons]
      exact ih (ended.drop (comment + 1))

end Trivia

end PascalLint
