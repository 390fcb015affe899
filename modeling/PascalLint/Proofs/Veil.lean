import PascalLint.Mask
import PascalLint.Proofs.Runs

/-! # Lines beside their masked forms

A masked line has the length of its line and differs from it in spaces only. Which characters may
stand next to what is masked is as much as the rules rely on: it begins behind a quote or with the
opener of a comment, and it ends before a quote, with the terminator of a comment, or with the line.
So a word that is seen in the masked line is a word of the line, in the same columns.
-/

namespace PascalLint

open PascalLint.Identifier (mayContinue run)

/-- Nothing is masked at the front of a line, or a comment begins there. -/
def Opens (raw masked : List Char) : Prop :=
  masked.head? = raw.head? ∨ raw.head? ∈ [some '{', some '(', some '/']

/-- A text and its masked form, character by character. Each constructor looks at the next character
    only. -/
inductive Veils : List Char → List Char → Prop
  | nil : Veils [] []
  | cons {c d : Char} {raw masked : List Char} (seen : d = c ∨ d = ' ')
      (opens : Opens raw masked ∨ d = ' ' ∨ d = '\'')
      (closes : d = c ∨ c ∈ ['}', ')'] ∨ masked.head? ∈ [none, some ' ', some '\''])
      (tail : Veils raw masked) : Veils (c :: raw) (d :: masked)

namespace Veils

/-! ## Masked lines -/

theorem shown (c : Char) {raw masked : List Char} (opens : Opens raw masked)
    (tail : Veils raw masked) : Veils (c :: raw) (c :: masked) :=
  .cons (.inl rfl) (.inl opens) (.inl rfl) tail

theorem quote {raw masked : List Char} (tail : Veils raw masked) :
    Veils ('\'' :: raw) ('\'' :: masked) :=
  .cons (.inl rfl) (.inr (.inr rfl)) (.inl rfl) tail

/-- A masked part that a quote or the end of the line follows. -/
theorem hidden (text : List Char) {raw masked : List Char} (tail : Veils raw masked)
    (closes : masked.head? ∈ [none, some '\'']) : Veils (text ++ raw) (Mask.blank text ++ masked) := by
  induction text with
  | nil => exact tail
  | cons c text ih =>
    refine .cons (.inr rfl) (.inr (.inl rfl)) (.inr (.inr ?_)) ih
    cases text with
    | nil =>
      -- Only the last masked character has something else behind it.
      rcases List.mem_cons.mp closes with ended | quoted
      · simp [ended]
      · simp [List.mem_singleton.mp quoted]
    | cons d text => simp [List.replicate_succ]

/-- A masked part that ends with the terminator of a comment. -/
theorem comment (text : List Char) {c : Char} (closer : c ∈ ['}', ')']) {raw masked : List Char}
    (tail : Veils raw masked) :
    Veils (text ++ c :: raw) (Mask.blank (text ++ [c]) ++ masked) := by
  have last : Veils (c :: raw) (' ' :: masked) :=
    .cons (.inr rfl) (.inr (.inl rfl)) (.inr (.inl closer)) tail
  induction text with
  | nil => exact last
  | cons d text ih =>
    refine .cons (.inr rfl) (.inr (.inl rfl)) (.inr (.inr ?_)) ih
    simp [List.replicate_succ]

theorem whole (text : List Char) : Veils text (Mask.blank text) := by
  simpa using hidden text .nil (by simp)

end Veils

namespace Mask

theorem exists_closer_of_splitAfterBrace {text body after : List Char}
    (found : splitAfterBrace text = some (body, after)) : ∃ front, body = front ++ ['}'] := by
  fun_induction splitAfterBrace text generalizing body with
  | case1 => cases found
  | case2 rest =>
    obtain ⟨rfl, rfl⟩ : ['}'] = body ∧ rest = after := by simpa using found
    exact ⟨[], rfl⟩
  | case3 c rest other ih =>
    obtain ⟨⟨inner, behind⟩, deeper, same⟩ := Option.map_eq_some_iff.mp found
    obtain ⟨rfl, rfl⟩ : c :: inner = body ∧ behind = after := by simpa using same
    obtain ⟨front, rfl⟩ := ih deeper
    exact ⟨c :: front, rfl⟩

theorem exists_closer_of_splitAfterStarParen {text body after : List Char}
    (found : splitAfterStarParen text = some (body, after)) : ∃ front, body = front ++ [')'] := by
  fun_induction splitAfterStarParen text generalizing body with
  | case1 => cases found
  | case2 rest =>
    obtain ⟨rfl, rfl⟩ : ['*', ')'] = body ∧ rest = after := by simpa using found
    exact ⟨['*'], rfl⟩
  | case3 c rest other ih =>
    obtain ⟨⟨inner, behind⟩, deeper, same⟩ := Option.map_eq_some_iff.mp found
    obtain ⟨rfl, rfl⟩ : c :: inner = body ∧ behind = after := by simpa using same
    obtain ⟨front, rfl⟩ := ih deeper
    exact ⟨c :: front, rfl⟩

/-- What is masked of a comment ends with the last character of its terminator. -/
theorem exists_closer_of_splitAfterComment {style : CommentStyle} {text body after : List Char}
    (found : splitAfterComment style text = some (body, after)) :
    ∃ front c, c ∈ ['}', ')'] ∧ body = front ++ [c] := by
  cases style with
  | brace =>
    obtain ⟨front, same⟩ := exists_closer_of_splitAfterBrace found
    exact ⟨front, '}', by simp, same⟩
  | paren =>
    obtain ⟨front, same⟩ := exists_closer_of_splitAfterStarParen found
    exact ⟨front, ')', by simp, same⟩

end Mask

namespace Veils

/-- A comment from its opener on, or the rest of one. -/
theorem closed (style : CommentStyle) (opener : List Char) {text body after masked : List Char}
    (found : Mask.splitAfterComment style text = some (body, after)) (tail : Veils after masked) :
    Veils (opener ++ text) (Mask.blank (opener ++ body) ++ masked) := by
  obtain ⟨front, c, closer, rfl⟩ := Mask.exists_closer_of_splitAfterComment found
  obtain rfl := Mask.eq_append_of_splitAfterComment found
  simpa using comment (opener ++ front) closer tail

/-- A string behind its first quote, and the rest of one. -/
theorem inside {text body after masked : List Char}
    (found : Mask.splitAtQuote false text = some (body, after)) (tail : Veils after masked) :
    Veils text (Mask.blank body ++ '\'' :: masked) := by
  obtain rfl := Mask.eq_append_of_splitAtQuote found
  exact hidden body (quote tail) (by simp)

theorem of_maskCode (line column : Nat) (text : List Char) :
    Veils text (Mask.maskCode line column text).1 ∧ Opens text (Mask.maskCode line column text).1 := by
  -- A character that stays may stand only before code that opens with itself or with a comment, so
  -- the induction carries how the code behind it opens.
  fun_induction Mask.maskCode line column text with
  | case1 column => exact ⟨.nil, .inl rfl⟩
  | case2 column rest body after found ih =>
    have tail := inside found ih.1
    exact ⟨by simpa [Mask.Code.after] using quote tail, .inl rfl⟩
  | case3 column rest missing => exact ⟨quote (whole rest), .inl rfl⟩
  | case4 column rest => exact ⟨whole _, .inr (by simp)⟩
  | case5 column rest body after found ih =>
    exact ⟨closed .brace ['{'] found ih.1, .inr (by simp)⟩
  | case6 column rest missing => exact ⟨whole _, .inr (by simp)⟩
  | case7 column rest body after found ih =>
    exact ⟨closed .paren ['(', '*'] found ih.1, .inr (by simp)⟩
  | case8 column rest missing => exact ⟨whole _, .inr (by simp)⟩
  | case9 column c rest quote slashes brace paren ih => exact ⟨shown c ih.2 ih.1, .inl rfl⟩

theorem of_maskLine (line : Nat) (text : List Char) (opened : Option OpenLiteral) :
    Veils text (maskLine line text opened).text := by
  match opened with
  | none => exact (of_maskCode line 0 text).1
  | some (.string start) =>
    simp only [maskLine]
    split
    next body after found =>
      have tail := inside found (of_maskCode line (Mask.blank body ++ ['\'']).length after).1
      simpa [MaskedLine.ofCode, Mask.Code.after] using tail
    next missing => exact whole text
  | some (.comment style start) =>
    simp only [maskLine]
    split
    next body after found =>
      exact closed style [] found (of_maskCode line (Mask.blank body).length after).1
    next missing => exact whole text

/-! ## What is seen in a masked line -/

theorem length_eq {raw masked : List Char} (veils : Veils raw masked) :
    masked.length = raw.length := by
  induction veils with
  | nil => rfl
  | cons seen opens closes tail ih => rw [List.length_cons, ih, List.length_cons]

theorem drop {raw masked : List Char} (veils : Veils raw masked) (column : Nat) :
    Veils (raw.drop column) (masked.drop column) := by
  induction veils generalizing column with
  | nil => simpa using Veils.nil
  | cons seen opens closes tail ih =>
    cases column with
    | zero => exact .cons seen opens closes tail
    | succ column => exact ih column

/-- A character that is no space is not masked. -/
theorem head?_eq {raw masked : List Char} (veils : Veils raw masked) {c : Char}
    (here : masked.head? = some c) (shown : c ≠ ' ') : raw.head? = some c := by
  cases veils with
  | nil => cases here
  | cons seen opens closes tail =>
    obtain rfl : _ = c := Option.some.inj here
    rw [List.head?_cons, seen.resolve_right shown]

theorem getElem?_eq {raw masked : List Char} (veils : Veils raw masked) {column : Nat} {c : Char}
    (here : masked[column]? = some c) (shown : c ≠ ' ') : raw[column]? = some c := by
  rw [← List.head?_drop] at here ⊢
  exact (veils.drop column).head?_eq here shown

/-- Where the masked line has no identifier character, the line has none, unless it is masked. -/
theorem ends_of_opens {raw masked : List Char} (opens : Opens raw masked)
    (ends : ∀ c, masked.head? = some c → mayContinue c = false) :
    ∀ c, raw.head? = some c → mayContinue c = false := by
  intro c here
  rcases opens with same | comment
  · exact ends c (same.trans here)
  · rw [here] at comment
    simp only [List.mem_cons, Option.some.injEq, List.not_mem_nil, or_false] at comment
    rcases comment with rfl | rfl | rfl <;> decide

/-- An identifier that is seen in the masked line is one of the line, and ends where it is seen to
    end. -/
theorem run_eq {raw masked : List Char} (veils : Veils raw masked) {c : Char}
    (here : masked.head? = some c) (identifier : mayContinue c = true) : run raw = run masked := by
  induction veils generalizing c with
  | nil => rfl
  | @cons first second raw masked seen opens closes tail ih =>
    obtain rfl : second = c := Option.some.inj here
    obtain ⟨shown, other⟩ := Identifier.ne_of_mayContinue identifier
    obtain rfl := seen.resolve_right shown
    have behind : run raw = run masked := by
      by_cases more : ∃ c, masked.head? = some c ∧ mayContinue c = true
      · obtain ⟨c, next, identifier⟩ := more
        exact ih next identifier
      · -- Here the identifier ends: the line goes on as the masked line does, or with a comment.
        have ends : ∀ c, masked.head? = some c → mayContinue c = false := by
          simpa using more
        have starts := ends_of_opens (opens.resolve_right (not_or.mpr ⟨shown, other⟩)) ends
        rw [Identifier.run_eq_nil ends, Identifier.run_eq_nil starts]
    simp only [run, List.takeWhile_cons, identifier, if_true] at behind ⊢
    rw [behind]

/-- A character before one that is seen is seen too, unless it ends a comment or a quote follows. -/
theorem getElem?_before {raw masked : List Char} (veils : Veils raw masked) {column : Nat}
    {c next : Char} (here : raw[column]? = some c) (behind : masked[column + 1]? = some next)
    (shown : next ≠ ' ') (other : next ≠ '\'') : masked[column]? = some c ∨ c ∈ ['}', ')'] := by
  induction veils generalizing column with
  | nil => cases here
  | @cons first second raw masked seen opens closes tail ih =>
    cases column with
    | succ column => exact ih here behind
    | zero =>
      obtain rfl : first = c := Option.some.inj here
      have behind : masked.head? = some next := by
        rw [List.head?_eq_getElem?]
        exact behind
      rcases closes with rfl | closer | ended
      · exact .inl rfl
      · exact .inr closer
      · rw [behind] at ended
        simp_all

/-- A pattern without spaces that is seen in the masked line is in the line. -/
theorem pattern_of_masked {pattern raw masked : List Char} (veils : Veils raw masked)
    (found : pattern <+: masked) (solid : ' ' ∉ pattern) : pattern <+: raw := by
  induction veils generalizing pattern with
  | nil => exact found
  | cons seen opens closes tail ih =>
    cases pattern with
    | nil => exact List.nil_prefix
    | cons c pattern =>
      obtain ⟨rfl, deeper⟩ := List.cons_prefix_cons.mp found
      simp only [List.mem_cons, not_or] at solid
      obtain rfl := seen.resolve_right (Ne.symm solid.1)
      exact List.cons_prefix_cons.mpr ⟨rfl, ih deeper solid.2⟩

end Veils

end PascalLint
