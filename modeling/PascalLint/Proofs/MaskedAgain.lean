import PascalLint.Proofs.Veil

/-! # Masking what is masked

Masking takes away the delimiters of comments, the escapes of strings and whatever a string holds, so
a second run over masked lines is in code where the first one was in a comment, and still finds every
string where it was (`maskLines_map_text`). What carries the induction along a line is that masking opens
nothing: a character that stays in front of masked code begins no comment there, for the characters
behind it are those of the line or spaces.
-/

namespace PascalLint

/-- Holds of an open string. -/
def OpenLiteral.isString : OpenLiteral → Bool
  | string _ => true
  | comment .. => false

/-- The masked line without the comment that it leaves open. -/
def MaskedLine.withoutComment (masked : MaskedLine) : MaskedLine :=
  { masked with opened := masked.opened.filter (·.isString) }

namespace Mask

/-! ## Spaces -/

@[simp]
theorem blank_blank (text : List Char) : blank (blank text) = blank text := by
  rw [blank, length_blank, blank]

theorem splitAtQuote_blank (text : List Char) : splitAtQuote false (blank text) = none := by
  induction text with
  | nil => rfl
  | cons c text ih =>
    rw [blank_cons, splitAtQuote]
    exact Option.map_eq_none_iff.mpr ih

theorem splitAtQuote_blank_append (text after : List Char) :
    splitAtQuote false (blank text ++ '\'' :: after) = some (blank text, after) := by
  induction text with
  | nil => rfl
  | cons c text ih =>
    rw [blank_cons, List.cons_append, splitAtQuote]
    exact Option.map_eq_some_iff.mpr ⟨_, ih, rfl⟩

theorem maskCode_blank_append (line column : Nat) (text rest : List Char) :
    maskCode line column (blank text ++ rest) =
      (maskCode line (column + text.length) rest).after (blank text) := by
  induction text generalizing column with
  | nil => rfl
  | cons c text ih =>
    rw [blank_cons, List.cons_append, maskCode_other line column (by decide) (by simp) (by decide)
      (by simp), ih]
    simp [Code.after, Nat.add_assoc, Nat.add_comm 1]

theorem maskCode_blank (line column : Nat) (text : List Char) :
    maskCode line column (blank text) = (blank text, none) := by
  simpa [maskCode, Code.after] using maskCode_blank_append line column text []

/-! ## Lines -/

/-- What is masked of a comment stays masked, and the code behind it is code still. -/
theorem maskCode_masked_after {line column : Nat} (text : List Char) {code : Code}
    (stays : maskCode line (column + text.length) code.1 = (code.1, code.2.filter (·.isString))) :
    let whole := code.after (blank text)
    maskCode line column whole.1 = (whole.1, whole.2.filter (·.isString)) := by
  simp only [Code.after, maskCode_blank_append, stays]

/-- Code that is masked stays as it is, and a string that it leaves open is open where it was. -/
theorem maskCode_masked (line column : Nat) (text : List Char) :
    let code := maskCode line column text
    maskCode line column code.1 = (code.1, code.2.filter (·.isString)) := by
  fun_induction maskCode line column text with
  | case1 column => simp [maskCode]
  | case2 column rest body after found ih =>
    simp only [Code.after, List.append_assoc, List.cons_append, List.nil_append] at ih ⊢
    rw [maskCode_quote, splitAtQuote_blank_append]
    simp [Code.after, ih]
  | case3 column rest missing =>
    simp only [maskCode_quote, splitAtQuote_blank, blank_blank]
    rfl
  | case4 column rest => exact maskCode_blank line column _
  | case5 column rest body after found ih =>
    exact maskCode_masked_after ('{' :: body) ih
  | case6 column rest missing => exact maskCode_blank line column _
  | case7 column rest body after found ih =>
    exact maskCode_masked_after ('(' :: '*' :: body) ih
  | case8 column rest missing => exact maskCode_blank line column _
  | case9 column c rest quote slashes brace paren ih =>
    -- What follows the character in the masked line follows it in the line, or is a space.
    have veils := (Veils.of_maskCode line (column + 1) rest).1
    have stays {first second : Char} (solid : second ≠ ' ')
        (other : ¬(c = first ∧ rest.head? = some second)) :
        ¬(c = first ∧ (maskCode line (column + 1) rest).1.head? = some second) :=
      fun pair => other ⟨pair.1, veils.head?_eq pair.2 solid⟩
    simp only [Code.after, List.singleton_append] at ih ⊢
    rw [maskCode_other line column quote (stays (by decide) (not_pair_iff.mp slashes)) brace
      (stays (by decide) (not_pair_iff.mp paren)), ih]
    rfl

end Mask

theorem MaskedLine.ofCode_masked (line : Nat) (front after : List Char) :
    ofCode line front (Mask.maskCode line front.length after).1 =
      (ofCode line front after).withoutComment := by
  simp only [ofCode, Mask.maskCode_masked]
  rfl

/-- Behind a comment of the line above, the second run has been in code from the first column on. -/
theorem MaskedLine.ofCode_masked_comment (line : Nat) (body after : List Char) :
    ofCode line [] (ofCode line (Mask.blank body) after).text =
      (ofCode line (Mask.blank body) after).withoutComment := by
  simp only [ofCode, Mask.Code.after, List.length_nil, Mask.length_blank, Mask.maskCode_blank_append,
    Nat.zero_add, Mask.maskCode_masked]
  rfl

/-- A masked line that is masked again stays as it is, but leaves no comment open. -/
theorem maskLine_masked (line : Nat) (text : List Char) (opened : Option OpenLiteral) :
    let masked := maskLine line text opened
    maskLine line masked.text (opened.filter (·.isString)) = masked.withoutComment := by
  match opened with
  | none => exact MaskedLine.ofCode_masked line [] text
  | some (.string start) =>
    have kept : (some (OpenLiteral.string start)).filter (·.isString) = some (.string start) := rfl
    rw [kept]
    simp only [maskLine]
    cases Mask.splitAtQuote false text with
    | none =>
      simp only [Mask.splitAtQuote_blank, Mask.blank_blank]
      rfl
    | some parts =>
      obtain ⟨body, after⟩ := parts
      have again := MaskedLine.ofCode_masked line (Mask.blank body ++ ['\'']) after
      simpa [MaskedLine.ofCode, Mask.Code.after, Mask.splitAtQuote_blank_append] using again
  | some (.comment style start) =>
    have dropped : (some (OpenLiteral.comment style start)).filter (·.isString) = none := rfl
    rw [dropped]
    simp only [maskLine]
    cases Mask.splitAfterComment style text with
    | none =>
      simp only [MaskedLine.ofCode, Mask.maskCode_blank]
      rfl
    | some parts => exact MaskedLine.ofCode_masked_comment line parts.1 parts.2

/-- Masked lines that are masked again stay as they are, but leave no comment open. -/
theorem maskLines_map_text (first : Nat) (opened : Option OpenLiteral) (lines : List (List Char)) :
    let masked := maskLines first opened lines
    maskLines first (opened.filter (·.isString)) (masked.map (·.text)) =
      masked.map (·.withoutComment) := by
  induction lines generalizing first opened with
  | nil => rfl
  | cons text below ih =>
    simp only [maskLines, List.map_cons, maskLine_masked]
    exact congrArg _ (ih (first + 1) _)

/-- Masking a source again changes no line of it. On every line the second run gives up the same
    string and leaves the same string open as the first one; it never leaves a comment open. -/
theorem maskLines_masked (first : Nat) (lines : List (List Char)) :
    let masked := maskLines first none lines
    let again := maskLines first none (masked.map (·.text))
    again.map (·.text) = masked.map (·.text) ∧
      again.map (·.opened.filter (·.isString)) = masked.map (·.opened.filter (·.isString)) ∧
      again.map (·.unterminated) = masked.map (·.unterminated) ∧
      ∀ line ∈ again, ∀ style start, line.opened ≠ some (.comment style start) := by
  intro masked again
  have same : again = masked.map (·.withoutComment) := maskLines_map_text first none lines
  refine ⟨?_, ?_, ?_, ?_⟩
  · rw [same, List.map_map]
    rfl
  · rw [same, List.map_map]
    simp [Function.comp_def, MaskedLine.withoutComment, Option.filter_filter]
  · rw [same, List.map_map]
    rfl
  · intro line found style start opened
    rw [same] at found
    obtain ⟨earlier, -, rfl⟩ := List.mem_map.mp found
    have kept : OpenLiteral.isString (.comment style start) = true := (Option.filter_eq_some_iff.mp opened).2
    cases kept

end PascalLint
