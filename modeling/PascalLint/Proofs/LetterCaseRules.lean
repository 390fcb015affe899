import PascalLint.Proofs.LetterCase
import PascalLint.Proofs.RuleEvidence

/-! # Letter case and rules

Masking looks for delimiters only, so a line in small letters is masked in the same columns. Rule by
rule, the same is then said about the line: the rules look for marks, measure what is between them, and
compare words in lower case or in their case folding.
-/

namespace PascalLint

open Letter

/-! ## Masks -/

/-- The masked line in small letters. -/
def MaskedLine.lower (masked : MaskedLine) : MaskedLine :=
  { masked with text := Text.lower masked.text }

namespace Mask

theorem splitAtQuote_lower (escaped : Bool) (text : List Char) :
    splitAtQuote escaped (Text.lower text) =
      (splitAtQuote escaped text).map (Prod.map Text.lower Text.lower) := by
  induction text generalizing escaped with
  | nil => rfl
  | cons c rest ih =>
    simp (disch := decide) only [Text.lower_cons, splitAtQuote, beq_toLower, ih]
    split
    · rfl
    · cases splitAtQuote (c == '\\') rest <;> rfl

theorem splitAfterBrace_lower (text : List Char) :
    splitAfterBrace (Text.lower text) =
      (splitAfterBrace text).map (Prod.map Text.lower Text.lower) := by
  fun_induction splitAfterBrace text with
  | case1 => rfl
  | case2 rest => rfl
  | case3 c rest other ih =>
    rw [Text.lower_cons, splitAfterBrace, ih]
    · cases splitAfterBrace rest <;> rfl
    · rwa [toLower_eq_iff (by decide)]

theorem splitAfterStarParen_lower (text : List Char) :
    splitAfterStarParen (Text.lower text) =
      (splitAfterStarParen text).map (Prod.map Text.lower Text.lower) := by
  fun_induction splitAfterStarParen text with
  | case1 => rfl
  | case2 rest => rfl
  | case3 c rest other ih =>
    rw [Text.lower_cons, splitAfterStarParen, ih]
    · cases splitAfterStarParen rest <;> rfl
    · intro tail star closer
      obtain ⟨behind, rfl, -⟩ := Text.front_of_lower (by decide) closer
      exact other behind ((toLower_eq_iff (by decide)).mp star) rfl

theorem splitAfterComment_lower (style : CommentStyle) (text : List Char) :
    splitAfterComment style (Text.lower text) =
      (splitAfterComment style text).map (Prod.map Text.lower Text.lower) := by
  cases style with
  | brace => exact splitAfterBrace_lower text
  | paren => exact splitAfterStarParen_lower text

theorem blank_lower (text : List Char) : blank (Text.lower text) = blank text := by
  rw [blank, Text.length_lower, blank]

@[simp]
theorem lower_blank (text : List Char) : Text.lower (blank text) = blank text := by
  rw [blank, Text.lower, List.map_replicate]
  rfl

theorem maskCode_lower (line column : Nat) (text : List Char) :
    maskCode line column (Text.lower text) =
      Prod.map Text.lower id (maskCode line column text) := by
  fun_induction maskCode line column text with
  | case1 => simp [maskCode]
  | case2 column rest body after found ih =>
    change maskCode line column ('\'' :: Text.lower rest) = _
    rw [maskCode_quote, splitAtQuote_lower, found]
    simp [Code.after, ih, blank_lower]
  | case3 column rest found =>
    change maskCode line column ('\'' :: Text.lower rest) = _
    rw [maskCode_quote, splitAtQuote_lower, found]
    simp [blank_lower]
  | case4 column rest =>
    change maskCode line column ('/' :: '/' :: Text.lower rest) = _
    rw [maskCode]
    simp [blank_cons, blank_lower]
  | case5 column rest body after found ih =>
    change maskCode line column ('{' :: Text.lower rest) = _
    rw [maskCode_brace, splitAfterBrace_lower, found]
    simp [Code.after, ih, blank_cons, blank_lower]
  | case6 column rest found =>
    change maskCode line column ('{' :: Text.lower rest) = _
    rw [maskCode_brace, splitAfterBrace_lower, found]
    simp [blank_cons, blank_lower]
  | case7 column rest body after found ih =>
    change maskCode line column ('(' :: '*' :: Text.lower rest) = _
    rw [maskCode_parenStar, splitAfterStarParen_lower, found]
    simp [Code.after, ih, blank_cons, blank_lower]
  | case8 column rest found =>
    change maskCode line column ('(' :: '*' :: Text.lower rest) = _
    rw [maskCode_parenStar, splitAfterStarParen_lower, found]
    simp [blank_cons, blank_lower]
  | case9 column c rest quote slashes brace paren ih =>
    rw [Text.lower_cons, maskCode, ih]
    · rfl
    · rwa [toLower_eq_iff (by decide)]
    · intro tail slash second
      obtain ⟨behind, rfl, -⟩ := Text.front_of_lower (by decide) second
      exact slashes behind ((toLower_eq_iff (by decide)).mp slash) rfl
    · rwa [toLower_eq_iff (by decide)]
    · intro tail left star
      obtain ⟨behind, rfl, -⟩ := Text.front_of_lower (by decide) star
      exact paren behind ((toLower_eq_iff (by decide)).mp left) rfl

end Mask

theorem maskLine_lower (line : Nat) (text : List Char) (opened : Option OpenLiteral) :
    maskLine line (Text.lower text) opened = (maskLine line text opened).lower := by
  have code (front after : List Char) :
      MaskedLine.ofCode line (Text.lower front) (Text.lower after) =
        (MaskedLine.ofCode line front after).lower := by
    simp [MaskedLine.ofCode, Mask.Code.after, Mask.maskCode_lower, MaskedLine.lower]
  cases opened with
  | none => exact code [] text
  | some literal =>
    cases literal with
    | string start =>
      rw [maskLine, maskLine, Mask.splitAtQuote_lower]
      cases Mask.splitAtQuote false text with
      | none => simp [MaskedLine.lower, Mask.blank_lower]
      | some parts =>
        have front : Text.lower (Mask.blank parts.1 ++ ['\'']) = Mask.blank parts.1 ++ ['\''] := by
          simp
        have same := code (Mask.blank parts.1 ++ ['\'']) parts.2
        rw [front] at same
        simpa [Mask.blank_lower] using same
    | comment style start =>
      rw [maskLine, maskLine, Mask.splitAfterComment_lower]
      cases Mask.splitAfterComment style text with
      | none => simp [MaskedLine.lower, Mask.blank_lower]
      | some parts => simpa [Mask.blank_lower] using code (Mask.blank parts.1) parts.2

/-! ## Rules -/

namespace Rule

variable (line : Line)

namespace Assignment

theorem equals?_lower (bracket : Bool) (text : List Char) :
    equals? bracket (Text.lower text) = equals? bracket text := by
  induction text generalizing bracket with
  | nil => rfl
  | cons c rest ih =>
    simp (disch := decide) only [Text.lower_cons, equals?, beq_toLower, ih]

theorem namesConstant_lower (scope : Scope) (text : List Char) :
    namesConstant scope (Text.lower text) = namesConstant scope text := by
  rw [namesConstant, Text.trimStart_lower, Text.lower_reverse, namesConstant]
  cases (Text.trimStart text).reverse with
  | nil => rfl
  | cons c rest =>
    by_cases space : c = ' '
    · subst space
      change scope.hasConstant (Text.lower rest).reverse = _
      rw [Text.lower_reverse, Scope.hasConstant_lower]
      rfl
    · -- No other character is a space in small letters.
      have other : c.toLower ≠ ' ' := (toLower_ne_iff (by decide)).mpr space
      simp [space, other]

theorem check_lower (scope : Scope) : check scope line.lower = check scope line := by
  have exempt : isExempt line.lower = isExempt line := by
    simp (disch := decide) only [isExempt, Line.masked_lower, Text.contains_lower,
      Text.trimStart_lower, Text.isPrefixOf_lower]
  simp only [check, exempt, Line.masked_lower, equals?_lower, Text.lower_take, namesConstant_lower,
    Line.diagnostic_lower]

end Assignment

namespace Ranges

theorem columns_lower (column : Nat) (text : List Char) :
    columns column (Text.lower text) = columns column text := by
  fun_induction columns column text with
  | case1 => rfl
  | case2 column rest ih => exact congrArg (column :: ·) ih
  | case3 column c rest other ih =>
    rw [Text.lower_cons, columns, ih]
    -- Three dots in the small form would be three dots of the text.
    intro tail first second
    obtain ⟨behind, rfl, later⟩ := Text.front_of_lower (by decide) second
    obtain ⟨below, rfl, -⟩ := Text.front_of_lower (by decide) later
    exact other below ((toLower_eq_iff (by decide)).mp first) rfl

theorem check_lower : check line.lower = check line := by
  rw [check, Line.masked_lower, columns_lower, check]
  rfl

end Ranges

namespace UndeclaredNames

theorem check_lower (scope : Scope) : check scope line.lower = check scope line := by
  have undeclared : isUndeclared scope ∘ Word.lower = isUndeclared scope := by
    funext word
    simp [isUndeclared]
  rw [check, Line.words_lower, List.filter_map, undeclared, List.map_map, check]
  rfl

end UndeclaredNames

namespace PairedKeywords

theorem partner?_lower (opener : Opener) (start : Nat) :
    partner? line.lower opener start = (partner? line opener start).map Word.lower := by
  rw [partner?, Line.words_lower, List.find?_map, partner?]
  congr 2
  funext word
  rw [Function.comp_apply, Word.keyword?_lower, Word.start_lower]

theorem checkOpener_lower (opener : Opener) (stop : Nat) :
    checkOpener line.lower opener stop = checkOpener line opener stop := by
  rw [checkOpener, partner?_lower, checkOpener]
  cases partner? line opener stop with
  | none => rfl
  | some partner =>
    have header : checkHeader line.lower opener stop partner.lower =
        checkHeader line opener stop partner := by
      simp (disch := decide) only [checkHeader, Line.slice_lower, Word.start_lower,
        Text.isBlank_lower, Text.contains_lower, Line.diagnostic_lower]
    have follows : hasBody line.lower opener partner.lower = hasBody line opener partner := by
      simp (disch := decide) only [hasBody, Line.masked_lower, Word.stop_lower, Text.lower_drop,
        Text.isBlank_lower, Text.contains_lower]
    have body : checkBody line.lower opener stop partner.lower =
        checkBody line opener stop partner := by
      simp only [checkBody, follows, Line.slice_lower, Word.start_lower, Word.stop_lower,
        Text.isBlank_lower, Line.diagnostic_lower]
    simp only [Option.map_some, header, body]

theorem check_lower : check line.lower = check line := by
  rw [check, Line.leadingWord?_lower, check]
  cases line.leadingWord? with
  | none => rfl
  | some word => simp only [Option.map_some, Word.keyword?_lower, Word.stop_lower, checkOpener_lower]

end PairedKeywords

namespace Blocks

theorem follow_lower (blocks : List Block) (words : List Word) :
    follow line.lower blocks (words.map Word.lower) = follow line blocks words := by
  induction words generalizing blocks with
  | nil => rfl
  | cons word rest ih =>
    rw [List.map_cons, follow.eq_def, follow.eq_def line]
    simp only [Word.keyword?_lower, Word.start_lower, Line.position_lower, Line.diagnostic_lower, ih]

theorem behind_lower (blocks : List Block) : behind line.lower blocks = behind line blocks := by
  rw [behind, Line.words_lower, follow_lower, behind]

theorem malformedEnd_lower : malformedEnd line.lower = malformedEnd line := by
  rw [malformedEnd, Line.leadingWord?_lower, malformedEnd]
  cases line.leadingWord? with
  | none => rfl
  | some word =>
    have target : isAssignmentTarget line.lower word.lower = isAssignmentTarget line word := by
      simp (disch := decide) only [isAssignmentTarget, Line.masked_lower, Word.stop_lower,
        Text.lower_drop, Text.trimStart_lower, Text.isPrefixOf_lower]
    have alone : standsAlone line.lower word.lower = standsAlone line word := by
      rw [standsAlone, Line.masked_lower, Word.stop_lower, Text.getElem?_lower, standsAlone]
      cases line.masked[word.stop]? with
      | none => rfl
      | some c => simp (disch := decide) only [Option.map_some, beq_toLower, isWhiteSpace_toLower]
    simp only [Option.map_some, Word.text_lower, Word.keyword?_lower, Word.start_lower, target, alone,
      Line.diagnostic_lower]

theorem check_lower (blocks : List Block) : check blocks line.lower = check blocks line := by
  rw [check, malformedEnd_lower, Line.words_lower, follow_lower, check]

end Blocks

namespace CaseLabels

theorem behind_lower (caseLine : Option Nat) : behind line.lower caseLine = behind line caseLine := by
  rw [behind, Line.leadingWord?_lower, behind]
  cases line.leadingWord? with
  | none => rfl
  | some word =>
    simp only [Option.map_some, Word.keyword?_lower, Line.number_lower, Line.masked_lower,
      Word.stop_lower, Text.getElem?_lower]
    split
    · rfl
    · cases line.masked[word.stop]? with
      | none => rfl
      | some c =>
        by_cases semicolon : c = ';'
        · subst semicolon
          rfl
        by_cases point : c = '.'
        · subst point
          rfl
        -- Any other character is another one in small letters, too.
        have semicolon' : c.toLower ≠ ';' := (toLower_ne_iff (by decide)).mpr semicolon
        have point' : c.toLower ≠ '.' := (toLower_ne_iff (by decide)).mpr point
        simp [semicolon, point, semicolon', point']
    · rfl

theorem colon?_lower (text : List Char) : colon? (Text.lower text) = colon? text := by
  fun_induction colon? text with
  | case1 => rfl
  | case2 rest assign ih =>
    change colon? (':' :: Text.lower rest) = _
    rw [colon?, if_pos ((Text.head?_lower_iff (by decide)).mpr assign), ih]
  | case3 rest alone =>
    change colon? (':' :: Text.lower rest) = _
    rw [colon?, if_neg (mt (Text.head?_lower_iff (by decide)).mp alone)]
  | case4 c rest other ih =>
    rw [Text.lower_cons, colon?, ih]
    rwa [toLower_eq_iff (by decide)]

theorem items_lower (column : Nat) (parts : List (List Char)) :
    items column (parts.map Text.lower) = items column parts := by
  induction parts generalizing column with
  | nil => rfl
  | cons part parts ih =>
    simp only [List.map_cons, items, Text.length_lower, Text.isBlank_lower, Text.indent_lower,
      Text.trim_lower, ih]

theorem isCharacter_lower (label : List Char) :
    isCharacter (Text.lower label) = isCharacter label := by
  have quotes : (Text.lower label == ['\'', '\'', '\'', '\'']) =
      (label == ['\'', '\'', '\'', '\'']) := by
    rw [Bool.eq_iff_iff, beq_iff_eq, beq_iff_eq, Text.lower_eq_iff (by decide)]
  have first : ((Text.lower label).head? == some '\'') = (label.head? == some '\'') := by
    rw [Bool.eq_iff_iff, beq_iff_eq, beq_iff_eq, Text.head?_lower_iff (by decide)]
  have last : ((Text.lower label).getLast? == some '\'') = (label.getLast? == some '\'') := by
    rw [Bool.eq_iff_iff, beq_iff_eq, beq_iff_eq, ← List.head?_reverse, Text.lower_reverse,
      Text.head?_lower_iff (by decide), List.head?_reverse]
  rw [isCharacter, quotes, Text.length_lower, first, last, isCharacter]

theorem isInteger_lower (label : List Char) : isInteger (Text.lower label) = isInteger label := by
  have digits (text : List Char) :
      (!(Text.lower text).isEmpty && (Text.lower text).all Char.isDigit) =
        (!text.isEmpty && text.all Char.isDigit) := by
    have all : (Text.lower text).all Char.isDigit = text.all Char.isDigit := by
      simp [Text.lower, Function.comp_def]
    rw [all]
    cases text <;> rfl
  cases label with
  | nil => rfl
  | cons c rest =>
    by_cases plus : c = '+'
    · subst plus
      exact digits rest
    by_cases minus : c = '-'
    · subst minus
      exact digits rest
    have plus' : c.toLower ≠ '+' := (toLower_ne_iff (by decide)).mpr plus
    have minus' : c.toLower ≠ '-' := (toLower_ne_iff (by decide)).mpr minus
    simpa [isInteger, plus, minus, plus', minus'] using digits (c :: rest)

theorem isLabel_lower (scope : Scope) (label : List Char) :
    isLabel scope (Text.lower label) = isLabel scope label := by
  simp (disch := decide) only [isLabel, isCharacter_lower, isInteger_lower, Text.contains_lower, Scope.declares_lower]

theorem check_lower (scope : Scope) : check scope line.lower = check scope line := by
  rw [check, Line.masked_lower, colon?_lower, check]
  cases colon? line.masked with
  | none => rfl
  | some colon =>
    simp (disch := decide) only [Text.lower_take, Text.splitOn_lower, items_lower, Line.raw_lower,
      Text.lower_drop, isLabel_lower, Line.diagnostic_lower]

end CaseLabels

end Rule

end PascalLint
