import PascalLint.Defect
import PascalLint.Position

/-! # Masking

Patterns are looked for in the code of a line only. Masking replaces comments and the contents of
string literals by spaces, so that everything else stays in its column; the quotes around a string
are kept.

A literal may be open at the end of a line, and then the next line begins inside it. A block
comment goes on for any number of lines, but a string for one more line only: if that line has no
closing quote, the string is given up as unterminated and nothing of the line is read.

A quote closes a string unless a backslash stands before it on the same line. In code, a quote
always opens one.
-/

namespace PascalLint

/-! ## Literals that lines leave open -/

/-- The two kinds of block comment. -/
inductive CommentStyle
  /-- From a left to a right brace. -/
  | brace
  /-- Between parentheses with stars inside them. -/
  | paren
deriving DecidableEq, Repr

/-- A literal that goes on past the end of a line, with the position where it begins. -/
inductive OpenLiteral
  | string (start : Position)
  | comment (style : CommentStyle) (start : Position)
deriving DecidableEq, Repr

namespace OpenLiteral

/-- Where the literal begins. -/
def start : OpenLiteral → Position
  | string start => start
  | comment _ start => start

/-- The defect of a literal that is never closed. -/
def defect : OpenLiteral → Defect
  | string _ => .unterminatedString
  | comment .. => .unterminatedComment

end OpenLiteral

/-! ## Closing delimiters -/

namespace Mask

/-- The text before the first quote that is not escaped, and the text behind that quote. The flag
    tells whether the first character is escaped. -/
def splitAtQuote (escaped : Bool) : List Char → Option (List Char × List Char)
  | [] => none
  | c :: rest =>
    if c == '\'' && !escaped then some ([], rest)
    else (splitAtQuote (c == '\\') rest).map fun (body, after) => (c :: body, after)

/-- The text up to and including the first right brace, and the text behind it. -/
def splitAfterBrace : List Char → Option (List Char × List Char)
  | [] => none
  | '}' :: rest => some (['}'], rest)
  | c :: rest => (splitAfterBrace rest).map fun (body, after) => (c :: body, after)

/-- The text up to and including the first star and right parenthesis, and the text behind. -/
def splitAfterStarParen : List Char → Option (List Char × List Char)
  | [] => none
  | '*' :: ')' :: rest => some (['*', ')'], rest)
  | c :: rest => (splitAfterStarParen rest).map fun (body, after) => (c :: body, after)

/-- The text up to and including the terminator of a comment, and the text behind it. -/
def splitAfterComment : CommentStyle → List Char → Option (List Char × List Char)
  | .brace => splitAfterBrace
  | .paren => splitAfterStarParen

theorem eq_append_of_splitAtQuote {escaped : Bool} {text body after : List Char}
    (found : splitAtQuote escaped text = some (body, after)) : text = body ++ '\'' :: after := by
  induction text generalizing escaped body with
  | nil => simp [splitAtQuote] at found
  | cons c rest ih =>
    simp only [splitAtQuote] at found
    split at found
    · simp_all
    · obtain ⟨⟨inner, behind⟩, deeper, same⟩ := Option.map_eq_some_iff.mp found
      simp only [Prod.mk.injEq] at same
      obtain ⟨rfl, rfl⟩ := same
      simp [ih deeper]

theorem eq_append_of_splitAfterBrace {text body after : List Char}
    (found : splitAfterBrace text = some (body, after)) : text = body ++ after := by
  fun_induction splitAfterBrace text generalizing body with
  | case1 => simp at found
  | case2 rest =>
    simp only [Option.some.injEq, Prod.mk.injEq] at found
    obtain ⟨rfl, rfl⟩ := found
    rfl
  | case3 c rest other ih =>
    obtain ⟨⟨inner, behind⟩, deeper, same⟩ := Option.map_eq_some_iff.mp found
    simp only [Prod.mk.injEq] at same
    obtain ⟨rfl, rfl⟩ := same
    simp [ih deeper]

theorem eq_append_of_splitAfterStarParen {text body after : List Char}
    (found : splitAfterStarParen text = some (body, after)) : text = body ++ after := by
  fun_induction splitAfterStarParen text generalizing body with
  | case1 => simp at found
  | case2 rest =>
    simp only [Option.some.injEq, Prod.mk.injEq] at found
    obtain ⟨rfl, rfl⟩ := found
    rfl
  | case3 c rest other ih =>
    obtain ⟨⟨inner, behind⟩, deeper, same⟩ := Option.map_eq_some_iff.mp found
    simp only [Prod.mk.injEq] at same
    obtain ⟨rfl, rfl⟩ := same
    simp [ih deeper]

theorem eq_append_of_splitAfterComment {style : CommentStyle} {text body after : List Char}
    (found : splitAfterComment style text = some (body, after)) : text = body ++ after := by
  cases style with
  | brace => exact eq_append_of_splitAfterBrace found
  | paren => exact eq_append_of_splitAfterStarParen found

/-! ## Masked lines -/

/-- Spaces in place of the characters of a text. -/
def blank (text : List Char) : List Char :=
  List.replicate text.length ' '

@[simp]
theorem length_blank (text : List Char) : (blank text).length = text.length := by
  simp [blank]

theorem blank_cons (c : Char) (text : List Char) : blank (c :: text) = ' ' :: blank text := rfl

/-- What masking code leads to: the masked text and the literal that is open at its end. -/
abbrev Code := List Char × Option OpenLiteral

/-- Puts text that is masked already in front of masked code. -/
def Code.after (front : List Char) (code : Code) : Code :=
  (front ++ code.1, code.2)

/-- Masks the code that begins at a column of a line. -/
def maskCode (line column : Nat) (text : List Char) : Code :=
  match text with
  | [] => ([], none)
  | '\'' :: rest =>
    match found : splitAtQuote false rest with
    | some (body, after) =>
      Code.after ('\'' :: blank body ++ ['\'']) (maskCode line (column + body.length + 2) after)
    | none => ('\'' :: blank rest, some (.string ⟨line, column⟩))
  | '/' :: '/' :: rest => (blank ('/' :: '/' :: rest), none)
  | '{' :: rest =>
    match found : splitAfterBrace rest with
    | some (body, after) =>
      Code.after (blank ('{' :: body)) (maskCode line (column + body.length + 1) after)
    | none => (blank ('{' :: rest), some (.comment .brace ⟨line, column⟩))
  | '(' :: '*' :: rest =>
    match found : splitAfterStarParen rest with
    | some (body, after) =>
      Code.after (blank ('(' :: '*' :: body)) (maskCode line (column + body.length + 2) after)
    | none => (blank ('(' :: '*' :: rest), some (.comment .paren ⟨line, column⟩))
  | c :: rest => Code.after [c] (maskCode line (column + 1) rest)
termination_by text.length
decreasing_by
  · simp only [eq_append_of_splitAtQuote found, List.length_append, List.length_cons]
    omega
  · simp only [eq_append_of_splitAfterBrace found, List.length_append, List.length_cons]
    omega
  · simp only [eq_append_of_splitAfterStarParen found, List.length_append, List.length_cons]
    omega
  · simp

/-! ## Equations

Those of literals are without the proofs that the recursion of `maskCode` carries. -/

/-- A text does not begin with two characters. -/
theorem not_pair_iff {c first second : Char} {rest : List Char} :
    (∀ below, c = first → rest = second :: below → False) ↔
      ¬(c = first ∧ rest.head? = some second) := by
  constructor
  · rintro other ⟨same, next⟩
    obtain ⟨below, rfl⟩ := List.head?_eq_some_iff.mp next
    exact other below same rfl
  · rintro other below rfl rfl
    exact other ⟨rfl, rfl⟩

section Equations

variable (line column : Nat) (rest : List Char)

theorem maskCode_quote :
    maskCode line column ('\'' :: rest) = match splitAtQuote false rest with
      | some (body, after) =>
        Code.after ('\'' :: blank body ++ ['\'']) (maskCode line (column + body.length + 2) after)
      | none => ('\'' :: blank rest, some (.string ⟨line, column⟩)) := by
  rw [maskCode]
  split <;> simp [*]

theorem maskCode_brace :
    maskCode line column ('{' :: rest) = match splitAfterBrace rest with
      | some (body, after) =>
        Code.after (blank ('{' :: body)) (maskCode line (column + body.length + 1) after)
      | none => (blank ('{' :: rest), some (.comment .brace ⟨line, column⟩)) := by
  rw [maskCode]
  split <;> simp [*]

theorem maskCode_parenStar :
    maskCode line column ('(' :: '*' :: rest) = match splitAfterStarParen rest with
      | some (body, after) =>
        Code.after (blank ('(' :: '*' :: body)) (maskCode line (column + body.length + 2) after)
      | none => (blank ('(' :: '*' :: rest), some (.comment .paren ⟨line, column⟩)) := by
  rw [maskCode]
  split <;> simp [*]

theorem maskCode_other {c : Char} {rest : List Char} (quote : c ≠ '\'')
    (slashes : ¬(c = '/' ∧ rest.head? = some '/')) (brace : c ≠ '{')
    (paren : ¬(c = '(' ∧ rest.head? = some '*')) :
    maskCode line column (c :: rest) = (maskCode line (column + 1) rest).after [c] := by
  rw [maskCode]
  · exact quote
  · exact not_pair_iff.mpr slashes
  · exact brace
  · exact not_pair_iff.mpr paren

end Equations

end Mask

/-- A masked line: its text, the literal that it leaves open, and where a string begins that the
    line was to close and does not. -/
structure MaskedLine where
  text : List Char
  opened : Option OpenLiteral
  unterminated : Option Position
deriving DecidableEq, Repr

namespace MaskedLine

/-- The line whose code begins behind `front` characters that are masked already. -/
def ofCode (line : Nat) (front : List Char) (after : List Char) : MaskedLine :=
  let code := Mask.Code.after front (Mask.maskCode line front.length after)
  ⟨code.1, code.2, none⟩

end MaskedLine

/-- Masks the line with the given number, at the start of which a literal may be open. -/
def maskLine (line : Nat) (text : List Char) : Option OpenLiteral → MaskedLine
  | none => .ofCode line [] text
  | some (.string start) =>
    match Mask.splitAtQuote false text with
    | some (body, after) => .ofCode line (Mask.blank body ++ ['\'']) after
    | none => ⟨Mask.blank text, none, some start⟩
  | some (.comment style start) =>
    match Mask.splitAfterComment style text with
    | some (body, after) => .ofCode line (Mask.blank body) after
    | none => ⟨Mask.blank text, some (.comment style start), none⟩

/-- Masks lines that begin with the given number, one after the other. -/
def maskLines (first : Nat) (opened : Option OpenLiteral) : List (List Char) → List MaskedLine
  | [] => []
  | text :: below =>
    let masked := maskLine first text opened
    masked :: maskLines (first + 1) masked.opened below

end PascalLint
