/-! # Text of TOML

White space, comments, line ends, strings and keys. A parser takes the characters from its place
on and gives what it has read together with the characters behind it, or nothing if they do not
fit its grammar.
-/

namespace PascalLint.Toml

/-- A parser. -/
abbrev Parser (α : Type) := List Char → Option (α × List Char)

/-! ## Between the tokens -/

/-- Holds of spaces and tabs. -/
def isSpace (c : Char) : Bool :=
  c == ' ' || c == '\t'

/-- Holds of the characters that a comment or a string may contain: tabs and all characters that
    are not control characters. -/
def isText (c : Char) : Bool :=
  c == '\t' || 0x20 ≤ c.toNat && c.toNat != 0x7F

/-- What is behind spaces and tabs. -/
def skipSpaces (input : List Char) : List Char :=
  input.dropWhile isSpace

/-- What is behind a comment, if there is one. -/
def skipComment : List Char → List Char
  | '#' :: rest => rest.dropWhile isText
  | input => input

/-- What is behind a new-line, with or without a carriage return. -/
def newline? : List Char → Option (List Char)
  | '\n' :: rest => some rest
  | '\r' :: '\n' :: rest => some rest
  | _ => none

/-- What is behind spaces, a comment and the end of a line, which the end of the input is too. -/
def lineEnd? (input : List Char) : Option (List Char) :=
  match skipComment (skipSpaces input) with
  | [] => some []
  | rest => newline? rest

theorem length_skipSpaces_le (input : List Char) :
    (skipSpaces input).length ≤ input.length :=
  (List.dropWhile_suffix isSpace).length_le

theorem length_skipComment_le (input : List Char) :
    (skipComment input).length ≤ input.length := by
  unfold skipComment
  split
  · have shorter := (List.dropWhile_suffix isText (l := ‹List Char›)).length_le
    simp only [List.length_cons]
    omega
  · exact Nat.le_refl _

theorem length_newline?_lt {input rest : List Char} (found : newline? input = some rest) :
    rest.length < input.length := by
  unfold newline? at found
  split at found
  · cases found
    simp
  · cases found
    simp only [List.length_cons]
    omega
  · cases found

/-- What is behind white space, line ends and comments. -/
def skipLines (input : List Char) : List Char :=
  match _ : newline? (skipComment (skipSpaces input)) with
  | some rest => skipLines rest
  | none => skipComment (skipSpaces input)
termination_by input.length
decreasing_by
  rename_i found
  have first := length_newline?_lt found
  have second := length_skipComment_le (skipSpaces input)
  have third := length_skipSpaces_le input
  omega

/-! ## Strings -/

/-- The value of hexadecimal digits. -/
def hexValue? (digits : List Char) : Option Nat :=
  digits.foldl (fun value digit =>
    match value with
    | none => none
    | some n =>
      if digit.isDigit then some (16 * n + (digit.toNat - '0'.toNat))
      else if 'a' ≤ digit && digit ≤ 'f' then some (16 * n + (digit.toNat - 'a'.toNat) + 10)
      else if 'A' ≤ digit && digit ≤ 'F' then some (16 * n + (digit.toNat - 'A'.toNat) + 10)
      else none) (some 0)

/-- The character with the code point that hexadecimal digits give. -/
def scalar? (digits : List Char) : Option Char :=
  (hexValue? digits).bind fun n => if n.isValidChar then some (Char.ofNat n) else none

/-- The character that a letter stands for behind a backslash. -/
def escaped? : Char → Option Char
  | 'b' => some '\x08'
  | 'e' => some '\x1b'
  | 't' => some '\t'
  | 'n' => some '\n'
  | 'f' => some '\x0c'
  | 'r' => some '\r'
  | '"' => some '"'
  | '\\' => some '\\'
  | _ => none

/-- Puts a character in front of a string that has been read. -/
def push (c : Char) (read : Option (List Char × List Char)) : Option (List Char × List Char) :=
  read.map fun (text, rest) => (c :: text, rest)

/-- A string between quotes on one line, behind its first quote. -/
def basicString : Parser (List Char)
  | '"' :: rest => some ([], rest)
  | '\\' :: 'x' :: a :: b :: rest =>
    (scalar? [a, b]).bind fun x => push x (basicString rest)
  | '\\' :: 'u' :: a :: b :: c :: d :: rest =>
    (scalar? [a, b, c, d]).bind fun x => push x (basicString rest)
  | '\\' :: 'U' :: a :: b :: c :: d :: e :: f :: g :: h :: rest =>
    (scalar? [a, b, c, d, e, f, g, h]).bind fun x => push x (basicString rest)
  | '\\' :: c :: rest => (escaped? c).bind fun x => push x (basicString rest)
  | c :: rest => if isText c && c != '\\' then push c (basicString rest) else none
  | [] => none

/-- A string between apostrophes on one line, behind its first apostrophe. -/
def literalString : Parser (List Char)
  | '\'' :: rest => some ([], rest)
  | c :: rest => if isText c then push c (literalString rest) else none
  | [] => none

/-- Holds if nothing but spaces stands before the end of the line. -/
def endsLine (input : List Char) : Bool :=
  (newline? (skipSpaces input)).isSome

/-- A string between triple quotes, behind the first three. Up to two quotes may stand before the
    closing ones, and line ends are kept as they are written. The flag says that white space and line ends are left out, as they are behind a
    backslash at the end of a line. -/
def longBasicString (trimming : Bool) : Parser (List Char)
  | '"' :: '"' :: '"' :: '"' :: '"' :: rest => some (['"', '"'], rest)
  | '"' :: '"' :: '"' :: '"' :: rest => some (['"'], rest)
  | '"' :: '"' :: '"' :: rest => some ([], rest)
  | '\\' :: 'x' :: a :: b :: rest =>
    (scalar? [a, b]).bind fun x => push x (longBasicString false rest)
  | '\\' :: 'u' :: a :: b :: c :: d :: rest =>
    (scalar? [a, b, c, d]).bind fun x => push x (longBasicString false rest)
  | '\\' :: 'U' :: a :: b :: c :: d :: e :: f :: g :: h :: rest =>
    (scalar? [a, b, c, d, e, f, g, h]).bind fun x => push x (longBasicString false rest)
  | '\\' :: c :: rest =>
    match escaped? c with
    | some x => push x (longBasicString false rest)
    | none => if endsLine (c :: rest) then longBasicString true (c :: rest) else none
  | '\r' :: '\n' :: rest =>
    if trimming then longBasicString true rest
    else push '\r' (push '\n' (longBasicString false rest))
  | '\n' :: rest =>
    if trimming then longBasicString true rest else push '\n' (longBasicString false rest)
  | c :: rest =>
    if trimming && isSpace c then longBasicString true rest
    else if isText c && c != '\\' then push c (longBasicString false rest)
    else none
  | [] => none

/-- A string between triple apostrophes, behind the first three. Up to two apostrophes may stand
    before the closing ones. -/
def longLiteralString : Parser (List Char)
  | '\'' :: '\'' :: '\'' :: '\'' :: '\'' :: rest => some (['\'', '\''], rest)
  | '\'' :: '\'' :: '\'' :: '\'' :: rest => some (['\''], rest)
  | '\'' :: '\'' :: '\'' :: rest => some ([], rest)
  | '\r' :: '\n' :: rest => push '\r' (push '\n' (longLiteralString rest))
  | '\n' :: rest => push '\n' (longLiteralString rest)
  | c :: rest => if isText c then push c (longLiteralString rest) else none
  | [] => none

/-- What is behind a new-line that follows the opening of a long string. -/
def skipFirstNewline (input : List Char) : List Char :=
  (newline? input).getD input

/-- A string of any kind. -/
def string? : Parser String := fun input =>
  let text := match input with
    | '"' :: '"' :: '"' :: rest => longBasicString false (skipFirstNewline rest)
    | '"' :: rest => basicString rest
    | '\'' :: '\'' :: '\'' :: rest => longLiteralString (skipFirstNewline rest)
    | '\'' :: rest => literalString rest
    | _ => none
  text.map fun (text, rest) => (String.ofList text, rest)

/-! ## Keys -/

/-- Holds of the characters of a key that is not quoted. -/
def isBareKey (c : Char) : Bool :=
  c.isAlphanum || c == '_' || c == '-'

/-- A key without dots. -/
def simpleKey? : Parser String := fun input =>
  match input with
  | '"' :: rest => (basicString rest).map fun (text, rest) => (String.ofList text, rest)
  | '\'' :: rest => (literalString rest).map fun (text, rest) => (String.ofList text, rest)
  | _ =>
    match input.takeWhile isBareKey with
    | [] => none
    | name => some (String.ofList name, input.dropWhile isBareKey)

/-- The parts of a key, which are separated by dots with spaces around them. -/
def dottedKey? (input : List Char) : Option (List String × List Char) :=
  match simpleKey? input with
  | none => none
  | some (name, rest) =>
    match skipSpaces rest with
    | '.' :: behind =>
      let next := skipSpaces behind
      -- A key takes up at least one character, so this always holds.
      if next.length < input.length then
        (dottedKey? next).map fun (names, rest) => (name :: names, rest)
      else none
    | behind => some ([name], behind)
termination_by input.length

/-- How many parts a key may have. -/
def keyLimit : Nat := 80

/-- A key that does not have too many parts. -/
def key? : Parser (List String) := fun input =>
  (dottedKey? input).filter fun (names, _) => names.length ≤ keyLimit

end PascalLint.Toml
