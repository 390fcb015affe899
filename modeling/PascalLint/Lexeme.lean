import PascalLint.Defect
import PascalLint.Identifier
import PascalLint.Token

/-! # Lexemes

The token at the front of a line that begins with a character other than white space. A lexeme
never runs past the end of its line. One that is not well formed still gives a token of the kind
that was meant, together with a defect, so that a mistake in one token does not upset those after
it.
-/

namespace PascalLint

/-- A token, the number of characters that it takes up, and what is wrong with it: a defect and
    the number of characters between the start of the token and the place of the defect. -/
structure Lexeme where
  token : Token
  size : Nat
  flaw : Option (Defect × Nat)
deriving DecidableEq, Repr

namespace Lexeme

/-- The largest integer. -/
def largestInteger : Nat := 32767

/-- The value of a run of decimal digits. -/
def value (digits : List Char) : Nat :=
  digits.foldl (fun n digit => 10 * n + (digit.toNat - '0'.toNat)) 0

/-- An integer, given by its digits. -/
def integer (digits : List Char) : Lexeme :=
  ⟨.integer, digits.length,
    if largestInteger < value digits then some (.integerOutOfRange, 0) else none⟩

/-- A character constant, given by what follows its first quote. If it is not one character and a
    quote, it goes on up to the next quote on the line after that character, or to the end of the
    line. -/
def character : List Char → Lexeme
  | [] => ⟨.character, 1, some (.badCharConstant, 1)⟩
  | _ :: '\'' :: _ => ⟨.character, 3, none⟩
  | _ :: rest =>
    let skipped := rest.takeWhile (· != '\'')
    let quote := if skipped.length < rest.length then 1 else 0
    ⟨.character, 2 + skipped.length + quote, some (.badCharConstant, 1)⟩

/-- A name or reserved word, given by its characters. -/
def word (dialect : Dialect) (characters : List Char) : Lexeme :=
  let token := match Reserved.lookup? dialect characters with
    | some reserved => .reserved reserved
    | none => .name
  ⟨token, characters.length, none⟩

/-- A punctuator without a defect. -/
def punct (punct : Punct) : Lexeme :=
  ⟨.punct punct, punct.spelling.length, none⟩

/-- The token that begins with `c` and goes on in the characters that follow on the line. -/
def read (dialect : Dialect) (c : Char) (rest : List Char) : Lexeme :=
  if c.isDigit then integer (c :: rest.takeWhile Char.isDigit)
  else match c, rest with
    | '\'', rest => character rest
    | ':', '=' :: _ => punct .assign
    | ':', _ => punct .colon
    | '.', '.' :: _ => punct .range
    | '.', _ => punct .dot
    | '<', '=' :: _ => punct .lessEqual
    | '<', '>' :: _ => punct .notEqual
    | '<', _ => punct .less
    | '>', '=' :: _ => punct .greaterEqual
    | '>', _ => punct .greater
    | c, rest =>
      if Identifier.mayStart c then word dialect (c :: Identifier.run rest)
      else match Punct.ofChar? c with
        | some p => punct p
        | none => ⟨.endOfInput, 1, some (.unknownSymbol, 0)⟩

/-- A token takes up at least one character. -/
theorem size_read_pos (dialect : Dialect) (c : Char) (rest : List Char) :
    0 < (read dialect c rest).size := by
  unfold read
  split
  · simp [integer]
  · split <;> try (simp [punct, Punct.spelling]; done)
    · unfold character
      split
      · exact Nat.one_pos
      · exact Nat.succ_pos _
      · exact Nat.lt_of_lt_of_le Nat.two_pos (Nat.le_trans (Nat.le_add_right _ _)
          (Nat.le_add_right _ _))
    · split
      · simp [word]
      · split
        · rename_i p _
          cases p <;> simp [punct, Punct.spelling]
        · simp

end Lexeme

end PascalLint
