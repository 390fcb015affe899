import PascalLint.Reserved

/-! # Tokens

What the scanner makes of the source: reserved words, punctuators, names, integers and character
constants. The end token also stands for a character that begins no token. A token carries its
kind only; where it begins is recorded beside it.
-/

namespace PascalLint

/-- Punctuators. -/
inductive Punct
  | semicolon
  | colon
  | equal
  | assign
  | comma
  | dot
  | range
  | leftParen
  | rightParen
  | leftBracket
  | rightBracket
  | less
  | greater
  | lessEqual
  | greaterEqual
  | notEqual
  | plus
  | minus
  | star
  | slash
deriving DecidableEq, Repr

namespace Punct

/-- The characters of a punctuator. -/
def spelling : Punct → List Char
  | semicolon => [';']
  | colon => [':']
  | equal => ['=']
  | assign => [':', '=']
  | comma => [',']
  | dot => ['.']
  | range => ['.', '.']
  | leftParen => ['(']
  | rightParen => [')']
  | leftBracket => ['[']
  | rightBracket => [']']
  | less => ['<']
  | greater => ['>']
  | lessEqual => ['<', '=']
  | greaterEqual => ['>', '=']
  | notEqual => ['<', '>']
  | plus => ['+']
  | minus => ['-']
  | star => ['*']
  | slash => ['/']

/-- The number of a punctuator in token listings. -/
def code : Punct → Nat
  | semicolon => 14
  | colon => 5
  | equal => 16
  | assign => 51
  | comma => 20
  | dot => 61
  | range => 75
  | leftParen => 9
  | rightParen => 4
  | leftBracket => 11
  | rightBracket => 12
  | less => 65
  | greater => 66
  | lessEqual => 67
  | greaterEqual => 68
  | notEqual => 69
  | plus => 70
  | minus => 71
  | star => 21
  | slash => 60

/-- The punctuator that `c` is, whatever follows it. The characters that may begin a longer
    punctuator are not among them. -/
def ofChar? : Char → Option Punct
  | ';' => some semicolon
  | '=' => some equal
  | ',' => some comma
  | '(' => some leftParen
  | ')' => some rightParen
  | '[' => some leftBracket
  | ']' => some rightBracket
  | '+' => some plus
  | '-' => some minus
  | '*' => some star
  | '/' => some slash
  | _ => none

end Punct

/-- The kinds of token. -/
inductive Token
  | name
  | integer
  | character
  | punct (punct : Punct)
  | reserved (word : Reserved)
  | endOfInput
deriving DecidableEq, Repr

namespace Token

/-- The number of a token in token listings. -/
def code : Token → Nat
  | name => 2
  | integer => 15
  | character => 83
  | punct p => p.code
  | reserved w => w.code
  | endOfInput => 0

/-- What a token is called in the long form of a listing. -/
def description : Token → String
  | name => "identifier"
  | integer => "integer"
  | character => "character"
  | punct p => "`" ++ String.ofList p.spelling ++ "`"
  | reserved w => "`" ++ w.name ++ "`"
  | endOfInput => "end of input"

end Token

end PascalLint
