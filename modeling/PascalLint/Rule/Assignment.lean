import PascalLint.Scope

/-! # Equals signs where an assignment was meant

An equals sign is reported unless the line has an assignment or a double equals sign anywhere,
begins with an equals sign, or has none but those of `<=` and `>=`. It is let pass behind the name
of a constant and one space.
-/

namespace PascalLint.Rule.Assignment

/-- The column of the first equals sign that does not follow an angle bracket; the first argument
    tells whether a character that does precedes the text. -/
def equals? (bracket : Bool) : List Char → Option Nat
  | [] => none
  | c :: rest =>
    if c == '=' && !bracket then some 0
    else (equals? (c == '<' || c == '>') rest).map (· + 1)

/-- Holds if the text is the name of a constant, after white space and before one space. -/
def namesConstant (scope : Scope) (text : List Char) : Bool :=
  match (Text.trimStart text).reverse with
  | ' ' :: name => scope.hasConstant name.reverse
  | _ => false

/-- Holds of a line whose equals signs are not looked at. -/
def isExempt (line : Line) : Bool :=
  Text.contains [':', '='] line.masked || Text.contains ['=', '='] line.masked
    || ['='].isPrefixOf (Text.trimStart line.masked)

/-- The diagnostic for a line. -/
def check (scope : Scope) (line : Line) : List Diagnostic :=
  if isExempt line then []
  else match equals? false line.masked with
    | none => []
    | some equals =>
      if namesConstant scope (line.masked.take equals) then []
      else [line.diagnostic .equalsForAssignment equals]

end PascalLint.Rule.Assignment
