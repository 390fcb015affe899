import PascalLint.Scanner
import PascalLint.Text.Layout

/-! # Token tables

The tokens of a source by the line on which they begin, and two listings of them. The short one
gives the numbers of the tokens line by line. It can be had from the table, or straight from the
stream of tokens by starting a new line of output whenever the line number changes. The long one
gives a line to each token.
-/

namespace PascalLint

/-- The tokens of each line that has any, in the order of lines. -/
abbrev TokenTable := List (Nat × List Token)

namespace TokenTable

/-- Adds a token in front of those of its line. -/
def add (line : Nat) (token : Token) : TokenTable → TokenTable
  | [] => [(line, [token])]
  | (first, tokens) :: rest =>
    if line < first then (line, [token]) :: (first, tokens) :: rest
    else if line = first then (first, token :: tokens) :: rest
    else (first, tokens) :: add line token rest

/-- The table of a stream of tokens. The last token is added first, so that those of a line keep
    their order. -/
def ofStream (stream : List Scanned) : TokenTable :=
  stream.foldr (fun scanned => add scanned.position.line scanned.token) []

/-- What a listing begins the tokens of a line with. -/
def label (line : Nat) : String :=
  Text.rightAligned 4 line ++ ":"

/-- What a listing shows of a token. -/
def item (token : Token) : String :=
  " " ++ toString token.code

/-- The short listing of a table. -/
def listing (table : TokenTable) : String :=
  String.join (table.map fun (line, tokens) =>
    label line ++ String.join (tokens.map item) ++ "\n")

end TokenTable

namespace Scanned

/-- The short listing of the rest of a stream, inside the line of output for a source line. -/
def listRest (line : Option Nat) : List Scanned → String
  | [] => "\n"
  | scanned :: rest =>
    let here := scanned.position.line
    let front :=
      if line = some here then ""
      else (if line.isSome then "\n" else "") ++ TokenTable.label here
    front ++ TokenTable.item scanned.token ++ listRest (some here) rest

/-- The short listing of a stream of tokens. -/
def listing (stream : List Scanned) : String :=
  listRest none stream

/-- The line of a token in the long listing. -/
def describe (scanned : Scanned) : String :=
  scanned.position.render ++ ": " ++ Text.rightAligned 3 scanned.token.code ++ " "
    ++ scanned.token.description ++ "\n"

/-- The long listing of a stream of tokens. -/
def longListing (stream : List Scanned) : String :=
  String.join (stream.map describe)

end Scanned

end PascalLint
