import PascalLint.Toml.Scalar
import PascalLint.Toml.Text

/-! # Documents of TOML

A document is a table: lines that give a value to a key, under headers that say to which table the
keys belong. Arrays and tables in braces may be nested, but not without limit. A document that
does not follow the grammar, or that gives a key twice, has no value.
-/

namespace PascalLint.Toml

/-- How deep arrays and tables in braces may be nested. -/
def nestingLimit : Nat := 80

/-! ## Values -/

/-- The items of an array, behind its bracket or behind a comma. Each is read by the given
    parser. -/
def arrayItems (item : Parser Value) (input : List Char) : Option (List Value × List Char) :=
  match skipLines input with
  | ']' :: rest => some ([], rest)
  | start =>
    match item start with
    | none => none
    | some (value, rest) =>
      match skipLines rest with
      | ']' :: behind => some ([value], behind)
      | ',' :: behind =>
        -- An item takes up at least one character, so this always holds.
        if behind.length < input.length then
          (arrayItems item behind).map fun (values, rest) => (value :: values, rest)
        else none
      | _ => none
termination_by input.length

/-- A key with its value, which is read by the given parser. Around the equals sign there may be
    what `skip` leaves out. -/
def pair (skip : List Char → List Char) (value : Parser Value) (input : List Char) :
    Option ((List String × Value) × List Char) :=
  match key? input with
  | none => none
  | some (key, rest) =>
    match skip rest with
    | '=' :: behind =>
      (value (skip behind)).map fun (value, rest) => ((key, value), rest)
    | _ => none

/-- The members of a table in braces, behind the brace or behind a comma, added to those before
    them. The table may go on over several lines, and a comma may stand behind the last member. -/
def inlineMembers (value : Parser Value) (members : Members) (input : List Char) :
    Option (Members × List Char) :=
  match skipLines input with
  | '}' :: rest => some (members, rest)
  | start =>
    match pair skipLines value start with
    | none => none
    | some ((key, value'), rest) =>
      match members.assign value' key with
      | none => none
      | some members =>
        match skipLines rest with
        | '}' :: behind => some (members, behind)
        | ',' :: behind =>
          -- A member takes up at least one character, so this always holds.
          if behind.length < input.length then inlineMembers value members behind else none
        | _ => none
termination_by input.length

/-- A value in which arrays and tables in braces are nested up to the given depth. -/
def value (depth : Nat) : Parser Value := fun input =>
  match input, depth with
  | '[' :: _, 0 | '{' :: _, 0 => none
  | '[' :: rest, depth + 1 =>
    (arrayItems (value depth) rest).map fun (items, rest) => (.array items, rest)
  | '{' :: rest, depth + 1 =>
    (inlineMembers (value depth) [] rest).map fun (members, rest) => (.table .inline members, rest)
  | '"' :: _, _ | '\'' :: _, _ => (string? input).map fun (text, rest) => (.string text, rest)
  | _, _ => scalar input

/-! ## Lines -/

/-- A line of a document. -/
inductive Entry
  | header (key : List String)
  | itemHeader (key : List String)
  | member (key : List String) (value : Value)

/-- The line at the front, apart from blank lines and comments. -/
def entry? : Parser Entry := fun input =>
  match input with
  | '[' :: '[' :: rest =>
    match key? (skipSpaces rest) with
    | some (key, ']' :: ']' :: rest) => some (.itemHeader key, rest)
    | _ => none
  | '[' :: rest =>
    match key? (skipSpaces rest) with
    | some (key, ']' :: rest) => some (.header key, rest)
    | _ => none
  | _ => (pair skipSpaces (value nestingLimit) input).map fun ((key, value), rest) => (.member key value, rest)

/-- The lines of a document. -/
def entries (input : List Char) : Option (List Entry) :=
  match skipLines (skipSpaces input) with
  | [] => some []
  | start =>
    match entry? (skipSpaces start) with
    | none => none
    | some (entry, rest) =>
      match lineEnd? rest with
      | none => none
      | some behind =>
        -- A line takes up at least one character, so this always holds.
        if behind.length < input.length then (entries behind).map (entry :: ·) else none
termination_by input.length

/-! ## Tables -/

/-- The members of a document so far, and the key of the header that applies. -/
structure Builder where
  members : Members
  current : List String

/-- Changes the table of a header's key at the last part of the key. -/
def changeAt (change : String → Members → Option Members) (key : List String)
    (members : Members) : Option Members :=
  match key.getLast? with
  | none => none
  | some last => members.within (change last) key.dropLast

/-- Adds a line. -/
def Builder.add (builder : Builder) : Entry → Option Builder
  | .header key => (changeAt Members.declare key builder.members).map (⟨·, key⟩)
  | .itemHeader key => (changeAt Members.declareItem key builder.members).map (⟨·, key⟩)
  | .member key value =>
    (builder.members.within (Members.assign value key) builder.current).map
      (⟨·, builder.current⟩)

/-- The members of a document. A byte order mark may stand at its start. -/
def parse? (text : List Char) : Option Members :=
  let text := match text with
    | '\uFEFF' :: rest => rest
    | _ => text
  (entries text).bind fun lines => (lines.foldlM Builder.add ⟨[], []⟩).map (·.members)

end PascalLint.Toml
