/-! # Values of TOML

A value is a scalar, an array, or a table. What may still be added to a table depends on how it
came about, so a table remembers that. Tables that headers in double brackets add to an array are
kept apart from arrays that are written out, because only the former grow.
-/

namespace PascalLint.Toml

/-- How a table came about. -/
inductive Origin
  /-- Its own header. -/
  | header
  /-- The header of a table inside it. -/
  | implied
  /-- A dotted key. -/
  | dotted
  /-- Braces. -/
  | inline
deriving DecidableEq, Repr

/-- A floating point number as it is written. -/
inductive FloatLiteral
  | finite (negative : Bool) (significand : Nat) (exponent : Int)
  | infinite (negative : Bool)
  | notANumber
deriving DecidableEq, Repr

/-- Values. The members of a table are in the order in which they were added. -/
inductive Value
  | string (text : String)
  | integer (n : Int)
  /-- A word with the outline of an integer that stands for no number. Such a word spoils nothing
      as long as nobody asks for its value. -/
  | brokenInteger
  | float (literal : FloatLiteral)
  | boolean (b : Bool)
  /-- A date, a time of day, or both. -/
  | moment
  | array (items : List Value)
  | tables (items : List (List (String × Value)))
  | table (origin : Origin) (members : List (String × Value))

/-- The members of a table. -/
abbrev Members := List (String × Value)

namespace Members

/-- The value of a member. -/
def get? (members : Members) (key : String) : Option Value :=
  List.lookup key members

/-- Gives a member another value. -/
def replace (members : Members) (key : String) (value : Value) : Members :=
  members.map fun (name, old) => if name = key then (name, value) else (name, old)

/-- Adds a member under a dotted key. The tables that the key passes through are made as needed;
    those that have a header of their own or are in braces are closed to it. -/
def assign (value : Value) : List String → Members → Option Members
  | [], _ => none
  | [key], members =>
    if (members.get? key).isSome then none else some (members ++ [(key, value)])
  | key :: keys, members =>
    match members.get? key with
    | none => (assign value keys []).map fun inner => members ++ [(key, .table .dotted inner)]
    | some (.table origin inner) =>
      if origin = .dotted || origin = .implied then
        (assign value keys inner).map fun inner => members.replace key (.table origin inner)
      else none
    | some _ => none

/-- Changes the members of the table that a header's key names. The tables that the key passes
    through are made as needed; an array of tables stands for its last table. -/
def within (change : Members → Option Members) : List String → Members → Option Members
  | [], members => change members
  | key :: keys, members =>
    match members.get? key with
    | none => (within change keys []).map fun inner => members ++ [(key, .table .implied inner)]
    | some (.table origin inner) =>
      if origin = .inline then none
      else (within change keys inner).map fun inner => members.replace key (.table origin inner)
    | some (.tables items) =>
      match items.getLast? with
      | none => none
      | some last => (within change keys last).map fun inner =>
        members.replace key (.tables (items.dropLast ++ [inner]))
    | some _ => none

/-- Adds the table of a header, which may so far have been implied only. -/
def declare (key : String) (members : Members) : Option Members :=
  match members.get? key with
  | none => some (members ++ [(key, .table .header [])])
  | some (.table .implied inner) => some (members.replace key (.table .header inner))
  | some _ => none

/-- Adds a table to the array of tables of a header in double brackets. -/
def declareItem (key : String) (members : Members) : Option Members :=
  match members.get? key with
  | none => some (members ++ [(key, .tables [[]])])
  | some (.tables items) => some (members.replace key (.tables (items ++ [[]])))
  | some _ => none

end Members

end PascalLint.Toml
