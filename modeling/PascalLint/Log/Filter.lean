import PascalLint.Log.Message
import PascalLint.Pattern.Meaning
import PascalLint.Text.Blank
import PascalLint.Text.Search

/-! # Log filters

A filter says which messages are shown. It is written as directives with commas between them, and
possibly a slash and a pattern that messages have to match. A directive is a level, the front part
of a component's path, or both with an equals sign between them; without a level it stands for
all messages, without a path for all components. Of the directives for a component the one with
the longest path counts. A filter without directives shows errors only.
-/

namespace PascalLint.Log

/-- How many levels are shown of the components whose paths begin with a text. Without a text it
    applies to all components. -/
structure Directive where
  path : Option (List Char)
  rank : Nat
deriving DecidableEq, Repr

/-- A filter. Without a pattern it does not look at the texts of messages. -/
structure Filter where
  directives : List Directive
  pattern : Option Pattern

namespace Filter

/-- The number of levels that a word names: `off` none, a level those down to it. -/
def rank? (word : List Char) : Option Nat :=
  let name := String.ofList (word.map Char.toUpper)
  if name = "OFF" then some 0 else (Level.all.find? (·.name == name)).map Level.rank

/-- All levels. -/
def everything : Nat := Level.all.length

/-- A directive as it is written, without the white space around it. -/
def directive? (text : List Char) : Except String Directive :=
  match Text.splitOn '=' text with
  | [part] =>
    match rank? part with
    | some rank => .ok ⟨none, rank⟩
    | none => .ok ⟨some part, everything⟩
  | [path, level] =>
    let level := Text.trim level
    if level.isEmpty then .ok ⟨some path, everything⟩
    else match rank? level with
      | some rank => .ok ⟨some path, rank⟩
      | none => .error ("invalid logging spec '" ++ String.ofList level ++ "'")
  | _ => .error ("invalid logging spec '" ++ String.ofList text ++ "'")

/-- Adds a directive, in place of one for the same path. -/
def insert (directive : Directive) (directives : List Directive) : List Directive :=
  if directives.any (·.path == directive.path) then
    directives.map fun old => if old.path == directive.path then directive else old
  else directives ++ [directive]

/-- The filter that shows errors only. -/
def errorsOnly : Filter := ⟨[⟨none, Level.error.rank⟩], none⟩

/-- The directives that a text stands for, and what is wrong with the parts that are left out. -/
def parseDirectives (text : List Char) : List Directive × List String :=
  let written := ((Text.splitOn ',' text).map Text.trim).filter (!·.isEmpty)
  let (directives, problems) := written.foldl
    (fun (directives, problems) part =>
      match directive? part with
      | .ok directive => (insert directive directives, problems)
      | .error problem => (directives, problems ++ [problem]))
    (([], []) : List Directive × List String)
  (if directives.isEmpty then errorsOnly.directives else directives, problems)

/-- The pattern that a text stands for. If it is none, it is left out. -/
def parsePattern (text : List Char) : Option Pattern × List String :=
  match Pattern.ofText text with
  | .ok pattern => (some pattern, [])
  | .error error => (none, ["invalid regex filter - " ++ error.message text])

/-- The filter that a text stands for, and what is wrong with the parts that are left out. -/
def parse (text : List Char) : Filter × List String :=
  match Text.splitOn '/' text with
  | [front] =>
    let (directives, problems) := parseDirectives front
    (⟨directives, none⟩, problems)
  | [front, behind] =>
    let (directives, problems) := parseDirectives front
    let (pattern, problem) := parsePattern behind
    (⟨directives, pattern⟩, problems ++ problem)
  | _ =>
    (errorsOnly, ["invalid logging spec '" ++ String.ofList text ++ "' (too many '/'s)"])

/-- The length of the path that a directive applies to. -/
def Directive.length (directive : Directive) : Nat :=
  (directive.path.getD []).length

/-- Holds if a directive applies to a component. -/
def Directive.covers (directive : Directive) (component : Component) : Bool :=
  match directive.path with
  | none => true
  | some path => path.isPrefixOf component.path.toList

/-- The number of levels of a component that are shown. -/
def rankFor (filter : Filter) (component : Component) : Nat :=
  let matching := filter.directives.filter (Directive.covers · component)
  let longest := matching.foldl
    (fun best directive =>
      match best with
      | none => some directive
      | some old =>
        if Directive.length old ≤ Directive.length directive then some directive else some old)
    (none : Option Directive)
  (longest.map (·.rank)).getD 0

/-- Holds if a message is shown. -/
def shows (filter : Filter) (message : Message) : Bool :=
  message.level.rank ≤ filter.rankFor message.component
    && filter.pattern.all (·.isIn message.text.toList)

end Filter

end PascalLint.Log
