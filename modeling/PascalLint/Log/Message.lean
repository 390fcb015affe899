import PascalLint.Text.ControlSequence

/-! # Log messages

What a run tells about itself: messages with a level of severity and the component that they
come from, in the order in which they arise.
-/

namespace PascalLint.Log

/-- Levels of severity. -/
inductive Level
  | error
  | warn
  | info
  | debug
  | trace
deriving DecidableEq, Repr

namespace Level

/-- All levels, the gravest first. -/
def all : List Level := [error, warn, info, debug, trace]

/-- The name of a level. -/
def name : Level → String
  | error => "ERROR"
  | warn => "WARN"
  | info => "INFO"
  | debug => "DEBUG"
  | trace => "TRACE"

/-- How far down a level is: the graver, the smaller. -/
def rank : Level → Nat
  | error => 1
  | warn => 2
  | info => 3
  | debug => 4
  | trace => 5

end Level

/-- The components that have something to tell. -/
inductive Component
  /-- The line rules. -/
  | analysis
  /-- The check of one source. -/
  | engine
  /-- The reading of a source file. -/
  | source
  /-- The check of the files that a command line names. -/
  | check
deriving DecidableEq, Repr

/-- The path of a component, by which messages are selected. -/
def Component.path : Component → String
  | analysis => "pasdiag::analyze"
  | engine => "pasdiag::engine"
  | source => "pasdiag::lex::source"
  | check => "pasdiag::check"

/-- A message with its level and the component that it comes from. -/
structure Message where
  level : Level
  component : Component
  text : String
deriving DecidableEq, Repr

/-- A text whose lines, but for the first one, are set off by four spaces. -/
def indent (text : List Char) : List Char :=
  text.flatMap fun c => if c == '\n' then ['\n', ' ', ' ', ' ', ' '] else [c]

/-- A message as it is written, in which the names of the levels are padded to one length. It
    contains nothing that would control a terminal. -/
def Message.render (message : Message) : String :=
  let name := message.level.name
  let front := "[" ++ name ++ String.ofList (List.replicate (5 - name.length) ' ') ++ " "
    ++ message.component.path ++ "] "
  String.ofList
    (Text.ControlSequence.strip (front.toList ++ indent message.text.toList ++ ['\n']))

end PascalLint.Log
