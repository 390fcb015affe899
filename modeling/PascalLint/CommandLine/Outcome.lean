import PascalLint.Log.Filter

/-! # Outcomes

What a command does is a value: the texts that it writes and the messages that it logs, in order,
and its exit status. Errors and messages share one output, on which a filter says which messages
are shown.
-/

namespace PascalLint.CommandLine

/-- Something that a command writes or logs. -/
inductive Event
  | output (text : String)
  | error (text : String)
  | log (message : Log.Message)
deriving DecidableEq, Repr

/-- The events of a command and its exit status. -/
structure Outcome where
  events : List Event
  status : Nat
deriving DecidableEq, Repr

namespace Event

/-- What an event adds to the output. -/
def outputText : Event → String
  | output text => text
  | error _ | log _ => ""

/-- What an event adds to the output for errors. -/
def errorText (filter : Log.Filter) : Event → String
  | output _ => ""
  | error text => text
  | log message => if filter.shows message then message.render else ""

end Event

namespace Outcome

/-- The output. -/
def output (outcome : Outcome) : String :=
  String.join (outcome.events.map Event.outputText)

/-- The output for errors. -/
def errors (outcome : Outcome) (filter : Log.Filter) : String :=
  String.join (outcome.events.map (Event.errorText filter))

/-- A command that does nothing but write a text. -/
def ofOutput (text : String) : Outcome := ⟨[.output text], 0⟩

end Outcome

/-- What is written about the parts of a filter that are left out. -/
def filterWarnings (problems : List String) : String :=
  String.join (problems.map fun problem => "warning: " ++ problem ++ ", ignoring it\n")

end PascalLint.CommandLine
