import PascalLint.Pattern.Basic
import PascalLint.Pattern.Fault

/-! # Written patterns

The parts that a written pattern consists of, before it is known which of them can be had. Parts
that may turn out to be faulty remember where they stand.
-/

namespace PascalLint.Pattern

/-- A character. The flag says that it is written as the hexadecimal value of a byte. -/
structure Literal where
  span : Span
  char : Char
  isByte : Bool
deriving DecidableEq, Repr

/-- The classes that an escaped letter stands for. -/
inductive WordClass
  | digit
  | space
  | word
deriving DecidableEq, Repr

/-- The places that a pattern may ask for. What a line is depends on the flags in force. -/
inductive AnchorMark
  | lineStart
  | lineEnd
  | textStart
  | textEnd
  | word (side : WordSide)
deriving DecidableEq, Repr

/-- A part without parts of its own. -/
inductive Atom
  | literal (written : Literal)
  /-- Any character. -/
  | any (span : Span)
  | anchor (span : Span) (mark : AnchorMark)
  /-- The characters with a property. -/
  | property (span : Span)
  | wordClass (span : Span) (kind : WordClass) (negated : Bool)
deriving DecidableEq, Repr

/-- The stretch of a part. -/
def Atom.span : Atom → Span
  | literal written => written.span
  | any span | anchor span _ | property span | wordClass span _ _ => span

/-! ## Classes -/

/-- What stands in a bracketed class. -/
inductive ClassNode
  | nothing
  | literal (written : Literal)
  | range (first last : Literal)
  /-- A named set. -/
  | named (span : Span) (table : List Unicode.CodeRange) (negated : Bool)
  | property (span : Span)
  | wordClass (span : Span) (kind : WordClass) (negated : Bool)
  | bracketed (span : Span) (negated : Bool) (inner : ClassNode)
  /-- Two parts, one after the other. -/
  | pair (first second : ClassNode)
  /-- Two parts with an operator between them. -/
  | combined (operation : SetOperation) (left right : ClassNode)

namespace ClassNode

/-- The place at which a part begins. -/
def first? : ClassNode → Option Position
  | nothing => none
  | literal written => some written.span.first
  | range low _ => some low.span.first
  | named span _ _ | property span | wordClass span _ _ | bracketed span _ _ => some span.first
  | pair left _ | combined _ left _ => left.first?

/-- The place behind a part. -/
def last? : ClassNode → Option Position
  | nothing => none
  | literal written => some written.span.last
  | range _ high => some high.span.last
  | named span _ _ | property span | wordClass span _ _ | bracketed span _ _ => some span.last
  | pair _ right | combined _ _ right => right.last?

/-- The stretch of a part; none if there is nothing. -/
def span? (node : ClassNode) : Option Span :=
  match node.first?, node.last? with
  | some first, some last => some ⟨first, last⟩
  | _, _ => none

/-- Some parts, given the last one first, as one. -/
def ofReversed : List ClassNode → ClassNode
  | [] => nothing
  | [node] => node
  | node :: before => pair (ofReversed before) node

end ClassNode

/-! ## Expressions -/

/-- What flags change. -/
inductive Flag
  | ignoreCase
  | multiLine
  | dotAll
  /-- Whether repetitions are to be short or long, which makes no difference to whether a text
      matches. -/
  | swapGreed
  | unicode
  | returns
  | verbose
deriving DecidableEq, Repr

/-- A flag that is set or taken back. -/
structure FlagChange where
  flag : Flag
  value : Bool
deriving DecidableEq, Repr

/-- An expression. -/
inductive Node
  | empty
  /-- Flags for what follows, up to the end of the group. -/
  | flags (changes : List FlagChange)
  | atom (atom : Atom)
  | bracketed (inner : ClassNode)
  /-- A group with flags of its own. -/
  | group (changes : List FlagChange) (inner : Node)
  | sequence (first second : Node)
  | choice (first second : Node)
  | repeated (least : Nat) (most : Option Nat) (inner : Node)

namespace Node

/-- Some expressions in sequence, given the last one first. -/
def ofReversed : List Node → Node
  | [] => empty
  | [node] => node
  | node :: before => sequence (ofReversed before) node

/-- Holds if an expression can be repeated. -/
def isRepeatable : Node → Bool
  | empty | flags _ => false
  | _ => true

end Node

end PascalLint.Pattern
