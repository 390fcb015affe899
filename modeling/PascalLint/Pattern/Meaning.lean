import PascalLint.Pattern.Expression

/-! # Meaning of written patterns

What an expression describes depends on the flags in force. Patterns are matched without tables of
all scripts: the classes of digits, blanks and letters, the edges of words and the equality of
capital and small letters can be had for ASCII only, when the flag for Unicode is taken back.
Patterns that could match a part of an encoded character are refused.
-/

namespace PascalLint.Pattern

/-- The flags in force. -/
structure Flags where
  ignoreCase : Bool := false
  multiLine : Bool := false
  dotAll : Bool := false
  returns : Bool := false
  unicode : Bool := true
deriving DecidableEq, Repr

namespace Flags

/-- Sets a flag or takes it back. -/
def change (flags : Flags) (change : FlagChange) : Flags :=
  match change.flag with
  | .ignoreCase => { flags with ignoreCase := change.value }
  | .multiLine => { flags with multiLine := change.value }
  | .dotAll => { flags with dotAll := change.value }
  | .returns => { flags with returns := change.value }
  | .unicode => { flags with unicode := change.value }
  | .swapGreed | .verbose => flags

/-- Makes some changes, one after the other. -/
def changeAll (flags : Flags) (changes : List FlagChange) : Flags :=
  changes.foldl change flags

end Flags

/-! ## Classes -/

/-- The ASCII characters of a class that an escaped letter stands for. -/
def WordClass.set (kind : WordClass) : CharSet :=
  let name := match kind with
    | .digit => "digit"
    | .space => "space"
    | .word => "word"
  .ranges ((namedRanges.lookup name).getD [])

/-- A set of bytes, if these are whole characters. In a set other than a complement all are. -/
def wholeCharacters (span : Span) (set : CharSet) : Except Fault CharSet :=
  if set.contains '\x80' then faultAt .invalidUtf8 span else .ok set

/-- A set that is written as a class, under the flags in force. -/
def classSet (flags : Flags) (span : Span) (negated : Bool) (set : CharSet) :
    Except Fault CharSet :=
  if flags.unicode then
    if flags.ignoreCase then faultAt .caseUnavailable span else .ok (.negatedIf negated set)
  else
    let set := if flags.ignoreCase then .eitherCase set else set
    wholeCharacters span (.negatedIf negated set)

/-- The set of the characters with a property. -/
def propertySet {α : Type} (flags : Flags) (span : Span) : Except Fault α :=
  if flags.unicode then faultAt .propertyUnknown span else faultAt .unicodeForbidden span

/-- The set that an escaped letter stands for. -/
def wordClassSet (flags : Flags) (span : Span) (kind : WordClass) (negated : Bool) :
    Except Fault CharSet :=
  if flags.unicode then faultAt .wordClassUnavailable span
  else wholeCharacters span (.negatedIf negated kind.set)

/-- Passes if a character may stand in a class. -/
def Literal.checkInClass (flags : Flags) (written : Literal) : Except Fault Unit :=
  if flags.unicode || written.char.toNat < 0x80 then .ok ()
  else if written.isByte then faultAt .invalidUtf8 written.span
  else faultAt .unicodeForbidden written.span

/-- Passes if a part of a class may stand beside an operator. -/
def ClassNode.checkOperand (flags : Flags) (node : ClassNode) : Except Fault Unit :=
  match node.span? with
  | some span => if flags.unicode && flags.ignoreCase then faultAt .caseUnavailable span else .ok ()
  | none => .ok ()

/-- The set that a part of a class stands for. -/
def ClassNode.set (flags : Flags) : ClassNode → Except Fault CharSet
  | nothing => .ok .none
  | literal written => do
    written.checkInClass flags
    return .single written.char
  | range low high => do
    low.checkInClass flags
    high.checkInClass flags
    return .ranges [⟨low.char.toNat, high.char.toNat⟩]
  | named span table negated => classSet flags span negated (.ranges table)
  | property span => propertySet flags span
  | wordClass span kind negated => wordClassSet flags span kind negated
  | bracketed span negated inner => do
    let set ← inner.set flags
    classSet flags span negated set
  | pair first second => do
    let before ← first.set flags
    let set ← second.set flags
    return .combined .union before set
  | combined operation left right => do
    let before ← left.set flags
    let set ← right.set flags
    right.checkOperand flags
    left.checkOperand flags
    let folded (set : CharSet) : CharSet := if flags.ignoreCase then .eitherCase set else set
    return .combined operation (folded before) (folded set)

/-! ## Expressions -/

/-- What a character describes. -/
def Literal.pattern (flags : Flags) (written : Literal) : Except Fault Pattern :=
  if flags.unicode then
    if flags.ignoreCase then faultAt .caseUnavailable written.span
    else .ok (.char (.single written.char))
  else if written.isByte && 0x80 ≤ written.char.toNat then faultAt .invalidUtf8 written.span
  else
    let set := CharSet.single written.char
    .ok (.char (if flags.ignoreCase then .eitherCase set else set))

/-- The condition on a place that a mark stands for. -/
def AnchorMark.anchor (flags : Flags) : AnchorMark → Anchor
  | lineStart => if flags.multiLine then .lineStart flags.returns else .textStart
  | lineEnd => if flags.multiLine then .lineEnd flags.returns else .textEnd
  | textStart => .textStart
  | textEnd => .textEnd
  | word side => .word side flags.unicode

/-- What a part without parts of its own describes. -/
def Atom.pattern (flags : Flags) : Atom → Except Fault Pattern
  | literal written => written.pattern flags
  | any span =>
    if !flags.unicode then faultAt .invalidUtf8 span
    else if flags.dotAll then .ok (.char .all)
    else
      let ends := if flags.returns then [⟨0x0A, 0x0A⟩, ⟨0x0D, 0x0D⟩] else [⟨0x0A, 0x0A⟩]
      .ok (.char (.complement (.ranges ends)))
  | anchor _ mark => .ok (.anchor (mark.anchor flags))
  | property span => propertySet flags span
  | wordClass span kind negated => (wordClassSet flags span kind negated).map .char

/-- What an expression describes, and the flags in force behind it. -/
def Node.pattern (flags : Flags) : Node → Except Fault (Pattern × Flags)
  | empty => .ok (.empty, flags)
  | .flags changes => .ok (.empty, flags.changeAll changes)
  | atom part => do return (← part.pattern flags, flags)
  | bracketed inner => do return (.char (← inner.set flags), flags)
  | group changes inner => do
    let (pattern, _) ← inner.pattern (flags.changeAll changes)
    return (pattern, flags)
  | sequence first second => do
    let (before, flags) ← first.pattern flags
    let (pattern, flags) ← second.pattern flags
    return (.sequence before pattern, flags)
  | choice first second => do
    let (before, flags) ← first.pattern flags
    let (pattern, flags) ← second.pattern flags
    return (.choice before pattern, flags)
  | repeated least most inner => do
    let (pattern, flags) ← inner.pattern flags
    return (.repeated least most pattern, flags)

/-! ## Patterns -/

/-- Why a text is not the written form of a pattern that can be had. -/
inductive PatternError
  | faulty (fault : Fault)
  /-- It asks for the edges of the words of all scripts. -/
  | scriptsUnavailable
  /-- All repetitions written out, it is too long. -/
  | tooLarge
deriving DecidableEq, Repr

/-- How many bytes a pattern may take up. -/
def byteLimit : Nat := 10485760

/-- How many bytes a step of a pattern takes up. -/
def bytesOfStep : Nat := 24

/-- The wording of an error in a text. -/
def PatternError.message (text : List Char) : PatternError → String
  | faulty fault => fault.report text
  | scriptsUnavailable => "error building NFA"
  | tooLarge => "Compiled regex exceeds size limit of " ++ toString byteLimit ++ " bytes."

/-- The pattern that a text is the written form of. -/
def ofText (text : List Char) : Except PatternError Pattern :=
  match (Node.ofText text).bind (Node.pattern {}) with
  | .error fault => .error (.faulty fault)
  | .ok (pattern, _) =>
    if byteLimit < bytesOfStep * pattern.size then .error .tooLarge
    else if pattern.needsAllScripts then .error .scriptsUnavailable
    else .ok pattern

end PascalLint.Pattern
