import PascalLint.Pattern.Escape

/-! # Classes of patterns

A bracketed class holds characters, ranges, named sets and other classes, one after the other or
with operators between them. Operators apply from left to right to all that stands before them in
the class.
-/

namespace PascalLint.Pattern

/-- What is still open around a part of a class. -/
inductive ClassFrame
  /-- The parts of the class outside, the last one first, and how the class itself begins. -/
  | opened (outside : List ClassNode) (span : Span) (negated : Bool)
  /-- An operator and what stands before it. -/
  | operator (operation : SetOperation) (left : ClassNode)

/-- The fault of a class that is not closed: it is marked where the innermost one begins. -/
def openFault {α : Type} (input : Input) : List ClassFrame → Except Fault α
  | [] => faultAt .classOpen input.nowhere
  | .opened _ span _ :: _ => faultAt .classOpen span
  | .operator .. :: below => openFault input below

/-- A part with the operator that stands before it, if there is one. -/
def applyOperator (right : ClassNode) : List ClassFrame → ClassNode × List ClassFrame
  | .operator operation left :: below => (.combined operation left right, below)
  | frames => (right, frames)

/-- The operator that stands twice. -/
def operator? : Char → Option SetOperation
  | '&' => some .intersection
  | '-' => some .difference
  | '~' => some .symmetricDifference
  | _ => none

/-! ## The parts of a class -/

/-- A character or an escape. -/
def readClassAtom (verbose : Bool) (input : Input) : Except Fault (Atom × Input) :=
  match input.rest with
  | [] => faultAt .classOpen input.nowhere
  | c :: _ =>
    if c == '\\' then readEscape verbose input
    else .ok (.literal ⟨input.here, c, false⟩, input.advance)

/-- What an atom is in a class. -/
def Atom.inClass : Atom → Except Fault ClassNode
  | literal written => .ok (.literal written)
  | property span => .ok (.property span)
  | wordClass span kind negated => .ok (.wordClass span kind negated)
  | any span | anchor span _ => faultAt .classEscape span

/-- What an atom is at the end of a range. -/
def Atom.inRange : Atom → Except Fault Literal
  | literal written => .ok written
  | atom => faultAt .classRangeEnd atom.span

/-- An atom or a range. A hyphen before the end of the class or before another hyphen makes no
    range. -/
def readClassItem (verbose : Bool) (frames : List ClassFrame) (input : Input) :
    Except Fault (ClassNode × Input) := do
  let (first, behind) ← readClassAtom verbose input
  let behind := behind.skip verbose
  if behind.rest.isEmpty then openFault behind frames
  let following := (behind.next verbose).rest.head?
  if behind.rest.head? != some '-' || following == some ']' || following == some '-' then
    return (← first.inClass, behind)
  let second := behind.next verbose
  if second.rest.isEmpty then openFault second frames
  let (last, after) ← readClassAtom verbose second
  let low ← first.inRange
  let high ← last.inRange
  if high.char < low.char then faultAt .classRangeOrder ⟨first.span.first, last.span.last⟩
  return (.range low high, after)

/-- A named set, if there is one at the front. -/
def readNamedSet? (input : Input) : Option (ClassNode × Input) := do
  let inside ← input.after? ['[', ':']
  let negated := inside.rest.head? == some '^'
  let inside := if negated then inside.advance else inside
  let (name, behind) := inside.collect false (· != ':')
  let after ← behind.after? [':', ']']
  let table ← namedRanges.lookup (String.ofList name)
  return (.named (after.since input.place) table negated, after)

/-- Hyphens at the start of a class, the last one first. -/
def readHyphens (verbose : Bool) (before : List ClassNode) (input : Input) :
    List ClassNode × Input :=
  match _found : input.rest with
  | '-' :: _ =>
    readHyphens verbose (.literal ⟨input.here, '-', false⟩ :: before) (input.next verbose)
  | _ => (before, input)
termination_by input.rest.length
decreasing_by exact Input.length_next_lt verbose _found

/-- The start of a class: the bracket, the mark of its complement, and the characters that stand
    for themselves only there. It gives those, the last one first, and whether the complement is
    meant. -/
def readClassStart (verbose : Bool) (input : Input) :
    Except Fault ((List ClassNode × Bool) × Input) := do
  let start := input.place
  let inside := input.next verbose
  if inside.rest.isEmpty then faultAt .classOpen (inside.since start)
  let negated := inside.rest.head? == some '^'
  let inside := if negated then inside.next verbose else inside
  if inside.rest.isEmpty then faultAt .classOpen (inside.since start)
  let (hyphens, behind) := readHyphens verbose [] inside
  if behind.rest.isEmpty then faultAt .classOpen input.nowhere
  if hyphens.isEmpty && behind.rest.head? == some ']' then
    let after := behind.next verbose
    if after.rest.isEmpty then faultAt .classOpen (after.since start)
    return (([.literal ⟨behind.here, ']', false⟩], negated), after)
  return ((hyphens, negated), behind)

/-! ## Classes -/

/-- What a step through a class comes to: the whole class, or what is open and the parts of the
    innermost class so far, the last one first. -/
inductive ClassStep
  | closed (node : ClassNode)
  | further (frames : List ClassFrame) (items : List ClassNode)

/-- Closes the innermost class behind its bracket. -/
def closeClass (behind : Input) (frames : List ClassFrame) (items : List ClassNode) : ClassStep :=
  let (inner, frames) := applyOperator (.ofReversed items) frames
  match frames with
  | .opened outside span negated :: below =>
    let node := ClassNode.bracketed ⟨span.first, behind.place⟩ negated inner
    if below.isEmpty then .closed node else .further below (node :: outside)
  | _ => .closed inner

/-- The next part of a class. -/
def classStep (verbose : Bool) (frames : List ClassFrame) (items : List ClassNode)
    (input : Input) : Except Fault (ClassStep × Input) :=
  match input.rest with
  | [] => openFault input frames
  | c :: rest =>
    match if c == '[' && !frames.isEmpty then readNamedSet? input else none with
    | some (node, behind) => .ok (.further frames (node :: items), behind)
    | none =>
      if c == '[' then do
        let ((inside, negated), behind) ← readClassStart verbose input
        return (.further (.opened items (behind.since input.place) negated :: frames) inside,
          behind)
      else if c == ']' then .ok (closeClass input.advance frames items, input.advance)
      else
        match operator? c, rest.head? == some c with
        | some operation, true =>
          let (left, frames) := applyOperator (.ofReversed items) frames
          .ok (.further (.operator operation left :: frames) [], input.advance.advance)
        | _, _ => do
          let (node, behind) ← readClassItem verbose frames input
          return (.further frames (node :: items), behind)

/-- A bracketed class, from its opening bracket on. -/
def readClass (verbose : Bool) (frames : List ClassFrame) (items : List ClassNode)
    (input : Input) : Except Fault (ClassNode × Input) :=
  match classStep verbose frames items (input.skip verbose) with
  | .error fault => .error fault
  | .ok (.closed node, behind) => .ok (node, behind)
  | .ok (.further frames items, behind) =>
    -- A part takes up at least one character, so this always holds.
    if behind.rest.length < input.rest.length then readClass verbose frames items behind
    else openFault behind frames
termination_by input.rest.length

end PascalLint.Pattern
