import PascalLint.Pattern.Class
import PascalLint.Unicode.Alphabetic
import PascalLint.Unicode.Numeric

/-! # Expressions of patterns

The written form of a whole pattern is read from left to right. What is open, groups and the
alternatives in them, is kept on a stack, so that the first fault from the left is the one that is
reported.
-/

namespace PascalLint.Pattern

/-! ## Repetition -/

/-- A decimal number with white space around it. -/
def readDecimal (verbose : Bool) (input : Input) : Except Fault Nat × Input :=
  let (_, start) := input.collect false Unicode.isWhiteSpace
  let (digits, behind) := start.collect verbose Char.isDigit
  let (_, after) := behind.collect verbose Unicode.isWhiteSpace
  let n := digits.foldl (fun n c => 10 * n + (c.toNat - '0'.toNat)) 0
  let number :=
    if digits.isEmpty then faultAt .countEmpty (behind.since start.place)
    else if n < Nat.pow 2 32 then .ok n
    else faultAt .decimalInvalid (behind.since start.place)
  (number, after)

/-- What is behind the question mark that makes a repetition a short one, if there is one. -/
def skipShort (input : Input) : Input :=
  (input.after? ['?']).getD input

/-- The bounds of a repetition between braces. -/
def readBounds (verbose : Bool) (input : Input) : Except Fault ((Nat × Option Nat) × Input) := do
  let unclosed (behind : Input) : Except Fault Unit :=
    faultAt .countOpen (behind.since input.place)
  let inside := input.next verbose
  if inside.rest.isEmpty then unclosed inside
  let (least, behind) := readDecimal verbose inside
  if behind.rest.isEmpty then unclosed behind
  let (bounds, behind) ←
    if behind.rest.head? == some ',' then do
      let second := behind.next verbose
      if second.rest.isEmpty then unclosed second
      if second.rest.head? == some '}' then pure ((← least, none), second)
      else
        let least ← least
        let (most, behind) := readDecimal verbose second
        pure ((least, some (← most)), behind)
    else do
      let count ← least
      pure ((count, some count), behind)
  if behind.rest.head? != some '}' then unclosed behind
  let after := skipShort (behind.next verbose)
  if bounds.2.any (· < bounds.1) then faultAt .countOrder (after.since input.place)
  return (bounds, after)

/-! ## Groups -/

/-- The flags that letters stand for. -/
def flagLetters : List (Char × Flag) := [
  ('i', .ignoreCase), ('m', .multiLine), ('s', .dotAll), ('U', .swapGreed), ('u', .unicode),
  ('R', .returns), ('x', .verbose)]

/-- Flags, each with where it stands; a hyphen stands for no flag. They end at a colon or a closing
    parenthesis, or run to the end of the pattern, which is a fault. -/
def readFlags (before : List (Option Flag × Span)) (input : Input) :
    Except Fault (List (Option Flag × Span) × Input) :=
  match _found : input.rest with
  | [] => faultAt .flagEnd input.nowhere
  | c :: _ =>
    if c == ':' || c == ')' then .ok (before.reverse, input)
    else
      let flag? := flagLetters.lookup c
      if c != '-' && flag?.isNone then faultAt .flagUnknown input.here
      else
        match before.find? (·.1 == flag?) with
        | some (_, earlier) =>
          let kind := if flag?.isNone then FaultKind.negationRepeated else .flagRepeated
          .error ⟨kind, input.here, some earlier⟩
        | none => readFlags ((flag?, input.here) :: before) (input.next false)
termination_by input.rest.length
decreasing_by exact Input.length_next_lt false _found

/-- The changes that flags make. The ones behind a hyphen are taken back. -/
def flagChanges (flags : List (Option Flag × Span)) : List FlagChange :=
  let set := (flags.takeWhile (·.1.isSome)).filterMap (·.1)
  let taken := (flags.dropWhile (·.1.isSome)).filterMap (·.1)
  set.map (⟨·, true⟩) ++ taken.map (⟨·, false⟩)

/-- Whether white space stands for nothing, after some changes of flags. -/
def verboseAfter (verbose : Bool) (changes : List FlagChange) : Bool :=
  ((changes.find? (·.flag == .verbose)).map (·.value)).getD verbose

/-- Holds of the characters of a group's name. -/
def isNameCharacter (isFirst : Bool) (c : Char) : Bool :=
  c == '_' || Unicode.isAlphabetic c
    || !isFirst && (c == '.' || c == '[' || c == ']' || Unicode.isNumeric c)

/-- The name of a group, up to an angle bracket, with where it stands. -/
def readName (input : Input) : Except Fault ((List Char × Span) × Input) := do
  let (first, behind) := match input.rest with
    | c :: _ => if isNameCharacter true c then ([c], input.advance) else ([], input)
    | [] => ([], input)
  let (more, behind) :=
    if first.isEmpty then ([], behind) else behind.collect false (isNameCharacter false)
  if behind.rest.isEmpty then faultAt .nameEnd behind.nowhere
  if behind.rest.head? != some '>' then faultAt .nameInvalid behind.here
  if first.isEmpty then faultAt .nameEmpty input.nowhere
  return ((first ++ more, behind.since input.place), behind.advance)

/-- What an opening parenthesis begins. -/
inductive Opening
  /-- Nothing but a change of flags, up to the closing parenthesis. -/
  | flags (changes : List FlagChange)
  | group (changes : List FlagChange)
  | named (name : List Char) (span : Span)

/-- The marks of what would look around a place. -/
def lookAroundMarks : List (List Char) := [['?', '='], ['?', '!'], ['?', '<', '='], ['?', '<', '!']]

/-- An opening parenthesis with what belongs to it. -/
def readOpening (verbose : Bool) (input : Input) : Except Fault (Opening × Input) := do
  let inside := input.next verbose
  match lookAroundMarks.findSome? inside.after? with
  | some behind => faultAt .lookAround (behind.since input.place)
  | none =>
    match [['?', 'P', '<'], ['?', '<']].findSome? inside.after? with
    | some name =>
      let ((name, span), behind) ← readName name
      return (.named name span, behind)
    | none =>
      match inside.after? ['?'] with
      | none => return (.group [], inside)
      | some letters =>
        if letters.rest.isEmpty then faultAt .groupOpen input.here
        let (flags, behind) ← readFlags [] letters
        match flags.getLast? with
        | some (none, span) => faultAt .negationDangling span
        | _ => pure ()
        let changes := flagChanges flags
        if behind.rest.head? == some ':' then return (.group changes, behind.advance)
        if flags.isEmpty then faultAt .nothingToRepeat inside.nowhere
        return (.flags changes, behind.advance)

/-! ## Expressions -/

/-- A group as far as it has been read. -/
structure Level where
  /-- The alternatives before the one that is being read. -/
  earlier : Option Node
  /-- What the alternative that is being read consists of, the last part first. -/
  items : List Node
  /-- Whether white space stands for nothing. -/
  verbose : Bool

namespace Level

/-- A group of which nothing has been read. -/
def start (verbose : Bool) : Level := ⟨none, [], verbose⟩

/-- Adds a part. -/
def push (level : Level) (item : Node) : Level := { level with items := item :: level.items }

/-- What has been read of a group. -/
def node (level : Level) : Node :=
  let last := Node.ofReversed level.items
  match level.earlier with
  | some earlier => .choice earlier last
  | none => last

/-- Begins a further alternative. -/
def bar (level : Level) : Level := ⟨some level.node, [], level.verbose⟩

/-- Repeats the last part. -/
def repeatLast (level : Level) (least : Nat) (most : Option Nat) : Option Level :=
  match level.items with
  | item :: items =>
    if item.isRepeatable then some { level with items := .repeated least most item :: items }
    else none
  | [] => none

end Level

/-- A group that is open: what stands before it, where it begins, and the flags of its own. -/
structure OpenGroup where
  outside : Level
  span : Span
  changes : List FlagChange

/-- A pattern as far as it has been read. -/
structure Progress where
  level : Level
  groups : List OpenGroup
  /-- The names of groups so far, with where they stand. -/
  names : List (List Char × Span)

namespace Progress

/-- A pattern of which nothing has been read. -/
def start : Progress := ⟨.start false, [], []⟩

/-- Adds a part. -/
def push (progress : Progress) (item : Node) : Progress :=
  { progress with level := progress.level.push item }

/-- Begins what a parenthesis opens; `input` begins with the parenthesis. -/
def enter (progress : Progress) (input : Input) : Opening → Except Fault Progress
  | .flags changes =>
    let level := progress.level.push (.flags changes)
    .ok { progress with level := { level with verbose := verboseAfter level.verbose changes } }
  | .group changes =>
    .ok { progress with
      level := .start (verboseAfter progress.level.verbose changes)
      groups := ⟨progress.level, input.here, changes⟩ :: progress.groups }
  | .named name span =>
    match progress.names.lookup name with
    | some earlier => .error ⟨.nameRepeated, span, some earlier⟩
    | none =>
      .ok {
        level := .start progress.level.verbose
        groups := ⟨progress.level, input.here, []⟩ :: progress.groups
        names := (name, span) :: progress.names }

/-- Ends the innermost group; `input` begins with the parenthesis. -/
def leave (progress : Progress) (input : Input) : Except Fault Progress :=
  match progress.groups with
  | [] => faultAt .groupUnopened input.here
  | group :: groups =>
    .ok { progress with
      level := group.outside.push (.group group.changes progress.level.node)
      groups }

/-- The repetitions that a character stands for. -/
def repetitions : List (Char × Nat × Option Nat) := [
  ('?', 0, some 1), ('*', 0, none), ('+', 1, none)]

/-- Repeats the last part; `input` begins with the mark of repetition. -/
def repeatLast (progress : Progress) (input : Input) (bounds : Nat × Option Nat) :
    Except Fault Progress :=
  match progress.level.repeatLast bounds.1 bounds.2 with
  | some level => .ok { progress with level }
  | none => faultAt .nothingToRepeat input.nowhere

/-- Reads on by one part or mark. -/
def step (progress : Progress) (input : Input) (c : Char) : Except Fault (Progress × Input) := do
  let verbose := progress.level.verbose
  if c == '(' then
    let (opening, behind) ← readOpening verbose input
    return (← progress.enter input opening, behind)
  else if c == ')' then return (← progress.leave input, input.advance)
  else if c == '|' then
    return ({ progress with level := progress.level.bar }, input.advance)
  else if c == '[' then
    let (inner, behind) ← readClass verbose [] [] input
    return (progress.push (.bracketed inner), behind)
  else if c == '{' then
    -- Without anything to repeat the bounds do not matter.
    let _ ← progress.repeatLast input (0, none)
    let (bounds, behind) ← readBounds verbose input
    return (← progress.repeatLast input bounds, behind)
  else if c == '\\' then
    let (atom, behind) ← readEscape verbose input
    return (progress.push (.atom atom), behind)
  else
    let atom (atom : Atom) := (progress.push (.atom atom), input.advance)
    match repetitions.lookup c with
    | some bounds =>
      return (← progress.repeatLast input bounds, skipShort input.advance)
    | none =>
      if c == '.' then return atom (.any input.here)
      else if c == '^' then return atom (.anchor input.here .lineStart)
      else if c == '$' then return atom (.anchor input.here .lineEnd)
      else return atom (.literal ⟨input.here, c, false⟩)

/-- Reads to the end of the pattern. -/
def run (progress : Progress) (input : Input) : Except Fault Node :=
  let next := input.skip progress.level.verbose
  match next.rest with
  | [] =>
    match progress.groups with
    | [] => .ok progress.level.node
    | group :: _ => faultAt .groupOpen group.span
  | c :: _ =>
    match progress.step next c with
    | .error fault => .error fault
    | .ok (progress, behind) =>
      -- A part takes up at least one character, so this always holds.
      if behind.rest.length < input.rest.length then progress.run behind
      else .ok progress.level.node
termination_by input.rest.length

end Progress

/-- The expression that a text is the written form of. -/
def Node.ofText (text : List Char) : Except Fault Node :=
  Progress.start.run (.ofText text)

end PascalLint.Pattern
