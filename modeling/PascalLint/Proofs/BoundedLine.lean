import PascalLint.Analysis
import PascalLint.Proofs.BoundedMask
import PascalLint.Proofs.Parts
import PascalLint.Proofs.RuleEvidence

/-! # Words and declarations with bounded access

The words of a line, its declarations and its parameters, as they get at the characters of the line: by
columns that they have from words, from searches for a character, and from the length of the line. Each
comes out as the function of the same name on the line, without a fault. For this it is enough that
words stand in the line, and that a character that is found is at or behind the column where the search
begins.
-/

namespace PascalLint

open PascalLint.Identifier (mayStart mayContinue)

/-! ## Columns of lines -/

namespace Line

/-- A column that a search finds has the mark, and the search began at or before it. -/
theorem getElem?_of_find? {line : Line} {start column : Nat} {mark : Char}
    (found : line.find? start [mark] = some column) :
    start ≤ column ∧ column < line.masked.length ∧ line.masked[column]? = some mark := by
  rw [find?, Text.find?_eq_splitOnce?, Option.map_map] at found
  obtain ⟨⟨front, behind⟩, parted, rfl⟩ := Option.map_eq_some_iff.mp found
  obtain ⟨-, whole⟩ := Text.splitOnce?_eq_some_iff.mp parted
  have here : (line.masked.drop start)[front.length]? = some mark := by
    rw [whole]
    simp
  rw [List.getElem?_drop, Nat.add_comm] at here
  exact ⟨Nat.le_add_left .., (List.getElem?_eq_some_iff.mp here).1, here⟩

theorem stop_le_of_mem_words {line : Line} {word : Word} (found : word ∈ line.words) :
    word.stop ≤ line.masked.length :=
  (Word.standsIn_of_mem_words found).stop_le.2

end Line

namespace Bounded

/-! ## Words -/

/-- The column behind the identifier characters from a column on. -/
def runEnd (text : List Char) (start : Nat) : Bounded Nat := do
  return (← find? (has (!mayContinue ·) text) start (text.length - start)).getD text.length

theorem length_run (text : List Char) :
    (Identifier.run text).length = (text.findIdx? (!mayContinue ·)).getD text.length := by
  induction text with
  | nil => rfl
  | cons c text ih =>
    rw [Identifier.run] at ih
    rw [List.findIdx?_cons, Identifier.run, List.takeWhile_cons]
    cases mayContinue c
    · rfl
    · simp only [Bool.not_true, Bool.false_eq_true, if_false, if_true, List.length_cons, ih]
      cases text.findIdx? (!mayContinue ·) <;> rfl

theorem runEnd_append (front rest : List Char) :
    runEnd (front ++ rest) front.length = pure (front.length + (Identifier.run rest).length) := by
  have found := find?_has (!mayContinue ·) front rest []
  rw [List.append_nil] at found
  rw [runEnd, List.length_append, Nat.add_sub_cancel_left, found, pure_bind, length_run]
  cases rest.findIdx? (!mayContinue ·) <;> rfl

theorem le_of_runEnd {text : List Char} {start stop : Nat} (inside : start ≤ text.length)
    (given : runEnd text start = pure stop) : start ≤ stop := by
  obtain ⟨column?, found, same⟩ := exists_of_bind given
  obtain rfl := Except.ok.inj same
  cases column? with
  | none => exact inside
  | some column => exact (le_of_find? found).1

/-- What begins in a column, if it is a word, and the column behind it. -/
def wordAt (text : List Char) (column : Nat) : Bounded (Option Word × Nat) := do
  if mayContinue (← char text column) then
    let stop ← runEnd text (column + 1)
    if mayStart (← char text column) then return (some ⟨column, ← slice text column stop⟩, stop)
    else return (none, stop)
  else return (none, column + 1)

theorem wordAt_of_run (front : List Char) {c : Char} (rest : List Char)
    (identifier : mayContinue c = true) :
    let characters := c :: Identifier.run rest
    wordAt (front ++ c :: rest) front.length =
      pure (if mayStart c then some ⟨front.length, characters⟩ else none,
        front.length + characters.length) := by
  have stop := runEnd_append (front ++ [c]) rest
  rw [List.append_assoc, List.singleton_append, List.length_append, List.length_singleton] at stop
  have word := slice_append front (c :: Identifier.run rest) (rest.drop (Identifier.run rest).length)
  rw [List.cons_append, Identifier.run, Text.takeWhile_append_drop, ← Identifier.run,
    List.length_cons] at word
  rw [wordAt, char_append, pure_bind, if_pos identifier, stop, pure_bind, pure_bind]
  cases mayStart c
  · simp [Nat.add_assoc, Nat.add_comm 1]
  · rw [if_pos rfl, Nat.add_assoc, Nat.add_comm 1, word]
    rfl

theorem wordAt_of_other (front : List Char) {c : Char} (rest : List Char)
    (other : ¬mayContinue c = true) :
    wordAt (front ++ c :: rest) front.length = pure (none, front.length + 1) := by
  rw [wordAt, char_append, pure_bind, if_neg other]

theorem lt_of_wordAt {text : List Char} {column next : Nat} {word : Option Word}
    (inside : column < text.length) (given : wordAt text column = pure (word, next)) :
    column < next := by
  obtain ⟨c, -, given⟩ := exists_of_bind given
  split at given
  next =>
    obtain ⟨stop, run, given⟩ := exists_of_bind given
    have behind := le_of_runEnd inside run
    obtain ⟨d, -, given⟩ := exists_of_bind given
    split at given
    next =>
      obtain ⟨characters, -, given⟩ := exists_of_bind given
      obtain ⟨-, rfl⟩ := Prod.mk.inj (Except.ok.inj given)
      exact behind
    next =>
      obtain ⟨-, rfl⟩ := Prod.mk.inj (Except.ok.inj given)
      exact behind
  next =>
    obtain ⟨-, rfl⟩ := Prod.mk.inj (Except.ok.inj given)
    exact Nat.lt_succ_self column

/-- The words of a text from a column on. -/
def wordsFrom (text : List Char) (column : Nat) : Bounded (List Word) :=
  if _ : column < text.length then
    match _ : wordAt text column with
    | .error fault => .error fault
    | .ok (word, next) => do return word.toList ++ (← wordsFrom text next)
  else .ok []
termination_by text.length - column
decreasing_by
  rename_i inside given
  have behind := lt_of_wordAt inside given
  omega

theorem wordsFrom_of_lt {text : List Char} {column : Nat} (more : column < text.length) :
    wordsFrom text column = (do
      let found ← wordAt text column
      return found.1.toList ++ (← wordsFrom text found.2)) := by
  rw [wordsFrom, dif_pos more]
  split <;> simp only [*] <;> rfl

theorem append_run_append (front : List Char) (c : Char) (rest : List Char) :
    front ++ c :: Identifier.run rest ++ rest.drop (Identifier.run rest).length =
      front ++ c :: rest := by
  rw [List.append_assoc, List.cons_append, Identifier.run, Text.takeWhile_append_drop]

theorem wordsFrom_append (front text : List Char) :
    wordsFrom (front ++ text) front.length = pure (Word.ofText front.length text) := by
  generalize same : front.length = column
  -- A run of identifier characters goes to the front as a whole, whether it is a word or a number.
  fun_induction Word.ofText column text generalizing front with
  | case1 column =>
    rw [wordsFrom, dif_neg (by simp [same])]
    rfl
  | case2 column c rest identifier characters behind first ih =>
    subst same
    have later := ih (front ++ characters) List.length_append
    rw [append_run_append] at later
    rw [wordsFrom_of_lt (by simp), wordAt_of_run front rest identifier, pure_bind, later, if_pos first]
    rfl
  | case3 column c rest identifier characters behind first ih =>
    subst same
    have later := ih (front ++ characters) List.length_append
    rw [append_run_append] at later
    rw [wordsFrom_of_lt (by simp), wordAt_of_run front rest identifier, pure_bind, later, if_neg first]
    rfl
  | case4 column c rest other ih =>
    subst same
    have later := ih (front ++ [c]) List.length_append
    rw [List.append_assoc, List.singleton_append] at later
    rw [wordsFrom_of_lt (by simp), wordAt_of_other front rest other, pure_bind, later]
    rfl

/-- The words of a line. -/
def words (line : Line) : Bounded (List Word) :=
  wordsFrom line.masked 0

@[simp]
theorem words_eq (line : Line) : words line = pure line.words :=
  wordsFrom_append [] line.masked

/-! ## Lines -/

/-- The word that the line begins with, apart from white space. -/
def leadingWord? (line : Line) : Bounded (Option Word) := do
  return (← words line).head?.filter (·.start == Text.indent line.masked)

/-- The keyword that the line begins with, apart from white space. -/
def leadingKeyword? (line : Line) : Bounded (Option Keyword) := do
  return (← leadingWord? line).bind (·.keyword?)

/-- The first column behind a keyword that leads the line, and the first column of the line if
    the keyword does not lead it. -/
def startBehind (line : Line) (keyword : Keyword) : Bounded Nat := do
  match ← leadingWord? line with
  | some word => return if word.keyword? = some keyword then word.stop else 0
  | none => return 0

@[simp]
theorem leadingWord?_eq (line : Line) : leadingWord? line = pure line.leadingWord? := by
  rw [leadingWord?, words_eq, pure_bind]
  rfl

@[simp]
theorem leadingKeyword?_eq (line : Line) : leadingKeyword? line = pure line.leadingKeyword? := by
  rw [leadingKeyword?, leadingWord?_eq, pure_bind]
  rfl

@[simp]
theorem startBehind_eq (line : Line) (keyword : Keyword) :
    startBehind line keyword = pure (line.startBehind keyword) := by
  rw [startBehind, leadingWord?_eq, pure_bind, Line.startBehind]
  cases line.leadingWord? <;> rfl

theorem slice_masked {line : Line} {start stop : Nat} (order : start ≤ stop)
    (inside : stop ≤ line.masked.length) : slice line.masked start stop = pure (line.slice start stop) :=
  slice_eq order inside

/-! ## Declarations -/

/-- The declaration that a line of the given part is. -/
def declaration? (line : Line) : Part → Bounded (Option Declaration)
  | .constantPart => do
    let start ← startBehind line (.reserved .constWord)
    match line.find? start ['='] with
    | none => return none
    | some equals => return some (.constant (← trimmed line.masked start equals))
  | .variablePart => do
    let start ← startBehind line (.reserved .varWord)
    match line.find? start [':'] with
    | none => return none
    | some colon =>
      let listed ← slice line.masked start colon
      return some (.variableList (((Text.splitOn ',' listed).map Text.trim).filter (· ≠ [])))
  | .otherPart | .statementPart => return none

/-- The text between the parentheses of a heading, up to the end of the line if the right one is
    missing. -/
def parameterList? (line : Line) : Bounded (Option (List Char)) := do
  match line.find? 0 ['('] with
  | none => return none
  | some left =>
    return some (← slice line.masked (left + 1)
      ((line.find? left [')']).getD line.masked.length))

/-- The parameters that a line declares, if it is a heading. -/
def parameters (line : Line) : Bounded (List (List Char)) := do
  match ← leadingKeyword? line with
  | some .procedureWord | some .functionWord =>
    match ← parameterList? line with
    | some text => return (Text.splitOn ';' text).flatMap Line.groupParameters
    | none => return []
  | _ => return []

@[simp]
theorem declaration?_eq (line : Line) (part : Part) :
    declaration? line part = pure (line.declaration? part) := by
  cases part with
  | constantPart =>
    simp only [declaration?, Line.declaration?, startBehind_eq, pure_bind]
    cases found : line.find? (line.startBehind (.reserved .constWord)) ['='] with
    | none => rfl
    | some equals =>
      obtain ⟨order, inside, -⟩ := Line.getElem?_of_find? found
      simp only [trimmed_eq order (Nat.le_of_lt inside), pure_bind, Option.map_some]
      rfl
  | variablePart =>
    simp only [declaration?, Line.declaration?, startBehind_eq, pure_bind]
    cases found : line.find? (line.startBehind (.reserved .varWord)) [':'] with
    | none => rfl
    | some colon =>
      obtain ⟨order, inside, -⟩ := Line.getElem?_of_find? found
      simp only [slice_masked order (Nat.le_of_lt inside), pure_bind, Option.map_some]
  | otherPart => rfl
  | statementPart => rfl

theorem parameterList?_eq (line : Line) : parameterList? line = pure line.parameterList? := by
  rw [parameterList?, Line.parameterList?]
  cases opened : line.find? 0 ['('] with
  | none => rfl
  | some left =>
    obtain ⟨-, inside, parenthesis⟩ := Line.getElem?_of_find? opened
    -- The right parenthesis is looked for from the left one on, but is not the left one.
    have bounds : left + 1 ≤ (line.find? left [')']).getD line.masked.length ∧
        (line.find? left [')']).getD line.masked.length ≤ line.masked.length := by
      cases closed : line.find? left [')'] with
      | none => exact ⟨inside, Nat.le_refl _⟩
      | some right =>
        obtain ⟨order, inside, closing⟩ := Line.getElem?_of_find? closed
        refine ⟨Nat.lt_of_le_of_ne order ?_, Nat.le_of_lt inside⟩
        rintro rfl
        rw [parenthesis] at closing
        cases closing
    simp only [slice_masked bounds.1 bounds.2, pure_bind, Option.map_some]

@[simp]
theorem parameters_eq (line : Line) : parameters line = pure line.parameters := by
  rw [parameters, leadingKeyword?_eq, pure_bind, Line.parameters, parameterList?_eq]
  generalize line.leadingKeyword? = keyword
  by_cases procedure : keyword = some .procedureWord
  · subst procedure
    cases line.parameterList? <;> rfl
  · by_cases function : keyword = some .functionWord
    · subst function
      cases line.parameterList? <;> rfl
    · split <;> simp_all

end Bounded

end PascalLint
