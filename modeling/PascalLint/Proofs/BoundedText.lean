import Mathlib.Data.List.Induction
import PascalLint.Text.Blank

/-! # Bounded access to text

Characters and parts of a text by their columns, as an array gives them: there is a value only if the
columns are in the text, and otherwise a fault. What searches a text column by column is written with
these accesses, and comes out as the function of the same name on the text itself, without a fault.
The searches go on from where they are, so what precedes that column is a list in front (`front`), of
which the length is the column.
-/

namespace PascalLint

/-- What goes wrong in an access out of bounds. -/
inductive Fault
  /-- A text of the given length has no character in the column. -/
  | column (column length : Nat)
  /-- A text of the given length has no such range of columns. -/
  | range (start stop length : Nat)
  /-- One is taken from zero. -/
  | underflow
  /-- No character begins at the byte, nor is it the end of the text. -/
  | boundary (offset : Nat)
deriving DecidableEq, Repr

/-- The result of accesses of which each may be out of bounds. -/
abbrev Bounded (α : Type) :=
  Except Fault α

namespace Bounded

/-- Computations one after the other have a value only if each has one. -/
theorem exists_of_bind {α β : Type} {first : Bounded α} {second : α → Bounded β} {b : β}
    (given : (first >>= second) = pure b) : ∃ a, first = pure a ∧ second a = pure b := by
  cases first with
  | error fault => cases given
  | ok a => exact ⟨a, rfl, given⟩

/-! ## Accesses -/

/-- The character in a column. -/
def char (text : List Char) (column : Nat) : Bounded Char :=
  match text[column]? with
  | some c => pure c
  | none => throw (.column column text.length)

/-- The characters from one column up to another, which is not included. -/
def slice (text : List Char) (start stop : Nat) : Bounded (List Char) :=
  if start ≤ stop ∧ stop ≤ text.length then pure ((text.take stop).drop start)
  else throw (.range start stop text.length)

/-- The number before a number. -/
def pred : Nat → Bounded Nat
  | 0 => throw .underflow
  | n + 1 => pure n

theorem char_eq {text : List Char} {column : Nat} {c : Char} (here : text[column]? = some c) :
    char text column = pure c := by
  rw [char, here]

@[simp]
theorem char_append (front : List Char) (c : Char) (rest : List Char) :
    char (front ++ c :: rest) front.length = pure c :=
  char_eq (by simp)

example : slice ['a', 'b'] 2 1 = throw (.range 2 1 2) := rfl

theorem slice_eq {text : List Char} {start stop : Nat} (order : start ≤ stop)
    (inside : stop ≤ text.length) : slice text start stop = pure ((text.take stop).drop start) :=
  if_pos ⟨order, inside⟩

@[simp]
theorem slice_append (front part behind : List Char) :
    slice (front ++ (part ++ behind)) front.length (front.length + part.length) = pure part := by
  rw [slice_eq (by omega) (by simp)]
  simp [List.take_append]

theorem slice_behind (front part : List Char) :
    slice (front ++ part) front.length (front ++ part).length = pure part := by
  have whole := slice_append front part []
  rwa [List.append_nil, ← List.length_append] at whole

/-- A range of columns divides a text into what is before it, in it, and behind it. -/
theorem exists_range {text : List Char} {start stop : Nat} (order : start ≤ stop)
    (inside : stop ≤ text.length) : ∃ front behind,
      text = front ++ ((text.take stop).drop start ++ behind) ∧ front.length = start ∧
        front.length + ((text.take stop).drop start).length = stop := by
  refine ⟨text.take start, text.drop stop, ?_, ?_, ?_⟩
  · have first : text.take start = (text.take stop).take start := by
      rw [List.take_take, Nat.min_eq_left order]
    rw [first, ← List.append_assoc, List.take_append_drop, List.take_append_drop]
  · rw [List.length_take, Nat.min_eq_left (Nat.le_trans order inside)]
  · rw [List.length_take, List.length_drop, List.length_take]
    omega

/-! ## Searches -/

/-- The first of `count` columns, from `start` on, of which `p` holds. -/
def find? (p : Nat → Bounded Bool) (start : Nat) : Nat → Bounded (Option Nat)
  | 0 => pure none
  | count + 1 => do
    if ← p start then pure (some start) else find? p (start + 1) count

/-- The last of `count` columns, from `start` on, of which `p` holds. -/
def findLast? (p : Nat → Bounded Bool) (start : Nat) : Nat → Bounded (Option Nat)
  | 0 => pure none
  | count + 1 => do
    if ← p (start + count) then pure (some (start + count)) else findLast? p start count

/-- Those of `count` columns, from `start` on, of which `p` holds. -/
def filter (p : Nat → Bounded Bool) (start : Nat) : Nat → Bounded (List Nat)
  | 0 => pure []
  | count + 1 => do
    let holds ← p start
    let later ← filter p (start + 1) count
    pure (if holds then start :: later else later)

/-- Holds if the character in a column has a property. -/
def has (q : Char → Bool) (text : List Char) (column : Nat) : Bounded Bool := do
  return q (← char text column)

/-- A column that a search finds is one of those that it looks at. -/
theorem le_of_find? {p : Nat → Bounded Bool} {start count column : Nat}
    (found : find? p start count = pure (some column)) : start ≤ column ∧ column < start + count := by
  induction count generalizing start with
  | zero => cases found
  | succ count ih =>
    rw [find?] at found
    cases holds : p start with
    | error fault =>
      rw [holds] at found
      cases found
    | ok holds' =>
      rw [holds] at found
      cases holds' with
      | true =>
        obtain rfl : start = column := Option.some.inj (Except.ok.inj found)
        omega
      | false =>
        have later := ih found
        omega

theorem has_append (q : Char → Bool) (front : List Char) (c : Char) (rest : List Char) :
    has q (front ++ c :: rest) front.length = pure (q c) := by
  rw [has, char_append, pure_bind]

/-- Holds if there is a character before a column and it has a property. -/
def precededBy (q : Char → Bool) (text : List Char) (column : Nat) : Bounded Bool := do
  if column == 0 then return false else return q (← char text (← pred column))

theorem precededBy_append (q : Char → Bool) (front rest : List Char) :
    precededBy q (front ++ rest) front.length = pure (front.getLast?.any q) := by
  induction front using List.reverseRecOn with
  | nil => rfl
  | append_singleton front c =>
    have more : ((front ++ [c]).length == 0) = false := by simp
    rw [precededBy, more, List.length_append, List.length_singleton, pred, List.append_assoc,
      List.getLast?_concat]
    simp

/-- Holds for a column with a mark, unless a character with a property stands before it. -/
def isMark (mark : Char) (q : Char → Bool) (text : List Char) (column : Nat) : Bounded Bool := do
  if (← char text column) == mark then return !(← precededBy q text column) else return false

theorem isMark_append (mark : Char) (q : Char → Bool) (front : List Char) (c : Char)
    (rest : List Char) :
    isMark mark q (front ++ c :: rest) front.length = pure (c == mark && !front.getLast?.any q) := by
  rw [isMark, char_append, pure_bind, precededBy_append]
  cases c == mark <;> rfl

/-- A search for a character from a column on is one in the text from there on. -/
theorem find?_has (q : Char → Bool) (front part behind : List Char) :
    find? (has q (front ++ (part ++ behind))) front.length part.length =
      pure ((part.findIdx? q).map (front.length + ·)) := by
  induction part generalizing front with
  | nil => rfl
  | cons c part ih =>
    have later := ih (front ++ [c])
    rw [List.append_assoc, List.singleton_append, List.length_append, List.length_singleton] at later
    rw [List.length_cons, find?, List.cons_append, has_append, pure_bind, later, List.findIdx?_cons]
    cases q c
    · simp [Function.comp_def, Nat.add_comm, Nat.add_left_comm]
    · rfl

end Bounded

/-! ## Trimming -/

namespace Text

open PascalLint.Unicode (isWhiteSpace)

theorem isBlank_concat (text : List Char) (c : Char) :
    isBlank (text ++ [c]) = (isBlank text && isWhiteSpace c) := by
  simp [isBlank]

theorem trimEnd_concat (text : List Char) (c : Char) :
    trimEnd (text ++ [c]) = if isWhiteSpace c then trimEnd text else text ++ [c] := by
  rw [trimEnd, List.reverse_append, List.reverse_singleton, List.singleton_append, List.dropWhile_cons]
  split
  · rfl
  · simp

theorem trimEnd_cons_of_solid (c : Char) {text : List Char} (solid : isBlank text = false) :
    trimEnd (c :: text) = c :: trimEnd text := by
  induction text using List.reverseRecOn with
  | nil => cases solid
  | append_singleton text d ih =>
    rw [← List.cons_append, trimEnd_concat, trimEnd_concat]
    by_cases white : isWhiteSpace d = true
    · rw [isBlank_concat, white, Bool.and_true] at solid
      rw [if_pos white, if_pos white, ih solid]
    · rw [if_neg white, if_neg white, List.cons_append]

theorem length_trimEnd_pos {text : List Char} (solid : isBlank text = false) :
    0 < (trimEnd text).length := by
  induction text using List.reverseRecOn with
  | nil => cases solid
  | append_singleton text c ih =>
    rw [trimEnd_concat]
    split
    next white =>
      rw [isBlank_concat, white, Bool.and_true] at solid
      exact ih solid
    next => simp

/-- What is trimmed at its end begins with what is trimmed at its front as well. -/
theorem takeWhile_append_trim {text : List Char} (solid : isBlank text = false) :
    text.takeWhile isWhiteSpace ++ trim text = trimEnd text := by
  induction text with
  | nil => cases solid
  | cons c text ih =>
    by_cases white : isWhiteSpace c = true
    · rw [isBlank_cons, white, Bool.true_and] at solid
      rw [List.takeWhile_cons_of_pos white, List.cons_append, trimEnd_cons_of_solid c solid, ← ih solid,
        trim, trimStart, List.dropWhile_cons_of_pos white]
      rfl
    · rw [List.takeWhile_cons_of_neg white, List.nil_append, trim, trimStart,
        List.dropWhile_cons_of_neg white]

theorem indent_add_length_trim {text : List Char} (solid : isBlank text = false) :
    indent text + (trim text).length = (trimEnd text).length := by
  rw [← takeWhile_append_trim solid, List.length_append, indent]

theorem trim_ne_nil {text : List Char} (solid : isBlank text = false) : trim text ≠ [] := by
  induction text with
  | nil => cases solid
  | cons c text ih =>
    by_cases white : isWhiteSpace c = true
    · rw [isBlank_cons, white, Bool.true_and] at solid
      rw [trim, trimStart, List.dropWhile_cons_of_pos white]
      exact ih solid
    · rw [trim, trimStart, List.dropWhile_cons_of_neg white]
      exact List.ne_nil_of_length_pos (length_trimEnd_pos solid)

theorem trimStart_of_blank {text : List Char} (blank : isBlank text = true) : trimStart text = [] := by
  induction text with
  | nil => rfl
  | cons c text ih =>
    obtain ⟨white, blank⟩ := Bool.and_eq_true_iff.mp blank
    rw [trimStart, List.dropWhile_cons_of_pos white]
    exact ih blank

theorem trim_of_blank {text : List Char} (blank : isBlank text = true) : trim text = [] := by
  rw [trim, trimStart_of_blank blank]
  rfl

theorem exists_append_of_trimEnd (text : List Char) : ∃ behind, text = trimEnd text ++ behind := by
  induction text using List.reverseRecOn with
  | nil => exact ⟨[], rfl⟩
  | append_singleton text c ih =>
    rw [trimEnd_concat]
    split
    next =>
      obtain ⟨behind, same⟩ := ih
      exact ⟨behind ++ [c], by rw [← List.append_assoc, ← same]⟩
    next => exact ⟨[], by simp⟩

end Text

namespace Bounded

open PascalLint.Unicode (isWhiteSpace)

/-- Holds if the character in a column is not white space. -/
abbrev isSolid (text : List Char) : Nat → Bounded Bool :=
  has (!isWhiteSpace ·) text

/-- The columns of a range without the white space around them, if there are others. -/
def trim (text : List Char) (start stop : Nat) : Bounded (Option (Nat × Nat)) :=
  if start ≤ stop then do
    match ← find? (isSolid text) start (stop - start) with
    | none => pure none
    | some first =>
      match ← findLast? (isSolid text) start (stop - start) with
      | none => pure none
      | some last => pure (some (first, last + 1))
  else throw (.range start stop text.length)

theorem find?_isSolid (front part behind : List Char) :
    find? (isSolid (front ++ (part ++ behind))) front.length part.length =
      pure (if Text.isBlank part then none else some (front.length + Text.indent part)) := by
  have first : part.findIdx? (!isWhiteSpace ·) =
      if Text.isBlank part then none else some (Text.indent part) := by
    induction part with
    | nil => rfl
    | cons c part ih =>
      rw [List.findIdx?_cons, ih, Text.isBlank_cons]
      cases white : isWhiteSpace c <;> simp [white, Text.indent, apply_ite]
  rw [isSolid, find?_has, first]
  split <;> rfl

theorem findLast?_isSolid (front part behind : List Char) :
    findLast? (isSolid (front ++ (part ++ behind))) front.length part.length =
      pure (if Text.isBlank part then none
        else some (front.length + ((Text.trimEnd part).length - 1))) := by
  induction part using List.reverseRecOn generalizing behind with
  | nil => rfl
  | append_singleton part c ih =>
    have here : isSolid (front ++ (part ++ [c] ++ behind)) (front.length + part.length) =
        pure (!isWhiteSpace c) := by
      have here := has_append (!isWhiteSpace ·) (front ++ part) c behind
      simpa only [List.append_assoc, List.singleton_append, List.length_append] using here
    have later := ih ([c] ++ behind)
    rw [← List.append_assoc part] at later
    rw [List.length_append, List.length_singleton, findLast?, here, pure_bind, later,
      Text.isBlank_concat, Text.trimEnd_concat]
    cases white : isWhiteSpace c <;> simp

theorem trim_append (front part behind : List Char) :
    trim (front ++ (part ++ behind)) front.length (front.length + part.length) =
      pure (if Text.isBlank part then none
        else some (front.length + Text.indent part, front.length + (Text.trimEnd part).length)) := by
  rw [trim, if_pos (Nat.le_add_right _ _), Nat.add_sub_cancel_left, find?_isSolid, pure_bind]
  cases solid : Text.isBlank part with
  | true => rfl
  | false =>
    have positive := Text.length_trimEnd_pos solid
    simp only [Bool.false_eq_true, if_false, findLast?_isSolid, solid, pure_bind]
    congr 3
    omega

theorem trim_behind (front part : List Char) :
    trim (front ++ part) front.length (front ++ part).length =
      pure (if Text.isBlank part then none
        else some (front.length + Text.indent part, front.length + (Text.trimEnd part).length)) := by
  have whole := trim_append front part []
  rwa [List.append_nil, ← List.length_append] at whole

/-- The columns that are left of a range after trimming have the text of the range, trimmed. -/
theorem slice_trim (front : List Char) {part : List Char} (behind : List Char)
    (solid : Text.isBlank part = false) :
    slice (front ++ (part ++ behind)) (front.length + Text.indent part)
      (front.length + (Text.trimEnd part).length) = pure (Text.trim part) := by
  obtain ⟨trailing, whole⟩ := Text.exists_append_of_trimEnd part
  have lead := Text.takeWhile_append_trim solid
  have here := slice_append (front ++ part.takeWhile isWhiteSpace) (Text.trim part) (trailing ++ behind)
  have same : front ++ part.takeWhile isWhiteSpace ++ (Text.trim part ++ (trailing ++ behind)) =
      front ++ (part ++ behind) := by
    rw [List.append_assoc, ← List.append_assoc (part.takeWhile _), lead,
      ← List.append_assoc (Text.trimEnd part), ← whole]
  have stop : (front ++ part.takeWhile isWhiteSpace).length + (Text.trim part).length =
      front.length + (Text.trimEnd part).length := by
    rw [← lead, List.length_append, List.length_append, Nat.add_assoc]
  rw [same, stop, List.length_append] at here
  exact here

/-- The text of a range without the white space around it. -/
def trimmed (text : List Char) (start stop : Nat) : Bounded (List Char) := do
  match ← trim text start stop with
  | none => return []
  | some (first, last) => slice text first last

theorem trimmed_eq {text : List Char} {start stop : Nat} (order : start ≤ stop)
    (inside : stop ≤ text.length) :
    trimmed text start stop = pure (Text.trim ((text.take stop).drop start)) := by
  obtain ⟨front, behind, whole, rfl, stops⟩ := exists_range order inside
  generalize (text.take stop).drop front.length = part at whole stops
  subst stops
  rw [trimmed, whole, trim_append, pure_bind]
  cases solid : Text.isBlank part with
  | true => rw [if_pos rfl, Text.trim_of_blank solid]
  | false => exact slice_trim front behind solid

end Bounded

end PascalLint
