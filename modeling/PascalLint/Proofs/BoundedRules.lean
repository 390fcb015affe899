import PascalLint.Proofs.BoundedLine

/-! # Line rules with bounded access

The line rules as they get at the characters of a line. Each comes out as the rule of the same name,
without a fault. What this rests on is different for each rule: a word ends in its line, the partner of
a keyword begins behind it, the labels of a line lie between the commas before a colon, and a line and
its masked form are of one length. Triple dots and the nesting of blocks are found without an access.
-/

namespace PascalLint.Bounded

/-! ## Blocks -/

namespace Blocks

/-- The open blocks behind a line. -/
def behind (line : Line) (blocks : List Block) : Bounded (List Block) := do
  return (Rule.Blocks.follow line blocks (← words line)).1

/-- Holds if `:=` follows the word. -/
def isAssignmentTarget (line : Line) (word : Word) : Bounded Bool := do
  match ← trim line.masked word.stop line.masked.length with
  | none => return false
  | some (first, _) =>
    return [':', '='].isPrefixOf (← slice line.masked first line.masked.length)

/-- The diagnostic for a leading word that begins like `end` and is not a proper one. -/
def malformedEnd (line : Line) : Bounded (List Diagnostic) := do
  match ← leadingWord? line with
  | none => return []
  | some word =>
    if Reserved.endWord.spelling.isPrefixOf word.text then
      if ← isAssignmentTarget line word then return []
      else if word.keyword? == some (.reserved .endWord) && Rule.Blocks.standsAlone line word then
        return []
      else return [line.diagnostic .malformedEnd word.start]
    else return []

/-- The diagnostics for a line inside the given blocks. -/
def check (blocks : List Block) (line : Line) : Bounded (List Diagnostic) := do
  return (← malformedEnd line) ++ (Rule.Blocks.follow line blocks (← words line)).2

theorem behind_eq (line : Line) (blocks : List Block) :
    behind line blocks = pure (Rule.Blocks.behind line blocks) := by
  rw [behind, words_eq, pure_bind, Rule.Blocks.behind]

theorem isAssignmentTarget_eq {line : Line} {word : Word} (inside : word.stop ≤ line.masked.length) :
    isAssignmentTarget line word = pure (Rule.Blocks.isAssignmentTarget line word) := by
  obtain ⟨front, rest, whole, stop⟩ : ∃ front rest, line.masked = front ++ rest ∧
      front.length = word.stop :=
    ⟨_, _, (List.take_append_drop word.stop line.masked).symm, List.length_take_of_le inside⟩
  rw [isAssignmentTarget, Rule.Blocks.isAssignmentTarget, ← stop, whole, List.drop_left, trim_behind,
    pure_bind]
  cases solid : Text.isBlank rest with
  | true => rw [if_pos rfl, Text.trimStart_of_blank solid]; rfl
  | false =>
    have indent : Text.indent rest ≤ rest.length := (List.takeWhile_sublist _).length_le
    have target : slice (front ++ rest) (front.length + Text.indent rest) (front ++ rest).length =
        pure (Text.trimStart rest) := by
      rw [slice_eq (by simpa using indent) (Nat.le_refl _), List.take_length,
        List.drop_length_add_append, Text.trimStart_eq_drop]
    simp only [Bool.false_eq_true, if_false, target, pure_bind]

theorem malformedEnd_eq (line : Line) : malformedEnd line = pure (Rule.Blocks.malformedEnd line) := by
  rw [malformedEnd, leadingWord?_eq, pure_bind, Rule.Blocks.malformedEnd]
  cases leading : line.leadingWord? with
  | none => rfl
  | some word =>
    have inside := Line.stop_le_of_mem_words (Line.mem_words_of_leadingWord? leading)
    simp only [isAssignmentTarget_eq inside, pure_bind]
    cases Reserved.endWord.spelling.isPrefixOf word.text <;>
      cases Rule.Blocks.isAssignmentTarget line word <;>
      cases word.keyword? == some (.reserved .endWord) && Rule.Blocks.standsAlone line word <;> rfl

@[simp]
theorem check_eq (blocks : List Block) (line : Line) :
    check blocks line = pure (Rule.Blocks.check blocks line) := by
  rw [check, malformedEnd_eq, pure_bind, words_eq, pure_bind, Rule.Blocks.check]

end Blocks

/-! ## Case labels -/

namespace CaseLabels

open Rule.CaseLabels (items isLabel)

/-- The line of the `case` that the labels behind a line belong to, given that of the labels
    before the line. -/
def behind (line : Line) (caseLine : Option Nat) : Bounded (Option Nat) := do
  match ← leadingWord? line with
  | none => return caseLine
  | some word =>
    match word.keyword? with
    | some (.reserved .caseWord) => return some line.number
    | some (.reserved .endWord) =>
      match line.masked[word.stop]? with
      | some ';' | some '.' => return none
      | _ => return caseLine
    | _ => return caseLine

/-- Holds for a column with a colon that is not part of an assignment. -/
def isColon (text : List Char) (column : Nat) : Bounded Bool := do
  return (← char text column) == ':' && text[column + 1]? != some '='

/-- The column of the first colon that is not part of an assignment. -/
def colon? (line : Line) : Bounded (Option Nat) :=
  find? (isColon line.masked) 0 line.masked.length

/-- The diagnostics for the labels from a column on, of which each ends at one of the columns
    `stops`. -/
def checkLabels (scope : Scope) (line : Line) (start : Nat) : List Nat → Bounded (List Diagnostic)
  | [] => return []
  | stop :: stops => do
    let here ← match ← trim line.masked start stop with
      | none => pure []
      | some (first, last) => do
        let label ← slice line.raw first last
        pure (if isLabel scope label then [] else [line.diagnostic .badCaseLabel first])
    return here ++ (← checkLabels scope line (stop + 1) stops)

/-- The diagnostics for the labels of a line. -/
def check (scope : Scope) (line : Line) : Bounded (List Diagnostic) := do
  match ← colon? line with
  | none => return []
  | some colon =>
    let commas ← filter (has (· == ',') line.masked) 0 colon
    checkLabels scope line 0 (commas ++ [colon])

theorem behind_eq (line : Line) (caseLine : Option Nat) :
    behind line caseLine = pure (Rule.CaseLabels.behind line caseLine) := by
  rw [behind, leadingWord?_eq, pure_bind, Rule.CaseLabels.behind]
  cases line.leadingWord? with
  | none => rfl
  | some word =>
    simp only
    split <;> simp_all
    split <;> simp_all

theorem isColon_append (front : List Char) (c : Char) (rest : List Char) :
    isColon (front ++ c :: rest) front.length = pure (c == ':' && rest.head? != some '=') := by
  have next : (front ++ c :: rest)[front.length + 1]? = rest.head? := by
    rw [List.getElem?_append_right (by omega), List.head?_eq_getElem?]
    simp
  rw [isColon, char_append, pure_bind, next]

theorem colon?_cons (c : Char) (rest : List Char) :
    Rule.CaseLabels.colon? (c :: rest) = if c == ':' && rest.head? != some '=' then some 0
      else (Rule.CaseLabels.colon? rest).map (· + 1) := by
  by_cases colon : c = ':'
  · subst colon
    by_cases equals : rest.head? = some '=' <;> simp [Rule.CaseLabels.colon?, equals]
  · simp [Rule.CaseLabels.colon?, colon]

theorem colon?_append (front rest : List Char) :
    find? (isColon (front ++ rest)) front.length rest.length =
      pure ((Rule.CaseLabels.colon? rest).map (front.length + ·)) := by
  induction rest generalizing front with
  | nil => rfl
  | cons c rest ih =>
    have later := ih (front ++ [c])
    rw [List.append_assoc, List.singleton_append, List.length_append, List.length_singleton] at later
    rw [List.length_cons, find?, isColon_append, pure_bind, later, colon?_cons]
    split
    · rfl
    · simp [Function.comp_def, Nat.add_assoc, Nat.add_comm 1]

/-- The columns at which the parts of a text end, of which the first begins at a column and each
    other one behind a separator. -/
def stops (column : Nat) : List (List Char) → List Nat
  | [] => []
  | part :: parts => (column + part.length) :: stops (column + part.length + 1) parts

theorem filter_commas (front text behind : List Char) :
    ∃ commas, filter (has (· == ',') (front ++ (text ++ behind))) front.length text.length =
        pure commas ∧
      commas ++ [front.length + text.length] = stops front.length (Text.splitOn ',' text) := by
  induction text generalizing front with
  | nil => exact ⟨[], rfl, rfl⟩
  | cons c text ih =>
    obtain ⟨commas, later, last⟩ := ih (front ++ [c])
    rw [List.length_append, List.length_singleton] at later last
    rw [List.append_assoc, List.singleton_append] at later
    rw [List.length_cons, filter, List.cons_append, has_append, pure_bind, later, pure_bind,
      Text.splitOn]
    by_cases comma : c = ','
    · refine ⟨front.length :: commas, by simp [comma], ?_⟩
      rw [if_pos comma, stops, List.length_nil, Nat.add_zero, ← last]
      simp [Nat.add_assoc, Nat.add_comm 1]
    · refine ⟨commas, by simp [comma], ?_⟩
      rw [if_neg comma]
      obtain ⟨part, parts, parted⟩ := List.exists_cons_of_ne_nil (Text.splitOn_ne_nil ',' text)
      rw [parted] at last ⊢
      simp only [stops, List.length_cons] at last ⊢
      simpa [Nat.add_assoc, Nat.add_comm 1, Nat.add_left_comm] using last

/-- The part of a text that its next label is taken from, and what the parts behind it are taken
    from. -/
theorem exists_of_intercalate (part : List Char) (parts : List (List Char)) (behind : List Char) :
    ∃ more, [','].intercalate (part :: parts) ++ behind = part ++ more ∧
      (parts ≠ [] → more = ',' :: ([','].intercalate parts ++ behind)) := by
  cases parts with
  | nil => exact ⟨behind, by simp, fun some => absurd rfl some⟩
  | cons next parts =>
    exact ⟨',' :: ([','].intercalate (next :: parts) ++ behind), by simp [List.intercalate_cons_cons],
      fun _ => rfl⟩

/-- The diagnostics for those of some parts of a line, given by column and length, that are no
    labels. -/
def badLabels (scope : Scope) (line : Line) (labels : List (Nat × Nat)) : List Diagnostic :=
  (labels.filter fun (start, length) =>
    !isLabel scope ((line.raw.drop start).take length)).map fun (start, _) =>
      line.diagnostic .badCaseLabel start

theorem badLabels_cons (scope : Scope) (line : Line) (start length : Nat)
    (labels : List (Nat × Nat)) :
    badLabels scope line ((start, length) :: labels) =
      (if isLabel scope ((line.raw.drop start).take length) then []
        else [line.diagnostic .badCaseLabel start]) ++ badLabels scope line labels := by
  simp only [badLabels, List.filter_cons]
  cases isLabel scope ((line.raw.drop start).take length) <;> rfl

theorem checkLabels_eq {scope : Scope} {line : Line} (same : line.raw.length = line.masked.length)
    {front behind : List Char} {parts : List (List Char)}
    (whole : line.masked = front ++ ([','].intercalate parts ++ behind)) :
    checkLabels scope line front.length (stops front.length parts) =
      pure (badLabels scope line (items front.length parts)) := by
  induction parts generalizing front with
  | nil => rfl
  | cons part parts ih =>
    obtain ⟨more, first, others⟩ := exists_of_intercalate part parts behind
    -- The part and its comma are in front of the other parts, if there are others.
    have later : checkLabels scope line (front.length + part.length + 1)
          (stops (front.length + part.length + 1) parts) =
        pure (badLabels scope line (items (front.length + part.length + 1) parts)) := by
      cases parts with
      | nil => rfl
      | cons next parts =>
        have here := @ih (front ++ part ++ [','])
        rw [List.length_append, List.length_append, List.length_singleton] at here
        apply here
        rw [whole, first, others (List.cons_ne_nil _ _)]
        simp
    rw [first] at whole
    rw [stops, checkLabels, later, whole, trim_append, pure_bind, items]
    cases solid : Text.isBlank part with
    | true => rfl
    | false =>
      have trims := Text.indent_add_length_trim solid
      -- The columns are those of the masked part; they are in the line because it is as long.
      have label : slice line.raw (front.length + Text.indent part)
          (front.length + (Text.trimEnd part).length) =
            pure ((line.raw.drop (front.length + Text.indent part)).take (Text.trim part).length) := by
        obtain ⟨trailing, short⟩ := Text.exists_append_of_trimEnd part
        have short := congrArg List.length short
        have total := congrArg List.length whole
        simp only [List.length_append] at short total
        rw [slice_eq (by omega) (by omega), List.drop_take, ← trims]
        congr 3
        omega
      simp only [Bool.false_eq_true, if_false, label, pure_bind]
      rw [badLabels_cons]

@[simp]
theorem colon?_eq (line : Line) : colon? line = pure (Rule.CaseLabels.colon? line.masked) := by
  have search : colon? line = _ := colon?_append [] line.masked
  rw [search]
  cases Rule.CaseLabels.colon? line.masked <;> simp

theorem check_eq (scope : Scope) {line : Line} (same : line.raw.length = line.masked.length) :
    check scope line = pure (Rule.CaseLabels.check scope line) := by
  rw [check, colon?_eq, pure_bind, Rule.CaseLabels.check]
  cases found : Rule.CaseLabels.colon? line.masked with
  | none => rfl
  | some colon =>
    have searched : colon? line = pure (some colon) := found ▸ colon?_eq line
    have inside := (le_of_find? searched).2
    rw [Nat.zero_add] at inside
    have text : (line.masked.take colon).length = colon := List.length_take_of_le (Nat.le_of_lt inside)
    have split := List.take_append_drop colon line.masked
    obtain ⟨commas, given, ends⟩ := filter_commas [] (line.masked.take colon) (line.masked.drop colon)
    rw [List.nil_append, split, text, List.length_nil] at given
    rw [text, List.length_nil, Nat.zero_add] at ends
    simp only [given, pure_bind, ends]
    exact @checkLabels_eq scope line same [] (line.masked.drop colon) _
      (by rw [Text.intercalate_splitOn, split, List.nil_append])

end CaseLabels

/-! ## Equals signs -/

namespace Assignment

/-- Holds of a line whose equals signs are not looked at. -/
def isExempt (line : Line) : Bounded Bool := do
  if Text.contains [':', '='] line.masked || Text.contains ['=', '='] line.masked then return true
  else
    return ['='].isPrefixOf (Text.trimStart (← slice line.masked 0 line.masked.length))

/-- The column of the first equals sign that does not follow an angle bracket. -/
def equals? (line : Line) : Bounded (Option Nat) :=
  find? (isMark '=' (fun c => c == '<' || c == '>') line.masked) 0 line.masked.length

/-- The diagnostic for a line. -/
def check (scope : Scope) (line : Line) : Bounded (List Diagnostic) := do
  if ← isExempt line then return []
  else match ← equals? line with
    | none => return []
    | some equals =>
      if Rule.Assignment.namesConstant scope (← slice line.masked 0 equals) then return []
      else return [line.diagnostic .equalsForAssignment equals]

theorem isExempt_eq (line : Line) : isExempt line = pure (Rule.Assignment.isExempt line) := by
  have whole : slice line.masked 0 line.masked.length = pure line.masked := slice_behind [] line.masked
  rw [isExempt, whole, pure_bind, Rule.Assignment.isExempt]
  cases Text.contains [':', '='] line.masked || Text.contains ['=', '='] line.masked <;> rfl

theorem equals?_append (front rest : List Char) :
    find? (isMark '=' (fun c => c == '<' || c == '>') (front ++ rest)) front.length rest.length =
      pure ((Rule.Assignment.equals? (front.getLast?.any fun c => c == '<' || c == '>') rest).map
        (front.length + ·)) := by
  induction rest generalizing front with
  | nil => rfl
  | cons c rest ih =>
    have later := ih (front ++ [c])
    rw [List.append_assoc, List.singleton_append, List.length_append, List.length_singleton,
      List.getLast?_concat, Option.any_some] at later
    rw [List.length_cons, find?, isMark_append, pure_bind, later, Rule.Assignment.equals?]
    split
    · rfl
    · simp [Function.comp_def, Nat.add_assoc, Nat.add_comm 1]

theorem equals?_eq (line : Line) :
    equals? line = pure (Rule.Assignment.equals? false line.masked) := by
  have search : equals? line = _ := equals?_append [] line.masked
  rw [search, List.getLast?_nil, Option.any_none]
  cases Rule.Assignment.equals? false line.masked <;> simp

theorem check_eq (scope : Scope) (line : Line) :
    check scope line = pure (Rule.Assignment.check scope line) := by
  rw [check, isExempt_eq, pure_bind, equals?_eq, pure_bind, Rule.Assignment.check]
  cases Rule.Assignment.isExempt line with
  | true => rfl
  | false =>
    simp only [Bool.false_eq_true, if_false]
    cases found : Rule.Assignment.equals? false line.masked with
    | none => rfl
    | some equals =>
      have searched : equals? line = pure (some equals) := found ▸ equals?_eq line
      have inside := (le_of_find? searched).2
      rw [Nat.zero_add] at inside
      simp only [slice_eq (Nat.zero_le _) (Nat.le_of_lt inside), List.drop_zero, pure_bind]
      split <;> rfl

end Assignment

/-! ## Undeclared names -/

/-- The diagnostics for undeclared names on a line. -/
def UndeclaredNames.check (scope : Scope) (line : Line) : Bounded (List Diagnostic) := do
  return ((← words line).filter (Rule.UndeclaredNames.isUndeclared scope)).map fun word =>
    line.diagnostic .undeclaredName word.start

theorem UndeclaredNames.check_eq (scope : Scope) (line : Line) :
    check scope line = pure (Rule.UndeclaredNames.check scope line) := by
  rw [check, words_eq, pure_bind, Rule.UndeclaredNames.check]

/-! ## Paired keywords -/

namespace PairedKeywords

/-- The first word from a column on that is the partner of an opener. -/
def partner? (line : Line) (opener : Opener) (start : Nat) : Bounded (Option Word) := do
  return (← words line).find? fun word =>
    start ≤ word.start && word.keyword? == some (.reserved opener.partner)

/-- The diagnostics for the header between an opener, which ends at column `stop`, and its
    partner. -/
def checkHeader (line : Line) (opener : Opener) (stop : Nat) (partner : Word) :
    Bounded (List Diagnostic) := do
  if Text.isBlank (← slice line.masked stop partner.start) then
    return [line.diagnostic .emptyCondition stop]
  else if opener = .forOpener then
    if Text.contains [':', '='] (← slice line.masked stop partner.start) then return []
    else return [line.diagnostic .headerWithoutAssignment stop]
  else return []

/-- Holds if a body follows the partner. -/
def hasBody (line : Line) (opener : Opener) (partner : Word) : Bounded Bool := do
  if opener = .caseOpener then return (line.find? partner.stop [':']).isSome
  else return !Text.isBlank (← slice line.masked partner.stop line.masked.length)

/-- The diagnostics for what follows the partner of an opener that ends at column `stop`. -/
def checkBody (line : Line) (opener : Opener) (stop : Nat) (partner : Word) :
    Bounded (List Diagnostic) := do
  if opener = .forOpener && Text.isBlank (← slice line.masked stop partner.start) then return []
  else if ← hasBody line opener partner then return []
  else return [line.diagnostic .emptyBody partner.stop]

/-- The diagnostics for a line that begins with an opener, which ends at column `stop`. -/
def checkOpener (line : Line) (opener : Opener) (stop : Nat) : Bounded (List Diagnostic) := do
  match ← partner? line opener stop with
  | none => return [line.diagnostic opener.missing stop]
  | some partner =>
    return (← checkHeader line opener stop partner) ++ (← checkBody line opener stop partner)

/-- The diagnostics for a line. -/
def check (line : Line) : Bounded (List Diagnostic) := do
  match ← leadingWord? line with
  | none => return []
  | some word =>
    match word.keyword?.bind Opener.ofKeyword? with
    | none => return []
    | some opener => checkOpener line opener word.stop

theorem partner?_eq (line : Line) (opener : Opener) (start : Nat) :
    partner? line opener start = pure (Rule.PairedKeywords.partner? line opener start) := by
  rw [partner?, words_eq, pure_bind, Rule.PairedKeywords.partner?]

section

variable {line : Line} {opener : Opener} {stop : Nat} {partner : Word}

theorem checkHeader_eq (order : stop ≤ partner.start) (inside : partner.start ≤ line.masked.length) :
    checkHeader line opener stop partner =
      pure (Rule.PairedKeywords.checkHeader line opener stop partner) := by
  rw [checkHeader, slice_masked order inside, pure_bind, pure_bind, Rule.PairedKeywords.checkHeader]
  cases Text.isBlank (line.slice stop partner.start) <;>
    cases Text.contains [':', '='] (line.slice stop partner.start) <;> cases opener <;> rfl

theorem hasBody_eq (inside : partner.stop ≤ line.masked.length) :
    hasBody line opener partner = pure (Rule.PairedKeywords.hasBody line opener partner) := by
  rw [hasBody, slice_masked inside (Nat.le_refl _), pure_bind, Rule.PairedKeywords.hasBody, Line.find?,
    Option.isSome_map, Line.slice, List.take_length]
  split <;> rfl

theorem checkBody_eq (order : stop ≤ partner.start) (inside : partner.stop ≤ line.masked.length) :
    checkBody line opener stop partner =
      pure (Rule.PairedKeywords.checkBody line opener stop partner) := by
  have within : partner.start ≤ line.masked.length := Nat.le_trans (Nat.le_add_right _ _) inside
  rw [checkBody, slice_masked order within, pure_bind, hasBody_eq inside, pure_bind,
    Rule.PairedKeywords.checkBody]
  split
  · rfl
  · split <;> rfl

theorem checkOpener_eq (line : Line) (opener : Opener) (stop : Nat) :
    checkOpener line opener stop = pure (Rule.PairedKeywords.checkOpener line opener stop) := by
  rw [checkOpener, partner?_eq, pure_bind, Rule.PairedKeywords.checkOpener]
  cases found : Rule.PairedKeywords.partner? line opener stop with
  | none => rfl
  | some partner =>
    have inside := Line.stop_le_of_mem_words (List.mem_of_find?_eq_some found)
    have within : partner.start ≤ line.masked.length := Nat.le_trans (Nat.le_add_right _ _) inside
    have order : stop ≤ partner.start := by
      have holds := List.find?_some found
      simp only [Bool.and_eq_true, decide_eq_true_eq] at holds
      exact holds.1
    simp only [checkHeader_eq order within, checkBody_eq order inside, pure_bind]

end

theorem check_eq (line : Line) : check line = pure (Rule.PairedKeywords.check line) := by
  rw [check, leadingWord?_eq, pure_bind, Rule.PairedKeywords.check]
  cases line.leadingWord? with
  | none => rfl
  | some word =>
    simp only
    cases word.keyword?.bind Opener.ofKeyword? with
    | none => rfl
    | some opener => exact checkOpener_eq line opener word.stop

end PairedKeywords

end PascalLint.Bounded
