import PascalLint.Proofs.BoundedText
import PascalLint.Proofs.Veil
import PascalLint.Text.Search

/-! # Masking in place

Masking as it goes through the columns of a line: characters are looked at one by one, and ranges of
columns are overwritten by spaces. The columns before the one that is looked at are masked already
(`front`), those from there on are still as they were written.
-/

namespace PascalLint.Bounded

/-! ## Closing delimiters -/

/-- The text with spaces in a range of columns. -/
def blank (text : List Char) (start stop : Nat) : Bounded (List Char) := do
  let part ← slice text start stop
  return text.take start ++ Mask.blank part ++ text.drop stop

theorem length_of_blank {text blanked : List Char} {start stop : Nat}
    (given : blank text start stop = pure blanked) : blanked.length = text.length := by
  unfold blank slice at given
  split at given
  next inside =>
    obtain rfl := Except.ok.inj given
    simp
    omega
  next => cases given

theorem blank_append (front part behind : List Char) :
    blank (front ++ (part ++ behind)) front.length (front.length + part.length) =
      pure (front ++ (Mask.blank part ++ behind)) := by
  have stop : (front ++ (part ++ behind)).drop (front.length + part.length) = behind := by
    rw [← List.append_assoc, ← List.length_append, List.drop_left]
  rw [blank, slice_append, pure_bind, stop, List.take_left, List.append_assoc]

theorem blank_front (part behind : List Char) :
    blank (part ++ behind) 0 part.length = pure (Mask.blank part ++ behind) := by
  have whole := blank_append [] part behind
  rwa [List.length_nil, Nat.zero_add] at whole

theorem blank_behind (front part : List Char) :
    blank (front ++ part) front.length (front ++ part).length = pure (front ++ Mask.blank part) := by
  have whole := blank_append front part []
  rwa [List.append_nil, List.append_nil, ← List.length_append] at whole

/-- The first column from `start` on with a quote that is not escaped. -/
def closingQuote? (text : List Char) (start : Nat) : Bounded (Option Nat) :=
  find? (isMark '\'' (· == '\\') text) start (text.length - start)

/-- The search for a closing quote finds what ends the string that the rest of the line begins in. -/
theorem closingQuote?_append (front rest : List Char) :
    closingQuote? (front ++ rest) front.length =
      pure ((Mask.splitAtQuote (front.getLast?.any (· == '\\')) rest).map
        fun (body, _) => front.length + body.length) := by
  rw [closingQuote?, List.length_append, Nat.add_sub_cancel_left]
  induction rest generalizing front with
  | nil => rfl
  | cons c rest ih =>
    have later := ih (front ++ [c])
    rw [List.append_assoc, List.singleton_append, List.length_append, List.length_singleton,
      List.getLast?_concat, Option.any_some] at later
    rw [List.length_cons, find?, isMark_append, pure_bind, later, Mask.splitAtQuote]
    split
    · rfl
    · rw [Option.map_map]
      cases Mask.splitAtQuote (c == '\\') rest with
      | none => rfl
      | some parts => simp [Nat.add_assoc, Nat.add_comm 1]

/-- What a comment of a style begins with. -/
def opener : CommentStyle → List Char
  | .brace => ['{']
  | .paren => ['(', '*']

/-- What a comment of a style ends with. -/
def closer : CommentStyle → List Char
  | .brace => ['}']
  | .paren => ['*', ')']

/-- The column behind the first terminator of a comment from column `start` on. -/
def behindComment? (style : CommentStyle) (text : List Char) (start : Nat) : Option Nat :=
  (Text.find? (closer style) (text.drop start)).map (start + · + (closer style).length)

theorem find?_closer (style : CommentStyle) (rest : List Char) :
    (Text.find? (closer style) rest).map (· + (closer style).length) =
      (Mask.splitAfterComment style rest).map (·.1.length) := by
  cases style with
  | brace =>
    simp only [Mask.splitAfterComment, closer]
    fun_induction Mask.splitAfterBrace rest with
    | case1 => rfl
    | case2 rest => rfl
    | case3 c rest other ih =>
      have here : ['}'].isPrefixOf (c :: rest) = false := by
        simp only [List.isPrefixOf, Bool.and_true, beq_eq_false_iff_ne]
        exact fun same => other same.symm
      rw [Text.find?, here, if_neg Bool.false_ne_true]
      simpa [Function.comp_def, Nat.add_right_comm] using congrArg (Option.map (· + 1)) ih
  | paren =>
    simp only [Mask.splitAfterComment, closer]
    fun_induction Mask.splitAfterStarParen rest with
    | case1 => rfl
    | case2 rest => rfl
    | case3 c rest other ih =>
      have here : ['*', ')'].isPrefixOf (c :: rest) = false := by
        cases rest with
        | nil => simp [List.isPrefixOf]
        | cons d rest =>
          -- A star may stand here, but then no parenthesis behind it.
          simp only [List.isPrefixOf, Bool.and_true, Bool.and_eq_false_iff, beq_eq_false_iff_ne]
          by_cases star : '*' = c
          · exact .inr fun paren => other rest star.symm (paren ▸ rfl)
          · exact .inl star
      rw [Text.find?, here, if_neg Bool.false_ne_true]
      simpa [Function.comp_def, Nat.add_right_comm] using congrArg (Option.map (· + 1)) ih

theorem behindComment?_append (style : CommentStyle) (front rest : List Char) :
    behindComment? style (front ++ rest) front.length =
      (Mask.splitAfterComment style rest).map fun (body, _) => front.length + body.length := by
  have found := congrArg (Option.map (front.length + ·)) (find?_closer style rest)
  rw [Option.map_map, Option.map_map] at found
  rw [behindComment?, List.drop_left]
  simpa [Function.comp_def, Nat.add_assoc] using found

/-! ## The code of a line -/

/-- What looking at one column leads to: the text and the column to go on with, or the masked line. -/
abbrev Step := List Char × Nat ⊕ MaskedLine

/-- Blanks the comment that begins in a column. -/
def stepComment (line : Nat) (style : CommentStyle) (text : List Char) (column : Nat) :
    Bounded Step := do
  match behindComment? style text (column + (opener style).length) with
  | some stop => return .inl (← blank text column stop, stop)
  | none =>
    return .inr ⟨← blank text column text.length, some (.comment style ⟨line, column⟩), none⟩

/-- Blanks the contents of the string that begins in a column. -/
def stepString (line : Nat) (text : List Char) (column : Nat) : Bounded Step := do
  match ← closingQuote? text (column + 1) with
  | some stop => return .inl (← blank text (column + 1) stop, stop + 1)
  | none =>
    return .inr ⟨← blank text (column + 1) text.length, some (.string ⟨line, column⟩), none⟩

/-- Masks what begins in a column. -/
def step (line : Nat) (text : List Char) (column : Nat) : Bounded Step := do
  match ← char text column, text[column + 1]? with
  | '\'', _ => stepString line text column
  | '/', some '/' => return .inr ⟨← blank text column text.length, none, none⟩
  | '{', _ => stepComment line .brace text column
  | '(', some '*' => stepComment line .paren text column
  | _, _ => return .inl (text, column + 1)

theorem lt_of_behindComment? {style : CommentStyle} {text : List Char} {start stop : Nat}
    (found : behindComment? style text start = some stop) : start < stop := by
  obtain ⟨column, -, rfl⟩ := Option.map_eq_some_iff.mp found
  have positive : 0 < (closer style).length := by cases style <;> decide
  omega

theorem goesOn_of_stepComment {line : Nat} {style : CommentStyle} {text text' : List Char}
    {column column' : Nat} (next : stepComment line style text column = pure (.inl (text', column'))) :
    text'.length = text.length ∧ column < column' := by
  unfold stepComment at next
  split at next
  next stop found =>
    obtain ⟨blanked, given, same⟩ := exists_of_bind next
    obtain ⟨rfl, rfl⟩ := Prod.mk.inj (Sum.inl.inj (Except.ok.inj same))
    have behind := lt_of_behindComment? found
    exact ⟨length_of_blank given, by omega⟩
  next =>
    obtain ⟨blanked, -, same⟩ := exists_of_bind next
    cases same

theorem goesOn_of_stepString {line : Nat} {text text' : List Char} {column column' : Nat}
    (next : stepString line text column = pure (.inl (text', column'))) :
    text'.length = text.length ∧ column < column' := by
  obtain ⟨stop?, found, next⟩ := exists_of_bind next
  cases stop? with
  | none =>
    obtain ⟨blanked, -, same⟩ := exists_of_bind next
    cases same
  | some stop =>
    obtain ⟨blanked, given, same⟩ := exists_of_bind next
    obtain ⟨rfl, rfl⟩ := Prod.mk.inj (Sum.inl.inj (Except.ok.inj same))
    have behind := (le_of_find? found).1
    exact ⟨length_of_blank given, by omega⟩

/-- A step that does not end the line keeps its length and goes on behind the column. -/
theorem goesOn_of_step {line : Nat} {text text' : List Char} {column column' : Nat}
    (next : step line text column = pure (.inl (text', column'))) :
    text'.length = text.length ∧ column < column' := by
  unfold step at next
  obtain ⟨c, -, next⟩ := exists_of_bind next
  split at next
  next => exact goesOn_of_stepString next
  next =>
    obtain ⟨blanked, -, same⟩ := exists_of_bind next
    cases same
  next => exact goesOn_of_stepComment next
  next => exact goesOn_of_stepComment next
  next =>
    obtain ⟨rfl, rfl⟩ := Prod.mk.inj (Sum.inl.inj (Except.ok.inj next))
    exact ⟨rfl, Nat.lt_succ_self column⟩

/-- Masks the code of a line from a column on. -/
def maskFrom (line : Nat) (text : List Char) (column : Nat) : Bounded MaskedLine :=
  if _ : column < text.length then
    match _ : step line text column with
    | .error fault => .error fault
    | .ok (.inl (text', column')) => maskFrom line text' column'
    | .ok (.inr masked) => .ok masked
  else .ok ⟨text, none, none⟩
termination_by text.length - column
decreasing_by
  rename_i taken
  obtain ⟨same, behind⟩ := goesOn_of_step taken
  omega

/-- The masked line that masked code behind masked text gives. -/
def withCode (front : List Char) (code : Mask.Code) : MaskedLine :=
  ⟨front ++ code.1, code.2, none⟩

theorem withCode_after (front part : List Char) (code : Mask.Code) :
    withCode front (code.after part) = withCode (front ++ part) code := by
  simp [withCode, Mask.Code.after]

section

variable {line column column' : Nat} {text text' : List Char}

/-- Masking inside a line is one step and, if the line goes on, masking from where the step ends. -/
theorem maskFrom_of_lt (more : column < text.length) :
    maskFrom line text column = step line text column >>= fun
      | .inl (text', column') => maskFrom line text' column'
      | .inr masked => pure masked := by
  rw [maskFrom, dif_pos more]
  split <;> simp only [*] <;> rfl

theorem maskFrom_of_goesOn (more : column < text.length)
    (taken : step line text column = pure (.inl (text', column'))) :
    maskFrom line text column = maskFrom line text' column' := by
  rw [maskFrom_of_lt more, taken, pure_bind]

theorem maskFrom_of_ends {masked : MaskedLine} (more : column < text.length)
    (taken : step line text column = pure (.inr masked)) :
    maskFrom line text column = pure masked := by
  rw [maskFrom_of_lt more, taken, pure_bind]

end

theorem closingQuote?_behind (front rest : List Char) :
    closingQuote? (front ++ '\'' :: rest) (front.length + 1) =
      pure ((Mask.splitAtQuote false rest).map fun (body, _) => front.length + 1 + body.length) := by
  have found := closingQuote?_append (front ++ ['\'']) rest
  rwa [List.append_assoc, List.length_append, List.getLast?_concat] at found

theorem stepString_closed (line : Nat) (front : List Char) {rest body after : List Char}
    (found : Mask.splitAtQuote false rest = some (body, after)) :
    let masked := '\'' :: Mask.blank body ++ ['\'']
    stepString line (front ++ '\'' :: rest) front.length =
      pure (.inl (front ++ (masked ++ after), front.length + masked.length)) := by
  have blanked := blank_append (front ++ ['\'']) body ('\'' :: after)
  simp only [List.append_assoc, List.singleton_append, List.length_append,
    List.length_singleton] at blanked
  rw [stepString, closingQuote?_behind, found, pure_bind, Mask.eq_append_of_splitAtQuote found]
  simp only [Option.map_some, blanked, pure_bind]
  simp [Nat.add_assoc, Nat.add_comm 1]

theorem stepString_open (line : Nat) (front : List Char) {rest : List Char}
    (missing : Mask.splitAtQuote false rest = none) :
    stepString line (front ++ '\'' :: rest) front.length =
      pure (.inr ⟨front ++ '\'' :: Mask.blank rest, some (.string ⟨line, front.length⟩), none⟩) := by
  have blanked := blank_behind (front ++ ['\'']) rest
  simp only [List.append_assoc, List.singleton_append, List.length_append,
    List.length_singleton] at blanked
  rw [stepString, closingQuote?_behind, missing, pure_bind]
  simp only [Option.map_none]
  rw [List.length_append, blanked, pure_bind]

theorem stepComment_closed (line : Nat) (style : CommentStyle) (front : List Char)
    {rest body after : List Char} (found : Mask.splitAfterComment style rest = some (body, after)) :
    stepComment line style (front ++ (opener style ++ rest)) front.length =
      pure (.inl (front ++ (Mask.blank (opener style ++ body) ++ after),
        front.length + (Mask.blank (opener style ++ body)).length)) := by
  have behind := behindComment?_append style (front ++ opener style) rest
  rw [found, List.append_assoc, List.length_append] at behind
  have whole : opener style ++ rest = opener style ++ body ++ after := by
    rw [Mask.eq_append_of_splitAfterComment found, List.append_assoc]
  rw [stepComment, behind]
  simp only [Option.map_some]
  rw [whole, Nat.add_assoc, ← List.length_append, blank_append, pure_bind, Mask.length_blank]

theorem stepComment_open (line : Nat) (style : CommentStyle) (front : List Char) {rest : List Char}
    (missing : Mask.splitAfterComment style rest = none) :
    stepComment line style (front ++ (opener style ++ rest)) front.length =
      pure (.inr ⟨front ++ Mask.blank (opener style ++ rest),
        some (.comment style ⟨line, front.length⟩), none⟩) := by
  have behind := behindComment?_append style (front ++ opener style) rest
  rw [missing, List.append_assoc, List.length_append] at behind
  rw [stepComment, behind]
  simp only [Option.map_none]
  rw [blank_behind, pure_bind]

theorem step_append (line : Nat) (front : List Char) (c : Char) (rest : List Char) :
    step line (front ++ c :: rest) front.length = match c, rest.head? with
      | '\'', _ => stepString line (front ++ c :: rest) front.length
      | '/', some '/' =>
        pure (.inr ⟨front ++ Mask.blank (c :: rest), none, none⟩)
      | '{', _ => stepComment line .brace (front ++ c :: rest) front.length
      | '(', some '*' => stepComment line .paren (front ++ c :: rest) front.length
      | _, _ => pure (.inl (front ++ c :: rest, front.length + 1)) := by
  have next : (front ++ c :: rest)[front.length + 1]? = rest.head? := by
    rw [List.getElem?_append_right (by omega), List.head?_eq_getElem?]
    simp
  rw [step, char_append, pure_bind, next, blank_behind, pure_bind]

/-- What a step masks goes in front of the code that the rest of the line is. -/
theorem maskFrom_of_step {line column : Nat} {front text masked after : List Char}
    {code : Mask.Code} (more : text ≠ [])
    (taken : step line (front ++ text) front.length =
      pure (.inl (front ++ (masked ++ after), front.length + masked.length)))
    (place : (front ++ masked).length = column)
    (later : maskFrom line (front ++ masked ++ after) column =
      pure (withCode (front ++ masked) code)) :
    maskFrom line (front ++ text) front.length = pure (withCode front (code.after masked)) := by
  have inside : front.length < (front ++ text).length := by
    rw [List.length_append]
    exact Nat.lt_add_of_pos_right (List.length_pos_iff.mpr more)
  rw [maskFrom_of_goesOn inside taken, withCode_after, ← later, List.append_assoc,
    ← List.length_append, place]

/-- Masking code in place is masking code, and no access is out of bounds. -/
theorem maskFrom_append (line : Nat) (front text : List Char) :
    maskFrom line (front ++ text) front.length =
      pure (withCode front (Mask.maskCode line front.length text)) := by
  generalize same : front.length = column
  -- The front is what is masked already: what a step masks joins it, and its length is the next column.
  fun_induction Mask.maskCode line column text generalizing front with
  | case1 column =>
    rw [maskFrom, dif_neg (by simp [same])]
    rfl
  | case2 column rest body after found ih =>
    subst same
    have taken := (step_append line front '\'' rest).trans (stepString_closed line front found)
    have place : (front ++ ('\'' :: Mask.blank body ++ ['\''])).length =
        front.length + body.length + 2 := by
      simp [Nat.add_assoc]
    exact maskFrom_of_step (List.cons_ne_nil _ _) taken place (ih _ place)
  | case3 column rest missing =>
    subst same
    exact maskFrom_of_ends (by simp)
      ((step_append line front '\'' rest).trans (stepString_open line front missing))
  | case4 column rest =>
    subst same
    exact maskFrom_of_ends (by simp) (step_append line front '/' ('/' :: rest))
  | case5 column rest body after found ih =>
    subst same
    have taken := (step_append line front '{' rest).trans
      (stepComment_closed line .brace front found)
    have place : (front ++ Mask.blank ('{' :: body)).length = front.length + body.length + 1 := by
      simp [Nat.add_assoc]
    exact maskFrom_of_step (List.cons_ne_nil _ _) taken place (ih _ place)
  | case6 column rest missing =>
    subst same
    exact maskFrom_of_ends (by simp)
      ((step_append line front '{' rest).trans (stepComment_open line .brace front missing))
  | case7 column rest body after found ih =>
    subst same
    have taken := (step_append line front '(' ('*' :: rest)).trans
      (stepComment_closed line .paren front found)
    have place : (front ++ Mask.blank ('(' :: '*' :: body)).length =
        front.length + body.length + 2 := by
      simp [Nat.add_assoc]
    exact maskFrom_of_step (List.cons_ne_nil _ _) taken place (ih _ place)
  | case8 column rest missing =>
    subst same
    exact maskFrom_of_ends (by simp)
      ((step_append line front '(' ('*' :: rest)).trans (stepComment_open line .paren front missing))
  | case9 column c rest quote slashes brace paren ih =>
    subst same
    have taken : step line (front ++ c :: rest) front.length =
        pure (.inl (front ++ ([c] ++ rest), front.length + [c].length)) := by
      rw [step_append]
      split
      next => exact absurd rfl quote
      next second =>
        obtain ⟨more, rfl⟩ := List.head?_eq_some_iff.mp second
        exact (slashes more rfl rfl).elim
      next => exact absurd rfl brace
      next second =>
        obtain ⟨more, rfl⟩ := List.head?_eq_some_iff.mp second
        exact (paren more rfl rfl).elim
      next => rfl
    have place : (front ++ [c]).length = front.length + 1 := List.length_append
    exact maskFrom_of_step (List.cons_ne_nil _ _) taken place (ih _ place)

/-! ## Lines -/

/-- Masks the line with the given number, at the start of which a literal may be open. -/
def maskLine (line : Nat) (text : List Char) : Option OpenLiteral → Bounded MaskedLine
  | none => maskFrom line text 0
  | some (.string start) => do
    match ← closingQuote? text 0 with
    | some stop => maskFrom line (← blank text 0 stop) (stop + 1)
    | none => return ⟨← blank text 0 text.length, none, some start⟩
  | some (.comment style start) => do
    match behindComment? style text 0 with
    | some stop => maskFrom line (← blank text 0 stop) stop
    | none => return ⟨← blank text 0 text.length, some (.comment style start), none⟩

theorem maskFrom_ofCode {line column : Nat} {front : List Char} (place : front.length = column)
    (after : List Char) :
    maskFrom line (front ++ after) column = pure (MaskedLine.ofCode line front after) :=
  place ▸ maskFrom_append line front after

/-- Masking a line in place is masking the line, and no access is out of bounds. -/
theorem maskLine_eq (line : Nat) (text : List Char) (opened : Option OpenLiteral) :
    maskLine line text opened = pure (PascalLint.maskLine line text opened) := by
  have whole : blank text 0 text.length = pure (Mask.blank text) := blank_behind [] text
  match opened with
  | none => exact maskFrom_append line [] text
  | some (.string start) =>
    have quote : closingQuote? text 0 = pure ((Mask.splitAtQuote false text).map _) :=
      closingQuote?_append [] text
    simp only [maskLine, PascalLint.maskLine, quote, pure_bind]
    cases found : Mask.splitAtQuote false text with
    | none => simp only [Option.map_none, whole, pure_bind]
    | some parts =>
      obtain ⟨body, after⟩ := parts
      obtain rfl := Mask.eq_append_of_splitAtQuote found
      have later := @maskFrom_ofCode line (body.length + 1) (Mask.blank body ++ ['\'']) (by simp) after
      rw [List.append_assoc] at later
      simp only [Option.map_some, List.length_nil, Nat.zero_add, blank_front, pure_bind]
      exact later
  | some (.comment style start) =>
    have comment : behindComment? style text 0 = (Mask.splitAfterComment style text).map _ :=
      behindComment?_append style [] text
    simp only [maskLine, PascalLint.maskLine, comment]
    cases found : Mask.splitAfterComment style text with
    | none => simp only [Option.map_none, whole, pure_bind]
    | some parts =>
      obtain ⟨body, after⟩ := parts
      obtain rfl := Mask.eq_append_of_splitAfterComment found
      simp only [Option.map_some, List.length_nil, Nat.zero_add, blank_front, pure_bind]
      exact maskFrom_ofCode (by simp) after

end PascalLint.Bounded
