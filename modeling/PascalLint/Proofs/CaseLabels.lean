import PascalLint.Proofs.BoundedText
import PascalLint.Proofs.RuleMarks
import PascalLint.Proofs.RuleRuns

/-! # The report of case labels

Labels are looked for below a line that begins with `case`, as long as no line has ended it. So that a
line is inside of a `case` is a matter of the lines up to it, and so is which names may be labels. A
context keeps the line of the last `case` while it has not ended (`Context.RemembersCase`). On a line
inside of a `case` the labels are the parts between commas before the first colon
(`Line.LabelAt`), and those are reported that no form of a label admits (`ProperLabel`).
-/

namespace PascalLint

/-! ## Inside of a case -/

/-- The line begins with `end`, and a semicolon or a period comes right behind it. -/
def Line.EndsCase (line : Line) : Prop :=
  ∃ word, line.Leads word ∧ word.text = Reserved.endWord.spelling ∧
    (line.masked[word.stop]? = some ';' ∨ line.masked[word.stop]? = some '.')

/-- One of the lines begins with `case`, and none behind it ends the case. -/
def InCase (lines : List Line) : Prop :=
  ∃ above line below, lines = above ++ line :: below ∧ line.LeadsWith (.reserved .caseWord) ∧
    ∀ later ∈ below, ¬later.EndsCase

theorem Line.Leads.endsCase_iff {line : Line} {word : Word} (leads : line.Leads word) :
    line.EndsCase ↔ word.keyword? = some (.reserved .endWord) ∧
      (line.masked[word.stop]? = some ';' ∨ line.masked[word.stop]? = some '.') := by
  rw [Word.keyword?, Keyword.ofLower?_eq_some_iff]
  constructor
  · rintro ⟨other, also, spelled, mark⟩
    rw [leads.unique also]
    exact ⟨spelled, mark⟩
  · rintro ⟨spelled, mark⟩
    exact ⟨word, leads, spelled, mark⟩

theorem Line.EndsCase.not_leadsWith_case {line : Line} (ends : line.EndsCase) :
    ¬line.LeadsWith (.reserved .caseWord) := by
  obtain ⟨word, leads, spelled, -⟩ := ends
  rw [leads.leadsWith_iff, Word.keyword?, Keyword.ofLower?_eq_some_iff, spelled]
  decide

theorem inCase_concat {above : List Line} {line : Line} :
    InCase (above ++ [line]) ↔
      line.LeadsWith (.reserved .caseWord) ∨ ¬line.EndsCase ∧ InCase above := by
  constructor
  · rintro ⟨front, here, below, same, leads, still⟩
    rcases concat_eq_append_cons_iff.mp same with ⟨rfl, rfl, rfl⟩ | ⟨rest, rfl, rfl⟩
    · exact .inl leads
    · rw [List.forall_mem_append] at still
      exact .inr ⟨still.2 line (List.mem_singleton_self line), front, here, rest, rfl, leads, still.1⟩
  · rintro (leads | ⟨goes, front, here, below, rfl, leads, still⟩)
    · exact ⟨above, line, [], rfl, leads, by simp⟩
    · refine ⟨front, here, below ++ [line], by simp, leads, ?_⟩
      rw [List.forall_mem_append, List.forall_mem_singleton]
      exact ⟨still, goes⟩

/-- What a line does to the `case` that is remembered. -/
theorem Rule.CaseLabels.behind_cases (line : Line) (caseLine : Option Nat) :
    (line.LeadsWith (.reserved .caseWord) ∧ behind line caseLine = some line.number) ∨
      (line.EndsCase ∧ behind line caseLine = none) ∨
      (¬line.LeadsWith (.reserved .caseWord) ∧ ¬line.EndsCase ∧ behind line caseLine = caseLine) := by
  cases leading : line.leadingWord? with
  | none =>
    have unled := Line.leadingWord?_eq_none_iff.mp leading
    refine .inr (.inr ⟨?_, ?_, by simp [behind, leading]⟩)
    · rintro ⟨word, leads, -⟩
      exact unled word leads
    · rintro ⟨word, leads, -⟩
      exact unled word leads
  | some word =>
    have leads := Line.leadingWord?_eq_some_iff.mp leading
    rw [leads.leadsWith_iff, leads.endsCase_iff]
    simp only [behind, leading]
    split
    next begins => exact .inl ⟨begins, rfl⟩
    next ends =>
      split
      next mark => exact .inr (.inl ⟨⟨ends, .inl mark⟩, rfl⟩)
      next mark => exact .inr (.inl ⟨⟨ends, .inr mark⟩, rfl⟩)
      next noSemicolon noPeriod =>
        exact .inr (.inr ⟨by simp [ends], fun also => also.2.elim noSemicolon noPeriod, rfl⟩)
    next notCase notEnd => exact .inr (.inr ⟨notCase, fun ends => notEnd ends.1, rfl⟩)

namespace Context

/-- A context that also keeps the line of the `case` that a line is inside of. -/
structure RemembersCase (context : Context) (above : List Line) : Prop
    extends context.Remembers above where
  inside : InCase above ↔ context.caseLine.isSome = true
  earlier : ∀ number ∈ context.caseLine, number ≤ context.lineCount

theorem remembersCase_start : start.RemembersCase [] where
  toRemembers := remembers_start
  inside := by simp [InCase, start]
  earlier := by simp [start]

namespace RemembersCase

variable {context : Context} {above : List Line} (remembers : context.RemembersCase above)
include remembers

theorem advance (checks : Checks) (text : List Char) :
    (context.advance checks text).RemembersCase (above ++ [context.line text]) := by
  have behind : (context.advance checks text).caseLine =
      Rule.CaseLabels.behind (context.line text) context.caseLine := by
    rw [Context.advance]
    split <;> rfl
  have number : (context.line text).number = context.lineCount + 1 := rfl
  refine ⟨remembers.toRemembers.advance checks text, ?_, ?_⟩
  · -- Each kind of line does to the remembered `case` what it does to being inside of one.
    rw [inCase_concat, behind, remembers.inside]
    rcases Rule.CaseLabels.behind_cases (context.line text) context.caseLine with
      ⟨leads, same⟩ | ⟨ends, same⟩ | ⟨other, goes, same⟩
    · simp [leads, same]
    · simp [ends, ends.not_leadsWith_case, same]
    · simp [other, goes, same]
  · rw [behind, lineCount_advance]
    rcases Rule.CaseLabels.behind_cases (context.line text) context.caseLine with
      ⟨-, same⟩ | ⟨-, same⟩ | ⟨-, -, same⟩
    · simp [same, number]
    · simp [same]
    · rw [same]
      exact fun line found => Nat.le_succ_of_le (remembers.earlier line found)

theorem applies_iff (text : List Char) :
    Rule.CaseLabels.applies (context.line text)
        (Rule.CaseLabels.behind (context.line text) context.caseLine) = true ↔
      InCase (above ++ [context.line text]) ∧
        ¬(context.line text).LeadsWith (.reserved .caseWord) := by
  rw [inCase_concat, remembers.inside]
  rcases Rule.CaseLabels.behind_cases (context.line text) context.caseLine with
    ⟨leads, same⟩ | ⟨ends, same⟩ | ⟨other, goes, same⟩
  · simp [Rule.CaseLabels.applies, leads, same]
  · simp [Rule.CaseLabels.applies, ends, ends.not_leadsWith_case, same]
  · -- The line of the `case` is above this one.
    rw [same]
    cases caseLine : context.caseLine with
    | none => simp [Rule.CaseLabels.applies, other]
    | some number =>
      have before : number ≤ context.lineCount := remembers.earlier number caseLine
      have above : number ≠ (context.line text).number := by
        change number ≠ context.lineCount + 1
        omega
      simp [Rule.CaseLabels.applies, other, goes, above]

end RemembersCase

end Context

/-! ## Labels -/

/-- A part between commas before the first colon that is not blank: where its first character stands
    that is no white space, and its text in the line as it was written. -/
inductive Line.LabelAt (line : Line) : Nat → List Char → Prop
  | listed {colon : Nat} {front part : List Char}
      (first : Text.IsFirst (Text.LabelColon line.masked) colon)
      (item : Text.IsPartBehind ',' (line.masked.take colon) front part)
      (shown : Text.isBlank part = false) :
      LabelAt line (front.length + Text.indent part)
        ((line.raw.drop (front.length + Text.indent part)).take (Text.trim part).length)

/-- In a line of a source, where both texts are of one length, no label is empty. -/
theorem Line.LabelAt.ne_nil {line : Line} {column : Nat} {label : List Char}
    (stands : line.LabelAt column label) (even : line.masked.length = line.raw.length) :
    label ≠ [] := by
  cases stands with
  | @listed colon front part first item shown =>
    obtain ⟨-, behind, whole, -⟩ := item
    have some := List.length_pos_iff.mpr (Text.trim_ne_nil shown)
    have inside : Text.indent part + (Text.trim part).length ≤ part.length := by
      obtain ⟨trailing, same⟩ := Text.exists_append_of_trimEnd part
      have total := congrArg List.length same
      rw [List.length_append] at total
      rw [Text.indent_add_length_trim shown]
      omega
    have total := congrArg List.length whole
    simp only [List.length_append, List.length_take] at total
    refine List.ne_nil_of_length_pos ?_
    rw [List.length_take, List.length_drop]
    omega

/-- What a label may be: a quoted character, an integer, a range, or a name that one of the lines
    declares. -/
inductive ProperLabel (lines : List Line) : List Char → Prop
  | quoted (c : Char) : ProperLabel lines ['\'', c, '\'']
  | quote : ProperLabel lines ['\'', '\'', '\'', '\'']
  | integer {sign digits : List Char} (signed : sign ∈ [[], ['+'], ['-']]) (some : digits ≠ [])
      (all : ∀ c ∈ digits, c.isDigit = true) : ProperLabel lines (sign ++ digits)
  | range {label : List Char} (dots : ['.', '.'] <:+: label) : ProperLabel lines label
  | name {label : List Char} (declared : Declared lines label) : ProperLabel lines label

/-- The line below the others has an improper label at the column: it is inside of a `case` that it does
    not begin itself, and no declaration. -/
structure Line.ImproperLabel (above : List Line) (line : Line) (column : Nat) : Prop where
  inside : InCase (above ++ [line])
  below : ¬line.LeadsWith (.reserved .caseWord)
  plain : line.PlainBelow above
  improper : ∃ label, line.LabelAt column label ∧ ¬ProperLabel (above ++ [line]) label

namespace Rule.CaseLabels

theorem isCharacter_iff {label : List Char} :
    isCharacter label = true ↔ label = ['\'', '\'', '\'', '\''] ∨ ∃ c, label = ['\'', c, '\''] := by
  rw [isCharacter, Bool.or_eq_true, beq_iff_eq]
  refine or_congr_right ?_
  constructor
  · intro quoted
    match label with
    | [a, c, b] =>
      simp at quoted
      exact ⟨c, by rw [quoted.1, quoted.2]⟩
    | [] | [_] | [_, _] | _ :: _ :: _ :: _ :: _ => simp at quoted
  · rintro ⟨c, rfl⟩
    simp

theorem isInteger_iff {label : List Char} :
    isInteger label = true ↔ ∃ sign digits, sign ∈ [[], ['+'], ['-']] ∧ digits ≠ [] ∧
      (∀ c ∈ digits, c.isDigit = true) ∧ label = sign ++ digits := by
  have digitsOf (digits : List Char) : (!digits.isEmpty && digits.all Char.isDigit) = true ↔
      digits ≠ [] ∧ ∀ c ∈ digits, c.isDigit = true := by
    simp
  unfold isInteger
  rw [digitsOf]
  constructor
  · intro integer
    split at integer
    next rest => exact ⟨['+'], rest, by simp, integer.1, integer.2, rfl⟩
    next rest => exact ⟨['-'], rest, by simp, integer.1, integer.2, rfl⟩
    next => exact ⟨[], label, by simp, integer.1, integer.2, rfl⟩
  · rintro ⟨sign, digits, signed, some, all, rfl⟩
    simp only [List.mem_cons, List.not_mem_nil, or_false] at signed
    rcases signed with rfl | rfl | rfl
    · -- A sign is no digit.
      rw [List.nil_append]
      split
      next rest => exact absurd (all '+' List.mem_cons_self) (by decide)
      next rest => exact absurd (all '-' List.mem_cons_self) (by decide)
      next => exact ⟨some, all⟩
    · exact ⟨some, all⟩
    · exact ⟨some, all⟩

theorem mem_check_iff {scope : Scope} {line : Line} {d : Diagnostic} :
    d ∈ check scope line ↔ ∃ column label, line.LabelAt column label ∧
      isLabel scope label = false ∧ d = line.diagnostic .badCaseLabel column := by
  unfold check
  constructor
  · intro found
    split at found
    next => cases found
    next colon first =>
      obtain ⟨⟨column, length⟩, wrong, rfl⟩ := List.mem_map.mp found
      obtain ⟨item, improper⟩ := List.mem_filter.mp wrong
      obtain ⟨front, part, listed, shown, rfl, rfl⟩ := mem_items_iff.mp item
      rw [Nat.zero_add] at improper ⊢
      exact ⟨_, _, .listed (colon?_eq_some_iff.mp first) listed shown, by simpa using improper, rfl⟩
  · rintro ⟨column, label, stands, improper, rfl⟩
    cases stands with
    | @listed colon front part first item shown =>
      rw [colon?_eq_some_iff.mpr first]
      refine List.mem_map.mpr ⟨(front.length + Text.indent part, (Text.trim part).length), ?_, rfl⟩
      refine List.mem_filter.mpr ⟨?_, by simpa using improper⟩
      exact mem_items_iff.mpr ⟨front, part, item, shown, by simp, rfl⟩

end Rule.CaseLabels

namespace Context.RemembersCase

variable {context : Context} {above : List Line} (remembers : context.RemembersCase above)
include remembers

theorem isLabel_iff (line : Line) {label : List Char} (nonempty : label ≠ []) :
    Rule.CaseLabels.isLabel (context.scopeOf line) label = true ↔
      ProperLabel (above ++ [line]) label := by
  have folded : Unicode.foldCaseText label ≠ [] := by simpa using nonempty
  simp only [Rule.CaseLabels.isLabel, Bool.or_eq_true, Rule.CaseLabels.isCharacter_iff,
    Rule.CaseLabels.isInteger_iff, Text.contains_iff_infix, ← remembers.scopeOf line folded]
  constructor
  · rintro ((((rfl | ⟨c, rfl⟩) | ⟨sign, digits, signed, some, all, rfl⟩) | dots) | declared)
    · exact .quote
    · exact .quoted c
    · exact .integer signed some all
    · exact .range dots
    · exact .name declared
  · intro proper
    cases proper with
    | quoted c => exact .inl (.inl (.inl (.inr ⟨c, rfl⟩)))
    | quote => exact .inl (.inl (.inl (.inl rfl)))
    | integer signed some all => exact .inl (.inl (.inr ⟨_, _, signed, some, all, rfl⟩))
    | range dots => exact .inl (.inr dots)
    | name declared => exact .inr declared

/-- The rule reports what the history calls for. -/
theorem mem_check_caseLabels (text : List Char) {d : Diagnostic} :
    d ∈ Rule.caseLabels.check context (context.line text) ↔
      ∃ column, (context.line text).ImproperLabel above column ∧
        d = (context.line text).diagnostic .badCaseLabel column := by
  have even : (context.line text).masked.length = (context.line text).raw.length :=
    (Veils.of_maskLine (context.lineCount + 1) text context.opened).length_eq
  rw [Rule.check, remembers.mem_unlessDeclaration]
  split
  next applies =>
    obtain ⟨inside, below⟩ := (remembers.applies_iff text).mp applies
    rw [Rule.CaseLabels.mem_check_iff]
    constructor
    · rintro ⟨plain, column, label, stands, improper, rfl⟩
      rw [← Bool.not_eq_true, remembers.isLabel_iff _ (stands.ne_nil even)] at improper
      exact ⟨column, ⟨inside, below, plain, label, stands, improper⟩, rfl⟩
    · rintro ⟨column, ⟨-, -, plain, label, stands, improper⟩, rfl⟩
      rw [← remembers.isLabel_iff _ (stands.ne_nil even), Bool.not_eq_true] at improper
      exact ⟨plain, column, label, stands, improper, rfl⟩
  next outside =>
    rw [remembers.applies_iff] at outside
    refine iff_of_false (fun found => by cases found.2) ?_
    rintro ⟨column, bad, -⟩
    exact outside ⟨bad.inside, bad.below⟩

end Context.RemembersCase

/-! ## Reports -/

/-- A case label is reported at a column of a line if and only if an improper label stands there, inside
    of a `case` and outside of declarations. -/
theorem improper_labels_by_history {checks : Checks} (on : checks.caseLabels = true)
    (lines : List (List Char)) (n c : Nat) :
    (⟨⟨n, c⟩, .badCaseLabel⟩ : Diagnostic) ∈ analyze checks lines ↔
      ∃ above line below, Line.ofTexts 1 none lines = above ++ line :: below ∧ line.number = n ∧
        line.ImproperLabel above c := by
  have switched : checks.has .caseLabels = true := on
  have reports (front : List (List Char)) (text : List Char) :
      (⟨⟨n, c⟩, .badCaseLabel⟩ : Diagnostic) ∈ Rule.caseLabels.check
          (Context.start.after checks front) ((Context.start.after checks front).line text) ↔
        ((Context.start.after checks front).line text).number = n ∧
          ((Context.start.after checks front).line text).ImproperLabel (Line.ofTexts 1 none front) c := by
    have remembers : (Context.start.after checks front).RemembersCase (Line.ofTexts 1 none front) :=
      Context.holds_after (fun _ _ text before => before.advance checks text)
        Context.remembersCase_start front
    rw [remembers.mem_check_caseLabels]
    constructor
    · rintro ⟨column, improper, same⟩
      obtain ⟨rfl, rfl⟩ : n = _ ∧ c = column := by simpa [Line.diagnostic, Line.position] using same
      exact ⟨rfl, improper⟩
    · rintro ⟨rfl, improper⟩
      exact ⟨c, improper, rfl⟩
  exact Context.mem_checkAll_of_history (fun above line => line.number = n ∧ line.ImproperLabel above c)
    switched (by decide) rfl reports

/-- A label that is declared in another letter case is not reported, one that is not declared is; behind
    `end;` nothing is. -/
theorem improper_labels_by_history_end :
    let lines := ["const Red = 1;".toList, "begin case k of".toList, "case k of".toList,
      "  RED, 'x', green: f;".toList, "end;".toList, "  blue: f".toList]
    (∃ above line below, Line.ofTexts 1 none lines = above ++ line :: below ∧ line.number = 4 ∧
        line.ImproperLabel above 12) ∧
      (¬∃ above line below, Line.ofTexts 1 none lines = above ++ line :: below ∧ line.number = 4 ∧
        line.ImproperLabel above 2) ∧
      ¬∃ above line below, Line.ofTexts 1 none lines = above ++ line :: below ∧ line.number = 6 ∧
        line.ImproperLabel above 2 := by
  intro lines
  have found : (⟨⟨4, 12⟩, .badCaseLabel⟩ : Diagnostic) ∈ analyze {} lines := by decide +kernel
  have known : (⟨⟨4, 2⟩, .badCaseLabel⟩ : Diagnostic) ∉ analyze {} lines := by decide +kernel
  have outside : (⟨⟨6, 2⟩, .badCaseLabel⟩ : Diagnostic) ∉ analyze {} lines := by decide +kernel
  rw [improper_labels_by_history rfl] at found known outside
  exact ⟨found, known, outside⟩

end PascalLint
