import PascalLint.Proofs.Parts
import PascalLint.Proofs.Words
import PascalLint.Scope

/-! # What lines declare

The part of the program that is in force on a line is the one that the last line up to it begins that
begins any, and what a line declares is read off its masked characters: the marks in it, and the words
between them. The lines above it matter for the part only. What the rules go by, keyword by keyword and
column by column, is shown to be that.
-/

namespace PascalLint

/-! ## Parts of the program -/

namespace Line

/-- The line begins the part. -/
def Begins (line : Line) : Part → Prop
  | .constantPart => line.LeadsWith (.reserved .constWord)
  | .variablePart => line.LeadsWith (.reserved .varWord)
  | .statementPart => line.LeadsWith (.reserved .beginWord)
  | .otherPart =>
    ∃ keyword ∈ [.reserved .programWord, .typeWord, .labelWord, .usesWord, .procedureWord,
      .functionWord], line.LeadsWith keyword

theorem part?_eq_some_iff {line : Line} {part : Part} : line.part? = some part ↔ line.Begins part := by
  have begun : line.part? = some part ↔
      ∃ keyword, line.LeadsWith keyword ∧ Part.ofKeyword? keyword = some part := by
    simp only [part?, Option.bind_eq_some_iff, leadingKeyword?_eq_some_iff]
  rw [begun]
  constructor
  · rintro ⟨keyword, leads, part⟩
    unfold Part.ofKeyword? at part
    split at part <;> cases part
    all_goals first | exact leads | exact ⟨_, by decide, leads⟩
  · intro begins
    cases part with
    | constantPart => exact ⟨_, begins, rfl⟩
    | variablePart => exact ⟨_, begins, rfl⟩
    | statementPart => exact ⟨_, begins, rfl⟩
    | otherPart =>
      obtain ⟨keyword, found, leads⟩ := begins
      refine ⟨keyword, leads, ?_⟩
      simp only [List.mem_cons, List.not_mem_nil, or_false] at found
      rcases found with rfl | rfl | rfl | rfl | rfl | rfl <;> rfl

/-! ## Declarations -/

/-- What a line says behind a keyword that may lead it. -/
inductive Behind (line : Line) (keyword : Keyword) : List Char → Prop
  | led {word : Word} (leads : line.Leads word) (spelled : word.text = keyword.spelling) :
      Behind line keyword (line.masked.drop word.stop)
  | plain (other : ¬line.LeadsWith keyword) : Behind line keyword line.masked

/-- The text between the parentheses of a heading, up to the end of the line if the right one is
    missing. -/
def InParentheses (line : Line) (text : List Char) : Prop :=
  ∃ front behind, '(' ∉ front ∧ line.masked = front ++ '(' :: behind ∧
    (Text.Before ')' behind text ∨ ')' ∉ behind ∧ text = behind)

/-- The line declares the name, if it belongs to the part. -/
inductive Declares (line : Line) : Part → List Char → Prop
  | constantName {text name : List Char} (behind : line.Behind (.reserved .constWord) text)
      (equals : Text.Before '=' text name) : Declares line .constantPart (Text.trim name)
  | variableName {text names item : List Char} (behind : line.Behind (.reserved .varWord) text)
      (colon : Text.Before ':' text names) (listed : Text.IsPart ',' names item)
      (named : Text.trim item ≠ []) : Declares line .variablePart (Text.trim item)
  | parameterName {part : Part} {keyword : Keyword} {text group names item : List Char}
      (heading : keyword = .procedureWord ∨ keyword = .functionWord) (leads : line.LeadsWith keyword)
      (parentheses : line.InParentheses text) (grouped : Text.IsPart ';' text group)
      (colon : Text.Before ':' group names) (listed : Text.IsPart ',' names item)
      (named : Text.lastWord item ≠ []) : Declares line part (Text.lastWord item)

/-- The line is a declaration, if it belongs to the part. -/
def IsDeclaration (line : Line) : Part → Prop
  | .constantPart => ∃ text, line.Behind (.reserved .constWord) text ∧ '=' ∈ text
  | .variablePart => ∃ text, line.Behind (.reserved .varWord) text ∧ ':' ∈ text
  | .otherPart | .statementPart => False

theorem behind_iff {line : Line} {keyword : Keyword} {text : List Char} :
    line.Behind keyword text ↔ text = line.masked.drop (line.startBehind keyword) := by
  rw [startBehind]
  constructor
  · intro behind
    cases behind with
    | led leads spelled =>
      have known := Keyword.ofLower?_eq_some_iff.mpr spelled
      rw [leadingWord?_eq_some_iff.mpr leads]
      simp [Word.keyword?, known]
    | plain other =>
      cases leading : line.leadingWord? with
      | none => rfl
      | some word =>
        have leads := leadingWord?_eq_some_iff.mp leading
        have unknown : word.keyword? ≠ some keyword := fun known =>
          other ⟨word, leads, Keyword.ofLower?_eq_some_iff.mp known⟩
        simp [unknown]
  · rintro rfl
    cases leading : line.leadingWord? with
    | none =>
      refine .plain ?_
      rintro ⟨word, leads, -⟩
      exact leadingWord?_eq_none_iff.mp leading word leads
    | some word =>
      have leads := leadingWord?_eq_some_iff.mp leading
      by_cases known : word.keyword? = some keyword
      · simpa [known] using Behind.led leads (Keyword.ofLower?_eq_some_iff.mp known)
      · simp only [known, if_false]
        exact .plain (mt leads.leadsWith_iff.mp known)

/-- What is made of the text up to the first mark behind a column. -/
theorem map_find?_eq (line : Line) (start : Nat) (mark : Char) {α : Type} (view : List Char → α) :
    ((line.find? start [mark]).map fun stop => view (line.slice start stop)) =
      (Text.splitOnce? mark (line.masked.drop start)).map fun parts => view parts.1 := by
  rw [find?, Text.find?_eq_splitOnce?]
  cases found : Text.splitOnce? mark (line.masked.drop start) with
  | none => rfl
  | some parts =>
    obtain ⟨front, behind⟩ := parts
    obtain ⟨-, whole⟩ := Text.splitOnce?_eq_some_iff.mp found
    simp only [Option.map_some]
    rw [slice, List.drop_take, whole, Nat.add_sub_cancel, List.take_left]

theorem declaration?_constantPart (line : Line) :
    line.declaration? .constantPart =
      (Text.splitOnce? '=' (line.masked.drop (line.startBehind (.reserved .constWord)))).map
        fun parts => .constant (Text.trim parts.1) :=
  line.map_find?_eq _ '=' fun front => Declaration.constant (Text.trim front)

theorem declaration?_variablePart (line : Line) :
    line.declaration? .variablePart =
      (Text.splitOnce? ':' (line.masked.drop (line.startBehind (.reserved .varWord)))).map
        fun parts => .variableList
          (((Text.splitOn ',' parts.1).map Text.trim).filter (· ≠ [])) :=
  line.map_find?_eq _ ':' fun front => Declaration.variableList
    (((Text.splitOn ',' front).map Text.trim).filter (· ≠ []))

theorem isSome_declaration?_iff {line : Line} {part : Part} :
    (line.declaration? part).isSome = true ↔ line.IsDeclaration part := by
  have marked {mark : Char} {keyword : Keyword} :
      (Text.splitOnce? mark (line.masked.drop (line.startBehind keyword))).isSome = true ↔
        ∃ text, line.Behind keyword text ∧ mark ∈ text := by
    simp only [behind_iff, exists_eq_left, Text.isSome_splitOnce?_iff]
  cases part with
  | constantPart => rw [declaration?_constantPart, Option.isSome_map, marked, IsDeclaration]
  | variablePart => rw [declaration?_variablePart, Option.isSome_map, marked, IsDeclaration]
  | otherPart => simp [declaration?, IsDeclaration]
  | statementPart => simp [declaration?, IsDeclaration]

theorem parameterList?_eq (line : Line) :
    line.parameterList? = (Text.splitOnce? '(' line.masked).map fun parts =>
      ((Text.splitOnce? ')' parts.2).map Prod.fst).getD parts.2 := by
  have left : line.find? 0 ['('] = (Text.splitOnce? '(' line.masked).map (·.1.length) := by
    simp [find?, Text.find?_eq_splitOnce?, Function.comp_def]
  rw [parameterList?, left]
  cases found : Text.splitOnce? '(' line.masked with
  | none => rfl
  | some parts =>
    obtain ⟨front, behind⟩ := parts
    obtain ⟨-, whole⟩ := Text.splitOnce?_eq_some_iff.mp found
    -- The search for the right parenthesis begins at the left one.
    have right : line.find? front.length [')'] =
        (Text.splitOnce? ')' behind).map (front.length + 1 + ·.1.length) := by
      rw [find?, Text.find?_eq_splitOnce?, whole, List.drop_left, Text.splitOnce?,
        if_neg (by decide), Option.map_map, Option.map_map]
      congr 1
      funext parts
      simp only [Function.comp_apply, List.length_cons]
      omega
    have inside : line.masked.drop (front.length + 1) = behind := by
      rw [whole, ← List.drop_drop, List.drop_left]
      rfl
    simp only [Option.map_some, right, slice, List.drop_take, inside]
    cases closed : Text.splitOnce? ')' behind with
    | none =>
      have rest : line.masked.length - (front.length + 1) = behind.length := by
        rw [← inside, List.length_drop]
      simp [rest]
    | some parts =>
      obtain ⟨-, split⟩ := Text.splitOnce?_eq_some_iff.mp closed
      simp [split]

theorem inParentheses_iff {line : Line} {text : List Char} :
    line.InParentheses text ↔ line.parameterList? = some text := by
  rw [parameterList?_eq, Option.map_eq_some_iff, InParentheses]
  constructor
  · rintro ⟨front, behind, absent, whole, inside⟩
    refine ⟨(front, behind), Text.splitOnce?_eq_some_iff.mpr ⟨absent, whole⟩, ?_⟩
    rcases inside with closed | ⟨open_, rfl⟩
    · rw [Text.map_fst_splitOnce?_iff.mpr closed]
      rfl
    · rw [Text.splitOnce?_eq_none_iff.mpr open_]
      rfl
  · rintro ⟨⟨front, behind⟩, found, rfl⟩
    obtain ⟨absent, whole⟩ := Text.splitOnce?_eq_some_iff.mp found
    refine ⟨front, behind, absent, whole, ?_⟩
    cases closed : Text.splitOnce? ')' behind with
    | none => exact .inr ⟨Text.splitOnce?_eq_none_iff.mp closed, rfl⟩
    | some parts => exact .inl (Text.map_fst_splitOnce?_iff.mp (by rw [closed]; rfl))

/-- What is left of the parts between commas, if it is not empty. -/
theorem mem_listed_iff {names name : List Char} (view : List Char → List Char) :
    name ∈ ((Text.splitOn ',' names).map view).filter (· ≠ []) ↔
      ∃ item, Text.IsPart ',' names item ∧ view item ≠ [] ∧ view item = name := by
  simp only [List.mem_filter, List.mem_map, Text.mem_splitOn_iff, decide_eq_true_eq]
  constructor
  · rintro ⟨⟨item, listed, rfl⟩, named⟩
    exact ⟨item, listed, named, rfl⟩
  · rintro ⟨item, listed, named, rfl⟩
    exact ⟨⟨item, listed, rfl⟩, named⟩

theorem mem_groupParameters_iff {group name : List Char} :
    name ∈ groupParameters group ↔
      ∃ names item, Text.Before ':' group names ∧ Text.IsPart ',' names item ∧
        Text.lastWord item ≠ [] ∧ Text.lastWord item = name := by
  simp only [← Text.map_fst_splitOnce?_iff]
  rw [groupParameters]
  cases found : Text.splitOnce? ':' group with
  | none => simp
  | some parts =>
    simp only [mem_listed_iff, Option.map_some, Option.some.injEq, exists_and_left, exists_eq_left']

theorem mem_parameters_iff {line : Line} {name : List Char} :
    name ∈ line.parameters ↔
      ∃ keyword, (keyword = .procedureWord ∨ keyword = .functionWord) ∧ line.LeadsWith keyword ∧
        ∃ text, line.InParentheses text ∧ ∃ group, Text.IsPart ';' text group ∧
          name ∈ groupParameters group := by
  have grouped {text : List Char} :
      name ∈ (Text.splitOn ';' text).flatMap groupParameters ↔
        ∃ group, Text.IsPart ';' text group ∧ name ∈ groupParameters group := by
    simp only [List.mem_flatMap, Text.mem_splitOn_iff]
  simp only [← grouped, inParentheses_iff, ← leadingKeyword?_eq_some_iff]
  rw [parameters]
  cases line.parameterList? with
  | none =>
    refine iff_of_false ?_ ?_
    · intro found
      split at found <;> cases found
    · rintro ⟨keyword, -, -, text, none, -⟩
      cases none
  | some text =>
    constructor
    · intro found
      split at found
      next leading => exact ⟨_, .inl rfl, leading, text, rfl, found⟩
      next leading => exact ⟨_, .inr rfl, leading, text, rfl, found⟩
      next => cases found
    · rintro ⟨keyword, rfl | rfl, leading, text, same, found⟩ <;> cases same <;> rwa [leading]

end Line

/-- The names in a declaration. -/
def Declaration.names : Declaration → List (List Char)
  | constant name => [name]
  | variableList names => names

namespace Line

theorem declares_iff {line : Line} {part : Part} {name : List Char} :
    line.Declares part name ↔
      (∃ declaration, line.declaration? part = some declaration ∧ name ∈ declaration.names) ∨
        name ∈ line.parameters := by
  constructor
  · intro declares
    cases declares with
    | constantName behind equals =>
      refine .inl ⟨.constant _, ?_, List.mem_singleton_self _⟩
      rw [behind_iff.mp behind, ← Text.map_fst_splitOnce?_iff, Option.map_eq_some_iff] at equals
      obtain ⟨parts, found, rfl⟩ := equals
      rw [declaration?_constantPart, found]
      rfl
    | variableName behind colon listed named =>
      rw [behind_iff.mp behind, ← Text.map_fst_splitOnce?_iff, Option.map_eq_some_iff] at colon
      obtain ⟨parts, found, rfl⟩ := colon
      refine .inl ⟨.variableList _, ?_, (mem_listed_iff Text.trim).mpr ⟨_, listed, named, rfl⟩⟩
      rw [declaration?_variablePart, found]
      rfl
    | parameterName heading leads parentheses grouped colon listed named =>
      exact .inr (mem_parameters_iff.mpr ⟨_, heading, leads, _, parentheses, _, grouped,
        mem_groupParameters_iff.mpr ⟨_, _, colon, listed, named, rfl⟩⟩)
  · rintro (⟨declaration, declared, found⟩ | found)
    · cases part with
      | otherPart => cases declared
      | statementPart => cases declared
      | constantPart =>
        rw [declaration?_constantPart, Option.map_eq_some_iff] at declared
        obtain ⟨parts, equals, rfl⟩ := declared
        obtain rfl := List.mem_singleton.mp found
        exact .constantName (behind_iff.mpr rfl) (Text.map_fst_splitOnce?_iff.mp (by rw [equals]; rfl))
      | variablePart =>
        rw [declaration?_variablePart, Option.map_eq_some_iff] at declared
        obtain ⟨parts, colon, rfl⟩ := declared
        obtain ⟨item, listed, named, rfl⟩ := (mem_listed_iff Text.trim).mp found
        exact .variableName (behind_iff.mpr rfl) (Text.map_fst_splitOnce?_iff.mp (by rw [colon]; rfl))
          listed named
    · obtain ⟨keyword, heading, leads, text, parentheses, group, grouped, inside⟩ :=
        mem_parameters_iff.mp found
      obtain ⟨names, item, colon, listed, named, rfl⟩ := mem_groupParameters_iff.mp inside
      exact .parameterName heading leads parentheses grouped colon listed named

end Line

end PascalLint
