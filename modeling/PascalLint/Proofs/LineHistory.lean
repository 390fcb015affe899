import PascalLint.Proofs.DeclarationHistory
import PascalLint.Proofs.OnlineAnalysis

/-! # The history of a line

What the rules make of a line depends on the lines above it: they say which part of the program is in
force and which names have been declared. A context keeps as much of this history as is needed
(`Context.Remembers`). Every line adds to it what the line declares, so whatever a context remembers of
the lines above is shown line by line (`Context.holds_after`).
-/

namespace PascalLint

/-! ## Histories -/

/-- Lines as the rules see them, the first of which has the given number, if `opened` is open before
    them. -/
def Line.ofTexts (first : Nat) (opened : Option OpenLiteral) : List (List Char) → List Line
  | [] => []
  | text :: below =>
    let masked := maskLine first text opened
    ⟨first, text, masked.text⟩ :: ofTexts (first + 1) masked.opened below

/-- The part of the program is in force behind the lines: the last line to begin a part begins this
    one. -/
def InForce (lines : List Line) (part : Part) : Prop :=
  (∃ above line below, lines = above ++ line :: below ∧ line.Begins part ∧
      ∀ later ∈ below, ∀ other, ¬later.Begins other) ∨
    part = .otherPart ∧ ∀ line ∈ lines, ∀ other, ¬line.Begins other

/-- One of the lines declares the name, in whatever letter case. -/
def Declared (lines : List Line) (name : List Char) : Prop :=
  ∃ above line below part declared, lines = above ++ line :: below ∧
    InForce (above ++ [line]) part ∧ line.Declares part declared ∧
    Unicode.foldCaseText declared = Unicode.foldCaseText name

/-- The line below the others is no declaration. -/
def Line.PlainBelow (above : List Line) (line : Line) : Prop :=
  ∃ part, InForce (above ++ [line]) part ∧ ¬line.IsDeclaration part

/-! ## One more line -/

section Concat

variable {above : List Line} {line : Line}

/-- A division of lines at one of them when one more line is added. -/
theorem concat_eq_append_cons_iff {front below : List Line} {here : Line} :
    above ++ [line] = front ++ here :: below ↔
      (front = above ∧ here = line ∧ below = []) ∨
        ∃ rest, below = rest ++ [line] ∧ above = front ++ here :: rest := by
  constructor
  · intro same
    rcases List.eq_nil_or_concat below with rfl | ⟨rest, last, rfl⟩
    · obtain ⟨rfl, lines⟩ := List.append_inj' same rfl
      exact .inl ⟨rfl, (List.singleton_inj.mp lines).symm, rfl⟩
    · have same : above ++ [line] = (front ++ here :: rest) ++ [last] := by simpa using same
      obtain ⟨rfl, lines⟩ := List.append_inj' same rfl
      exact .inr ⟨rest, by rw [List.concat_eq_append, lines], rfl⟩
  · rintro (⟨rfl, rfl, rfl⟩ | ⟨rest, rfl, rfl⟩)
    · rfl
    · simp

theorem inForce_concat {part : Part} :
    InForce (above ++ [line]) part ↔
      line.part? = some part ∨ line.part? = none ∧ InForce above part := by
  have quiet : line.part? = none ↔ ∀ other, ¬line.Begins other := by
    simp only [Option.eq_none_iff_forall_ne_some, Ne, Line.part?_eq_some_iff]
  rw [quiet, Line.part?_eq_some_iff]
  -- The last line to begin a part is the added one, or it is one of those above.
  constructor
  · rintro (⟨front, here, below, same, begins, later⟩ | ⟨rfl, none⟩)
    · rcases concat_eq_append_cons_iff.mp same with ⟨rfl, rfl, rfl⟩ | ⟨rest, rfl, rfl⟩
      · exact .inl begins
      · rw [List.forall_mem_append] at later
        exact .inr ⟨later.2 line (List.mem_singleton_self line),
          .inl ⟨front, here, rest, rfl, begins, later.1⟩⟩
    · rw [List.forall_mem_append] at none
      exact .inr ⟨none.2 line (List.mem_singleton_self line), .inr ⟨rfl, none.1⟩⟩
  · rintro (begins | ⟨none, ⟨front, here, below, rfl, begins, later⟩ | ⟨rfl, before⟩⟩)
    · exact .inl ⟨above, line, [], rfl, begins, by simp⟩
    · refine .inl ⟨front, here, below ++ [line], by simp, begins, ?_⟩
      rw [List.forall_mem_append, List.forall_mem_singleton]
      exact ⟨later, none⟩
    · refine .inr ⟨rfl, ?_⟩
      rw [List.forall_mem_append, List.forall_mem_singleton]
      exact ⟨before, none⟩

theorem exists_line_concat {P : List Line → Line → Prop} :
    (∃ front here below, above ++ [line] = front ++ here :: below ∧ P front here) ↔
      (∃ front here below, above = front ++ here :: below ∧ P front here) ∨ P above line := by
  constructor
  · rintro ⟨front, here, below, same, holds⟩
    rcases concat_eq_append_cons_iff.mp same with ⟨rfl, rfl, rfl⟩ | ⟨later, rfl, rfl⟩
    · exact .inr holds
    · exact .inl ⟨front, here, later, rfl, holds⟩
  · rintro (⟨front, here, below, rfl, holds⟩ | holds)
    · exact ⟨front, here, below ++ [line], by simp, holds⟩
    · exact ⟨above, line, [], rfl, holds⟩

theorem declared_concat {name : List Char} :
    Declared (above ++ [line]) name ↔
      Declared above name ∨ ∃ part declared, InForce (above ++ [line]) part ∧
        line.Declares part declared ∧ Unicode.foldCaseText declared = Unicode.foldCaseText name := by
  simp only [Declared, exists_and_left]
  exact exists_line_concat

end Concat

namespace Scope

variable {scope : Scope} {name : List Char}

theorem declares_addVariables {names : List (List Char)} :
    (scope.addVariables names).declares name = true ↔
      scope.declares name = true ∨
        ∃ declared ∈ names, Unicode.foldCaseText declared = Unicode.foldCaseText name := by
  simp [declares, hasConstant, hasVariable, addVariables, or_assoc]

/-- Only a blank name declares nothing, and it is not the name of anything. -/
theorem declares_add {declaration : Declaration} (nonempty : Unicode.foldCaseText name ≠ []) :
    (scope.add declaration).declares name = true ↔
      scope.declares name = true ∨
        ∃ declared ∈ declaration.names, Unicode.foldCaseText declared = Unicode.foldCaseText name := by
  cases declaration with
  | variableList names => exact declares_addVariables
  | constant declared =>
    cases declared with
    | nil => simp [add, Declaration.names, Ne.symm nonempty]
    | cons c rest =>
      simp only [add, Declaration.names, declares, hasConstant, hasVariable, List.contains_append,
        List.contains_cons, List.contains_nil, Bool.or_false, Bool.or_eq_true, beq_iff_eq,
        List.mem_singleton, exists_eq_left]
      rw [or_right_comm, eq_comm (a := Unicode.foldCaseText name)]

end Scope

/-! ## Contexts -/

namespace Context

/-- A context keeps the part in force and the names that have been declared. -/
structure Remembers (context : Context) (above : List Line) : Prop where
  part : ∀ part, InForce above part ↔ part = context.part
  scope : ∀ name, Unicode.foldCaseText name ≠ [] →
    (Declared above name ↔ context.scope.declares name = true)

theorem remembers_start : start.Remembers [] where
  part part := by
    simp [InForce]
    rfl
  scope name nonempty := by
    simp [Declared]
    rfl

namespace Remembers

variable {context : Context} {above : List Line} (remembers : context.Remembers above)
include remembers

theorem partOf (line : Line) (part : Part) :
    InForce (above ++ [line]) part ↔ part = context.partOf line := by
  rw [inForce_concat, remembers.part, Context.partOf]
  cases line.part? with
  | none => simp
  | some begun => simp [eq_comm]

theorem scopeOf (line : Line) {name : List Char} (nonempty : Unicode.foldCaseText name ≠ []) :
    Declared (above ++ [line]) name ↔ (context.scopeOf line).declares name = true := by
  rw [declared_concat, remembers.scope name nonempty]
  simp only [remembers.partOf, exists_and_left, exists_eq_left, Line.declares_iff]
  have own : (context.scopeOf line).declares name = true ↔
      (context.scope.declares name = true ∨
        ∃ declared ∈ line.parameters, Unicode.foldCaseText declared = Unicode.foldCaseText name) ∨
      ∃ declaration, line.declaration? (context.partOf line) = some declaration ∧
        ∃ declared ∈ declaration.names, Unicode.foldCaseText declared = Unicode.foldCaseText name := by
    rw [Context.scopeOf, Context.declaration?]
    cases line.declaration? (context.partOf line) with
    | none => simp [Scope.declares_addVariables]
    | some declaration =>
      simp [Scope.declares_addVariables, Scope.declares_add nonempty]
  rw [own, or_assoc]
  -- What a line declares is either in its declaration or among its parameters.
  refine or_congr_right ?_
  constructor
  · rintro ⟨declared, ⟨declaration, is, found⟩ | found, same⟩
    · exact .inr ⟨declaration, is, declared, found, same⟩
    · exact .inl ⟨declared, found, same⟩
  · rintro (⟨declared, found, same⟩ | ⟨declaration, is, declared, found, same⟩)
    · exact ⟨declared, .inr found, same⟩
    · exact ⟨declared, .inl ⟨declaration, is, found⟩, same⟩

theorem advance (checks : Checks) (text : List Char) :
    (context.advance checks text).Remembers (above ++ [context.line text]) := by
  have next : (context.next text).Remembers (above ++ [context.line text]) :=
    ⟨remembers.partOf (context.line text), fun name => remembers.scopeOf (context.line text)⟩
  rw [Context.advance]
  split
  · exact next
  · exact ⟨next.part, next.scope⟩

/-- Whether a line is a declaration depends on the part that is in force on it. -/
theorem plainBelow_iff (line : Line) :
    line.PlainBelow above ↔ ¬(context.declaration? line).isSome = true := by
  simp only [Line.PlainBelow, remembers.partOf, exists_eq_left, ← Line.isSome_declaration?_iff,
    Context.declaration?]

theorem mem_unlessDeclaration {line : Line} {diagnostics : List Diagnostic} {d : Diagnostic} :
    d ∈ context.unlessDeclaration line diagnostics ↔ line.PlainBelow above ∧ d ∈ diagnostics := by
  rw [remembers.plainBelow_iff, unlessDeclaration]
  split
  next declares => simp [declares]
  next plain => simp [plain]

end Remembers

/-! ## Contexts behind lines -/

section Lines

variable {checks : Checks} {context : Context}

theorem ofTexts_cons (checks : Checks) (context : Context) (text : List Char)
    (texts : List (List Char)) :
    Line.ofTexts (context.lineCount + 1) context.opened (text :: texts) =
      context.line text :: Line.ofTexts ((context.advance checks text).lineCount + 1)
        (context.advance checks text).opened texts := by
  rw [lineCount_advance, opened_advance]
  rfl

theorem ofTexts_append (checks : Checks) (context : Context) (front texts : List (List Char)) :
    Line.ofTexts (context.lineCount + 1) context.opened (front ++ texts) =
      Line.ofTexts (context.lineCount + 1) context.opened front ++
        Line.ofTexts ((context.after checks front).lineCount + 1) (context.after checks front).opened
          texts := by
  induction front generalizing context with
  | nil => rfl
  | cons text front ih =>
    rw [List.cons_append, ofTexts_cons checks, ih, ofTexts_cons checks context text front]
    rfl

/-- A line among those of a source is one of its texts, as it is seen behind the texts above. -/
theorem ofTexts_eq_append_cons_iff (checks : Checks) (context : Context) {texts : List (List Char)}
    {above below : List Line} {line : Line} :
    Line.ofTexts (context.lineCount + 1) context.opened texts = above ++ line :: below ↔
      ∃ front text rest, texts = front ++ text :: rest ∧
        above = Line.ofTexts (context.lineCount + 1) context.opened front ∧
        line = (context.after checks front).line text ∧
        below = Line.ofTexts ((context.after checks (front ++ [text])).lineCount + 1)
          (context.after checks (front ++ [text])).opened rest := by
  constructor
  · intro same
    induction texts generalizing context above with
    | nil => simp [Line.ofTexts] at same
    | cons text texts ih =>
      rw [ofTexts_cons checks] at same
      cases above with
      | nil =>
        obtain ⟨rfl, rfl⟩ := List.cons.inj same
        exact ⟨[], text, texts, rfl, rfl, rfl, rfl⟩
      | cons first above =>
        obtain ⟨rfl, later⟩ := List.cons.inj same
        obtain ⟨front, text', rest, rfl, rfl, rfl, rfl⟩ := ih _ later
        exact ⟨text :: front, text', rest, rfl, (ofTexts_cons checks context text front).symm, rfl, rfl⟩
  · rintro ⟨front, text, rest, rfl, rfl, rfl, rfl⟩
    rw [ofTexts_append checks, ofTexts_cons checks, after_concat]

/-- What holds of a context and the lines above it, and is kept by every line, holds behind all of
    them. -/
theorem holds_after {Holds : Context → List Line → Prop}
    (step : ∀ context above text, Holds context above →
      Holds (context.advance checks text) (above ++ [context.line text]))
    {above : List Line} (holds : Holds context above) (texts : List (List Char)) :
    Holds (context.after checks texts)
      (above ++ Line.ofTexts (context.lineCount + 1) context.opened texts) := by
  induction texts generalizing context above with
  | nil =>
    rw [Line.ofTexts, List.append_nil]
    exact holds
  | cons text texts ih =>
    have later := ih (step context above text holds)
    rw [List.append_assoc, List.singleton_append, ← ofTexts_cons checks] at later
    exact later

end Lines

/-- Behind any lines, the analysis remembers what they declare. -/
theorem remembers_after (checks : Checks) (texts : List (List Char)) :
    (start.after checks texts).Remembers (Line.ofTexts 1 none texts) :=
  holds_after (fun _ _ text before => before.advance checks text) remembers_start texts

end Context

end PascalLint
