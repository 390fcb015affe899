import PascalLint.Proofs.Parts
import PascalLint.Rule.Assignment
import PascalLint.Rule.CaseLabels

/-! # Where the rules find a mark

Two rules go over a text for its first mark of a kind, an equals sign or a colon, and look at the
character before it or behind it to see whether it is one of two that belong together. What they find is
the first column with such a mark. The labels before a colon are found between commas.
-/

namespace PascalLint

/-! ## Equals signs -/

namespace Rule.Assignment

/-- An equals sign that is not part of `<=` or `>=`, in a text that an angle bracket may precede. -/
def BareEquals (bracket : Bool) (text : List Char) (column : Nat) : Prop :=
  text[column]? = some '=' ∧ (column = 0 → bracket = false) ∧
    ∀ before, column = before + 1 → text[before]? ≠ some '<' ∧ text[before]? ≠ some '>'

theorem bareEquals_zero {bracket : Bool} {c : Char} {rest : List Char} :
    BareEquals bracket (c :: rest) 0 ↔ c = '=' ∧ bracket = false := by
  simp [BareEquals]

theorem bareEquals_succ {bracket : Bool} {c : Char} {rest : List Char} {column : Nat} :
    BareEquals bracket (c :: rest) (column + 1) ↔ BareEquals (c == '<' || c == '>') rest column := by
  -- What precedes the sign is `c` itself, or stands in `rest`.
  cases column with
  | zero => simp [BareEquals]
  | succ column => simp [BareEquals]

theorem equals?_eq_some_iff {bracket : Bool} {text : List Char} {column : Nat} :
    equals? bracket text = some column ↔ Text.IsFirst (BareEquals bracket text) column := by
  induction text generalizing bracket column with
  | nil => simp [equals?, Text.IsFirst, BareEquals]
  | cons c rest ih =>
    have here : BareEquals bracket (c :: rest) 0 ↔ (c == '=' && !bracket) = true := by
      simp [bareEquals_zero]
    rw [equals?]
    exact Text.step_eq_some_iff here fun column => by simp only [bareEquals_succ, ih]

end Rule.Assignment

/-! ## Colons and labels -/

/-- A colon that is not part of an assignment. -/
def Text.LabelColon (text : List Char) (column : Nat) : Prop :=
  text[column]? = some ':' ∧ text[column + 1]? ≠ some '='

namespace Rule.CaseLabels

theorem colon?_eq_some_iff {text : List Char} {column : Nat} :
    colon? text = some column ↔ Text.IsFirst (Text.LabelColon text) column := by
  induction text generalizing column with
  | nil => simp [colon?, Text.IsFirst, Text.LabelColon]
  | cons c rest ih =>
    have here : Text.LabelColon (c :: rest) 0 ↔ c = ':' ∧ rest.head? ≠ some '=' := by
      simp [Text.LabelColon, List.head?_eq_getElem?]
    have there (next : Nat) :
        Text.LabelColon (c :: rest) (next + 1) ↔ Text.LabelColon rest next := by
      simp [Text.LabelColon]
    have step : colon? (c :: rest) =
        if c = ':' ∧ rest.head? ≠ some '=' then some 0 else (colon? rest).map (· + 1) := by
      by_cases colon : c = ':'
      · subst colon
        by_cases assigns : rest.head? = some '=' <;> simp [colon?, assigns]
      · rw [if_neg (by simp [colon]), colon?]
        exact colon
    rw [step]
    exact Text.step_eq_some_iff here fun column => by simp only [there, ih]

theorem mem_items_iff {start column length : Nat} {text : List Char} :
    (column, length) ∈ items start (Text.splitOn ',' text) ↔
      ∃ front part, Text.IsPartBehind ',' text front part ∧ Text.isBlank part = false ∧
        column = start + (front.length + Text.indent part) ∧ length = (Text.trim part).length := by
  have first (part : List Char) (parts : List (List Char)) :
      (column, length) ∈ items start (part :: parts) ↔
        (Text.isBlank part = false ∧ column = start + Text.indent part ∧
          length = (Text.trim part).length) ∨
          (column, length) ∈ items (start + part.length + 1) parts := by
    rw [items]
    by_cases blank : Text.isBlank part = true
    · simp [blank]
    · simp [blank]
  -- Both sides go from comma to comma.
  by_cases present : ',' ∈ text
  · obtain ⟨front, behind, rfl, absent⟩ := List.eq_append_cons_of_mem present
    have shorter : behind.length < (front ++ ',' :: behind).length := by
      rw [List.length_append, List.length_cons]
      omega
    rw [Text.splitOn_append absent, first, mem_items_iff]
    simp only [Text.isPartBehind_append absent]
    constructor
    · rintro (⟨shown, rfl, rfl⟩ | ⟨more, part, item, shown, rfl, rfl⟩)
      · exact ⟨[], front, .inl ⟨rfl, rfl⟩, shown, by simp, rfl⟩
      · refine ⟨_, part, .inr ⟨more, rfl, item⟩, shown, ?_, rfl⟩
        rw [List.length_append, List.length_cons]
        omega
    · rintro ⟨before, part, ⟨rfl, rfl⟩ | ⟨more, rfl, item⟩, shown, rfl, rfl⟩
      · exact .inl ⟨shown, by simp, rfl⟩
      · refine .inr ⟨more, part, item, shown, ?_, rfl⟩
        rw [List.length_append, List.length_cons]
        omega
  · rw [Text.splitOn_of_not_mem present, first]
    simp only [Text.isPartBehind_of_not_mem present]
    constructor
    · rintro (⟨shown, rfl, rfl⟩ | none)
      · exact ⟨[], text, ⟨rfl, rfl⟩, shown, by simp, rfl⟩
      · cases none
    · rintro ⟨front, part, ⟨rfl, rfl⟩, shown, rfl, rfl⟩
      exact .inl ⟨shown, by simp, rfl⟩
termination_by text.length

end Rule.CaseLabels

end PascalLint
