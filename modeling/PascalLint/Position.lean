/-! # Positions

A place in a source: a line, counted from 1, and a column, counted in characters from 0.
Positions are ordered as one reads, by line and within a line by column.
-/

namespace PascalLint

/-- A line, counted from 1, and a column, counted in characters from 0. -/
structure Position where
  line : Nat
  column : Nat
deriving DecidableEq, Repr

namespace Position

/-- Reading order. -/
protected def le (p q : Position) : Prop :=
  p.line < q.line ∨ p.line = q.line ∧ p.column ≤ q.column

instance : LE Position := ⟨Position.le⟩

theorem le_iff {p q : Position} :
    p ≤ q ↔ p.line < q.line ∨ p.line = q.line ∧ p.column ≤ q.column :=
  Iff.rfl

instance (p q : Position) : Decidable (p ≤ q) :=
  decidable_of_iff _ le_iff.symm

theorem le_refl (p : Position) : p ≤ p := by
  simp [le_iff]

theorem le_trans {p q r : Position} (first : p ≤ q) (second : q ≤ r) : p ≤ r := by
  simp only [le_iff] at *
  omega

theorem le_total (p q : Position) : p ≤ q ∨ q ≤ p := by
  simp only [le_iff]
  omega

theorem le_of_not_le {p q : Position} (after : ¬p ≤ q) : q ≤ p :=
  (le_total p q).resolve_left after

/-- Strictly earlier in reading order. -/
protected def lt (p q : Position) : Prop :=
  p.line < q.line ∨ p.line = q.line ∧ p.column < q.column

instance : LT Position := ⟨Position.lt⟩

theorem lt_iff {p q : Position} :
    p < q ↔ p.line < q.line ∨ p.line = q.line ∧ p.column < q.column :=
  Iff.rfl

theorem lt_of_lt_of_le {p q r : Position} (first : p < q) (second : q ≤ r) : p < r := by
  simp only [lt_iff, le_iff] at *
  omega

/-- The written form: line and column with a point between them. -/
def render (p : Position) : String :=
  toString p.line ++ "." ++ toString p.column

end Position

end PascalLint
