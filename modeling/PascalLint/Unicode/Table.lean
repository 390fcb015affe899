/-! # Tables of character properties

The properties of characters that depend on the Unicode character database are given as tables:
a list of code point ranges for a property that a character has or lacks, a list of runs for a
mapping of single characters. A run describes a block of letters by its first and last member,
the stride from one member to the next and the image of the first, so that alphabets which
alternate capital and small letters take one entry each.
-/

namespace PascalLint.Unicode

/-! ## Ranges -/

/-- The code points from `first` to `last`, both included. -/
structure CodeRange where
  first : Nat
  last : Nat

/-- Holds if the code point of `c` lies in the range. -/
def CodeRange.contains (range : CodeRange) (c : Char) : Bool :=
  range.first ≤ c.toNat && c.toNat ≤ range.last

/-- Holds if one of the ranges of a table contains `c`. -/
def inTable (table : List CodeRange) (c : Char) : Bool :=
  table.any (·.contains c)

theorem CodeRange.contains_iff {range : CodeRange} {c : Char} :
    range.contains c = true ↔ range.first ≤ c.toNat ∧ c.toNat ≤ range.last := by
  simp [CodeRange.contains]

theorem inTable_iff {table : List CodeRange} {c : Char} :
    inTable table c = true ↔ ∃ range ∈ table, range.first ≤ c.toNat ∧ c.toNat ≤ range.last := by
  simp [inTable, CodeRange.contains_iff]

/-! ## Mappings -/

/-- Every `stride`-th code point from `first` to `last`; the one at distance `d` from `first` is
    mapped to `image + d`. -/
structure CaseRun where
  first : Nat
  last : Nat
  stride : Nat
  image : Nat

/-- The image of `c`, if `c` is a member of the run. -/
def CaseRun.map? (run : CaseRun) (c : Char) : Option Char :=
  if run.first ≤ c.toNat && c.toNat ≤ run.last && (c.toNat - run.first) % run.stride == 0 then
    some (Char.ofNat (run.image + (c.toNat - run.first)))
  else
    none

/-- The image of `c` under the first run that has it as a member, and `c` itself if none has. -/
def mapTable (table : List CaseRun) (c : Char) : Char :=
  (table.findSome? (·.map? c)).getD c

end PascalLint.Unicode
