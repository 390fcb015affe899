import PascalLint.Reserved

/-! # Keywords of line rules

The words that the line rules go by: the reserved words of the scanner and six more that begin
declarations. A word is a keyword if its lower case is the keyword's spelling, a finer comparison
than the case folding by which the scanner looks words up.
-/

namespace PascalLint

/-- The words that the line rules go by. -/
inductive Keyword
  | reserved (word : Reserved)
  | typeWord
  | labelWord
  | usesWord
  | procedureWord
  | functionWord
  | recordWord
deriving DecidableEq, Repr

namespace Keyword

/-- All keywords. -/
def all : List Keyword :=
  Reserved.all.map reserved
    ++ [typeWord, labelWord, usesWord, procedureWord, functionWord, recordWord]

/-- The keyword in small letters. -/
def spelling : Keyword → List Char
  | reserved word => word.spelling
  | typeWord => ['t', 'y', 'p', 'e']
  | labelWord => ['l', 'a', 'b', 'e', 'l']
  | usesWord => ['u', 's', 'e', 's']
  | procedureWord => ['p', 'r', 'o', 'c', 'e', 'd', 'u', 'r', 'e']
  | functionWord => ['f', 'u', 'n', 'c', 't', 'i', 'o', 'n']
  | recordWord => ['r', 'e', 'c', 'o', 'r', 'd']

/-- The keyword that a text in lower case spells. -/
def ofLower? (text : List Char) : Option Keyword :=
  all.find? (·.spelling == text)

theorem mem_all (keyword : Keyword) : keyword ∈ all := by
  cases keyword with
  | reserved word => cases word <;> decide
  | _ => decide

theorem spelling_injective {j k : Keyword} (same : j.spelling = k.spelling) : j = k := by
  have decided : ∀ j ∈ all, ∀ k ∈ all, j.spelling = k.spelling → j = k := by decide
  exact decided j (mem_all j) k (mem_all k) same

theorem ofLower?_eq_some_iff {text : List Char} {keyword : Keyword} :
    ofLower? text = some keyword ↔ text = keyword.spelling := by
  constructor
  · intro found
    unfold ofLower? at found
    have same := List.find?_some found
    exact (eq_of_beq same).symm
  · rintro rfl
    match found : ofLower? keyword.spelling with
    | none =>
      unfold ofLower? at found
      have absent := List.find?_eq_none.mp found keyword (mem_all keyword)
      exact absurd (beq_self_eq_true keyword.spelling) absent
    | some other =>
      unfold ofLower? at found
      have same := List.find?_some found
      rw [spelling_injective (eq_of_beq same)]

end Keyword

end PascalLint
