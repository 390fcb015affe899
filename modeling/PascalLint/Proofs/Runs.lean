import PascalLint.Identifier
import PascalLint.Unicode.WhiteSpace

/-! # Runs of characters

A run is as much of a text as one predicate holds of. It and what is behind it make up the text, and
behind it the predicate does not hold. Identifiers are runs; what they never contain tells them from
the delimiters of literals.
-/

namespace PascalLint

/-! ## The text behind a run -/

namespace Text

theorem takeWhile_append_drop (p : Char → Bool) (text : List Char) :
    text.takeWhile p ++ text.drop (text.takeWhile p).length = text :=
  List.prefix_iff_eq_append.mp (List.takeWhile_prefix p)

theorem ends_of_drop_takeWhile (p : Char → Bool) (text : List Char) :
    ∀ c, (text.drop (text.takeWhile p).length).head? = some c → p c = false := by
  induction text with
  | nil =>
    intro c here
    cases here
  | cons d text ih =>
    by_cases more : p d = true
    · simpa [more] using ih
    · intro c here
      simp_all

end Text

/-! ## Identifiers -/

namespace Identifier

theorem not_isDigit_of_mayStart {c : Char} (start : mayStart c = true) : c.isDigit = false := by
  cases digit : c.isDigit with
  | false => rfl
  | true =>
    simp only [Char.isDigit, Bool.and_eq_true, decide_eq_true_eq, UInt32.le_iff_toNat_le,
      ge_iff_le] at digit
    change 48 ≤ c.toNat ∧ c.toNat ≤ 57 at digit
    -- The digits are ten, so it is enough to look at each of them.
    have none : ∀ n < 58, 48 ≤ n → mayStart (Char.ofNat n) = false := by decide
    have stop := none c.toNat (by omega) digit.1
    rw [Char.ofNat_toNat, start] at stop
    cases stop

theorem not_isWhiteSpace_of_mayStart {c : Char} (start : mayStart c = true) :
    Unicode.isWhiteSpace c = false := by
  cases white : Unicode.isWhiteSpace c with
  | false => rfl
  | true =>
    obtain ⟨range, found, low, high⟩ := Unicode.inTable_iff.mp white
    -- White space is rare enough to look at each of its characters.
    have none : ∀ range ∈ Unicode.whiteSpaceRanges, ∀ n < range.last - range.first + 1,
        mayStart (Char.ofNat (range.first + n)) = false := by decide +kernel
    have other := none range found (c.toNat - range.first) (by omega)
    rw [Nat.add_sub_cancel' low, Char.ofNat_toNat, start] at other
    cases other

theorem ne_of_mayContinue {c : Char} (identifier : mayContinue c = true) : c ≠ ' ' ∧ c ≠ '\'' := by
  constructor <;> rintro rfl <;> exact absurd identifier (by decide)

theorem run_eq_nil {text : List Char} (ends : ∀ c, text.head? = some c → mayContinue c = false) :
    run text = [] := by
  cases text with
  | nil => rfl
  | cons c text => simp [run, ends c rfl]

theorem head?_of_run {text : List Char} {c : Char} (first : (run text).head? = some c) :
    text.head? = some c := by
  cases text with
  | nil => cases first
  | cons d text =>
    simp only [run, List.takeWhile_cons] at first
    split at first
    · exact first
    · cases first

end Identifier

end PascalLint
