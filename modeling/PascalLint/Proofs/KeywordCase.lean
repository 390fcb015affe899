import Mathlib.Data.List.Basic
import PascalLint.Line

/-! # Keywords in any letter case

The scanner goes by the case folding of a word, the line rules go by its lower case. Where either is a
basic small letter it is the same letter for both, with few exceptions: the long s and two ligatures
are in lower case as they stand and fold to `s` and `st` (`Unicode.foldedOnly`), and further
characters fold to letters that stand side by side in no keyword (`Unicode.joined`). So a word with
none of the first is a keyword for both passes or for none of them.
-/

namespace PascalLint

namespace Unicode

/-! ## Characters -/

/-- The long s, the ligature of the long s and the t, and that of the s and the t. -/
def foldedOnly : List Char :=
  [Char.ofNat 0x17F, Char.ofNat 0xFB05, Char.ofNat 0xFB06]

/-- What the sharp s and the ligatures of the f fold to. -/
def joined : List (List Char) :=
  [['s', 's'], ['f', 'f'], ['f', 'i'], ['f', 'l'], ['f', 'f', 'i'], ['f', 'f', 'l']]

theorem isLower_iff {c : Char} : c.isLower = true ↔ 0x61 ≤ c.toNat ∧ c.toNat ≤ 0x7A := by
  change (decide (c.val ≥ 'a'.val) && decide (c.val ≤ 'z'.val)) = true ↔ _
  simp [UInt32.le_iff_toNat_le]

theorem le_of_isLower_ofNat {n : Nat} (small : (Char.ofNat n).isLower = true) :
    0x61 ≤ n ∧ n ≤ 0x7A := by
  rw [isLower_iff] at small
  by_cases valid : n.isValidChar
  · rwa [Char.ofNat, dif_pos valid] at small
  · rw [Char.ofNat, dif_neg valid] at small
    exact absurd small (by decide)

/-- Beyond the basic letters only a run whose images begin among these has them as images. -/
theorem exists_run_of_isLower_mapTable {table : List CaseRun} {c : Char} (high : ¬c.toNat < 0x80)
    (small : (mapTable table c).isLower = true) :
    ∃ run ∈ table, run.image ≤ 0x7A ∧ run.first ≤ c.toNat ∧ c.toNat ≤ run.last := by
  unfold mapTable at small
  cases found : table.findSome? (·.map? c) with
  | none =>
    rw [found, Option.getD_none, isLower_iff] at small
    omega
  | some image =>
    obtain ⟨run, inTable, mapped⟩ := List.exists_of_findSome?_eq_some found
    rw [found, Option.getD_some] at small
    unfold CaseRun.map? at mapped
    split at mapped
    next member =>
      obtain rfl := Option.some.inj mapped
      simp only [Bool.and_eq_true, decide_eq_true_eq] at member
      have letter := le_of_isLower_ofNat small
      exact ⟨run, inTable, by omega, member.1.1, member.1.2⟩
    next => cases mapped

/-- The Kelvin sign is a `k` in lower case and in case folding. -/
theorem lowercase_eq_foldCase_of_toNat {c : Char} (kelvin : c.toNat = 0x212A) :
    lowercase c = foldCase c := by
  obtain rfl : c = Char.ofNat 0x212A := by rw [← kelvin, Char.ofNat_toNat]
  decide

theorem lowercase_eq_foldCase {c : Char} (small : (lowercase c).all Char.isLower = true) :
    lowercase c = foldCase c := by
  -- Beyond the basic letters the Kelvin sign alone has one of them as its lower case.
  have runs : ∀ run ∈ lowercaseRuns, run.image ≤ 0x7A →
      run.first = 0x212A ∧ run.last = 0x212A := by decide +kernel
  by_cases basic : c.toNat < 0x80
  · rw [lowercase, foldCase, if_pos basic, if_pos basic]
  · unfold lowercase at small
    rw [if_neg basic] at small
    split at small
    next dotted => exact absurd small (by decide)
    next =>
      rw [List.all_cons, List.all_nil, Bool.and_true] at small
      obtain ⟨run, inTable, low, first, last⟩ := exists_run_of_isLower_mapTable basic small
      have kelvin := runs run inTable low
      exact lowercase_eq_foldCase_of_toNat (by omega)

theorem not_mem_foldedOnly {c : Char} (small : (lowercase c).all Char.isLower = true) :
    c ∉ foldedOnly := by
  intro only
  simp only [foldedOnly, List.mem_cons, List.not_mem_nil, or_false] at only
  rcases only with rfl | rfl | rfl <;> exact absurd small (by decide)

theorem foldCase_cases {c : Char} (small : (foldCase c).all Char.isLower = true) :
    lowercase c = foldCase c ∨ c ∈ foldedOnly ∨ foldCase c ∈ joined := by
  -- The Kelvin sign and the long s fold to one basic letter, the ligatures to several.
  have runs : ∀ run ∈ foldingRuns, run.image ≤ 0x7A →
      (run.first = 0x17F ∧ run.last = 0x17F) ∨ (run.first = 0x212A ∧ run.last = 0x212A) := by
    decide +kernel
  have images : ∀ entry ∈ foldingExpansions, (entry.2.map Char.ofNat).all Char.isLower = true →
      Char.ofNat entry.1 ∈ foldedOnly ∨ entry.2.map Char.ofNat ∈ joined := by decide +kernel
  by_cases basic : c.toNat < 0x80
  · exact .inl (by rw [lowercase, foldCase, if_pos basic, if_pos basic])
  · unfold foldCase at small ⊢
    rw [if_neg basic] at small ⊢
    split at small
    next image found =>
      obtain ⟨front, behind, whole, -⟩ := List.lookup_eq_some_iff.mp found
      have entry : (c.toNat, image) ∈ foldingExpansions := by simp [whole]
      have cases := images _ entry small
      rw [Char.ofNat_toNat] at cases
      exact .inr cases
    next none =>
      rw [List.all_cons, List.all_nil, Bool.and_true] at small
      obtain ⟨run, inTable, low, first, last⟩ := exists_run_of_isLower_mapTable basic small
      rcases runs run inTable low with long | kelvin
      · obtain rfl : c = Char.ofNat 0x17F := by
          rw [show 0x17F = c.toNat by omega, Char.ofNat_toNat]
        exact .inr (.inl (by decide))
      · refine .inl ?_
        rw [lowercase_eq_foldCase_of_toNat (by omega), foldCase, if_neg basic, none]

/-! ## Texts -/

theorem all_isLower_of_flatMap {fold : Char → List Char} {text : List Char}
    (small : (text.flatMap fold).all Char.isLower = true) {c : Char} (found : c ∈ text) :
    (fold c).all Char.isLower = true := by
  rw [List.all_flatMap, List.all_eq_true] at small
  exact small c found

/-- The lower case of a text is some word in small letters if its case folding is that word and no
    character of it folds only. -/
theorem lowercaseText_eq_iff {text target : List Char} (small : target.all Char.isLower = true)
    (apart : ∀ letters ∈ joined, ¬letters <:+: target) :
    lowercaseText text = target ↔ foldCaseText text = target ∧ ∀ c ∈ text, c ∉ foldedOnly := by
  constructor
  · rintro rfl
    have each {c : Char} (found : c ∈ text) : (lowercase c).all Char.isLower = true :=
      all_isLower_of_flatMap small found
    refine ⟨?_, fun c found => not_mem_foldedOnly (each found)⟩
    exact List.flatMap_congr fun c found => (lowercase_eq_foldCase (each found)).symm
  · rintro ⟨rfl, plain⟩
    refine List.flatMap_congr fun c found => ?_
    rcases foldCase_cases (all_isLower_of_flatMap small found) with equal | only | run
    · exact equal
    · exact absurd only (plain c found)
    · -- The letters of the folding stand side by side in the word.
      obtain ⟨front, behind, rfl⟩ := List.append_of_mem found
      refine absurd ⟨foldCaseText front, foldCaseText behind, ?_⟩ (apart _ run)
      simp [foldCaseText]

end Unicode

/-! ## Words -/

/-- The rules take a word for a reserved word if and only if the scanner does in the extended dialect and
    the word has none of the characters that fold only. -/
theorem Word.keyword?_eq_reserved_iff (word : Word) (reserved : Reserved) :
    word.keyword? = some (.reserved reserved) ↔
      Reserved.lookup? .extended word.characters = some reserved ∧
        ∀ c ∈ word.characters, c ∉ Unicode.foldedOnly := by
  have small : reserved.spelling.all Char.isLower = true := by
    cases reserved <;> decide
  have apart : ∀ letters ∈ Unicode.joined, ¬letters <:+: reserved.spelling := by
    cases reserved <;> decide +kernel
  rw [Word.keyword?, Keyword.ofLower?_eq_some_iff, Reserved.lookup?_eq_some_iff]
  exact (Unicode.lowercaseText_eq_iff small apart).trans (by simp [Dialect.reserves])

/-- With a long s `const` is a reserved word for the scanner and no keyword for the rules. -/
theorem Word.long_s_reserved_not_keyword :
    let name := ['c', 'o', 'n', Char.ofNat 0x17F, 't']
    Identifier.mayStart 'c' = true ∧ name.all Identifier.mayContinue = true ∧
      Reserved.lookup? .extended name = some .constWord ∧
      (⟨0, name⟩ : Word).keyword? ≠ some (.reserved .constWord) := by
  decide +kernel

end PascalLint
