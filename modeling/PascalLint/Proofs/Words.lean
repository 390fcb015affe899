import PascalLint.Line
import PascalLint.Proofs.Veil

/-! # Where words stand

A word stands in a text if it is a run of identifier characters that neither begins nor ends inside
a longer one. The words of a masked line stand in the masked line, and so they stand in the line
itself, in the same columns.
-/

namespace PascalLint

open PascalLint.Identifier (mayStart mayContinue)

namespace Word

/-- The word is a run of identifier characters of the text, in the columns that it is said to be
    in. -/
structure StandsIn (word : Word) (text : List Char) : Prop where
  starts : ∃ c, word.characters.head? = some c ∧ mayStart c = true
  run : Identifier.run (text.drop word.start) = word.characters
  alone : ∀ column c, word.start = column + 1 → text[column]? = some c → mayContinue c = false

namespace StandsIn

theorem head? {word : Word} {text : List Char} (stands : word.StandsIn text) :
    ∃ c, (text.drop word.start).head? = some c ∧ mayStart c = true := by
  obtain ⟨c, first, start⟩ := stands.starts
  rw [← stands.run] at first
  exact ⟨c, Identifier.head?_of_run first, start⟩

theorem stop_le {word : Word} {text : List Char} (stands : word.StandsIn text) :
    word.start < word.stop ∧ word.stop ≤ text.length := by
  obtain ⟨c, first, -⟩ := stands.starts
  have nonempty : 0 < word.characters.length := by
    cases characters : word.characters with
    | nil => simp [characters] at first
    | cons d rest => simp
  have short : word.characters.length ≤ (text.drop word.start).length := by
    rw [← stands.run]
    exact (List.takeWhile_sublist _).length_le
  rw [List.length_drop] at short
  exact ⟨by simp only [stop]; omega, by simp only [stop]; omega⟩

theorem of_veils {word : Word} {raw masked : List Char} (stands : word.StandsIn masked)
    (veils : Veils raw masked) : word.StandsIn raw where
  starts := stands.starts
  run := by
    obtain ⟨c, here, start⟩ := stands.head?
    rw [(veils.drop word.start).run_eq here (Identifier.mayContinue_of_mayStart start)]
    exact stands.run
  alone column c before here := by
    obtain ⟨first, next, start⟩ := stands.head?
    obtain ⟨shown, other⟩ := Identifier.ne_of_mayContinue (Identifier.mayContinue_of_mayStart start)
    rw [List.head?_drop, before] at next
    rcases veils.getElem?_before here next shown other with seen | closer
    · exact stands.alone column c before seen
    · simp only [List.mem_cons, List.not_mem_nil, or_false] at closer
      rcases closer with rfl | rfl <;> decide

/-- What stands in one column is one word. -/
theorem unique {word other : Word} {text : List Char} (stands : word.StandsIn text)
    (also : other.StandsIn text) (same : word.start = other.start) : word = other := by
  have characters : word.characters = other.characters := by
    rw [← stands.run, ← also.run, same]
  cases word
  cases other
  simp_all

end StandsIn

/-! ## The words of a text -/

theorem standsIn_of_mem_ofText {word : Word} (before text : List Char)
    (apart : (∀ column c, before.length = column + 1 → before[column]? = some c →
      mayContinue c = false) ∨ ∀ c, text.head? = some c → mayContinue c = false)
    (found : word ∈ ofText before.length text) : word.StandsIn (before ++ text) := by
  generalize column : before.length = start at found
  -- Behind a run `before` ends inside an identifier, and then what is left begins outside of one.
  fun_induction ofText start text generalizing before with
  | case1 => cases found
  | case2 start c rest identifier characters behind first ih =>
    rcases List.mem_cons.mp found with rfl | later
    · refine ⟨⟨c, rfl, first⟩, ?_, fun previous d last here => ?_⟩
      · rw [← column, List.drop_left]
        simp [characters, Identifier.run, identifier]
      · rcases apart with alone | ended
        · have last : before.length = previous + 1 := column.trans last
          refine alone previous d last ?_
          rwa [List.getElem?_append_left (by omega)] at here
        · exact absurd identifier (by simp [ended c rfl])
    · rw [← Text.takeWhile_append_drop mayContinue rest, ← List.cons_append, ← List.append_assoc]
      exact ih (before ++ characters) (.inr (Text.ends_of_drop_takeWhile mayContinue rest))
        (by rw [List.length_append, column]) later
  | case3 start c rest identifier characters behind first ih =>
    rw [← Text.takeWhile_append_drop mayContinue rest, ← List.cons_append, ← List.append_assoc]
    exact ih (before ++ characters) (.inr (Text.ends_of_drop_takeWhile mayContinue rest))
      (by rw [List.length_append, column]) found
  | case4 start c rest other ih =>
    rw [show before ++ c :: rest = (before ++ [c]) ++ rest by simp]
    refine ih (before ++ [c]) (.inl fun previous d last here => ?_) (by simp [column]) found
    obtain rfl : before.length = previous := by simpa using last
    obtain rfl : c = d := by simpa using here
    simpa using other

theorem standsIn_of_mem_words {word : Word} {line : Line} (found : word ∈ line.words) :
    word.StandsIn line.masked :=
  standsIn_of_mem_ofText [] line.masked (.inl fun column c first => by cases first) found

/-- At a run of identifier characters either the word is that run, or it stands behind it. -/
theorem StandsIn.run_cases {word : Word} {before rest : List Char} {c : Char}
    (stands : word.StandsIn (before ++ c :: rest)) (identifier : mayContinue c = true)
    (after : before.length ≤ word.start) :
    (mayStart c = true ∧ word = ⟨before.length, c :: Identifier.run rest⟩) ∨
      before.length + (c :: Identifier.run rest).length ≤ word.start := by
  by_cases here : word.start = before.length
  · have run := stands.run
    obtain ⟨d, first, start⟩ := stands.head?
    rw [here, List.drop_left] at run first
    obtain rfl : c = d := by simpa using first
    rw [Identifier.run, List.takeWhile_cons_of_pos identifier] at run
    exact .inl ⟨start, by rw [← here, Identifier.run, run]⟩
  · -- Inside the run the character before the word would be one of an identifier.
    refine .inr (Nat.le_of_not_lt fun inside => ?_)
    obtain ⟨column, start⟩ : ∃ column, word.start = column + 1 :=
      Nat.exists_eq_add_one.mpr (by omega)
    have bound : column - before.length < (c :: Identifier.run rest).length := by omega
    have seen : (before ++ c :: rest)[column]? =
        some (c :: Identifier.run rest)[column - before.length] := by
      have whole : c :: rest = (c :: Identifier.run rest) ++ rest.drop (Identifier.run rest).length := by
        rw [List.cons_append, Identifier.run, Text.takeWhile_append_drop]
      rw [List.getElem?_append_right (by omega), whole, List.getElem?_append_left bound,
        List.getElem?_eq_getElem bound]
    have run : ∀ d ∈ c :: Identifier.run rest, mayContinue d = true :=
      List.forall_mem_cons.mpr ⟨identifier, List.all_eq_true.mp List.all_takeWhile⟩
    have ended := stands.alone column _ start seen
    rw [run _ (List.getElem_mem bound)] at ended
    cases ended

theorem mem_ofText_of_standsIn {word : Word} (before text : List Char)
    (stands : word.StandsIn (before ++ text)) (after : before.length ≤ word.start) :
    word ∈ ofText before.length text := by
  generalize column : before.length = start at after ⊢
  fun_induction ofText start text generalizing before with
  | case1 =>
    have inside := stands.stop_le
    rw [List.append_nil, column] at inside
    omega
  | case2 start c rest identifier characters behind first ih =>
    subst column
    rcases stands.run_cases identifier after with ⟨-, rfl⟩ | later
    · exact List.mem_cons_self
    · refine List.mem_cons_of_mem _ (ih (before ++ characters) ?_ List.length_append later)
      rwa [List.append_assoc, List.cons_append, Identifier.run, Text.takeWhile_append_drop]
  | case3 start c rest identifier characters behind first ih =>
    subst column
    rcases stands.run_cases identifier after with ⟨start, -⟩ | later
    · exact absurd start first
    · refine ih (before ++ characters) ?_ List.length_append later
      rwa [List.append_assoc, List.cons_append, Identifier.run, Text.takeWhile_append_drop]
  | case4 start c rest other ih =>
    subst column
    rw [show before ++ c :: rest = (before ++ [c]) ++ rest by simp] at stands
    refine ih (before ++ [c]) stands List.length_append (Nat.lt_of_le_of_ne after fun here => ?_)
    obtain ⟨d, first, start⟩ := stands.head?
    rw [← here, List.append_assoc, List.drop_left] at first
    obtain rfl : c = d := by simpa using first
    exact other (Identifier.mayContinue_of_mayStart start)

theorem mem_words_iff {word : Word} {line : Line} :
    word ∈ line.words ↔ word.StandsIn line.masked :=
  ⟨standsIn_of_mem_words,
    fun stands => mem_ofText_of_standsIn [] line.masked stands (Nat.zero_le _)⟩

/-! ## No two words at one place -/

theorem le_start_of_mem_ofText {column : Nat} {text : List Char} {word : Word}
    (found : word ∈ ofText column text) : column ≤ word.start := by
  fun_induction ofText column text with
  | case1 => cases found
  | case2 column c rest identifier characters behind first ih =>
    rcases List.mem_cons.mp found with rfl | later
    · exact Nat.le_refl _
    · exact Nat.le_trans (Nat.le_add_right _ _) (ih later)
  | case3 column c rest identifier characters behind first ih =>
    exact Nat.le_trans (Nat.le_add_right _ _) (ih found)
  | case4 column c rest other ih => exact Nat.le_of_succ_le (ih found)

theorem pairwise_ofText (column : Nat) (text : List Char) :
    (ofText column text).Pairwise fun word later => word.start < later.start := by
  fun_induction ofText column text with
  | case1 => exact .nil
  | case2 column c rest identifier characters behind first ih =>
    refine List.pairwise_cons.mpr ⟨fun later found => ?_, ih⟩
    have after : column + characters.length ≤ later.start := le_start_of_mem_ofText found
    have nonempty : 0 < characters.length := Nat.zero_lt_succ _
    change column < later.start
    omega
  | case3 column c rest identifier characters behind first ih => exact ih
  | case4 column c rest other ih => exact ih

end Word

/-! ## The word that leads a line -/

namespace Line

/-- The word stands in the masked line with nothing but white space before it. -/
structure Leads (line : Line) (word : Word) : Prop where
  stands : word.StandsIn line.masked
  blank : Text.isBlank (line.masked.take word.start) = true

theorem Leads.indent {line : Line} {word : Word} (leads : line.Leads word) :
    Text.indent line.masked = word.start := by
  obtain ⟨c, first, start⟩ := leads.stands.head?
  obtain ⟨rest, behind⟩ := List.head?_eq_some_iff.mp first
  have blank : ∀ d ∈ line.masked.take word.start, Unicode.isWhiteSpace d = true :=
    List.all_eq_true.mp leads.blank
  have short := leads.stands.stop_le
  rw [Text.indent, ← List.take_append_drop word.start line.masked, behind,
    List.takeWhile_append_of_pos blank,
    List.takeWhile_cons_of_neg (by simp [Identifier.not_isWhiteSpace_of_mayStart start]),
    List.append_nil, List.length_take]
  omega

theorem leadingWord?_eq_some_iff {line : Line} {word : Word} :
    line.leadingWord? = some word ↔ line.Leads word := by
  rw [leadingWord?, Option.filter_eq_some_iff, beq_iff_eq]
  constructor
  · rintro ⟨first, start⟩
    refine ⟨Word.standsIn_of_mem_words (List.mem_of_mem_head? first), ?_⟩
    have front := List.prefix_iff_eq_take.mp (List.takeWhile_prefix Unicode.isWhiteSpace (l := line.masked))
    rw [start, Text.isBlank, Text.indent, ← front]
    exact List.all_takeWhile
  · intro leads
    refine ⟨?_, leads.indent.symm⟩
    have found := Word.mem_words_iff.mpr leads.stands
    have sorted : line.words.Pairwise fun word later => word.start < later.start :=
      Word.pairwise_ofText 0 line.masked
    cases words : line.words with
    | nil => simp [words] at found
    | cons first others =>
      rw [words] at found sorted
      rcases List.mem_cons.mp found with rfl | later
      · rfl
      · -- A word before it would begin in the white space.
        have before := (List.pairwise_cons.mp sorted).1 word later
        have stands : first.StandsIn line.masked :=
          Word.standsIn_of_mem_words (by rw [words]; exact List.mem_cons_self)
        obtain ⟨c, here, start⟩ := stands.head?
        rw [List.head?_drop] at here
        have white : Unicode.isWhiteSpace c = true := by
          refine List.all_eq_true.mp leads.blank c (List.mem_of_getElem? (i := first.start) ?_)
          rw [List.getElem?_take_of_lt before, here]
        rw [Identifier.not_isWhiteSpace_of_mayStart start] at white
        cases white

theorem leadingWord?_eq_none_iff {line : Line} :
    line.leadingWord? = none ↔ ∀ word, ¬line.Leads word := by
  simp only [Option.eq_none_iff_forall_ne_some, Ne, leadingWord?_eq_some_iff]

/-- One word leads a line at most. -/
theorem Leads.unique {line : Line} {word other : Word} (leads : line.Leads word)
    (also : line.Leads other) : word = other := by
  rw [← leadingWord?_eq_some_iff] at leads also
  rw [leads] at also
  exact Option.some.inj also

/-- The line begins, apart from white space, with the keyword in some letter case. -/
def LeadsWith (line : Line) (keyword : Keyword) : Prop :=
  ∃ word, line.Leads word ∧ word.text = keyword.spelling

theorem Leads.leadsWith_iff {line : Line} {word : Word} (leads : line.Leads word)
    {keyword : Keyword} : line.LeadsWith keyword ↔ word.keyword? = some keyword := by
  rw [Word.keyword?, Keyword.ofLower?_eq_some_iff]
  constructor
  · rintro ⟨other, also, spelled⟩
    rwa [leads.unique also]
  · intro spelled
    exact ⟨word, leads, spelled⟩

theorem leadingKeyword?_eq_some_iff {line : Line} {keyword : Keyword} :
    line.leadingKeyword? = some keyword ↔ line.LeadsWith keyword := by
  simp only [leadingKeyword?, Option.bind_eq_some_iff, leadingWord?_eq_some_iff, Word.keyword?,
    Keyword.ofLower?_eq_some_iff, LeadsWith]

end Line

end PascalLint
