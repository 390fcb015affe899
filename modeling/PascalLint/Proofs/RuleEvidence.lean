import PascalLint.Analysis
import PascalLint.Proofs.Evidence
import PascalLint.Proofs.RuleMarks

/-! # The evidence for the line rules

Most rules look at masked lines. What they find there is no space, so it stands in the line itself,
in the same columns (`Veils`); one lemma for each rule says what that is.
-/

namespace PascalLint

open PascalLint.Unicode (isWhiteSpace)

/-! ## Texts -/

namespace Text

/-- Behind the indentation of a text that is not blank stands no white space. -/
theorem getElem?_indent {text : List Char} (solid : isBlank text = false) :
    ∃ c, text[indent text]? = some c ∧ isWhiteSpace c = false := by
  induction text with
  | nil => cases solid
  | cons c text ih =>
    by_cases white : isWhiteSpace c = true
    · obtain ⟨d, here, dark⟩ := ih (by simpa [white] using solid)
      refine ⟨d, ?_, dark⟩
      simpa [indent, white] using here
    · exact ⟨c, by simp [indent, white], by simpa using white⟩

theorem intercalate_splitOn (separator : Char) (text : List Char) :
    [separator].intercalate (splitOn separator text) = text := by
  induction text with
  | nil => rfl
  | cons c text ih =>
    simp only [splitOn]
    split
    next same =>
      rw [List.intercalate_cons_of_ne_nil (splitOn_ne_nil separator text), ih, same]
      rfl
    next other =>
      split
      next none => exact absurd none (splitOn_ne_nil separator text)
      next part parts parted => rw [List.intercalate_cons_cons_left, ← parted, ih]

end Text

/-! ## Lines -/

namespace Word

theorem text_of_keyword? {word : Word} {keyword : Keyword} (spelled : word.keyword? = some keyword) :
    word.text = keyword.spelling :=
  Keyword.ofLower?_eq_some_iff.mp spelled

end Word

namespace Line

/-- The diagnostic is one of a rule, on the line, in its columns or right behind them, and the line
    has the evidence for it. -/
def Shows (line : Line) (rule : Rule) (d : Diagnostic) : Prop :=
  ∃ defect column, d = line.diagnostic defect column ∧ defect.rule? = some rule ∧
    column ≤ line.raw.length ∧ ∀ count, defect.Evidence count line.raw (line.position column)

variable {line : Line} (veils : Veils line.raw line.masked)
include veils

/-- A defect at the first column of a word. -/
theorem shows_start {rule : Rule} {defect : Defect} {word : Word}
    (own : defect.rule? = some rule) (found : word ∈ line.words)
    (evidence : word.StandsIn line.raw →
      ∀ count, defect.Evidence count line.raw (line.position word.start)) :
    line.Shows rule (line.diagnostic defect word.start) := by
  have stands := (Word.standsIn_of_mem_words found).of_veils veils
  obtain ⟨before, inside⟩ := stands.stop_le
  exact ⟨defect, word.start, rfl, own, by omega, evidence stands⟩

/-- A defect at the column behind a word. -/
theorem shows_stop {rule : Rule} {defect : Defect} {word : Word} {keyword : Reserved}
    (own : defect.rule? = some rule) (found : word ∈ line.words)
    (spelled : word.keyword? = some (.reserved keyword))
    (evidence : EndsWord line.raw word.stop [keyword] →
      ∀ count, defect.Evidence count line.raw (line.position word.stop)) :
    line.Shows rule (line.diagnostic defect word.stop) := by
  have stands := (Word.standsIn_of_mem_words found).of_veils veils
  refine ⟨defect, word.stop, rfl, own, stands.stop_le.2, evidence ?_⟩
  exact ⟨word, stands, rfl, keyword, List.mem_singleton_self keyword, Word.text_of_keyword? spelled⟩

end Line

theorem EndsWord.mono {raw : List Char} {column : Nat} {words more : List Reserved}
    (ends : EndsWord raw column words) (wider : words ⊆ more) : EndsWord raw column more := by
  obtain ⟨word, stands, stop, w, found, spelled⟩ := ends
  exact ⟨word, stands, stop, w, wider found, spelled⟩

theorem Line.mem_words_of_leadingWord? {line : Line} {word : Word}
    (leading : line.leadingWord? = some word) : word ∈ line.words := by
  obtain ⟨first, -⟩ := Option.filter_eq_some_iff.mp leading
  exact List.mem_of_mem_head? first

/-! ## Rules -/

namespace Rule

variable {line : Line} {d : Diagnostic} (veils : Veils line.raw line.masked)
include veils

theorem Blocks.shows_of_mem_malformedEnd (found : d ∈ malformedEnd line) : line.Shows .blocks d := by
  unfold malformedEnd at found
  split at found
  next => cases found
  next word leading =>
    split at found
    next wrong =>
      obtain rfl := List.mem_singleton.mp found
      refine Line.shows_start veils rfl (Line.mem_words_of_leadingWord? leading) fun stands count => ?_
      simp only [Bool.and_eq_true, List.isPrefixOf_iff_prefix] at wrong
      exact ⟨word, stands, rfl, wrong.1.1⟩
    next => cases found

omit veils in
theorem Blocks.eq_endWord_of_leave {blocks : List Block} {keyword : Keyword}
    (moves : move? blocks keyword = some .leave) : keyword = .reserved .endWord := by
  unfold move? at moves
  split at moves
  case h_3 => split at moves <;> cases moves
  all_goals first | rfl | cases moves

theorem Blocks.shows_of_mem_follow {blocks : List Block} {words : List Word}
    (within : words ⊆ line.words) (found : d ∈ (follow line blocks words).2) : line.Shows .blocks d := by
  fun_induction follow line blocks words with
  | case1 blocks => cases found
  | case2 blocks word rest still ih =>
    exact ih (fun other here => within (.tail _ here)) found
  | case3 blocks word rest kind enters ih =>
    exact ih (fun other here => within (.tail _ here)) found
  | case4 word rest behind diagnostics followed leaves ih =>
    -- An `end` while no block is open: the only word that is reported.
    rcases List.mem_cons.mp found with rfl | later
    · refine Line.shows_start veils rfl (within List.mem_cons_self) fun stands count => ?_
      obtain ⟨keyword, spelled, moves⟩ := Option.bind_eq_some_iff.mp leaves
      obtain rfl := eq_endWord_of_leave moves
      exact ⟨word, stands, rfl, Word.text_of_keyword? spelled⟩
    · rw [followed] at ih
      exact ih (fun other here => within (.tail _ here)) later
  | case5 word rest innermost outer leaves ih =>
    exact ih (fun other here => within (.tail _ here)) found

theorem Blocks.shows_of_mem_check {blocks : List Block} (found : d ∈ check blocks line) :
    line.Shows .blocks d := by
  rcases List.mem_append.mp found with malformed | unmatched
  · exact shows_of_mem_malformedEnd veils malformed
  · exact shows_of_mem_follow veils (fun word here => here) unmatched

omit veils in
theorem Ranges.dots_of_mem_columns {start column : Nat} {text : List Char}
    (found : column ∈ columns start text) :
    ∃ inside, column = start + inside ∧ ['.', '.', '.'] <+: text.drop inside := by
  fun_induction columns start text with
  | case1 => cases found
  | case2 start rest ih =>
    rcases List.mem_cons.mp found with rfl | later
    · exact ⟨0, rfl, rest, rfl⟩
    · obtain ⟨inside, rfl, here⟩ := ih later
      exact ⟨inside + 3, by omega, here⟩
  | case3 start c rest other ih =>
    obtain ⟨inside, rfl, here⟩ := ih found
    exact ⟨inside + 1, by omega, here⟩

omit veils in
theorem Ranges.pairwise_columns (start : Nat) (text : List Char) :
    (columns start text).Pairwise (· < ·) := by
  fun_induction columns start text with
  | case1 start => exact .nil
  | case2 start rest ih =>
    refine List.pairwise_cons.mpr ⟨fun later found => ?_, ih⟩
    -- The search goes on behind the dots.
    obtain ⟨inside, rfl, -⟩ := dots_of_mem_columns found
    omega
  | case3 start c rest other ih => exact ih

theorem Ranges.shows_of_mem_check (found : d ∈ check line) : line.Shows .ranges d := by
  obtain ⟨column, dots, rfl⟩ := List.mem_map.mp found
  obtain ⟨inside, rfl, masked⟩ := dots_of_mem_columns dots
  rw [Nat.zero_add]
  have here := (veils.drop inside).pattern_of_masked masked (by decide)
  have short := here.length_le
  simp only [List.length_cons, List.length_nil, List.length_drop] at short
  exact ⟨.tripleDot, inside, rfl, rfl, by omega, fun count => here⟩

theorem UndeclaredNames.shows_of_mem_check {scope : Scope} (found : d ∈ check scope line) :
    line.Shows .undeclaredNames d := by
  obtain ⟨word, wrong, rfl⟩ := List.mem_map.mp found
  obtain ⟨here, undeclared⟩ := List.mem_filter.mp wrong
  refine Line.shows_start veils rfl here fun stands count => ⟨word, stands, rfl, ?_⟩
  simp only [isUndeclared, Bool.and_eq_true, List.contains_iff_mem] at undeclared
  exact undeclared.1

theorem Assignment.shows_of_mem_check {scope : Scope} (found : d ∈ check scope line) :
    line.Shows .assignment d := by
  unfold check at found
  split at found
  next => cases found
  split at found
  next => cases found
  next column equals =>
    split at found
    next => cases found
    next =>
      obtain rfl := List.mem_singleton.mp found
      obtain ⟨⟨sign, -, bare⟩, -⟩ := equals?_eq_some_iff.mp equals
      have here := veils.getElem?_eq sign (by decide)
      obtain ⟨inside, -⟩ := List.getElem?_eq_some_iff.mp here
      refine ⟨.equalsForAssignment, column, rfl, rfl, by omega, fun count => ⟨here, ?_⟩⟩
      intro before c next previous
      obtain rfl : column = before + 1 := next
      -- A masked character before the sign ends a comment, so it is no angle bracket either.
      rcases veils.getElem?_before previous sign (by decide) (by decide) with seen | closer
      · obtain ⟨less, greater⟩ := bare before rfl
        rw [seen] at less greater
        exact ⟨fun same => less (congrArg some same), fun same => greater (congrArg some same)⟩
      · simp only [List.mem_cons, List.not_mem_nil, or_false] at closer
        rcases closer with rfl | rfl <;> decide

theorem CaseLabels.shows_of_mem_check {scope : Scope} (found : d ∈ check scope line) :
    line.Shows .caseLabels d := by
  unfold check at found
  split at found
  next => cases found
  next colon _ =>
    obtain ⟨⟨column, length⟩, wrong, rfl⟩ := List.mem_map.mp found
    obtain ⟨item, -⟩ := List.mem_filter.mp wrong
    obtain ⟨front, part, ⟨-, behind, whole, -⟩, solid, rfl, -⟩ := mem_items_iff.mp item
    obtain ⟨c, begins, dark⟩ := Text.getElem?_indent solid
    obtain ⟨inside, -⟩ := List.getElem?_eq_some_iff.mp begins
    have here : (line.masked.take colon)[front.length + Text.indent part]? = some c := by
      rw [whole, List.getElem?_append_right (Nat.le_add_right _ _), Nat.add_sub_cancel_left,
        List.getElem?_append_left inside, begins]
    rw [List.getElem?_take] at here
    rw [Nat.zero_add]
    split at here
    next =>
      have shown : c ≠ ' ' := by
        rintro rfl
        exact absurd dark (by decide)
      have raw := veils.getElem?_eq here shown
      obtain ⟨short, -⟩ := List.getElem?_eq_some_iff.mp raw
      exact ⟨.badCaseLabel, front.length + Text.indent part, rfl, rfl, by omega,
        fun count => ⟨c, raw, dark⟩⟩
    next => cases here

omit veils in
theorem PairedKeywords.opener_cases {keyword : Keyword} {opener : Opener}
    (opens : Opener.ofKeyword? keyword = some opener) :
    (keyword = .reserved .ifWord ∧ opener = .ifOpener) ∨
      (keyword = .reserved .forWord ∧ opener = .forOpener) ∨
      (keyword = .reserved .whileWord ∧ opener = .whileOpener) ∨
      (keyword = .reserved .caseWord ∧ opener = .caseOpener) := by
  unfold Opener.ofKeyword? at opens
  split at opens <;> cases opens <;> simp

theorem PairedKeywords.shows_of_mem_checkHeader {word partner : Word} {keyword : Keyword}
    {opener : Opener} (here : word ∈ line.words) (spelled : word.keyword? = some keyword)
    (opens : Opener.ofKeyword? keyword = some opener)
    (found : d ∈ checkHeader line opener word.stop partner) : line.Shows .pairedKeywords d := by
  simp only [checkHeader] at found
  split at found
  next =>
    obtain rfl := List.mem_singleton.mp found
    rcases opener_cases opens with ⟨rfl, rfl⟩ | ⟨rfl, rfl⟩ | ⟨rfl, rfl⟩ | ⟨rfl, rfl⟩ <;>
      exact Line.shows_stop veils rfl here spelled fun ends count => ends.mono (by decide)
  next =>
    split at found
    next loop =>
      obtain rfl := List.mem_singleton.mp found
      simp only [Bool.and_eq_true, decide_eq_true_eq] at loop
      obtain rfl := loop.1
      obtain rfl : keyword = .reserved .forWord := by simpa using opener_cases opens
      exact Line.shows_stop veils rfl here spelled fun ends count => ends
    next => cases found

theorem PairedKeywords.shows_of_mem_checkBody {partner : Word} {opener : Opener} {stop : Nat}
    (here : partner ∈ line.words) (spelled : partner.keyword? = some (.reserved opener.partner))
    (found : d ∈ checkBody line opener stop partner) : line.Shows .pairedKeywords d := by
  unfold checkBody at found
  split at found
  next => cases found
  split at found
  next => cases found
  next =>
    obtain rfl := List.mem_singleton.mp found
    refine Line.shows_stop veils rfl here spelled fun ends count => ends.mono ?_
    cases opener <;> decide

theorem PairedKeywords.shows_of_mem_checkOpener {word : Word} {keyword : Keyword} {opener : Opener}
    (here : word ∈ line.words) (spelled : word.keyword? = some keyword)
    (opens : Opener.ofKeyword? keyword = some opener)
    (found : d ∈ checkOpener line opener word.stop) : line.Shows .pairedKeywords d := by
  unfold checkOpener at found
  split at found
  next =>
    obtain rfl := List.mem_singleton.mp found
    rcases opener_cases opens with ⟨rfl, rfl⟩ | ⟨rfl, rfl⟩ | ⟨rfl, rfl⟩ | ⟨rfl, rfl⟩ <;>
      exact Line.shows_stop veils rfl here spelled fun ends count => ends.mono (by decide)
  next partner paired =>
    have inside : partner ∈ line.words := List.mem_of_find?_eq_some paired
    have matching := List.find?_some paired
    simp only [Bool.and_eq_true, beq_iff_eq] at matching
    rcases List.mem_append.mp found with header | body
    · exact shows_of_mem_checkHeader veils here spelled opens header
    · exact shows_of_mem_checkBody veils inside matching.2 body

theorem PairedKeywords.shows_of_mem_check (found : d ∈ check line) : line.Shows .pairedKeywords d := by
  unfold check at found
  split at found
  next => cases found
  next word leading =>
    split at found
    next => cases found
    next opener opens =>
      obtain ⟨keyword, spelled, opens⟩ := Option.bind_eq_some_iff.mp opens
      exact shows_of_mem_checkOpener veils (Line.mem_words_of_leadingWord? leading) spelled opens
        found

theorem shows_of_mem_check {context : Context} {rule : Rule} (found : d ∈ rule.check context line) :
    line.Shows rule d := by
  cases rule with
  | assignment => exact Assignment.shows_of_mem_check veils (Context.mem_of_mem_unlessDeclaration found)
  | ranges => exact Ranges.shows_of_mem_check veils (Context.mem_of_mem_unlessDeclaration found)
  | undeclaredNames =>
    exact UndeclaredNames.shows_of_mem_check veils (Context.mem_of_mem_unlessDeclaration found)
  | caseLabels =>
    have inside := Context.mem_of_mem_unlessDeclaration found
    split at inside
    next => exact CaseLabels.shows_of_mem_check veils inside
    next => cases inside
  | blocks => exact Blocks.shows_of_mem_check veils found
  | pairedKeywords => exact PairedKeywords.shows_of_mem_check veils (Context.mem_of_mem_unlessDeclaration found)

end Rule

end PascalLint
