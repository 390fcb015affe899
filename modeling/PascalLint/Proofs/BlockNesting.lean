import PascalLint.Proofs.BlockGrammar
import PascalLint.Proofs.Independence

/-! # The check of blocks

The check of blocks follows the block words of the masked lines, from line to line, with a stack of
open blocks (`Rule.Blocks.follow`). It is the run of the grammar of blocks over all of these words
(`Context.filter_checkAll_blocksOnly`), so it accepts what the grammar derives, and what it reports
tells by how much the words of a source miss it.
-/

namespace PascalLint

/-! ## The block words of lines -/

namespace BlockWord

/-- The keyword that a block word is. -/
def keyword : BlockWord → Keyword
  | beginWord => .reserved .beginWord
  | caseWord => .reserved .caseWord
  | recordWord => .recordWord
  | endWord => .reserved .endWord

/-- The block word that a keyword is. -/
def ofKeyword? : Keyword → Option BlockWord
  | .reserved .beginWord => some beginWord
  | .reserved .caseWord => some caseWord
  | .recordWord => some recordWord
  | .reserved .endWord => some endWord
  | _ => none

theorem eq_keyword_of_ofKeyword? {keyword : Keyword} {word : BlockWord}
    (found : ofKeyword? keyword = some word) : keyword = word.keyword := by
  unfold ofKeyword? at found
  split at found
  · obtain rfl := Option.some.inj found
    rfl
  · obtain rfl := Option.some.inj found
    rfl
  · obtain rfl := Option.some.inj found
    rfl
  · obtain rfl := Option.some.inj found
    rfl
  · cases found

/-- The block words among some words of a line, in whatever letter case, with their positions. -/
def ofWords (number : Nat) (words : List Word) : List (Position × BlockWord) :=
  words.filterMap fun word =>
    (word.keyword?.bind ofKeyword?).map fun blockWord => (⟨number, word.start⟩, blockWord)

/-- The block words of masked lines of which the first has the given number. -/
def ofLines (first : Nat) : List MaskedLine → List (Position × BlockWord)
  | [] => []
  | masked :: below => ofWords first (Word.ofText 0 masked.text) ++ ofLines (first + 1) below

end BlockWord

/-! ## No two block words at one place -/

namespace BlockWord

theorem line_of_mem_ofWords {number : Nat} {words : List Word} {placed : Position × BlockWord}
    (found : placed ∈ ofWords number words) : placed.1.line = number := by
  obtain ⟨word, -, some⟩ := List.mem_filterMap.mp found
  obtain ⟨blockWord, -, rfl⟩ := Option.map_eq_some_iff.mp some
  rfl

theorem le_line_of_mem_ofLines {first : Nat} {lines : List MaskedLine} {placed : Position × BlockWord}
    (found : placed ∈ ofLines first lines) : first ≤ placed.1.line := by
  induction lines generalizing first with
  | nil => cases found
  | cons masked below ih =>
    rcases List.mem_append.mp found with here | later
    · exact Nat.le_of_eq (line_of_mem_ofWords here).symm
    · exact Nat.le_of_succ_le (ih later)

/-- No two words stand at one place. -/
theorem nodup_ofLines (first : Nat) (lines : List MaskedLine) :
    ((ofLines first lines).map Prod.fst).Nodup := by
  rw [List.Nodup, List.pairwise_map]
  induction lines generalizing first with
  | nil => exact .nil
  | cons masked below ih =>
    refine List.pairwise_append.mpr ⟨?_, ih (first + 1), fun placed here later found same => ?_⟩
    · refine (Word.pairwise_ofText 0 masked.text).filterMap _ fun word later before => ?_
      intro placed here other there
      obtain ⟨-, -, rfl⟩ := Option.map_eq_some_iff.mp here
      obtain ⟨-, -, rfl⟩ := Option.map_eq_some_iff.mp there
      intro same
      exact Nat.ne_of_lt before (congrArg Position.column same)
    · have line := line_of_mem_ofWords here
      have below := le_line_of_mem_ofLines found
      rw [← same] at below
      omega

end BlockWord

/-! ## The check as a run -/

namespace Rule.Blocks

theorem move?_of_none {keyword : Keyword} (other : BlockWord.ofKeyword? keyword = none)
    (blocks : List Block) : move? blocks keyword = none := by
  unfold move?
  split
  · cases other
  · cases other
  · cases other
  · cases other
  · rfl

/-! What a word does to the open blocks, case by case. -/

section Follow

variable {line : Line} {blocks : List Block} {word : Word} (rest : List Word)

theorem follow_of_none (other : word.keyword?.bind (move? blocks) = none) :
    follow line blocks (word :: rest) = follow line blocks rest := by
  rw [follow.eq_def]
  simp only [other]

theorem follow_of_enter {kind : BlockKind}
    (enters : word.keyword?.bind (move? blocks) = some (.enter kind)) :
    follow line blocks (word :: rest) =
      follow line (⟨kind, line.position word.start⟩ :: blocks) rest := by
  rw [follow.eq_def]
  simp only [enters]

theorem follow_of_leave {block : Block}
    (leaves : word.keyword?.bind (move? (block :: blocks)) = some .leave) :
    follow line (block :: blocks) (word :: rest) = follow line blocks rest := by
  rw [follow.eq_def]
  simp only [leaves]

theorem follow_of_unmatched (leaves : word.keyword?.bind (move? []) = some .leave) :
    follow line [] (word :: rest) =
      ((follow line [] rest).1, line.diagnostic .unmatchedEnd word.start :: (follow line [] rest).2) := by
  rw [follow.eq_def]
  simp only [leaves]

variable (line blocks) in
/-- A block word goes on with the open blocks as the run does. -/
theorem follow_cons {blockWord : BlockWord} (spelled : word.keyword? = some blockWord.keyword) :
    (∃ next, blockWord.step? (blocks.map (·.kind)) = some (next.map (·.kind)) ∧
      follow line blocks (word :: rest) = follow line next rest) ∨
      blockWord.step? (blocks.map (·.kind)) = none ∧
        follow line blocks (word :: rest) = ((follow line blocks rest).1,
          line.diagnostic .unmatchedEnd word.start :: (follow line blocks rest).2) := by
  have meant : word.keyword?.bind (move? blocks) = move? blocks blockWord.keyword := by
    rw [spelled, Option.bind_some]
  cases blockWord with
  | beginWord => exact .inl ⟨_, rfl, follow_of_enter rest meant⟩
  | recordWord => exact .inl ⟨_, rfl, follow_of_enter rest meant⟩
  | caseWord =>
    match blocks with
    | [] => exact .inl ⟨_, rfl, follow_of_enter rest meant⟩
    | ⟨.beginBlock, start⟩ :: outer => exact .inl ⟨_, rfl, follow_of_enter rest meant⟩
    | ⟨.caseBlock, start⟩ :: outer => exact .inl ⟨_, rfl, follow_of_enter rest meant⟩
    | ⟨.recordBlock, start⟩ :: outer => exact .inl ⟨_, rfl, follow_of_none rest meant⟩
  | endWord =>
    cases blocks with
    | nil => exact .inr ⟨rfl, follow_of_unmatched rest meant⟩
    | cons block outer => exact .inl ⟨outer, rfl, follow_of_leave rest meant⟩

end Follow

/-- A line goes on with the open blocks as the run over its block words does, and reports the `end`s
    that the run passes over. -/
theorem follow_eq_nest (line : Line) (blocks : List Block) (words : List Word) :
    (follow line blocks words).1.map (·.kind) =
        (nest (blocks.map (·.kind)) (BlockWord.ofWords line.number words)).1 ∧
      (follow line blocks words).2 =
        (nest (blocks.map (·.kind)) (BlockWord.ofWords line.number words)).2.map
          (⟨·, .unmatchedEnd⟩) := by
  induction words generalizing blocks with
  | nil => exact ⟨rfl, rfl⟩
  | cons word rest ih =>
    cases meant : word.keyword?.bind BlockWord.ofKeyword? with
    | none =>
      have skipped : word.keyword?.bind (move? blocks) = none := by
        cases keyword : word.keyword? with
        | none => rfl
        | some keyword =>
          simp only [keyword, Option.bind_some] at meant
          exact move?_of_none meant blocks
      have shorter : BlockWord.ofWords line.number (word :: rest) =
          BlockWord.ofWords line.number rest := by
        rw [BlockWord.ofWords, List.filterMap_cons_none (by simp [meant]), BlockWord.ofWords]
      rw [follow_of_none rest skipped, shorter]
      exact ih blocks
    | some blockWord =>
      obtain ⟨keyword, spelled, found⟩ := Option.bind_eq_some_iff.mp meant
      rw [BlockWord.eq_keyword_of_ofKeyword? found] at spelled
      have placed : BlockWord.ofWords line.number (word :: rest) =
          (line.position word.start, blockWord) :: BlockWord.ofWords line.number rest := by
        rw [BlockWord.ofWords, List.filterMap_cons_some (by rw [meant]; rfl), BlockWord.ofWords]
        rfl
      obtain ⟨next, steps, same⟩ | ⟨unmatched, same⟩ := follow_cons line blocks rest spelled
      · rw [placed, nest_of_step steps, same]
        exact ih next
      · rw [placed, nest_of_unmatched unmatched, same]
        obtain ⟨behind, diagnostics⟩ := ih blocks
        exact ⟨behind, by rw [List.map_cons, ← diagnostics]; rfl⟩

end Rule.Blocks

/-! ## Reports of nesting -/

/-- The rule of blocks alone. -/
def Checks.blocksOnly : Checks := { allOff with blocks := true }

/-- Holds for the defects of nesting. The other defect of the rule of blocks is about the spelling of
    one word. -/
def Defect.isNesting : Defect → Bool
  | unmatchedEnd | unterminatedBlock => true
  | _ => false

/-- The diagnostics for the unmatched `end`s of a run and the blocks that it leaves open behind the
    last line, which has the given number. -/
def nestingDiagnostics (lastLine : Nat) (run : List BlockKind × List Position) : List Diagnostic :=
  run.2.map (⟨·, .unmatchedEnd⟩)
    ++ if run.1.isEmpty then [] else [⟨⟨lastLine, 0⟩, .unterminatedBlock⟩]

theorem nestingDiagnostics_append (lastLine : Nat) (kinds : List BlockKind)
    (front back : List (Position × BlockWord)) :
    nestingDiagnostics lastLine (nest kinds (front ++ back)) =
      (nest kinds front).2.map (⟨·, .unmatchedEnd⟩)
        ++ nestingDiagnostics lastLine (nest (nest kinds front).1 back) := by
  rw [nest_append, nestingDiagnostics, nestingDiagnostics, List.map_append, List.append_assoc]

private theorem filter_isNesting_eq_nil {diagnostics : List Diagnostic}
    (others : ∀ d ∈ diagnostics, d.defect.isNesting = false) :
    diagnostics.filter (·.defect.isNesting) = [] :=
  List.filter_eq_nil_iff.mpr fun d found => by simp [others d found]

theorem Rule.Blocks.defect_of_mem_malformedEnd {line : Line} {d : Diagnostic}
    (found : d ∈ malformedEnd line) : d.defect = .malformedEnd := by
  unfold malformedEnd at found
  split at found
  next => cases found
  next word leading =>
    split at found
    next wrong =>
      obtain rfl := List.mem_singleton.mp found
      rfl
    next => cases found

namespace Context

theorem filter_check_blocksOnly (context : Context) (text : List Char) :
    (context.check .blocksOnly text).filter (·.defect.isNesting) =
      (Rule.Blocks.follow (context.line text) context.blocks (context.line text).words).2 := by
  have rules : Rule.inOrder.filter Checks.blocksOnly.has = [.blocks] := rfl
  have strings : (context.unterminatedString text).filter (·.defect.isNesting) = [] := by
    refine filter_isNesting_eq_nil fun d found => ?_
    obtain ⟨start, -, rfl⟩ := List.mem_map.mp found
    rfl
  have spelling : (Rule.Blocks.malformedEnd (context.line text)).filter (·.defect.isNesting) = [] := by
    refine filter_isNesting_eq_nil fun d found => ?_
    rw [Rule.Blocks.defect_of_mem_malformedEnd found]
    rfl
  have unmatched := (Rule.Blocks.follow_eq_nest (context.line text) context.blocks
    (context.line text).words).2
  rw [check, rules, List.flatMap_singleton, Rule.check, Rule.Blocks.check, List.filter_append,
    List.filter_append, strings, spelling, List.nil_append, List.nil_append, List.filter_eq_self]
  intro d found
  rw [unmatched] at found
  obtain ⟨position, -, rfl⟩ := List.mem_map.mp found
  rfl

theorem filter_checkEnd_blocksOnly (context : Context) :
    (context.checkEnd .blocksOnly).filter (·.defect.isNesting) =
      Rule.Blocks.checkEnd context.blocks context.lineCount := by
  have literals : (context.opened.toList.map fun literal =>
      (⟨literal.start, literal.defect⟩ : Diagnostic)).filter (·.defect.isNesting) = [] := by
    refine filter_isNesting_eq_nil fun d found => ?_
    obtain ⟨literal, -, rfl⟩ := List.mem_map.mp found
    cases literal <;> rfl
  have on : Checks.blocksOnly.blocks = true := rfl
  rw [checkEnd, if_pos on, List.filter_append, literals, List.nil_append, Rule.Blocks.checkEnd]
  split <;> rfl

/-- The check of blocks is the run over the block words of the lines below. -/
theorem filter_checkAll_blocksOnly (context : Context) (lines : List (List Char)) :
    (context.checkAll .blocksOnly lines).filter (·.defect.isNesting) =
      nestingDiagnostics (context.lineCount + lines.length) (nest (context.blocks.map (·.kind))
        (BlockWord.ofLines (context.lineCount + 1)
          (maskLines (context.lineCount + 1) context.opened lines))) := by
  induction lines generalizing context with
  | nil =>
    rw [checkAll, filter_checkEnd_blocksOnly, Rule.Blocks.checkEnd, nestingDiagnostics]
    simp [maskLines, BlockWord.ofLines, nest]
  | cons text below ih =>
    obtain ⟨kinds, diagnostics⟩ := Rule.Blocks.follow_eq_nest (context.line text) context.blocks
      (context.line text).words
    have blocks : (context.advance .blocksOnly text).blocks =
        (Rule.Blocks.follow (context.line text) context.blocks (context.line text).words).1 := rfl
    have lastLine : context.lineCount + 1 + below.length =
        context.lineCount + (text :: below).length := by
      rw [List.length_cons]
      omega
    -- The run goes over the words of this line, and from there over those of the lines below.
    rw [checkAll, List.filter_append, filter_check_blocksOnly, ih, lineCount_advance, opened_advance,
      blocks, kinds, diagnostics, lastLine, ← nestingDiagnostics_append]
    rfl

end Context

/-! ## Whole sources -/

/-- The block words of a source that stand neither in comments nor in strings. -/
def blockWords (lines : List (List Char)) : List (Position × BlockWord) :=
  BlockWord.ofLines 1 (maskLines 1 none lines)

section Analyze

variable {checks : Checks} (on : checks.blocks = true) (lines : List (List Char))
include on

theorem filter_analyze_isNesting :
    (analyze checks lines).filter (·.defect.isNesting) =
      nestingDiagnostics lines.length (nest [] (blockWords lines)) := by
  have within : ∀ rule, Checks.blocksOnly.has rule = true → checks.has rule = true := by
    intro rule only
    cases rule with
    | blocks => exact on
    | _ => cases only
  have alone : (analyze .blocksOnly lines).filter (·.defect.isNesting) =
      nestingDiagnostics (0 + lines.length) (nest [] (blockWords lines)) :=
    Context.start.filter_checkAll_blocksOnly lines
  rw [Nat.zero_add] at alone
  rw [← alone, ← filter_analyze within, List.filter_filter]
  refine List.filter_congr fun d _ => ?_
  -- The defects of nesting are defects of the rule of blocks.
  cases defect : d.defect <;> rfl

theorem unmatched_reported_iff {position : Position} :
    ⟨position, .unmatchedEnd⟩ ∈ analyze checks lines ↔ position ∈ (nest [] (blockWords lines)).2 := by
  have counted : ⟨position, .unmatchedEnd⟩ ∈ analyze checks lines ↔
      ⟨position, .unmatchedEnd⟩ ∈ (analyze checks lines).filter (·.defect.isNesting) := by
    rw [List.mem_filter]
    exact ⟨fun found => ⟨found, rfl⟩, fun found => found.1⟩
  rw [counted, filter_analyze_isNesting on, nestingDiagnostics, List.mem_append]
  constructor
  · rintro (found | found)
    · obtain ⟨same, unmatched, equal⟩ := List.mem_map.mp found
      obtain rfl : same = position := congrArg Diagnostic.position equal
      exact unmatched
    · split at found
      · cases found
      · cases congrArg Diagnostic.defect (List.mem_singleton.mp found)
  · intro unmatched
    exact .inl (List.mem_map.mpr ⟨position, unmatched, rfl⟩)

theorem filter_unterminatedBlock :
    (analyze checks lines).filter (·.defect = .unterminatedBlock) =
      if (nest [] (blockWords lines)).1.length = 0 then []
      else [⟨⟨lines.length, 0⟩, .unterminatedBlock⟩] := by
  have narrow : ∀ d : Diagnostic, decide (d.defect = .unterminatedBlock) =
      (decide (d.defect = .unterminatedBlock) && d.defect.isNesting) := by
    intro d
    cases d.defect <;> rfl
  have ends : ∀ positions : List Position, (positions.map
      (⟨·, .unmatchedEnd⟩ : Position → Diagnostic)).filter (·.defect = .unterminatedBlock) = [] := by
    intro positions
    simp [List.filter_eq_nil_iff]
  rw [List.filter_congr fun d _ => narrow d, ← List.filter_filter, filter_analyze_isNesting on,
    nestingDiagnostics, List.filter_append, ends, List.nil_append]
  cases (nest [] (blockWords lines)).1 <;> rfl

theorem no_nesting_reported_iff :
    (∀ d ∈ analyze checks lines, d.defect ≠ .unmatchedEnd ∧ d.defect ≠ .unterminatedBlock) ↔
      nest [] (blockWords lines) = ([], []) := by
  have every : (∀ d ∈ analyze checks lines, d.defect ≠ .unmatchedEnd ∧ d.defect ≠ .unterminatedBlock) ↔
      (analyze checks lines).filter (·.defect.isNesting) = [] := by
    rw [List.filter_eq_nil_iff]
    refine forall₂_congr fun d _ => ?_
    cases d.defect <;> simp [Defect.isNesting]
  rw [every, filter_analyze_isNesting on, nestingDiagnostics, List.append_eq_nil_iff,
    List.map_eq_nil_iff, Prod.ext_iff]
  cases (nest [] (blockWords lines)).1 <;> simp

/-- Where blocks are checked, no nesting is reported exactly if the grammar derives the block words
    of the source. In any case just one number of `end`s makes up for what is missing behind the
    words that are left without the `end`s reported as unmatched, and unterminated blocks are
    reported, once and behind the last line, exactly if it is not zero. -/
theorem nesting_reported_by_grammar :
    ((∀ d ∈ analyze checks lines, d.defect ≠ .unmatchedEnd ∧ d.defect ≠ .unterminatedBlock) ↔
        Nested .statements ((blockWords lines).map Prod.snd)) ∧
      (∀ position, ⟨position, .unmatchedEnd⟩ ∈ analyze checks lines →
        (position, .endWord) ∈ blockWords lines) ∧
      ∃ missing,
        (∀ count, Nested .statements (((blockWords lines).filter fun placed =>
            (⟨placed.1, .unmatchedEnd⟩ : Diagnostic) ∉ analyze checks lines).map Prod.snd
              ++ List.replicate count .endWord) ↔ count = missing) ∧
          (analyze checks lines).filter (·.defect = .unterminatedBlock) =
            if missing = 0 then [] else [⟨⟨lines.length, 0⟩, .unterminatedBlock⟩] := by
  have apart : ((blockWords lines).map Prod.fst).Nodup := BlockWord.nodup_ofLines 1 _
  have kept : ((blockWords lines).filter fun placed =>
      (⟨placed.1, .unmatchedEnd⟩ : Diagnostic) ∉ analyze checks lines) =
        (blockWords lines).filter fun placed => placed.1 ∉ (nest [] (blockWords lines)).2 := by
    refine List.filter_congr fun placed _ => ?_
    rw [decide_eq_decide, unmatched_reported_iff on]
  have closes : Nested .statements _ := (closes_nest apart : Closes [] _)
  refine ⟨?_, fun position reported => ?_, (nest [] (blockWords lines)).1.length, fun count => ?_, ?_⟩
  · rw [no_nesting_reported_iff on, nested_iff_nest apart]
  · exact mem_of_unmatched ((unmatched_reported_iff on lines).mp reported)
  · rw [kept]
    constructor
    · intro nested
      exact nested_append_replicate_unique nested closes
    · rintro rfl
      exact closes
  · exact filter_unterminatedBlock on lines

end Analyze

/-- An `end` in front of all blocks, and a `begin` with a record inside whose `end` stands for the
    variant part too: the first `end` is one too many, and one is missing behind the last line. -/
theorem nesting_reported_by_grammar_variants :
    let lines := [['e', 'n', 'd', ' ', 'b', 'e', 'g', 'i', 'n'],
      ['r', 'e', 'c', 'o', 'r', 'd', ' ', 'C', 'a', 's', 'e', ' ', 'e', 'n', 'd']]
    ({} : Checks).blocks = true ∧
      ¬Nested .statements [.endWord, .beginWord, .recordWord, .caseWord, .endWord] ∧
      (∀ count, Nested .statements ([.beginWord, .recordWord, .caseWord, .endWord] ++
        List.replicate count .endWord) ↔ count = 1) ∧
      analyze {} lines = [⟨⟨1, 0⟩, .unmatchedEnd⟩, ⟨⟨2, 0⟩, .unterminatedBlock⟩] := by
  intro lines
  have reports : analyze {} lines = [⟨⟨1, 0⟩, .unmatchedEnd⟩, ⟨⟨2, 0⟩, .unterminatedBlock⟩] := by
    decide +kernel
  have words : blockWords lines = [(⟨1, 0⟩, .endWord), (⟨1, 4⟩, .beginWord), (⟨2, 0⟩, .recordWord),
      (⟨2, 7⟩, .caseWord), (⟨2, 12⟩, .endWord)] := by
    decide +kernel
  obtain ⟨accepts, -, missing, needs, -⟩ := @nesting_reported_by_grammar {} rfl lines
  rw [reports, words] at accepts needs
  have record : Nested .statements (.recordWord :: ([.caseWord] ++ .endWord :: [])) :=
    .recordBlock (.variantPart .empty) .empty
  have whole : Nested .statements (.beginWord ::
      ([.recordWord, .caseWord, .endWord] ++ .endWord :: [])) :=
    .beginBlock record .empty
  obtain rfl : 1 = missing := (needs 1).mp whole
  refine ⟨rfl, fun nested => ?_, needs, reports⟩
  exact (accepts.mpr nested ⟨⟨1, 0⟩, .unmatchedEnd⟩ List.mem_cons_self).1 rfl

end PascalLint
