import Mathlib.Data.List.Nodup
import PascalLint.Rule.Blocks

/-! # The grammar of blocks

The words that blocks are made of nest as a context-free grammar says (`Nested`). A `case` opens a
block among statements; among the fields of a record it begins the variant part, which the `end` of
the record closes too.

Beside the grammar stands a run over the words with a stack of open blocks (`nest`), which passes
over an `end` that nothing is open for. What is read so far and what may still follow are tied
together by `Closes`: a text closes a stack of blocks if it is, block for block, the rest of the
block and its `end`. One word turns what closes the stack behind it into what closes the stack
before it (`closes_step`), and from that the run leaves words that the grammar derives as soon as
the unmatched `end`s are left out and one is put in for each block that is still open.
-/

namespace PascalLint

/-! ## Words and their grammar -/

/-- The words that open and close blocks. -/
inductive BlockWord
  | beginWord
  | caseWord
  | recordWord
  | endWord
deriving DecidableEq, Repr

/-- The places in which blocks stand. -/
inductive Region
  /-- Outside of all blocks, and in those of `begin` and `case`. -/
  | statements
  /-- In a record. -/
  | fields
deriving DecidableEq, Repr

/-- The words of a region, where S stands for statements and R for fields:

      S → ε | begin S end S | case S end S | record R end S
      R → ε | case R | begin S end R | record R end R

    The indices take the place of two relations that are defined at once. -/
inductive Nested : Region → List BlockWord → Prop
  | empty {region : Region} : Nested region []
  | beginBlock {region : Region} {body rest : List BlockWord} (inside : Nested .statements body)
      (behind : Nested region rest) : Nested region (.beginWord :: (body ++ .endWord :: rest))
  | recordBlock {region : Region} {body rest : List BlockWord} (inside : Nested .fields body)
      (behind : Nested region rest) : Nested region (.recordWord :: (body ++ .endWord :: rest))
  | caseBlock {body rest : List BlockWord} (inside : Nested .statements body)
      (behind : Nested .statements rest) :
      Nested .statements (.caseWord :: (body ++ .endWord :: rest))
  | variantPart {rest : List BlockWord} (behind : Nested .fields rest) :
      Nested .fields (.caseWord :: rest)

/-- The region inside a block. -/
def BlockKind.inside : BlockKind → Region
  | beginBlock | caseBlock => .statements
  | recordBlock => .fields

/-- The region inside some blocks, the innermost first. -/
def Region.inside : List BlockKind → Region
  | [] => .statements
  | kind :: _ => kind.inside

/-! ## Runs with a stack -/

/-- The open blocks behind a word; none if it closes a block and none is open. -/
def BlockWord.step? (kinds : List BlockKind) : BlockWord → Option (List BlockKind)
  | beginWord => some (.beginBlock :: kinds)
  | recordWord => some (.recordBlock :: kinds)
  | caseWord =>
    match kinds with
    | .recordBlock :: _ => some kinds
    | _ => some (.caseBlock :: kinds)
  | endWord =>
    match kinds with
    | [] => none
    | _ :: outer => some outer

@[simp]
theorem step?_beginWord (kinds : List BlockKind) :
    BlockWord.beginWord.step? kinds = some (.beginBlock :: kinds) :=
  rfl

@[simp]
theorem step?_recordWord (kinds : List BlockKind) :
    BlockWord.recordWord.step? kinds = some (.recordBlock :: kinds) :=
  rfl

theorem step?_caseWord_of_fields {kinds : List BlockKind} (fields : Region.inside kinds = .fields) :
    BlockWord.caseWord.step? kinds = some kinds := by
  match kinds with
  | [] => cases fields
  | .beginBlock :: outer => cases fields
  | .caseBlock :: outer => cases fields
  | .recordBlock :: outer => rfl

theorem step?_caseWord_of_statements {kinds : List BlockKind}
    (statements : Region.inside kinds = .statements) :
    BlockWord.caseWord.step? kinds = some (.caseBlock :: kinds) := by
  match kinds with
  | [] => rfl
  | .beginBlock :: outer => rfl
  | .caseBlock :: outer => rfl
  | .recordBlock :: outer => cases statements

@[simp]
theorem step?_endWord_cons (kind : BlockKind) (outer : List BlockKind) :
    BlockWord.endWord.step? (kind :: outer) = some outer :=
  rfl

/-- The open blocks behind some words, and where the `end`s stand that close none. -/
def nest (kinds : List BlockKind) :
    List (Position × BlockWord) → List BlockKind × List Position
  | [] => (kinds, [])
  | (position, word) :: rest =>
    match word.step? kinds with
    | some next => nest next rest
    | none => ((nest kinds rest).1, position :: (nest kinds rest).2)

theorem nest_of_step {kinds next : List BlockKind} {word : BlockWord}
    (steps : word.step? kinds = some next) (position : Position)
    (rest : List (Position × BlockWord)) :
    nest kinds ((position, word) :: rest) = nest next rest := by
  rw [nest, steps]

theorem nest_of_unmatched {kinds : List BlockKind} {word : BlockWord}
    (unmatched : word.step? kinds = none) (position : Position)
    (rest : List (Position × BlockWord)) :
    nest kinds ((position, word) :: rest) =
      ((nest kinds rest).1, position :: (nest kinds rest).2) := by
  rw [nest, unmatched]

theorem nest_append (kinds : List BlockKind) (front back : List (Position × BlockWord)) :
    nest kinds (front ++ back) =
      ((nest (nest kinds front).1 back).1,
        (nest kinds front).2 ++ (nest (nest kinds front).1 back).2) := by
  induction front generalizing kinds with
  | nil => rfl
  | cons placed front ih =>
    obtain ⟨position, word⟩ := placed
    cases steps : word.step? kinds with
    | some next => rw [List.cons_append, nest_of_step steps, nest_of_step steps, ih]
    | none =>
      rw [List.cons_append, nest_of_unmatched steps, nest_of_unmatched steps, ih]
      rfl

/-- Nothing but an `end` outside of all blocks is unmatched. -/
theorem eq_end_of_unmatched {kinds : List BlockKind} {word : BlockWord}
    (unmatched : word.step? kinds = none) : kinds = [] ∧ word = .endWord := by
  cases word with
  | beginWord => cases unmatched
  | recordWord => cases unmatched
  | caseWord =>
    simp only [BlockWord.step?] at unmatched
    split at unmatched <;> cases unmatched
  | endWord =>
    cases kinds with
    | nil => exact ⟨rfl, rfl⟩
    | cons kind outer => cases unmatched

theorem mem_of_unmatched {kinds : List BlockKind} {words : List (Position × BlockWord)}
    {position : Position} (found : position ∈ (nest kinds words).2) :
    (position, .endWord) ∈ words := by
  induction words generalizing kinds with
  | nil => cases found
  | cons placed rest ih =>
    obtain ⟨place, word⟩ := placed
    cases steps : word.step? kinds with
    | some next =>
      rw [nest_of_step steps] at found
      exact .tail _ (ih found)
    | none =>
      rw [nest_of_unmatched steps] at found
      rcases List.mem_cons.mp found with rfl | later
      · rw [(eq_end_of_unmatched steps).2]
        exact .head _
      · exact .tail _ (ih later)

/-! ## What closes a stack -/

/-- The words are what is left of each of some blocks, the innermost first, with an `end` behind
    each, and of what is outside of all blocks. -/
def Closes : List BlockKind → List BlockWord → Prop
  | [], words => Nested .statements words
  | kind :: outer, words =>
    ∃ body rest, words = body ++ .endWord :: rest ∧ Nested kind.inside body ∧ Closes outer rest

/-- A text that belongs to the region inside some blocks may stand in front of what closes them. -/
theorem closes_of_nested {kinds : List BlockKind}
    (extend : List BlockWord → List BlockWord)
    (append : ∀ body rest, extend (body ++ rest) = extend body ++ rest)
    (nested : ∀ body, Nested (Region.inside kinds) body → Nested (Region.inside kinds) (extend body))
    {words : List BlockWord} (closes : Closes kinds words) : Closes kinds (extend words) := by
  cases kinds with
  | nil => exact nested words closes
  | cons kind outer =>
    obtain ⟨body, rest, rfl, inside, outside⟩ := closes
    exact ⟨extend body, rest, append _ _, nested body inside, outside⟩

/-- What closes a block and those around it closes, with the word in front of it that opens the block,
    those around. -/
theorem closes_of_block {kinds : List BlockKind} {kind : BlockKind} {word : BlockWord}
    {words : List BlockWord}
    (block : ∀ body rest, Nested kind.inside body → Nested (Region.inside kinds) rest →
      Nested (Region.inside kinds) (word :: (body ++ .endWord :: rest)))
    (closes : Closes (kind :: kinds) words) : Closes kinds (word :: words) := by
  obtain ⟨body, rest, rfl, inside, outside⟩ := closes
  apply closes_of_nested (fun rest => word :: (body ++ .endWord :: rest)) _ _ outside
  · intro front back
    simp
  · intro rest behind
    exact block body rest inside behind

/-- What closes the blocks behind a word closes, with the word in front of it, those before it. -/
theorem closes_step {kinds next : List BlockKind} {word : BlockWord} {words : List BlockWord}
    (steps : word.step? kinds = some next) (closes : Closes next words) :
    Closes kinds (word :: words) := by
  cases word with
  | beginWord =>
    obtain rfl : .beginBlock :: kinds = next := Option.some.inj steps
    apply closes_of_block _ closes
    exact fun body rest inside behind => .beginBlock inside behind
  | recordWord =>
    obtain rfl : .recordBlock :: kinds = next := Option.some.inj steps
    apply closes_of_block _ closes
    exact fun body rest inside behind => .recordBlock inside behind
  | caseWord =>
    -- In a record the word opens no block, so the `end` of the record is still to come.
    by_cases fields : Region.inside kinds = .fields
    · obtain rfl : kinds = next := Option.some.inj ((step?_caseWord_of_fields fields).symm.trans steps)
      apply closes_of_nested (.caseWord :: ·) _ _ closes
      · intro front back
        rfl
      · rw [fields]
        exact fun rest behind => .variantPart behind
    · have statements : Region.inside kinds = .statements := by
        cases region : Region.inside kinds with
        | statements => rfl
        | fields => exact absurd region fields
      obtain rfl : .caseBlock :: kinds = next :=
        Option.some.inj ((step?_caseWord_of_statements statements).symm.trans steps)
      apply closes_of_block _ closes
      rw [statements]
      exact fun body rest inside behind => .caseBlock inside behind
  | endWord =>
    cases kinds with
    | nil => cases steps
    | cons kind outer =>
      obtain rfl : outer = next := Option.some.inj steps
      exact ⟨[], words, rfl, .empty, closes⟩

theorem closes_replicate (kinds : List BlockKind) :
    Closes kinds (List.replicate kinds.length .endWord) := by
  induction kinds with
  | nil => exact .empty
  | cons kind outer ih => exact ⟨[], _, rfl, .empty, ih⟩

/-- Without the unmatched `end`s, and with an `end` for each block that is still open, the words of a
    run close the blocks that it began with. -/
theorem closes_nest {kinds : List BlockKind} {words : List (Position × BlockWord)}
    (apart : (words.map Prod.fst).Nodup) :
    Closes kinds ((words.filter fun placed => placed.1 ∉ (nest kinds words).2).map Prod.snd
      ++ List.replicate (nest kinds words).1.length .endWord) := by
  induction words generalizing kinds with
  | nil => exact closes_replicate kinds
  | cons placed rest ih =>
    obtain ⟨position, word⟩ := placed
    obtain ⟨fresh, apart⟩ := List.nodup_cons.mp apart
    cases steps : word.step? kinds with
    | some next =>
      rw [nest_of_step steps]
      have kept : position ∉ (nest next rest).2 := fun found =>
        fresh (List.mem_map.mpr ⟨_, mem_of_unmatched found, rfl⟩)
      rw [List.filter_cons_of_pos (by simpa using kept), List.map_cons, List.cons_append]
      exact closes_step steps (ih apart)
    | none =>
      rw [nest_of_unmatched steps]
      have others : ∀ placed ∈ rest, (decide (placed.1 ∉ position :: (nest kinds rest).2)) =
          decide (placed.1 ∉ (nest kinds rest).2) := by
        intro placed found
        have other : placed.1 ≠ position := fun same =>
          fresh (List.mem_map.mpr ⟨placed, found, same⟩)
        simp [other]
      rw [List.filter_cons_of_neg (by simp), List.filter_congr others]
      exact ih apart

/-! ## What the grammar derives -/

private theorem exists_placed {words : List (Position × BlockWord)} {first : BlockWord}
    {body rest : List BlockWord} (spelled : words.map Prod.snd = first :: (body ++ .endWord :: rest)) :
    ∃ place inside close behind, words = (place, first) :: (inside ++ (close, .endWord) :: behind) ∧
      inside.map Prod.snd = body ∧ behind.map Prod.snd = rest := by
  obtain ⟨⟨place, word⟩, below, rfl, rfl, later⟩ := List.map_eq_cons_iff.mp spelled
  obtain ⟨inside, after, rfl, inner, later⟩ := List.map_eq_append_iff.mp later
  obtain ⟨⟨close, word⟩, behind, rfl, rfl, outer⟩ := List.map_eq_cons_iff.mp later
  exact ⟨place, inside, close, behind, rfl, inner, outer⟩

/-- A block leaves the open blocks as they are if what is in it and behind it does. -/
private theorem nest_block {kinds : List BlockKind} {kind : BlockKind} {first : BlockWord}
    (opens : first.step? kinds = some (kind :: kinds)) {words : List (Position × BlockWord)}
    {body rest : List BlockWord} (spelled : words.map Prod.snd = first :: (body ++ .endWord :: rest))
    (inner : ∀ inside : List (Position × BlockWord), inside.map Prod.snd = body →
      nest (kind :: kinds) inside = (kind :: kinds, []))
    (outer : ∀ behind : List (Position × BlockWord), behind.map Prod.snd = rest →
      nest kinds behind = (kinds, [])) : nest kinds words = (kinds, []) := by
  obtain ⟨place, inside, close, behind, rfl, spelledInside, spelledBehind⟩ := exists_placed spelled
  rw [nest_of_step opens, nest_append, inner inside spelledInside,
    nest_of_step (step?_endWord_cons kind kinds), outer behind spelledBehind]
  rfl

/-- Words that the grammar derives leave the open blocks as they are, and none of them is
    unmatched. -/
theorem nest_of_nested {region : Region} {body : List BlockWord} (nested : Nested region body)
    {kinds : List BlockKind} (here : Region.inside kinds = region)
    {words : List (Position × BlockWord)} (spelled : words.map Prod.snd = body) :
    nest kinds words = (kinds, []) := by
  induction nested generalizing kinds words with
  | empty =>
    obtain rfl := List.map_eq_nil_iff.mp spelled
    rfl
  | beginBlock _ _ inner outer =>
    exact nest_block (step?_beginWord kinds) spelled (fun _ => inner rfl) (fun _ => outer here)
  | recordBlock _ _ inner outer =>
    exact nest_block (step?_recordWord kinds) spelled (fun _ => inner rfl) (fun _ => outer here)
  | caseBlock _ _ inner outer =>
    exact nest_block (step?_caseWord_of_statements here) spelled (fun _ => inner rfl)
      (fun _ => outer here)
  | variantPart _ ih =>
    obtain ⟨⟨place, word⟩, behind, rfl, rfl, spelledBehind⟩ := List.map_eq_cons_iff.mp spelled
    rw [nest_of_step (step?_caseWord_of_fields here)]
    exact ih here spelledBehind

/-- The grammar derives the words of a run exactly if every `end` is matched and no block is left
    open. -/
theorem nested_iff_nest {words : List (Position × BlockWord)} (apart : (words.map Prod.fst).Nodup) :
    Nested .statements (words.map Prod.snd) ↔ nest [] words = ([], []) := by
  constructor
  · intro nested
    exact nest_of_nested nested rfl rfl
  · intro clean
    have closes : Nested .statements _ := (closes_nest apart : Closes [] _)
    simpa [clean] using closes

/-- Behind words that the grammar derives an `end` is one too many. -/
theorem not_nested_append_end {words rest : List BlockWord} (nested : Nested .statements words) :
    ¬Nested .statements (words ++ .endWord :: rest) := by
  intro more
  -- Where the words stand does not matter, so they may all stand at one place.
  have place : ∀ words : List BlockWord, (words.map (Prod.mk (⟨1, 0⟩ : Position))).map Prod.snd = words := by
    intro words
    simp [Function.comp_def]
  have clean : nest [] _ = ([], []) := nest_of_nested more rfl (place _)
  rw [List.map_append, nest_append, nest_of_nested nested rfl (place words), List.map_cons,
    nest_of_unmatched rfl] at clean
  simp at clean

/-- Words that the grammar derives behind the addition of some `end`s need just as many of them. -/
theorem nested_append_replicate_unique {words : List BlockWord} {m n : Nat}
    (first : Nested .statements (words ++ List.replicate m .endWord))
    (second : Nested .statements (words ++ List.replicate n .endWord)) : m = n := by
  have fewer : ∀ m n, Nested .statements (words ++ List.replicate m .endWord) →
      Nested .statements (words ++ List.replicate n .endWord) → ¬m < n := by
    intro m n first second less
    obtain ⟨more, rfl⟩ := Nat.exists_eq_add_of_lt less
    rw [Nat.add_assoc, ← List.replicate_append_replicate, ← List.append_assoc,
      List.replicate_succ] at second
    exact not_nested_append_end first second
  have notLess := fewer m n first second
  have notMore := fewer n m second first
  omega

end PascalLint
