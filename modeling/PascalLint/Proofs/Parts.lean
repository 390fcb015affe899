import PascalLint.Line

/-! # Texts between marks

What searching and splitting give, said without the search: the text before the first mark, and the
parts of a text between the marks in it.
-/

namespace PascalLint

namespace Text

/-- The text before the first mark. -/
def Before (mark : Char) (text front : List Char) : Prop :=
  mark ∉ front ∧ ∃ behind, text = front ++ mark :: behind

/-- A part without marks that the ends of the text or marks stand around. -/
def IsPart (mark : Char) (text part : List Char) : Prop :=
  mark ∉ part ∧ ∃ front behind, text = front ++ (part ++ behind) ∧
    (∀ c, front.getLast? = some c → c = mark) ∧ ∀ c, behind.head? = some c → c = mark

/-- Such a part, with all that stands before it. -/
def IsPartBehind (mark : Char) (text front part : List Char) : Prop :=
  mark ∉ part ∧ ∃ behind, text = front ++ (part ++ behind) ∧
    (∀ c, front.getLast? = some c → c = mark) ∧ ∀ c, behind.head? = some c → c = mark

/-! ## Searching -/

theorem splitOnce?_append {mark : Char} {front : List Char} (absent : mark ∉ front)
    (behind : List Char) : splitOnce? mark (front ++ mark :: behind) = some (front, behind) := by
  induction front with
  | nil => simp [splitOnce?]
  | cons c front ih =>
    obtain ⟨other, absent⟩ := not_or.mp (mt List.mem_cons.mpr absent)
    rw [List.cons_append, splitOnce?, if_neg (Ne.symm other), ih absent]
    rfl

/-- There is one way to divide a text at its first mark. -/
theorem append_mark_inj {mark : Char} {front behind front' behind' : List Char}
    (absent : mark ∉ front) (absent' : mark ∉ front')
    (same : front ++ mark :: behind = front' ++ mark :: behind') :
    front = front' ∧ behind = behind' := by
  have found := splitOnce?_append absent behind
  rw [same, splitOnce?_append absent'] at found
  simpa [eq_comm] using found

theorem splitOnce?_eq_none_iff {mark : Char} {text : List Char} :
    splitOnce? mark text = none ↔ mark ∉ text := by
  induction text with
  | nil => simp [splitOnce?]
  | cons c rest ih =>
    rw [splitOnce?]
    split
    next here => simp [here]
    next other => simp [ih, Ne.symm other]

theorem splitOnce?_eq_some_iff {mark : Char} {text front behind : List Char} :
    splitOnce? mark text = some (front, behind) ↔
      mark ∉ front ∧ text = front ++ mark :: behind := by
  constructor
  · intro found
    by_cases present : mark ∈ text
    · obtain ⟨before, after, rfl, absent⟩ := List.eq_append_cons_of_mem present
      rw [splitOnce?_append absent] at found
      cases found
      exact ⟨absent, rfl⟩
    · rw [splitOnce?_eq_none_iff.mpr present] at found
      cases found
  · rintro ⟨absent, rfl⟩
    exact splitOnce?_append absent behind

theorem isSome_splitOnce?_iff {mark : Char} {text : List Char} :
    (splitOnce? mark text).isSome = true ↔ mark ∈ text := by
  cases found : splitOnce? mark text with
  | none => simpa using splitOnce?_eq_none_iff.mp found
  | some parts => simp [(splitOnce?_eq_some_iff.mp found).2]

theorem map_fst_splitOnce?_iff {mark : Char} {text front : List Char} :
    (splitOnce? mark text).map Prod.fst = some front ↔ Before mark text front := by
  simp only [Option.map_eq_some_iff, Prod.exists, splitOnce?_eq_some_iff, Before]
  constructor
  · rintro ⟨before, behind, ⟨absent, whole⟩, rfl⟩
    exact ⟨absent, behind, whole⟩
  · rintro ⟨absent, behind, whole⟩
    exact ⟨front, behind, ⟨absent, whole⟩, rfl⟩

theorem find?_eq_splitOnce? (mark : Char) (text : List Char) :
    find? [mark] text = (splitOnce? mark text).map (·.1.length) := by
  induction text with
  | nil => rfl
  | cons c rest ih =>
    rw [find?, splitOnce?, ih]
    by_cases here : c = mark
    · simp [here]
    · simp [here, Ne.symm here, Function.comp_def]

theorem contains_iff_infix {pattern text : List Char} :
    contains pattern text = true ↔ pattern <:+: text := by
  rw [contains]
  induction text with
  | nil => cases pattern <;> simp [find?]
  | cons c rest ih =>
    rw [find?, List.infix_cons_iff, ← ih, ← List.isPrefixOf_iff_prefix]
    by_cases here : pattern.isPrefixOf (c :: rest) = true <;> simp [here]

/-! ## First columns -/

/-- The least column for which something holds. -/
def IsFirst (holds : Nat → Prop) (column : Nat) : Prop :=
  holds column ∧ ∀ before < column, ¬holds before

theorem isFirst_zero {holds : Nat → Prop} : IsFirst holds 0 ↔ holds 0 := by
  simp [IsFirst]

theorem isFirst_succ {holds : Nat → Prop} {column : Nat} :
    IsFirst holds (column + 1) ↔ ¬holds 0 ∧ IsFirst (fun next => holds (next + 1)) column := by
  constructor
  · rintro ⟨here, none⟩
    exact ⟨none 0 (by omega), here, fun before early => none (before + 1) (by omega)⟩
  · rintro ⟨other, here, none⟩
    refine ⟨here, fun before early => ?_⟩
    cases before with
    | zero => exact other
    | succ before => exact none before (by omega)

theorem IsFirst.unique {holds : Nat → Prop} {column other : Nat} (first : IsFirst holds column)
    (also : IsFirst holds other) : column = other := by
  by_cases early : column < other
  · exact absurd first.1 (also.2 column early)
  · by_cases late : other < column
    · exact absurd also.1 (first.2 other late)
    · omega

/-- What a search finds that looks at the first column and then at those behind it. -/
theorem step_eq_some_iff {holds : Nat → Prop} {found : Prop} [Decidable found] {later : Option Nat}
    (here : holds 0 ↔ found)
    (behind : ∀ column, later = some column ↔ IsFirst (fun next => holds (next + 1)) column)
    {column : Nat} :
    (if found then some 0 else later.map (· + 1)) = some column ↔ IsFirst holds column := by
  split
  next now =>
    have first := isFirst_zero.mpr (here.mpr now)
    constructor
    · rintro ⟨⟩
      exact first
    · intro other
      rw [first.unique other]
  next other =>
    cases column with
    | zero => simp [isFirst_zero, here, other]
    | succ column => simp [isFirst_succ, here, other, ← behind]

/-! ## Splitting -/

theorem splitOn_of_not_mem {mark : Char} {text : List Char} (absent : mark ∉ text) :
    splitOn mark text = [text] := by
  induction text with
  | nil => rfl
  | cons c rest ih =>
    obtain ⟨other, absent⟩ := not_or.mp (mt List.mem_cons.mpr absent)
    rw [splitOn, if_neg (Ne.symm other), ih absent]

theorem splitOn_append_cons (mark : Char) (front behind : List Char) :
    splitOn mark (front ++ mark :: behind) = splitOn mark front ++ splitOn mark behind := by
  induction front with
  | nil => simp [splitOn]
  | cons c front ih =>
    rw [List.cons_append, splitOn, splitOn, ih]
    by_cases here : c = mark
    · rw [if_pos here, if_pos here, List.cons_append]
    · -- The first part in front of the mark goes on with `c`.
      obtain ⟨part, parts, parted⟩ := List.exists_cons_of_ne_nil (splitOn_ne_nil mark front)
      rw [if_neg here, if_neg here, parted]
      rfl

theorem splitOn_append {mark : Char} {front : List Char} (absent : mark ∉ front)
    (behind : List Char) : splitOn mark (front ++ mark :: behind) = front :: splitOn mark behind := by
  rw [splitOn_append_cons, splitOn_of_not_mem absent, List.singleton_append]

section Parts

variable {mark : Char} {text front behind part : List Char}

/-- A text that ends with a mark if it ends at all is empty if it has none. -/
private theorem eq_nil_of_last (ends : ∀ c, text.getLast? = some c → c = mark)
    (absent : mark ∉ text) : text = [] := by
  cases last : text.getLast? with
  | none => exact List.getLast?_eq_none_iff.mp last
  | some c =>
    have present := List.mem_of_getLast? last
    rw [ends c last] at present
    exact absurd present absent

private theorem eq_nil_of_first (begins : ∀ c, text.head? = some c → c = mark)
    (absent : mark ∉ text) : text = [] := by
  cases text with
  | nil => rfl
  | cons c text =>
    rw [begins c rfl] at absent
    exact absurd List.mem_cons_self absent

theorem isPart_iff : IsPart mark text part ↔ ∃ front, IsPartBehind mark text front part := by
  simp only [IsPart, IsPartBehind, exists_and_left]

theorem isPartBehind_of_not_mem (absent : mark ∉ text) :
    IsPartBehind mark text front part ↔ front = [] ∧ part = text := by
  constructor
  · rintro ⟨-, behind, rfl, ends, begins⟩
    simp only [List.mem_append, not_or] at absent
    rw [eq_nil_of_last ends absent.1, eq_nil_of_first begins absent.2.2, List.nil_append,
      List.append_nil]
    exact ⟨rfl, rfl⟩
  · rintro ⟨rfl, rfl⟩
    exact ⟨absent, [], by simp, by simp, by simp⟩

theorem isPartBehind_append (absent : mark ∉ front) {before : List Char} :
    IsPartBehind mark (front ++ mark :: behind) before part ↔
      (before = [] ∧ part = front) ∨
        ∃ more, before = front ++ mark :: more ∧ IsPartBehind mark behind more part := by
  constructor
  · rintro ⟨none, after, same, ends, begins⟩
    -- With a mark before it the part is behind the first mark, and else it goes up to that mark.
    by_cases marked : mark ∈ before
    · obtain ⟨first, more, rfl, absent'⟩ := List.eq_append_cons_of_mem marked
      rw [List.append_assoc, List.cons_append] at same
      obtain ⟨rfl, rfl⟩ := append_mark_inj absent absent' same
      refine .inr ⟨more, rfl, none, after, rfl, fun c last => ends c ?_, begins⟩
      simp [List.getLast?_append, List.getLast?_cons, last]
    · obtain rfl := eq_nil_of_last ends marked
      have closed : mark ∈ after := by
        have somewhere : mark ∈ part ++ after := by
          rw [List.nil_append] at same
          simp [← same]
        exact (List.mem_append.mp somewhere).resolve_left none
      cases after with
      | nil => cases closed
      | cons c after =>
        obtain rfl := begins c rfl
        exact .inl ⟨rfl, (append_mark_inj absent none same).1.symm⟩
  · rintro (⟨rfl, rfl⟩ | ⟨more, rfl, none, after, rfl, ends, begins⟩)
    · exact ⟨absent, mark :: behind, rfl, by simp, by simp⟩
    · refine ⟨none, after, by simp, fun c last => ?_, begins⟩
      cases final : more.getLast? with
      | none => simpa [List.getLast?_append, List.getLast?_cons, final, eq_comm] using last
      | some d =>
        obtain rfl : d = c := by simpa [List.getLast?_append, List.getLast?_cons, final] using last
        exact ends d final

theorem isPart_of_not_mem (absent : mark ∉ text) : IsPart mark text part ↔ part = text := by
  simp only [isPart_iff, isPartBehind_of_not_mem absent, exists_eq_left]

theorem isPart_append (absent : mark ∉ front) :
    IsPart mark (front ++ mark :: behind) part ↔ part = front ∨ IsPart mark behind part := by
  simp only [isPart_iff, isPartBehind_append absent, exists_or, exists_eq_left]
  refine or_congr_right ⟨?_, ?_⟩
  · rintro ⟨before, more, -, found⟩
    exact ⟨more, found⟩
  · rintro ⟨more, found⟩
    exact ⟨_, more, rfl, found⟩

theorem mem_splitOn_iff {text : List Char} : part ∈ splitOn mark text ↔ IsPart mark text part := by
  -- Both sides go from mark to mark.
  by_cases present : mark ∈ text
  · obtain ⟨front, behind, rfl, absent⟩ := List.eq_append_cons_of_mem present
    have shorter : behind.length < (front ++ mark :: behind).length := by
      rw [List.length_append, List.length_cons]
      omega
    rw [splitOn_append absent, List.mem_cons, isPart_append absent, mem_splitOn_iff]
  · rw [splitOn_of_not_mem present, List.mem_singleton, isPart_of_not_mem present]
termination_by text.length

end Parts

end Text

end PascalLint
