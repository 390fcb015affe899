import PascalLint.Proofs.Runs
import PascalLint.Scope

/-! # Letter case

A text is put in small letters character by character, only the basic Latin letters changing. What a
character counts as, how it folds and which delimiter it is do not change with it, so every search,
split and measure of a text can be made before or after the letters are made small, and words, lines
and declarations come out as before but for their letters.
-/

namespace PascalLint

open PascalLint.Unicode (isWhiteSpace)

/-! ## Characters -/

namespace Letter

/-- From U+0080 on there is no letter to be made small, so it is enough to look below. -/
theorem apply_toLower {α : Type} (f : Char → α)
    (basic : ∀ n < 0x80, f (Char.ofNat n).toLower = f (Char.ofNat n)) (c : Char) :
    f c.toLower = f c := by
  by_cases low : c.toNat < 0x80
  · simpa using basic c.toNat low
  · have small : ¬(c.val ≥ 'A'.val ∧ c.val ≤ 'Z'.val) := by
      intro capital
      apply low
      have last : c.toNat ≤ 90 := UInt32.le_iff_toNat_le.mp capital.2
      omega
    have same : c.toLower = c := dif_neg small
    rw [same]

variable (c : Char)

@[simp]
theorem isDigit_toLower : c.toLower.isDigit = c.isDigit :=
  apply_toLower Char.isDigit (by decide) c

@[simp]
theorem isWhiteSpace_toLower : isWhiteSpace c.toLower = isWhiteSpace c :=
  apply_toLower isWhiteSpace (by decide) c

@[simp]
theorem mayStart_toLower : Identifier.mayStart c.toLower = Identifier.mayStart c :=
  apply_toLower Identifier.mayStart (by decide) c

@[simp]
theorem mayContinue_toLower : Identifier.mayContinue c.toLower = Identifier.mayContinue c :=
  apply_toLower Identifier.mayContinue (by decide) c

@[simp]
theorem lowercase_toLower : Unicode.lowercase c.toLower = Unicode.lowercase c :=
  apply_toLower Unicode.lowercase (by decide) c

@[simp]
theorem foldCase_toLower : Unicode.foldCase c.toLower = Unicode.foldCase c :=
  apply_toLower Unicode.foldCase (by decide) c

@[simp]
theorem utf8Size_toLower : c.toLower.utf8Size = c.utf8Size :=
  apply_toLower Char.utf8Size (by decide) c

/-- A mark that is no letter is the small form of itself only. -/
theorem toLower_eq_iff {c mark : Char} (plain : mark.isAlpha = false) :
    c.toLower = mark ↔ c = mark := by
  have unlettered := apply_toLower (fun c => if c.isAlpha then none else some c) (by decide) c
  constructor
  · intro same
    rw [same] at unlettered
    by_cases letter : c.isAlpha = true
    · simp [plain, letter] at unlettered
    · simpa [plain, letter] using unlettered.symm
  · rintro rfl
    by_cases letter : c.toLower.isAlpha = true
    · simp [plain, letter] at unlettered
    · simpa [plain, letter] using unlettered

theorem toLower_ne_iff {c mark : Char} (plain : mark.isAlpha = false) :
    c.toLower ≠ mark ↔ c ≠ mark :=
  not_congr (toLower_eq_iff plain)

theorem beq_toLower {c mark : Char} (plain : mark.isAlpha = false) :
    (c.toLower == mark) = (c == mark) := by
  rw [Bool.eq_iff_iff, beq_iff_eq, beq_iff_eq, toLower_eq_iff plain]

end Letter

/-! ## Texts -/

namespace Text

open Letter

/-- The text in small letters. -/
def lower (text : List Char) : List Char :=
  text.map Char.toLower

variable (text : List Char)

@[simp]
theorem lower_nil : lower [] = [] := rfl

@[simp]
theorem lower_cons (c : Char) : lower (c :: text) = c.toLower :: lower text := rfl

@[simp]
theorem lower_append (behind : List Char) : lower (text ++ behind) = lower text ++ lower behind :=
  List.map_append

@[simp]
theorem length_lower : (lower text).length = text.length :=
  List.length_map _

@[simp]
theorem lower_eq_nil_iff {text : List Char} : lower text = [] ↔ text = [] :=
  List.map_eq_nil_iff

theorem lower_drop (count : Nat) : (lower text).drop count = lower (text.drop count) :=
  List.map_drop.symm

theorem lower_take (count : Nat) : (lower text).take count = lower (text.take count) :=
  List.map_take.symm

theorem lower_reverse : (lower text).reverse = lower text.reverse :=
  List.map_reverse.symm

theorem lower_takeWhile {p : Char → Bool} (blind : ∀ c : Char, p c.toLower = p c) :
    (lower text).takeWhile p = lower (text.takeWhile p) := by
  have same : p ∘ Char.toLower = p := funext blind
  rw [lower, List.takeWhile_map, same, lower]

theorem lower_dropWhile {p : Char → Bool} (blind : ∀ c : Char, p c.toLower = p c) :
    (lower text).dropWhile p = lower (text.dropWhile p) := by
  have same : p ∘ Char.toLower = p := funext blind
  rw [lower, List.dropWhile_map, same, lower]

theorem getElem?_lower (index : Nat) : (lower text)[index]? = text[index]?.map Char.toLower :=
  List.getElem?_map

theorem front_of_lower {text tail : List Char} {mark : Char} (plain : mark.isAlpha = false)
    (front : lower text = mark :: tail) : ∃ behind, text = mark :: behind ∧ lower behind = tail := by
  obtain ⟨c, behind, rfl, same, later⟩ := List.map_eq_cons_iff.mp front
  exact ⟨behind, by rw [(toLower_eq_iff plain).mp same], later⟩

theorem lower_eq_iff {text marks : List Char} (plain : marks.any Char.isAlpha = false) :
    lower text = marks ↔ text = marks := by
  induction marks generalizing text with
  | nil => exact lower_eq_nil_iff
  | cons mark marks ih =>
    rw [List.any_cons, Bool.or_eq_false_iff] at plain
    cases text with
    | nil => simp
    | cons c text => rw [lower_cons, List.cons.injEq, List.cons.injEq, toLower_eq_iff plain.1, ih plain.2]

theorem head?_lower_iff {text : List Char} {mark : Char} (plain : mark.isAlpha = false) :
    (lower text).head? = some mark ↔ text.head? = some mark := by
  cases text with
  | nil => rfl
  | cons c text => simp [toLower_eq_iff plain]

/-! White space and runs -/

@[simp]
theorem isBlank_lower : isBlank (lower text) = isBlank text := by
  induction text with
  | nil => rfl
  | cons c text ih => simp [ih]

@[simp]
theorem indent_lower : indent (lower text) = indent text := by
  simp [indent, lower_takeWhile text isWhiteSpace_toLower]

theorem trimStart_lower : trimStart (lower text) = lower (trimStart text) :=
  lower_dropWhile text isWhiteSpace_toLower

theorem trimEnd_lower : trimEnd (lower text) = lower (trimEnd text) := by
  rw [trimEnd, lower_reverse, lower_dropWhile _ isWhiteSpace_toLower, lower_reverse, trimEnd]

theorem trim_lower : trim (lower text) = lower (trim text) := by
  rw [trim, trimStart_lower, trimEnd_lower, trim]

theorem lastWord_lower : lastWord (lower text) = lower (lastWord text) := by
  rw [lastWord, trimEnd_lower, lower_reverse, lower_takeWhile _ (by simp), lower_reverse, lastWord]

theorem run_lower : Identifier.run (lower text) = lower (Identifier.run text) :=
  lower_takeWhile text mayContinue_toLower

/-! Searches for marks -/

theorem isPrefixOf_lower {marks : List Char} (plain : marks.any Char.isAlpha = false) :
    marks.isPrefixOf (lower text) = marks.isPrefixOf text := by
  induction marks generalizing text with
  | nil => simp
  | cons mark marks ih =>
    rw [List.any_cons, Bool.or_eq_false_iff] at plain
    cases text with
    | nil => rfl
    | cons c text =>
      have same : (mark == c.toLower) = (mark == c) := by
        rw [BEq.comm, beq_toLower plain.1, BEq.comm]
      rw [lower_cons, List.isPrefixOf_cons_cons, List.isPrefixOf_cons_cons, same, ih text plain.2]

theorem find?_lower {marks : List Char} (plain : marks.any Char.isAlpha = false) :
    find? marks (lower text) = find? marks text := by
  induction text with
  | nil => rfl
  | cons c text ih =>
    have here := isPrefixOf_lower (c :: text) plain
    rw [lower_cons] at here
    rw [lower_cons, find?, find?, here, ih]

theorem contains_lower {marks : List Char} (plain : marks.any Char.isAlpha = false) :
    contains marks (lower text) = contains marks text := by
  rw [contains, contains, find?_lower text plain]

theorem splitOn_lower {mark : Char} (plain : mark.isAlpha = false) :
    splitOn mark (lower text) = (splitOn mark text).map lower := by
  induction text with
  | nil => rfl
  | cons c text ih =>
    simp only [lower_cons, splitOn, toLower_eq_iff plain, ih]
    split
    · rfl
    · cases splitOn mark text <;> rfl

theorem splitOnce?_lower {mark : Char} (plain : mark.isAlpha = false) :
    splitOnce? mark (lower text) = (splitOnce? mark text).map (Prod.map lower lower) := by
  induction text with
  | nil => rfl
  | cons c text ih =>
    simp only [lower_cons, splitOnce?, toLower_eq_iff plain, ih]
    split
    · rfl
    · cases splitOnce? mark text <;> rfl

theorem filter_ne_nil_lower (texts : List (List Char)) :
    (texts.map lower).filter (· ≠ []) = (texts.filter (· ≠ [])).map lower := by
  rw [List.filter_map]
  simp [Function.comp_def]

/-! Comparisons -/

@[simp]
theorem foldCaseText_lower : Unicode.foldCaseText (lower text) = Unicode.foldCaseText text := by
  induction text with
  | nil => rfl
  | cons c text ih => simp [ih]

@[simp]
theorem lowercaseText_lower : Unicode.lowercaseText (lower text) = Unicode.lowercaseText text := by
  induction text with
  | nil => rfl
  | cons c text ih => simp [ih]

end Text

/-! ## Words and lines -/

namespace Word

/-- The word in small letters. -/
def lower (word : Word) : Word :=
  ⟨word.start, Text.lower word.characters⟩

variable (word : Word)

@[simp]
theorem start_lower : word.lower.start = word.start := rfl

@[simp]
theorem stop_lower : word.lower.stop = word.stop := by
  simp [stop, lower]

@[simp]
theorem text_lower : word.lower.text = word.text :=
  Text.lowercaseText_lower word.characters

@[simp]
theorem keyword?_lower : word.lower.keyword? = word.keyword? := by
  rw [keyword?, text_lower, keyword?]

theorem ofText_lower (column : Nat) (text : List Char) :
    ofText column (Text.lower text) = (ofText column text).map lower := by
  fun_induction ofText column text with
  | case1 => simp [ofText]
  | case2 column c rest identifier characters behind first ih =>
    rw [Text.lower_cons, ofText]
    simp only [List.length_cons, characters] at ih
    simp [identifier, first, Text.run_lower, Text.lower_drop, lower, characters, ih, behind]
  | case3 column c rest identifier characters behind first ih =>
    rw [Text.lower_cons, ofText]
    simp only [List.length_cons, characters] at ih
    simp [identifier, first, Text.run_lower, Text.lower_drop, characters, ih, behind]
  | case4 column c rest other ih =>
    rw [Text.lower_cons, ofText]
    simp [other, ih]

end Word

namespace Line

/-- The line in small letters. -/
def lower (line : Line) : Line :=
  ⟨line.number, Text.lower line.raw, Text.lower line.masked⟩

variable (line : Line)

@[simp]
theorem number_lower : line.lower.number = line.number := rfl

@[simp]
theorem raw_lower : line.lower.raw = Text.lower line.raw := rfl

@[simp]
theorem masked_lower : line.lower.masked = Text.lower line.masked := rfl

@[simp]
theorem position_lower (column : Nat) : line.lower.position column = line.position column := rfl

@[simp]
theorem diagnostic_lower (defect : Defect) (column : Nat) :
    line.lower.diagnostic defect column = line.diagnostic defect column := rfl

theorem words_lower : line.lower.words = line.words.map Word.lower :=
  Word.ofText_lower 0 line.masked

theorem leadingWord?_lower : line.lower.leadingWord? = line.leadingWord?.map Word.lower := by
  simp only [leadingWord?, words_lower, List.head?_map, masked_lower, Text.indent_lower]
  cases line.words.head? with
  | none => rfl
  | some word =>
    simp only [Option.map_some, Option.filter_some, Word.start_lower]
    split <;> simp [*]

@[simp]
theorem leadingKeyword?_lower : line.lower.leadingKeyword? = line.leadingKeyword? := by
  rw [leadingKeyword?, leadingWord?_lower, leadingKeyword?]
  cases line.leadingWord? <;> simp

theorem slice_lower (start stop : Nat) :
    line.lower.slice start stop = Text.lower (line.slice start stop) := by
  rw [slice, masked_lower, Text.lower_take, Text.lower_drop, slice]

theorem find?_lower (start : Nat) {marks : List Char}
    (plain : marks.any Char.isAlpha = false) :
    line.lower.find? start marks = line.find? start marks := by
  rw [find?, masked_lower, Text.lower_drop, Text.find?_lower _ plain, find?]

@[simp]
theorem startBehind_lower (keyword : Keyword) :
    line.lower.startBehind keyword = line.startBehind keyword := by
  rw [startBehind, leadingWord?_lower, startBehind]
  cases line.leadingWord? <;> simp

@[simp]
theorem part?_lower : line.lower.part? = line.part? := by
  rw [part?, leadingKeyword?_lower, part?]

end Line

/-! ## Declarations -/

/-- The declaration in small letters. -/
def Declaration.lower : Declaration → Declaration
  | constant name => constant (Text.lower name)
  | variableList names => variableList (names.map Text.lower)

namespace Line

variable (line : Line)

theorem declaration?_lower (part : Part) :
    line.lower.declaration? part = (line.declaration? part).map Declaration.lower := by
  cases part with
  | otherPart => rfl
  | statementPart => rfl
  | constantPart =>
    simp (disch := decide) only [declaration?, startBehind_lower, find?_lower, slice_lower,
      Text.trim_lower, Option.map_map]
    rfl
  | variablePart =>
    simp (disch := decide) only [declaration?, startBehind_lower, find?_lower, slice_lower,
      Text.splitOn_lower, List.map_map, Option.map_map]
    congr 1
    funext colon
    simp only [Function.comp_def, Text.trim_lower, Declaration.lower]
    rw [← Text.filter_ne_nil_lower, List.map_map]
    rfl

theorem parameterList?_lower :
    line.lower.parameterList? = line.parameterList?.map Text.lower := by
  simp (disch := decide) only [parameterList?, find?_lower, slice_lower, masked_lower,
    Text.length_lower, Option.map_map]
  rfl

theorem groupParameters_lower (group : List Char) :
    groupParameters (Text.lower group) = (groupParameters group).map Text.lower := by
  rw [groupParameters, Text.splitOnce?_lower group (by decide), groupParameters]
  cases Text.splitOnce? ':' group with
  | none => rfl
  | some parts =>
    obtain ⟨names, type⟩ := parts
    simp (disch := decide) only [Option.map_some, Prod.map_apply, Text.splitOn_lower, List.map_map]
    rw [← Text.filter_ne_nil_lower, List.map_map]
    simp only [Function.comp_def, Text.lastWord_lower]

theorem parameters_lower : line.lower.parameters = line.parameters.map Text.lower := by
  have groups (text : List Char) :
      (Text.splitOn ';' (Text.lower text)).flatMap groupParameters =
        ((Text.splitOn ';' text).flatMap groupParameters).map Text.lower := by
    rw [Text.splitOn_lower text (by decide), List.flatMap_map, List.map_flatMap]
    simp only [groupParameters_lower]
  simp only [parameters, leadingKeyword?_lower, parameterList?_lower]
  split
  all_goals
    first
    | rfl
    | cases line.parameterList? with
      | none => rfl
      | some text => exact groups text

end Line

namespace Scope

variable (scope : Scope)

@[simp]
theorem hasConstant_lower (name : List Char) :
    scope.hasConstant (Text.lower name) = scope.hasConstant name := by
  simp [hasConstant]

@[simp]
theorem declares_lower (name : List Char) :
    scope.declares (Text.lower name) = scope.declares name := by
  simp [declares, hasConstant, hasVariable]

@[simp]
theorem addVariables_lower (names : List (List Char)) :
    scope.addVariables (names.map Text.lower) = scope.addVariables names := by
  simp [addVariables]

@[simp]
theorem add_lower (declaration : Declaration) :
    scope.add declaration.lower = scope.add declaration := by
  cases declaration with
  | constant name => cases name <;> simp [Declaration.lower, add]
  | variableList names => simp [Declaration.lower, add]

end Scope

end PascalLint
