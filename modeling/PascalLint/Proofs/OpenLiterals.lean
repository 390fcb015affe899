import Mathlib.Data.List.Induction
import Mathlib.Data.List.Nodup
import PascalLint.Proofs.Comment
import PascalLint.Proofs.Independence
import PascalLint.Proofs.ReportEvidence

/-! # Literals that are never closed

A string that a line leaves open is given up on the next line or at the end, a comment at the end
only. Both reports come down to the literal that is open behind a number of lines (`openBehind`): a
string is open behind the line that it begins on and behind no other, a comment from that line on
until a line has its terminator. So every literal that is never closed is reported where it begins,
and no other place is; nothing else of a run looks at open literals, whatever is checked.
-/

namespace PascalLint

/-! ## Closing delimiters -/

namespace Mask

/-- A line has a quote that ends a string which is open at the beginning of the line: one that no
    backslash stands before. -/
def HasClosingQuote (text : List Char) : Prop :=
  ∃ column, text[column]? = some '\'' ∧ ∀ before, column = before + 1 → text[before]? ≠ some '\\'

/-- Every quote is escaped: by the character before the text, or by one of the text. -/
private theorem splitAtQuote_eq_none_iff_escaped {escaped : Bool} {text : List Char} :
    splitAtQuote escaped text = none ↔ ∀ column, text[column]? = some '\'' →
      column = 0 ∧ escaped = true ∨ ∃ before, column = before + 1 ∧ text[before]? = some '\\' := by
  induction text generalizing escaped with
  | nil => simp [splitAtQuote]
  | cons c rest ih =>
    rw [splitAtQuote]
    split
    next closing =>
      simp only [Bool.and_eq_true, beq_iff_eq, Bool.not_eq_true'] at closing
      refine ⟨fun missing => absurd missing (by simp), fun every => ?_⟩
      rcases every 0 (by simp [closing.1]) with ⟨-, here⟩ | ⟨before, other, -⟩
      · simp [closing.2] at here
      · cases other
    next inside =>
      rw [Option.map_eq_none_iff, ih]
      constructor
      · intro every column quote
        cases column with
        | zero =>
          obtain rfl : c = '\'' := by simpa using quote
          exact .inl ⟨rfl, by simpa using inside⟩
        | succ column =>
          rcases every column quote with ⟨rfl, here⟩ | ⟨before, rfl, here⟩
          · exact .inr ⟨0, rfl, by simpa using here⟩
          · exact .inr ⟨before + 1, rfl, here⟩
      · intro every column quote
        rcases every (column + 1) quote with ⟨zero, -⟩ | ⟨before, same, here⟩
        · cases zero
        · obtain rfl : column = before := by omega
          cases column with
          | zero => exact .inl ⟨rfl, by simpa using here⟩
          | succ column => exact .inr ⟨column, rfl, here⟩

theorem splitAtQuote_eq_none_iff {text : List Char} :
    splitAtQuote false text = none ↔ ¬HasClosingQuote text := by
  rw [splitAtQuote_eq_none_iff_escaped, HasClosingQuote]
  constructor
  · rintro every ⟨column, quote, bare⟩
    rcases every column quote with ⟨-, none⟩ | ⟨before, same, here⟩
    · cases none
    · exact bare before same here
  · intro none column quote
    by_cases escaped : ∃ before, column = before + 1 ∧ text[before]? = some '\\'
    · exact .inr escaped
    · exact absurd ⟨column, quote, fun before same here => escaped ⟨before, same, here⟩⟩ none

theorem splitAfterComment_eq_none_iff {style : CommentStyle} {text : List Char} :
    splitAfterComment style text = none ↔ ¬style.terminator <:+: text.map Glyph.char := by
  cases style with
  | brace =>
    simp only [splitAfterComment, CommentStyle.terminator]
    fun_induction splitAfterBrace text with
    | case1 => simp
    | case2 rest => simp [List.infix_cons_iff]
    | case3 c rest other ih =>
      have here : ¬[Glyph.char '}'] <+: .char c :: rest.map .char := by
        simpa [eq_comm] using other
      rw [Option.map_eq_none_iff, ih, List.map_cons, List.infix_cons_iff]
      simp [here]
  | paren =>
    simp only [splitAfterComment, CommentStyle.terminator]
    fun_induction splitAfterStarParen text with
    | case1 => simp
    | case2 rest => simp [List.infix_cons_iff]
    | case3 c rest other ih =>
      have here : ¬[Glyph.char '*', .char ')'] <+: .char c :: rest.map .char := by
        intro found
        obtain ⟨star, behind⟩ := List.cons_prefix_cons.mp found
        cases rest with
        | nil => simp at behind
        | cons d rest =>
          obtain ⟨paren, -⟩ := List.cons_prefix_cons.mp behind
          exact other rest (Glyph.char.inj star).symm (by rw [Glyph.char.inj paren])
      rw [Option.map_eq_none_iff, ih, List.map_cons, List.infix_cons_iff]
      simp [here]

end Mask

/-! ## One line -/

theorem line_of_opened_ofCode {line : Nat} {front after : List Char} {literal : OpenLiteral}
    (opened : (MaskedLine.ofCode line front after).opened = some literal) :
    literal.start.line = line := by
  obtain ⟨inside, start, -⟩ := Mask.beginsAt_of_maskCode opened
  rw [start]

/-- A string that a line leaves open begins on that line. -/
theorem line_of_opened_string {line : Nat} {text : List Char} {before : Option OpenLiteral}
    {start : Position} (opened : (maskLine line text before).opened = some (.string start)) :
    start.line = line := by
  match before with
  | none => exact line_of_opened_ofCode opened
  | some (.string earlier) =>
    simp only [maskLine] at opened
    split at opened
    next => exact line_of_opened_ofCode opened
    next => cases opened
  | some (.comment style earlier) =>
    simp only [maskLine] at opened
    split at opened
    next => exact line_of_opened_ofCode opened
    next => cases opened

/-- A comment that begins above a line is open behind it if it is open before it and the line does
    not have its terminator. -/
theorem opened_eq_comment_iff {line : Nat} {text : List Char} {before : Option OpenLiteral}
    {style : CommentStyle} {start : Position} (above : start.line ≠ line) :
    (maskLine line text before).opened = some (.comment style start) ↔
      before = some (.comment style start) ∧ Mask.splitAfterComment style text = none := by
  constructor
  · intro opened
    match before with
    | none => exact absurd (line_of_opened_ofCode opened) above
    | some (.string earlier) =>
      simp only [maskLine] at opened
      split at opened
      next => exact absurd (line_of_opened_ofCode opened) above
      next => cases opened
    | some (.comment other earlier) =>
      simp only [maskLine] at opened
      split at opened
      next => exact absurd (line_of_opened_ofCode opened) above
      next missing =>
        obtain ⟨rfl, rfl⟩ : other = style ∧ earlier = start := by simpa using opened
        exact ⟨rfl, missing⟩
  · rintro ⟨rfl, missing⟩
    simp only [maskLine, missing]

theorem unterminated_eq_some_iff {line : Nat} {text : List Char} {before : Option OpenLiteral}
    {start : Position} :
    (maskLine line text before).unterminated = some start ↔
      before = some (.string start) ∧ Mask.splitAtQuote false text = none := by
  constructor
  · intro given
    obtain rfl := eq_string_of_unterminated given
    simp only [maskLine] at given
    split at given
    next => cases given
    next missing => exact ⟨rfl, missing⟩
  · rintro ⟨rfl, missing⟩
    simp only [maskLine, missing]

/-! ## Many lines -/

/-- The literal that is open behind some lines, of which the first has the given number, if
    `opened` is open before them. -/
def openBehind (first : Nat) (opened : Option OpenLiteral) : List (List Char) → Option OpenLiteral
  | [] => opened
  | text :: below => openBehind (first + 1) (maskLine first text opened).opened below

theorem openBehind_append (first : Nat) (opened : Option OpenLiteral) (above below : List (List Char)) :
    openBehind first opened (above ++ below) =
      openBehind (first + above.length) (openBehind first opened above) below := by
  induction above generalizing first opened with
  | nil => rfl
  | cons text above ih =>
    rw [List.cons_append, openBehind, ih, openBehind, List.length_cons, Nat.add_right_comm,
      Nat.add_assoc]

theorem openBehind_concat (above : List (List Char)) (text : List Char) :
    openBehind 1 none (above ++ [text]) =
      (maskLine (above.length + 1) text (openBehind 1 none above)).opened := by
  rw [openBehind_append, Nat.add_comm]
  rfl

theorem maskLines_append (first : Nat) (opened : Option OpenLiteral)
    (above below : List (List Char)) :
    maskLines first opened (above ++ below) = maskLines first opened above ++
      maskLines (first + above.length) (openBehind first opened above) below := by
  induction above generalizing first opened with
  | nil => rfl
  | cons text above ih =>
    rw [List.cons_append, maskLines, ih, maskLines, openBehind, List.length_cons, List.cons_append,
      Nat.add_right_comm, Nat.add_assoc]

/-- An open string begins on the last of the lines. -/
theorem line_of_openBehind_string {lines : List (List Char)} {start : Position}
    (opened : openBehind 1 none lines = some (.string start)) : start.line = lines.length := by
  cases lines using List.reverseRecOn with
  | nil => cases opened
  | append_singleton above text =>
    rw [openBehind_concat] at opened
    rw [line_of_opened_string opened, List.length_append, List.length_singleton]

/-- An open comment begins on one of the lines. -/
theorem line_of_openBehind_comment {lines : List (List Char)} {style : CommentStyle}
    {start : Position} (opened : openBehind 1 none lines = some (.comment style start)) :
    start.line ≤ lines.length := by
  induction lines using List.reverseRecOn with
  | nil => cases opened
  | append_singleton above text ih =>
    rw [openBehind_concat] at opened
    rw [List.length_append, List.length_singleton]
    by_cases here : start.line = above.length + 1
    · omega
    · have earlier := ih ((opened_eq_comment_iff here).mp opened).1
      omega

/-- A comment that begins above some lines is open behind them if it is open before them and none of
    them has its terminator. -/
theorem openBehind_eq_comment_iff {first : Nat} {opened : Option OpenLiteral}
    {lines : List (List Char)} {style : CommentStyle} {start : Position}
    (above : start.line < first) :
    openBehind first opened lines = some (.comment style start) ↔
      opened = some (.comment style start) ∧
        ∀ text ∈ lines, ¬style.terminator <:+: text.map Glyph.char := by
  induction lines generalizing first opened with
  | nil => simp [openBehind]
  | cons text below ih =>
    have other : start.line ≠ first := Nat.ne_of_lt above
    rw [openBehind, ih (Nat.lt_succ_of_lt above), opened_eq_comment_iff other,
      Mask.splitAfterComment_eq_none_iff, List.forall_mem_cons, and_assoc]

/-! ## Strings that the next line does not close -/

/-- Where the strings begin that the line below them does not close, in order. -/
def abandonedStrings (lines : List (List Char)) : List Position :=
  (maskLines 1 none lines).filterMap (·.unterminated)

theorem abandonedStrings_concat (above : List (List Char)) (text : List Char) :
    abandonedStrings (above ++ [text]) = abandonedStrings above ++
      (maskLine (above.length + 1) text (openBehind 1 none above)).unterminated.toList := by
  rw [abandonedStrings, maskLines_append, List.filterMap_append, Nat.add_comm]
  cases unterminated : (maskLine (above.length + 1) text (openBehind 1 none above)).unterminated <;>
    simp [abandonedStrings, maskLines, unterminated]

theorem mem_abandonedStrings_iff {lines : List (List Char)} {start : Position} :
    start ∈ abandonedStrings lines ↔
      openBehind 1 none (lines.take start.line) = some (.string start) ∧
        ∃ text, lines[start.line]? = some text ∧ ¬Mask.HasClosingQuote text := by
  induction lines using List.reverseRecOn with
  | nil => simp [abandonedStrings, maskLines]
  | append_singleton above text ih =>
    rw [abandonedStrings_concat, List.mem_append, ih, Option.mem_toList,
      unterminated_eq_some_iff, Mask.splitAtQuote_eq_none_iff]
    -- The line below the string is the last one, one above it, or there is none.
    rcases Nat.lt_trichotomy start.line above.length with inside | last | outside
    · have earlier : openBehind 1 none above ≠ some (.string start) := fun opened =>
        Nat.ne_of_lt inside (line_of_openBehind_string opened)
      rw [List.take_append_of_le_length (Nat.le_of_lt inside), List.getElem?_append_left inside]
      simp [earlier]
    · rw [last, List.take_left, List.take_length]
      simp
    · have later : openBehind 1 none above ≠ some (.string start) := fun opened =>
        Nat.ne_of_gt outside (line_of_openBehind_string opened)
      have beyond : (above ++ [text]).length ≤ start.line := by
        rw [List.length_append, List.length_singleton]
        omega
      rw [List.getElem?_eq_none (by omega), List.getElem?_eq_none beyond]
      simp [later]

theorem line_of_mem_abandonedStrings {lines : List (List Char)} {start : Position}
    (found : start ∈ abandonedStrings lines) : start.line < lines.length := by
  obtain ⟨-, text, below, -⟩ := mem_abandonedStrings_iff.mp found
  exact (List.getElem?_eq_some_iff.mp below).1

theorem nodup_abandonedStrings (lines : List (List Char)) : (abandonedStrings lines).Nodup := by
  induction lines using List.reverseRecOn with
  | nil => simp [abandonedStrings, maskLines]
  | append_singleton above text ih =>
    rw [abandonedStrings_concat]
    cases unterminated : (maskLine (above.length + 1) text (openBehind 1 none above)).unterminated with
    | none => simpa using ih
    | some start =>
      -- The strings that were given up before begin higher up than the one that is given up now.
      have last := line_of_openBehind_string (unterminated_eq_some_iff.mp unterminated).1
      have fresh : start ∉ abandonedStrings above := fun found =>
        Nat.ne_of_lt (line_of_mem_abandonedStrings found) last
      rw [List.nodup_append]
      refine ⟨ih, by simp, fun earlier found other same => ?_⟩
      obtain rfl : other = start := by simpa using same
      exact fun equal => fresh (equal ▸ found)

/-! ## Reports -/

/-- The diagnostics for the literals that are never closed, in the order in which they are
    recorded. -/
def literalDiagnostics (lines : List (List Char)) : List Diagnostic :=
  (abandonedStrings lines).map (⟨·, .unterminatedString⟩)
    ++ (openBehind 1 none lines).toList.map fun literal => ⟨literal.start, literal.defect⟩

theorem Context.checkAll_allOff (context : Context) (lines : List (List Char)) :
    context.checkAll .allOff lines =
      ((maskLines (context.lineCount + 1) context.opened lines).filterMap (·.unterminated)).map
          (⟨·, .unterminatedString⟩)
        ++ (openBehind (context.lineCount + 1) context.opened lines).toList.map fun literal =>
          ⟨literal.start, literal.defect⟩ := by
  induction lines generalizing context with
  | nil => simp [checkAll, checkEnd, maskLines, openBehind, Checks.allOff]
  | cons text below ih =>
    have strings : context.check .allOff text = context.unterminatedString text := by
      simp [check, Checks.has_allOff]
    rw [checkAll, strings, ih, lineCount_advance, opened_advance, ← List.append_assoc]
    refine congrArg (· ++ _) ?_
    rw [maskLines, unterminatedString, mask]
    cases unterminated : (maskLine (context.lineCount + 1) text context.opened).unterminated <;>
      simp [unterminated]

theorem analyze_allOff (lines : List (List Char)) : analyze .allOff lines = literalDiagnostics lines :=
  Context.start.checkAll_allOff lines

/-- Whatever is checked, these are the diagnostics that belong to no rule. -/
theorem filter_analyze_allOff (checks : Checks) (lines : List (List Char)) :
    (analyze checks lines).filter (Checks.allOff.allows ·.defect) = literalDiagnostics lines := by
  have within : ∀ rule, Checks.allOff.has rule = true → checks.has rule = true := by
    intro rule on
    rw [Checks.has_allOff] at on
    cases on
  rw [filter_analyze within, analyze_allOff]

theorem mem_analyze_literal {checks : Checks} {lines : List (List Char)} {d : Diagnostic}
    (ruleless : Checks.allOff.allows d.defect = true) :
    d ∈ analyze checks lines ↔ d ∈ literalDiagnostics lines := by
  rw [← filter_analyze_allOff checks, List.mem_filter]
  simp [ruleless]

theorem mem_literalDiagnostics_string {lines : List (List Char)} {start : Position} :
    ⟨start, .unterminatedString⟩ ∈ literalDiagnostics lines ↔
      start ∈ abandonedStrings lines ∨ openBehind 1 none lines = some (.string start) := by
  rw [literalDiagnostics, List.mem_append]
  refine or_congr (by simp) ?_
  cases opened : openBehind 1 none lines with
  | none => simp
  | some literal => cases literal <;> simp [OpenLiteral.start, OpenLiteral.defect, eq_comm]

theorem mem_literalDiagnostics_comment {lines : List (List Char)} {start : Position} :
    ⟨start, .unterminatedComment⟩ ∈ literalDiagnostics lines ↔
      ∃ style, openBehind 1 none lines = some (.comment style start) := by
  rw [literalDiagnostics, List.mem_append]
  cases opened : openBehind 1 none lines with
  | none => simp
  | some literal => cases literal <;> simp [OpenLiteral.start, OpenLiteral.defect, eq_comm]

theorem nodup_literalDiagnostics (lines : List (List Char)) : (literalDiagnostics lines).Nodup := by
  have strings : ((abandonedStrings lines).map
      (⟨·, .unterminatedString⟩ : Position → Diagnostic)).Nodup :=
    List.Nodup.map (fun p q same => congrArg Diagnostic.position same) (nodup_abandonedStrings lines)
  cases opened : openBehind 1 none lines with
  | none => simpa [literalDiagnostics, opened] using strings
  | some literal =>
    rw [literalDiagnostics, opened, List.nodup_append]
    refine ⟨strings, by simp, fun d found last final same => ?_⟩
    subst same
    obtain ⟨start, abandoned, rfl⟩ := List.mem_map.mp found
    cases literal with
    | comment style begin => simp [OpenLiteral.defect] at final
    | string begin =>
      -- The last string begins on the last line, and those that were given up begin above it.
      obtain rfl : start = begin := by simpa [OpenLiteral.start, OpenLiteral.defect] using final
      exact Nat.ne_of_lt (line_of_mem_abandonedStrings abandoned) (line_of_openBehind_string opened)

/-- There is no more than one comment, since only what is open behind the last line is one. -/
theorem countP_literalDiagnostics_le (lines : List (List Char)) :
    (literalDiagnostics lines).countP (·.defect = .unterminatedComment) ≤ 1 := by
  have strings : ((abandonedStrings lines).map
      (⟨·, .unterminatedString⟩ : Position → Diagnostic)).countP
        (·.defect = .unterminatedComment) = 0 := by
    simp [List.countP_eq_zero]
  rw [literalDiagnostics, List.countP_append, strings, Nat.zero_add]
  refine Nat.le_trans List.countP_le_length ?_
  cases openBehind 1 none lines <;> simp

theorem string_reported_iff {lines : List (List Char)} {start : Position} :
    ⟨start, .unterminatedString⟩ ∈ literalDiagnostics lines ↔
      openBehind 1 none (lines.take start.line) = some (.string start) ∧
        (start.line = lines.length ∨
          ∃ text, lines[start.line]? = some text ∧ ¬Mask.HasClosingQuote text) := by
  rw [mem_literalDiagnostics_string, mem_abandonedStrings_iff]
  constructor
  · rintro (⟨opened, below⟩ | opened)
    · exact ⟨opened, .inr below⟩
    · have last := line_of_openBehind_string opened
      exact ⟨by rwa [last, List.take_length], .inl last⟩
  · rintro ⟨opened, last | below⟩
    · rw [last, List.take_length] at opened
      exact .inr opened
    · exact .inl ⟨opened, below⟩

theorem comment_reported_iff {lines : List (List Char)} {start : Position} :
    ⟨start, .unterminatedComment⟩ ∈ literalDiagnostics lines ↔
      ∃ style, openBehind 1 none (lines.take start.line) = some (.comment style start) ∧
        ∀ text ∈ lines.drop start.line, ¬style.terminator <:+: text.map Glyph.char := by
  rw [mem_literalDiagnostics_comment]
  refine exists_congr fun style => ?_
  by_cases inside : start.line ≤ lines.length
  · have whole : openBehind 1 none lines = openBehind (1 + start.line)
        (openBehind 1 none (lines.take start.line)) (lines.drop start.line) := by
      have split := openBehind_append 1 none (lines.take start.line) (lines.drop start.line)
      rwa [List.take_append_drop, List.length_take, Nat.min_eq_left inside] at split
    rw [whole, openBehind_eq_comment_iff (by omega)]
  · -- No comment begins below the last line.
    have beyond : openBehind 1 none lines ≠ some (.comment style start) := fun opened =>
      inside (line_of_openBehind_comment opened)
    rw [List.take_of_length_le (by omega)]
    simp [beyond]

/-- Whatever is checked, a string is reported where it begins if it is open behind its line and the
    next line, if there is one, has no closing quote; a comment if it is open behind its line and no
    later line has its terminator. Each of them is reported once, and there is one comment at
    most. -/
theorem open_literals_reported_once (checks : Checks) (lines : List (List Char)) :
    (∀ start, (⟨start, .unterminatedString⟩ : Diagnostic) ∈ analyze checks lines ↔
      openBehind 1 none (lines.take start.line) = some (.string start) ∧
        (start.line = lines.length ∨
          ∃ text, lines[start.line]? = some text ∧ ¬Mask.HasClosingQuote text)) ∧
      (∀ start, (⟨start, .unterminatedComment⟩ : Diagnostic) ∈ analyze checks lines ↔
        ∃ style, openBehind 1 none (lines.take start.line) = some (.comment style start) ∧
          ∀ text ∈ lines.drop start.line, ¬style.terminator <:+: text.map Glyph.char) ∧
      (∀ d ∈ analyze checks lines, d.defect ∈ [.unterminatedString, .unterminatedComment] →
        (analyze checks lines).count d = 1) ∧
      (analyze checks lines).countP (·.defect = .unterminatedComment) ≤ 1 := by
  have part := filter_analyze_allOff checks lines
  refine ⟨fun start => ?_, fun start => ?_, fun d found literal => ?_, ?_⟩
  · rw [mem_analyze_literal rfl, string_reported_iff]
  · rw [mem_analyze_literal rfl, comment_reported_iff]
  · have allowed : Checks.allOff.allows d.defect = true := by
      simp only [List.mem_cons, List.not_mem_nil, or_false] at literal
      rcases literal with defect | defect <;> rw [defect] <;> rfl
    have once := List.nodup_iff_count_le_one.mp (nodup_literalDiagnostics lines) d
    rw [← part, List.count_filter (p := fun d : Diagnostic => Checks.allOff.allows d.defect) allowed] at once
    have some := List.count_pos_iff.mpr found
    omega
  · have comments := countP_literalDiagnostics_le lines
    rw [← part, List.countP_filter] at comments
    refine Nat.le_trans (List.countP_mono_left fun d _ comment => ?_) comments
    have comment : d.defect = .unterminatedComment := by simpa using comment
    simp [comment, Checks.allows, Defect.rule?]

end PascalLint
