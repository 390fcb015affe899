import PascalLint.Proofs.OpenLiterals

/-! # Masking character by character

Masking looks ahead for the end of a literal and then covers all of it. A machine that goes through
the line once, with the next character in sight, masks it in the same way: what it is in the middle
of is its mode. It takes two steps for a delimiter of two characters, and the second one is a mode of
its own, so the star of an opener is never taken for the beginning of a terminator.
-/

namespace PascalLint

namespace Mask

/-! ## The machine -/

/-- What the machine is in the middle of. -/
inductive Mode
  | code
  /-- Behind two slashes. -/
  | lineComment
  /-- In a string, which is carried over from the line above or begins on this line. The last flag
      tells whether a backslash stands before the next character. -/
  | string (start : Position) (carried escaped : Bool)
  | comment (style : CommentStyle) (start : Position)
  /-- Before the star of an opener. -/
  | opener (start : Position)
  /-- Before the parenthesis of a terminator. -/
  | terminator
deriving DecidableEq, Repr

namespace Mode

/-- The mode at the start of a line, where a literal may be open. -/
def ofOpened : Option OpenLiteral → Mode
  | none => code
  | some (.string start) => string start true false
  | some (.comment style start) => comment style start

/-- What becomes of a character, given its position and the next character of the line, and the
    mode behind it. -/
def step (position : Position) (c : Char) (next : Option Char) : Mode → Char × Mode
  | code =>
    if c = '\'' then (c, string position false false)
    else if c = '/' ∧ next = some '/' then (' ', lineComment)
    else if c = '{' then (' ', comment .brace position)
    else if c = '(' ∧ next = some '*' then (' ', opener position)
    else (c, code)
  | lineComment => (' ', lineComment)
  | string start carried escaped =>
    if c = '\'' ∧ escaped = false then (c, code) else (' ', string start carried (c == '\\'))
  | comment .brace start => (' ', if c = '}' then code else comment .brace start)
  | comment .paren start =>
    (' ', if c = '*' ∧ next = some ')' then terminator else comment .paren start)
  | opener start => (' ', comment .paren start)
  | terminator => (' ', code)

/-- What a line that ends in a mode leaves open. -/
def ended : Mode → MaskedLine
  | string start false _ => ⟨[], some (.string start), none⟩
  | string start true _ => ⟨[], none, some start⟩
  | comment style start => ⟨[], some (.comment style start), none⟩
  | opener start => ⟨[], some (.comment .paren start), none⟩
  | code | lineComment | terminator => ⟨[], none, none⟩

end Mode

end Mask

/-- Puts masked characters in front of a masked line. -/
def MaskedLine.behind (front : List Char) (masked : MaskedLine) : MaskedLine :=
  { masked with text := front ++ masked.text }

theorem MaskedLine.behind_behind (front inner : List Char) (masked : MaskedLine) :
    (masked.behind inner).behind front = masked.behind (front ++ inner) := by
  simp [behind]

namespace Mask

/-- The masked line that has nothing but some masked code. -/
def Code.masked (code : Code) : MaskedLine :=
  ⟨code.1, code.2, none⟩

theorem Code.masked_after (front : List Char) (code : Code) :
    (code.after front).masked = code.masked.behind front := rfl

namespace Mode

/-- Reads the characters of a line from a column on. -/
def run (line : Nat) (mode : Mode) (column : Nat) : List Char → MaskedLine
  | [] => mode.ended
  | c :: rest =>
    let (shown, mode) := mode.step ⟨line, column⟩ c rest.head?
    (mode.run line (column + 1) rest).behind [shown]

theorem run_cons {line : Nat} {mode later : Mode} {column : Nat} {c shown : Char} {rest : List Char}
    (step : mode.step ⟨line, column⟩ c rest.head? = (shown, later)) :
    mode.run line column (c :: rest) = (later.run line (column + 1) rest).behind [shown] := by
  rw [run, step]

/-! ## Literals -/

section

variable {line column : Nat} {text : List Char} {start : Position}

theorem run_lineComment : lineComment.run line column text = ⟨blank text, none, none⟩ := by
  induction text generalizing column with
  | nil => rfl
  | cons c rest ih =>
    rw [run_cons rfl, ih]
    rfl

theorem run_string {carried escaped : Bool} :
    (string start carried escaped).run line column text = match splitAtQuote escaped text with
      | some (body, after) =>
        (code.run line (column + body.length + 1) after).behind (blank body ++ ['\''])
      | none => (string start carried escaped).ended.behind (blank text) := by
  induction text generalizing column escaped with
  | nil => cases carried <;> rfl
  | cons c rest ih =>
    by_cases closing : c = '\'' ∧ escaped = false
    · have step : (string start carried escaped).step ⟨line, column⟩ c rest.head? = (c, code) :=
        if_pos closing
      obtain ⟨rfl, rfl⟩ := closing
      rw [run_cons step]
      rfl
    · have step : (string start carried escaped).step ⟨line, column⟩ c rest.head? =
          (' ', string start carried (c == '\\')) := if_neg closing
      have inside : (c == '\'' && !escaped) = false := by simpa using closing
      rw [run_cons step, ih, splitAtQuote, inside]
      cases splitAtQuote (c == '\\') rest with
      | none => cases carried <;> rfl
      | some parts =>
        simp [MaskedLine.behind_behind, blank_cons, Nat.add_assoc, Nat.add_comm 1]

theorem run_brace :
    (comment .brace start).run line column text = match splitAfterBrace text with
      | some (body, after) => (code.run line (column + body.length) after).behind (blank body)
      | none => ⟨blank text, some (.comment .brace start), none⟩ := by
  fun_induction splitAfterBrace text generalizing column with
  | case1 => rfl
  | case2 rest => rfl
  | case3 c rest other ih =>
    have step : (comment .brace start).step ⟨line, column⟩ c rest.head? =
        (' ', comment .brace start) := congrArg _ (if_neg other)
    rw [run_cons step, ih]
    cases splitAfterBrace rest with
    | none => rfl
    | some parts => simp [MaskedLine.behind_behind, blank_cons, Nat.add_assoc, Nat.add_comm 1]

theorem run_paren :
    (comment .paren start).run line column text = match splitAfterStarParen text with
      | some (body, after) => (code.run line (column + body.length) after).behind (blank body)
      | none => ⟨blank text, some (.comment .paren start), none⟩ := by
  fun_induction splitAfterStarParen text generalizing column with
  | case1 => rfl
  | case2 rest => rfl
  | case3 c rest other ih =>
    have step : (comment .paren start).step ⟨line, column⟩ c rest.head? =
        (' ', comment .paren start) := congrArg _ (if_neg (not_pair_iff.mp other))
    rw [run_cons step, ih]
    cases splitAfterStarParen rest with
    | none => rfl
    | some parts => simp [MaskedLine.behind_behind, blank_cons, Nat.add_assoc, Nat.add_comm 1]

theorem run_comment (style : CommentStyle) :
    (comment style start).run line column text = match splitAfterComment style text with
      | some (body, after) => (code.run line (column + body.length) after).behind (blank body)
      | none => ⟨blank text, some (.comment style start), none⟩ := by
  cases style with
  | brace => exact run_brace
  | paren => exact run_paren

/-! ## Lines -/

theorem run_code_quote :
    code.run line column ('\'' :: text) =
      ((string ⟨line, column⟩ false false).run line (column + 1) text).behind ['\''] :=
  run_cons rfl

theorem run_code_brace :
    code.run line column ('{' :: text) =
      ((comment .brace ⟨line, column⟩).run line (column + 1) text).behind [' '] :=
  run_cons rfl

theorem run_code_parenStar :
    code.run line column ('(' :: '*' :: text) =
      ((comment .paren ⟨line, column⟩).run line (column + 2) text).behind [' ', ' '] := by
  have paren : code.step ⟨line, column⟩ '(' ('*' :: text).head? = (' ', opener ⟨line, column⟩) := rfl
  have star : (opener ⟨line, column⟩).step ⟨line, column + 1⟩ '*' text.head? =
      (' ', comment .paren ⟨line, column⟩) := rfl
  rw [run_cons paren, run_cons star, MaskedLine.behind_behind]
  rfl

/-- In code the machine masks as code is masked. -/
theorem run_code : code.run line column text = (maskCode line column text).masked := by
  -- One case for each delimiter: the machine is in its literal behind it, and the lemma about that
  -- literal says where it is in code again.
  fun_induction maskCode line column text with
  | case1 column => rfl
  | case2 column rest body after found ih =>
    rw [run_code_quote, run_string, found, Code.masked_after, ← ih]
    simp [MaskedLine.behind_behind, Nat.add_assoc, Nat.add_comm 1]
  | case3 column rest missing =>
    rw [run_code_quote, run_string, missing]
    simp [MaskedLine.behind, Code.masked, ended]
  | case4 column rest =>
    have step : code.step ⟨line, column⟩ '/' ('/' :: rest).head? = (' ', lineComment) := rfl
    rw [run_cons step, run_lineComment]
    rfl
  | case5 column rest body after found ih =>
    rw [run_code_brace, run_brace, found, Code.masked_after, ← ih]
    simp [MaskedLine.behind_behind, blank_cons, Nat.add_assoc, Nat.add_comm 1]
  | case6 column rest missing =>
    rw [run_code_brace, run_brace, missing]
    rfl
  | case7 column rest body after found ih =>
    rw [run_code_parenStar, run_paren, found, Code.masked_after, ← ih]
    simp [MaskedLine.behind_behind, blank_cons, Nat.add_assoc, Nat.add_comm 2]
  | case8 column rest missing =>
    rw [run_code_parenStar, run_paren, missing]
    rfl
  | case9 column c rest quote slashes brace paren ih =>
    have step : code.step ⟨line, column⟩ c rest.head? = (c, code) := by
      simp only [Mode.step]
      rw [if_neg quote, if_neg (not_pair_iff.mp slashes), if_neg brace, if_neg (not_pair_iff.mp paren)]
    rw [run_cons step, ih, Code.masked_after]

end

end Mode

end Mask

open Mask (Mode)

theorem MaskedLine.ofCode_eq_run (line : Nat) (front after : List Char) :
    ofCode line front after = (Mode.code.run line front.length after).behind front := by
  rw [Mode.run_code]
  rfl

theorem run_ofOpened (line : Nat) (text : List Char) (opened : Option OpenLiteral) :
    (Mode.ofOpened opened).run line 0 text = maskLine line text opened := by
  match opened with
  | none => exact (MaskedLine.ofCode_eq_run line [] text).symm
  | some (.string start) =>
    simp only [maskLine, Mode.ofOpened, Mode.run_string]
    cases Mask.splitAtQuote false text with
    | none => simp [MaskedLine.behind, Mode.ended]
    | some parts => simp [MaskedLine.ofCode_eq_run]
  | some (.comment style start) =>
    simp only [maskLine, Mode.ofOpened, Mode.run_comment]
    cases Mask.splitAfterComment style text with
    | none => rfl
    | some parts => simp [MaskedLine.ofCode_eq_run]

/-- Masking a line is running the machine over it. The masked line is as long as the line; each of its
    characters is that of the line or a space, and all are spaces if the line does not close the string
    that is carried over to it, which is then given up and leaves nothing open. -/
theorem maskLine_eq_run (line : Nat) (text : List Char) (opened : Option OpenLiteral) :
    let masked := maskLine line text opened
    masked = (Mode.ofOpened opened).run line 0 text ∧
      masked.text.length = text.length ∧
      (∀ (column : Nat) (c d : Char), text[column]? = some c → masked.text[column]? = some d →
        d = c ∨ d = ' ') ∧
      ∀ start, masked.unterminated = some start →
        masked.opened = none ∧ masked.text = List.replicate text.length ' ' := by
  intro masked
  have veils : Veils text masked.text := Veils.of_maskLine line text opened
  refine ⟨(run_ofOpened line text opened).symm, veils.length_eq, ?_, ?_⟩
  · intro column c d raw here
    by_cases space : d = ' '
    · exact .inr space
    · have same := veils.getElem?_eq here space
      rw [raw] at same
      exact .inl (Option.some.inj same).symm
  · intro start unterminated
    obtain ⟨rfl, missing⟩ := unterminated_eq_some_iff.mp unterminated
    have given : masked = ⟨Mask.blank text, none, some start⟩ := by
      simp only [masked, maskLine, missing]
    rw [given]
    exact ⟨rfl, rfl⟩

/-- The star of an opener is not the beginning of a terminator. -/
example : Mode.code.run 1 0 ['(', '*', ')', 'x'] =
    ⟨[' ', ' ', ' ', ' '], some (.comment .paren ⟨1, 0⟩), none⟩ := by
  decide

end PascalLint
