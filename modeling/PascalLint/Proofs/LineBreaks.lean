import PascalLint.Report

/-! # Line breaks

Cutting a text into lines loses nothing but the line breaks. With new-lines put back between the lines,
and behind the last one if the text ends with one, what comes out is the text with its breaks
all written as new-lines. How a break was written cannot be seen in the lines, unless a carriage return
is put before a break that has one: the first of the two then belongs to the line.
-/

namespace PascalLint

namespace Text

/-! ## Joining lines -/

/-- The text with a new-line for every carriage return that a new-line follows, together with it. -/
def unified : List Char → List Char
  | [] => []
  | '\r' :: '\n' :: rest => '\n' :: unified rest
  | c :: rest => c :: unified rest

/-- The new-line at the end of a text, if it ends with one. -/
def ending (text : List Char) : List Char :=
  if text.getLast? = some '\n' then ['\n'] else []

theorem lines_eq_nil_iff {text : List Char} : lines text = [] ↔ text = [] := by
  fun_cases lines text with
  | case1 => simp
  | case2 rest => simp
  | case3 rest => simp
  | case4 c rest other newline none => simp
  | case5 c rest other newline line below found => simp

theorem newline_not_mem_of_mem_lines {text line : List Char} (found : line ∈ lines text) :
    '\n' ∉ line := by
  fun_induction lines text generalizing line with
  | case1 => cases found
  | case2 rest ih =>
    rcases List.mem_cons.mp found with rfl | later
    · exact List.not_mem_nil
    · exact ih later
  | case3 rest ih =>
    rcases List.mem_cons.mp found with rfl | later
    · exact List.not_mem_nil
    · exact ih later
  | case4 c rest other newline none ih =>
    obtain rfl := List.mem_singleton.mp found
    simpa [eq_comm] using newline
  | case5 c rest other newline first below inner ih =>
    rw [inner] at ih
    rcases List.mem_cons.mp found with rfl | later
    · have absent := ih List.mem_cons_self
      simp [absent, Ne.symm newline]
    · exact ih (List.mem_cons_of_mem _ later)

theorem ending_cons_cons (c d : Char) (rest : List Char) : ending (c :: d :: rest) = ending (d :: rest) := by
  rw [ending, List.getLast?_cons_cons, ending]

/-- A line that is empty leaves its break. -/
theorem intercalate_nil_lines (rest : List Char) :
    ['\n'].intercalate ([] :: lines rest) ++ ending ('\n' :: rest) =
      '\n' :: (['\n'].intercalate (lines rest) ++ ending rest) := by
  cases rest with
  | nil => rfl
  | cons c rest =>
    have some : lines (c :: rest) ≠ [] := by simp [lines_eq_nil_iff]
    rw [List.intercalate_cons_of_ne_nil some, ending_cons_cons]
    rfl

/-- With new-lines put back, the lines of a text are the text with its breaks written as new-lines. -/
theorem intercalate_lines (text : List Char) :
    ['\n'].intercalate (lines text) ++ ending text = unified text := by
  -- Along the cutting: a break opens an empty line, and any other character goes to the first line of
  -- what comes behind it, if there is one.
  fun_induction lines text with
  | case1 => rfl
  | case2 rest ih => rw [ending_cons_cons, intercalate_nil_lines, ih, unified]
  | case3 rest ih =>
    rw [intercalate_nil_lines, ih, unified]
    rintro tail ⟨⟩
  | case4 c rest other newline none ih =>
    obtain rfl := lines_eq_nil_iff.mp none
    have unended : ending [c] = [] := if_neg (by simpa using newline)
    rw [unended, unified]
    · rfl
    · exact other
  | case5 c rest other newline line below found ih =>
    have nonempty : rest ≠ [] := by
      rintro rfl
      cases found
    obtain ⟨d, rest, rfl⟩ := List.exists_cons_of_ne_nil nonempty
    rw [unified, ← ih, found, ending_cons_cons, List.intercalate_cons_cons_left]
    · rfl
    · exact other

/-! ## Returns before new-lines -/

/-- The text with a carriage return put before the new-lines at the chosen places, of which the first
    in the text has the given number. -/
def addReturns (chosen : Nat → Bool) (place : Nat) : List Char → List Char
  | [] => []
  | '\n' :: rest =>
    let behind := '\n' :: addReturns chosen (place + 1) rest
    if chosen place then '\r' :: behind else behind
  | c :: rest => c :: addReturns chosen (place + 1) rest

theorem addReturns_other (chosen : Nat → Bool) (place : Nat) {c : Char} (newline : c ≠ '\n')
    (rest : List Char) :
    addReturns chosen place (c :: rest) = c :: addReturns chosen (place + 1) rest := by
  rw [addReturns]
  exact newline

/-- A new-line is in front only where the text has one, with no return put before it. -/
theorem head_of_addReturns {chosen : Nat → Bool} {place : Nat} {text tail : List Char}
    (front : addReturns chosen place text = '\n' :: tail) : ∃ rest, text = '\n' :: rest := by
  cases text with
  | nil => cases front
  | cons c rest =>
    by_cases newline : c = '\n'
    · exact ⟨rest, by rw [newline]⟩
    · rw [addReturns_other chosen place newline] at front
      exact absurd (List.cons.inj front).1 newline

/-- Where no new-line follows a carriage return, one that is put before it is part of the break. -/
theorem lines_addReturns (chosen : Nat → Bool) (place : Nat) {text : List Char}
    (bare : ¬['\r', '\n'] <:+: text) : lines (addReturns chosen place text) = lines text := by
  induction text generalizing place with
  | nil => rfl
  | cons c rest ih =>
    have later := ih (place + 1) fun found => bare (List.infix_cons found)
    by_cases newline : c = '\n'
    · rw [newline, addReturns, lines_newline]
      cases chosen place with
      | true => rw [if_pos rfl, lines_return_newline, later]
      | false => rw [if_neg Bool.false_ne_true, lines_newline, later]
    · -- A carriage return here is a character of its line, before and after.
      have alone : ∀ tail, c = '\r' → rest = '\n' :: tail → False := by
        rintro tail rfl rfl
        exact bare ⟨[], tail, rfl⟩
      have still : ∀ tail, c = '\r' → addReturns chosen (place + 1) rest = '\n' :: tail → False := by
        intro tail same front
        obtain ⟨behind, more⟩ := head_of_addReturns front
        exact alone behind same more
      rw [addReturns_other chosen place newline, lines, later, lines]
      · exact alone
      · exact newline
      · exact still
      · exact newline

end Text

/-! ## Sources -/

/-- The lines of a text have no new-lines in them. With new-lines put back between them, and behind the
    last one if the text ends with one, they are the text with its breaks written as new-lines. Only the
    empty text has no lines. If none of its new-lines follows a carriage return, one may be put before
    any of them: the lines are the same, and so is all that comes of a check. -/
theorem lines_keep_all_but_breaks (text : List Char) (file : Option String) (encoding : Encoding) :
    let source := Source.ofText text file encoding
    (∀ line ∈ source.lines, '\n' ∉ line) ∧
      ['\n'].intercalate source.lines ++ (if text.getLast? = some '\n' then ['\n'] else []) =
        Text.unified text ∧
      (source.lines = [] ↔ text = []) ∧
      (¬['\r', '\n'] <:+: text → ∀ chosen,
        let returned := Source.ofText (Text.addReturns chosen 0 text) file encoding
        returned.lines = source.lines ∧
          ∀ settings, scan settings.dialect returned.lines = scan settings.dialect source.lines ∧
            check settings returned = check settings source) := by
  intro source
  refine ⟨fun line found => Text.newline_not_mem_of_mem_lines found, Text.intercalate_lines text,
    Text.lines_eq_nil_iff, fun bare chosen => ?_⟩
  intro returned
  have same : returned.lines = source.lines := Text.lines_addReturns chosen 0 bare
  have equal : returned = source := by
    rw [Source.mk.injEq]
    exact ⟨rfl, rfl, same⟩
  refine ⟨same, fun settings => ⟨?_, ?_⟩⟩ <;> rw [equal]

/-- Two carriage returns that stand alone, an empty line, and a return put before the second new-line of
    three. -/
theorem lines_keep_all_but_breaks_alone :
    let text := "a\rb\n\n\rc\n".toList
    let returned := Source.ofText "a\rb\n\r\n\rc\n".toList none .utf8
    ¬['\r', '\n'] <:+: text ∧ returned.lines = (Source.ofText text none .utf8).lines ∧
      returned.lines = ["a\rb".toList, [], "\rc".toList] ∧
      check {} returned = check {} (Source.ofText text none .utf8) := by
  intro text returned
  have bare : ¬['\r', '\n'] <:+: text := by decide +kernel
  have written : Text.addReturns (· = 4) 0 text = "a\rb\n\r\n\rc\n".toList := by decide
  have same := (lines_keep_all_but_breaks text none .utf8).2.2.2 bare (· = 4)
  simp only [written] at same
  obtain ⟨lines, checked⟩ := same
  exact ⟨bare, lines, by decide +kernel, (checked {}).2⟩

end PascalLint
