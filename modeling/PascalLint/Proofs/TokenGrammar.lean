import PascalLint.Lexeme
import PascalLint.Proofs.Runs

/-! # The grammar of tokens

What may be read at a character and those behind it on its line, one constructor for each kind of
token, each with the condition under which it is read. The conditions leave nothing out
(`Lexeme.reads_read`) and exclude each other (`Lexeme.eq_read_of_reads`), so that the grammar and
`Lexeme.read` are the same; every statement about a token that is read goes by the cases of the grammar.
-/

namespace PascalLint

open PascalLint.Identifier (mayStart mayContinue)

namespace Punct

theorem spelling_of_ofChar? {c : Char} {p : Punct} (found : ofChar? c = some p) :
    p.spelling = [c] := by
  unfold ofChar? at found
  split at found <;> cases found <;> rfl

/-- The characters that are a punctuator whatever follows begin nothing else. -/
theorem plain_of_ofChar? {c : Char} {p : Punct} (found : ofChar? c = some p) :
    c.isDigit = false ∧ mayStart c = false ∧ c ∉ ['\'', ':', '.', '<', '>'] := by
  unfold ofChar? at found
  split at found <;> first | decide | cases found

/-- The punctuators of two characters. -/
theorem spelling_eq_pair {p : Punct} {first second : Char} (spelled : p.spelling = [first, second]) :
    (first = ':' ∧ second = '=' ∧ p = .assign) ∨ (first = '.' ∧ second = '.' ∧ p = .range) ∨
      (first = '<' ∧ second = '=' ∧ p = .lessEqual) ∨ (first = '<' ∧ second = '>' ∧ p = .notEqual) ∨
      (first = '>' ∧ second = '=' ∧ p = .greaterEqual) := by
  cases p <;> simp_all [spelling, eq_comm]

/-- The characters that a punctuator may go on with. -/
theorem second_mem {p : Punct} {first second : Char} (spelled : p.spelling = [first, second]) :
    second ∈ ['=', '.', '>'] := by
  rcases spelling_eq_pair spelled with pair | pair | pair | pair | pair <;> simp [pair]

/-- The punctuators of one character. -/
theorem spelling_eq_single {p : Punct} {c : Char} (spelled : p.spelling = [c]) :
    ofChar? c = some p ∨ (c = ':' ∧ p = .colon) ∨ (c = '.' ∧ p = .dot) ∨ (c = '<' ∧ p = .less) ∨
      (c = '>' ∧ p = .greater) := by
  cases p <;> simp [spelling] at spelled <;> subst spelled <;> simp [ofChar?]

/-- Every character of a punctuator begins one. -/
theorem mem_spelling {p : Punct} {c : Char} (found : c ∈ p.spelling) :
    (ofChar? c).isSome ∨ c = ':' ∨ c = '.' ∨ c = '<' ∨ c = '>' := by
  cases p <;> simp only [spelling, List.mem_cons, List.not_mem_nil, or_false] at found <;>
    rcases found with rfl | rfl <;> decide

end Punct

/-- A character that begins no token: it is no digit, no quote, starts no identifier, and occurs in
    no punctuator. -/
structure BeginsNoToken (c : Char) : Prop where
  digit : c.isDigit = false
  quote : c ≠ '\''
  start : mayStart c = false
  punct : ∀ p : Punct, c ∉ p.spelling

namespace Lexeme

/-- What is read at `c` with the characters `rest` behind it on the line. -/
inductive Reads (dialect : Dialect) (c : Char) (rest : List Char) : Lexeme → Prop
  | integer (digit : c.isDigit = true) :
      Reads dialect c rest (.integer (c :: rest.takeWhile Char.isDigit))
  | character (quote : c = '\'') : Reads dialect c rest (.character rest)
  | word (start : mayStart c = true) :
      Reads dialect c rest (.word dialect (c :: Identifier.run rest))
  | pair {p : Punct} {second : Char} (spelled : p.spelling = [c, second])
      (next : rest.head? = some second) : Reads dialect c rest (.punct p)
  | single {p : Punct} (spelled : p.spelling = [c])
      (alone : ∀ (q : Punct) (second : Char), q.spelling = [c, second] →
        rest.head? ≠ some second) : Reads dialect c rest (.punct p)
  | unknown (none : BeginsNoToken c) :
      Reads dialect c rest ⟨.endOfInput, 1, some (.unknownSymbol, 0)⟩

/-- What is read at a character that is no digit, no quote, and begins no longer punctuator. -/
private theorem read_other {dialect : Dialect} {c : Char} (rest : List Char)
    (digit : c.isDigit = false) (other : c ∉ ['\'', ':', '.', '<', '>']) :
    read dialect c rest =
      if mayStart c then word dialect (c :: Identifier.run rest)
      else match Punct.ofChar? c with
        | some p => punct p
        | none => ⟨.endOfInput, 1, some (.unknownSymbol, 0)⟩ := by
  simp only [List.mem_cons, List.not_mem_nil, or_false, not_or] at other
  unfold read
  split
  next isDigit => exact absurd isDigit (by simp [digit])
  next => split <;> first | rfl | simp_all

theorem reads_read (dialect : Dialect) (c : Char) (rest : List Char) :
    Reads dialect c rest (read dialect c rest) := by
  by_cases digit : c.isDigit = true
  · unfold read
    rw [if_pos digit]
    exact .integer digit
  by_cases other : c ∉ ['\'', ':', '.', '<', '>']
  · rw [read_other rest (by simpa using digit) other]
    simp only [List.mem_cons, List.not_mem_nil, or_false, not_or] at other
    split
    next start => exact .word start
    next start =>
      split
      next p found =>
        refine .single (Punct.spelling_of_ofChar? found) fun q second spelled next => ?_
        rcases Punct.spelling_eq_pair spelled with pair | pair | pair | pair | pair <;> simp_all
      next missing =>
        refine .unknown ⟨by simpa using digit, other.1, by simpa using start, fun p found => ?_⟩
        rcases Punct.mem_spelling found with known | rest <;> simp_all
  · unfold read
    rw [if_neg digit]
    split
    next => exact .character rfl
    -- Next the punctuators that may be longer, each with and without its second character.
    iterate 9
      first
      | exact .pair rfl rfl
      | refine .single rfl fun q second spelled next => ?_
        obtain ⟨below, rfl⟩ := List.head?_eq_some_iff.mp next
        have pair := Punct.spelling_eq_pair spelled
        simp_all
    next => simp_all

theorem eq_read_of_reads {dialect : Dialect} {c : Char} {rest : List Char} {lexeme : Lexeme}
    (reads : Reads dialect c rest lexeme) : lexeme = read dialect c rest := by
  cases reads with
  | integer digit => simp [read, digit]
  | character quote => subst quote; rfl
  | word start =>
    have other : c ∉ ['\'', ':', '.', '<', '>'] := by
      simp only [List.mem_cons, List.not_mem_nil, or_false]
      rintro (rfl | rfl | rfl | rfl | rfl) <;> exact absurd start (by decide)
    rw [read_other rest (Identifier.not_isDigit_of_mayStart start) other, if_pos start]
  | pair spelled next =>
    obtain ⟨below, rfl⟩ := List.head?_eq_some_iff.mp next
    rcases Punct.spelling_eq_pair spelled with ⟨rfl, rfl, rfl⟩ | ⟨rfl, rfl, rfl⟩ | ⟨rfl, rfl, rfl⟩ |
      ⟨rfl, rfl, rfl⟩ | ⟨rfl, rfl, rfl⟩ <;> rfl
  | single spelled alone =>
    rcases Punct.spelling_eq_single spelled with
      known | ⟨rfl, rfl⟩ | ⟨rfl, rfl⟩ | ⟨rfl, rfl⟩ | ⟨rfl, rfl⟩
    · obtain ⟨digit, start, other⟩ := Punct.plain_of_ofChar? known
      rw [read_other rest digit other, if_neg (by simp [start]), known]
    · have next := alone .assign '=' rfl
      cases rest <;> simp_all [read]
    · have next := alone .range '.' rfl
      cases rest <;> simp_all [read]
    · have equal := alone .lessEqual '=' rfl
      have greater := alone .notEqual '>' rfl
      cases rest <;> simp_all [read]
    · have next := alone .greaterEqual '=' rfl
      cases rest <;> simp_all [read]
  | unknown none =>
    have other : c ∉ ['\'', ':', '.', '<', '>'] := by
      simp only [List.mem_cons, List.not_mem_nil, or_false]
      rintro (rfl | rfl | rfl | rfl | rfl)
      · exact none.quote rfl
      · exact none.punct .colon (by decide)
      · exact none.punct .dot (by decide)
      · exact none.punct .less (by decide)
      · exact none.punct .greater (by decide)
    rw [read_other rest none.digit other, if_neg (by simp [none.start])]
    split
    next p found =>
      have spelled := Punct.spelling_of_ofChar? found
      exact absurd (by simp [spelled]) (none.punct p)
    next => rfl

/-! ## Character constants -/

private theorem all_ne_quote {body : List Char} (quotes : '\'' ∉ body) :
    ∀ x ∈ body, (x != '\'') = true := by
  intro x found
  simp only [bne_iff_ne]
  rintro rfl
  exact quotes found

/-- A constant that a quote closes behind more than one character. -/
theorem character_long (c : Char) {body : List Char} (after : List Char) (nonempty : body ≠ [])
    (quotes : '\'' ∉ body) :
    character (c :: (body ++ '\'' :: after)) =
      ⟨.character, body.length + 3, some (.badCharConstant, 1)⟩ := by
  have plain := all_ne_quote quotes
  have skipped : (body ++ '\'' :: after).takeWhile (· != '\'') = body := by
    rw [List.takeWhile_append_of_pos plain]
    simp
  obtain ⟨d, body, rfl⟩ := List.exists_cons_of_ne_nil nonempty
  have other : d ≠ '\'' := by simpa using plain d List.mem_cons_self
  rw [character]
  · simp only [skipped, List.length_append, List.length_cons, Lexeme.mk.injEq, true_and, and_true]
    split <;> omega
  · intro tail same
    exact other (List.cons.inj same).1

/-- A constant that no quote closes takes up the rest of the line. -/
theorem character_unclosed (c : Char) {body : List Char} (quotes : '\'' ∉ body) :
    character (c :: body) = ⟨.character, body.length + 2, some (.badCharConstant, 1)⟩ := by
  have plain := all_ne_quote quotes
  have skipped : body.takeWhile (· != '\'') = body := by
    have whole : (body ++ []).takeWhile (· != '\'') = body ++ [].takeWhile (· != '\'') :=
      List.takeWhile_append_of_pos plain
    simpa using whole
  rw [character]
  · simp [skipped]
    omega
  · rintro tail rfl
    exact quotes List.mem_cons_self

/-- A character constant takes up the quote at the end of a line, one character and a quote behind
    it, all up to the next quote behind the first character, or the rest of the line. It is right in
    the second case only. -/
theorem character_cases (rest : List Char) :
    (rest = [] ∧ character rest = ⟨.character, 1, some (.badCharConstant, 1)⟩) ∨
      (∃ c after, rest = c :: '\'' :: after ∧ character rest = ⟨.character, 3, none⟩) ∨
      (∃ c body after, rest = c :: (body ++ '\'' :: after) ∧ body ≠ [] ∧ '\'' ∉ body ∧
        character rest = ⟨.character, body.length + 3, some (.badCharConstant, 1)⟩) ∨
      ∃ c body, rest = c :: body ∧ '\'' ∉ body ∧
        character rest = ⟨.character, body.length + 2, some (.badCharConstant, 1)⟩ := by
  match rest with
  | [] => exact .inl ⟨rfl, rfl⟩
  | c :: text =>
    refine .inr ?_
    by_cases closed : '\'' ∈ text
    · obtain ⟨body, after, rfl, quotes⟩ := List.eq_append_cons_of_mem closed
      match body with
      | [] => exact .inl ⟨c, after, rfl, rfl⟩
      | d :: body =>
        exact .inr (.inl ⟨c, d :: body, after, rfl, by simp, quotes,
          character_long c after (by simp) quotes⟩)
    · exact .inr (.inr ⟨c, text, rfl, closed, character_unclosed c closed⟩)

/-- What is wrong with a constant is behind its first quote, where one character and a quote should
    follow. -/
theorem character_flaw {rest : List Char} {defect : Defect} {distance : Nat}
    (flaw : (character rest).flaw = some (defect, distance)) :
    defect = .badCharConstant ∧ distance = 1 ∧ rest[1]? ≠ some '\'' := by
  have other {d : Char} {body : List Char} (quotes : '\'' ∉ d :: body) : some d ≠ some '\'' := by
    rintro same
    exact quotes (by simp [Option.some.inj same])
  rcases character_cases rest with ⟨rfl, same⟩ | ⟨c, after, rfl, same⟩ |
    ⟨c, body, after, rfl, nonempty, quotes, same⟩ | ⟨c, body, rfl, quotes, same⟩
  · obtain ⟨rfl, rfl⟩ : Defect.badCharConstant = defect ∧ 1 = distance := by simpa [same] using flaw
    exact ⟨rfl, rfl, by simp⟩
  · rw [same] at flaw
    cases flaw
  · obtain ⟨rfl, rfl⟩ : Defect.badCharConstant = defect ∧ 1 = distance := by simpa [same] using flaw
    obtain ⟨d, body, rfl⟩ := List.exists_cons_of_ne_nil nonempty
    exact ⟨rfl, rfl, other quotes⟩
  · obtain ⟨rfl, rfl⟩ : Defect.badCharConstant = defect ∧ 1 = distance := by simpa [same] using flaw
    refine ⟨rfl, rfl, ?_⟩
    cases body with
    | nil => simp
    | cons d body => exact other quotes

/-- A constant with something in it and no quote before the one that closes it: whether it is right
    depends on the number of its characters only. -/
theorem character_closed {body : List Char} (after : List Char) (nonempty : body ≠ [])
    (quotes : '\'' ∉ body) :
    character (body ++ '\'' :: after) =
      ⟨.character, body.length + 2,
        if body.length = 1 then none else some (.badCharConstant, 1)⟩ := by
  match body with
  | [] => exact absurd rfl nonempty
  | [c] => rfl
  | c :: d :: body =>
    exact character_long c after (List.cons_ne_nil d body) (fun found => quotes (.tail c found))

end Lexeme

end PascalLint
