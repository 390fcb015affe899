import Mathlib.Data.List.Infix
import PascalLint.Proofs.NoRepeats
import PascalLint.Proofs.RuleRuns

/-! # The report of paired keywords

A line that begins with `if`, `for`, `while` or `case` may lack several things at once, each of them a
defect of its own (`Line.Lacks`): the partner of the keyword, the text between the two, the assignment
of a `for` loop, the body behind the partner. All that such a line lacks is reported, with one
exception: the body of a `for` loop that has nothing between its keywords.
-/

namespace PascalLint

/-! ## Partners -/

namespace Opener

/-- The reserved word that an opener is. -/
def word : Opener → Reserved
  | ifOpener => .ifWord
  | forOpener => .forWord
  | whileOpener => .whileWord
  | caseOpener => .caseWord

theorem ofKeyword?_eq_some_iff {keyword : Keyword} {opener : Opener} :
    ofKeyword? keyword = some opener ↔ keyword = .reserved opener.word := by
  constructor
  · intro opens
    unfold ofKeyword? at opens
    split at opens <;> cases opens <;> rfl
  · rintro rfl
    cases opener <;> rfl

end Opener

/-- The first word of the line from a column on that is the partner of an opener. -/
structure Line.PartnerFrom (line : Line) (opener : Opener) (stop : Nat) (partner : Word) : Prop where
  stands : partner.StandsIn line.masked
  behind : stop ≤ partner.start
  spelled : partner.text = opener.partner.spelling
  first : ∀ other : Word, other.StandsIn line.masked → stop ≤ other.start →
    other.text = opener.partner.spelling → partner.start ≤ other.start

/-- What a line lacks that begins with an opener, which ends at column `stop`, and the column where it
    should be. -/
inductive Line.Lacks (line : Line) (opener : Opener) (stop : Nat) : Defect → Nat → Prop
  | partner (none : ∀ partner, ¬line.PartnerFrom opener stop partner) :
      Lacks line opener stop opener.missing stop
  | condition {partner : Word} (paired : line.PartnerFrom opener stop partner)
      (blank : Text.isBlank (line.slice stop partner.start) = true) :
      Lacks line opener stop .emptyCondition stop
  | assignment {partner : Word} (paired : line.PartnerFrom opener stop partner)
      (loop : opener = .forOpener) (shown : Text.isBlank (line.slice stop partner.start) = false)
      (unassigned : ¬[':', '='] <:+: line.slice stop partner.start) :
      Lacks line opener stop .headerWithoutAssignment stop
  | body {partner : Word} (paired : line.PartnerFrom opener stop partner)
      (other : opener ≠ .caseOpener) (blank : Text.isBlank (line.masked.drop partner.stop) = true) :
      Lacks line opener stop .emptyBody partner.stop
  | alternatives {partner : Word} (paired : line.PartnerFrom opener stop partner)
      (selects : opener = .caseOpener) (none : ':' ∉ line.masked.drop partner.stop) :
      Lacks line opener stop .emptyBody partner.stop

theorem Line.PartnerFrom.unique {line : Line} {opener : Opener} {stop : Nat} {partner other : Word}
    (paired : line.PartnerFrom opener stop partner) (also : line.PartnerFrom opener stop other) :
    partner = other := by
  refine paired.stands.unique also.stands (Nat.le_antisymm ?_ ?_)
  · exact paired.first other also.stands also.behind also.spelled
  · exact also.first partner paired.stands paired.behind paired.spelled

section Lacks

variable {line : Line} {opener : Opener} {stop : Nat} {defect : Defect} {column : Nat}

theorem Line.lacks_iff_of_unpaired (unpaired : ∀ partner, ¬line.PartnerFrom opener stop partner) :
    line.Lacks opener stop defect column ↔ defect = opener.missing ∧ column = stop := by
  constructor
  · intro lacks
    cases lacks with
    | partner none => exact ⟨rfl, rfl⟩
    | condition paired => exact absurd paired (unpaired _)
    | assignment paired => exact absurd paired (unpaired _)
    | body paired => exact absurd paired (unpaired _)
    | alternatives paired => exact absurd paired (unpaired _)
  · rintro ⟨rfl, rfl⟩
    exact .partner unpaired

theorem Line.PartnerFrom.lacks_iff {partner : Word} (paired : line.PartnerFrom opener stop partner) :
    line.Lacks opener stop defect column ↔
      (Text.isBlank (line.slice stop partner.start) = true ∧
        defect = .emptyCondition ∧ column = stop) ∨
      (Text.isBlank (line.slice stop partner.start) = false ∧ opener = .forOpener ∧
        ¬[':', '='] <:+: line.slice stop partner.start ∧
        defect = .headerWithoutAssignment ∧ column = stop) ∨
      ((opener ≠ .caseOpener ∧ Text.isBlank (line.masked.drop partner.stop) = true ∨
          opener = .caseOpener ∧ ':' ∉ line.masked.drop partner.stop) ∧
        defect = .emptyBody ∧ column = partner.stop) := by
  constructor
  · intro lacks
    cases lacks with
    | partner none => exact absurd paired (none partner)
    | condition also blank =>
      obtain rfl := paired.unique also
      exact .inl ⟨blank, rfl, rfl⟩
    | assignment also loop shown unassigned =>
      obtain rfl := paired.unique also
      exact .inr (.inl ⟨shown, loop, unassigned, rfl, rfl⟩)
    | body also other blank =>
      obtain rfl := paired.unique also
      exact .inr (.inr ⟨.inl ⟨other, blank⟩, rfl, rfl⟩)
    | alternatives also selects none =>
      obtain rfl := paired.unique also
      exact .inr (.inr ⟨.inr ⟨selects, none⟩, rfl, rfl⟩)
  · rintro (⟨blank, rfl, rfl⟩ | ⟨shown, loop, unassigned, rfl, rfl⟩ |
      ⟨⟨other, blank⟩ | ⟨selects, none⟩, rfl, rfl⟩)
    · exact .condition paired blank
    · exact .assignment paired loop shown unassigned
    · exact .body paired other blank
    · exact .alternatives paired selects none

end Lacks

namespace Rule.PairedKeywords

variable {line : Line} {opener : Opener} {stop : Nat}

theorem partnerFrom_of_partner? {partner : Word} (found : partner? line opener stop = some partner) :
    line.PartnerFrom opener stop partner := by
  have spells (word : Word) : (word.keyword? == some (.reserved opener.partner)) = true ↔
      word.text = opener.partner.spelling := by
    rw [beq_iff_eq]
    exact Keyword.ofLower?_eq_some_iff
  obtain ⟨holds, front, behind, whole, none⟩ := List.find?_eq_some_iff_append.mp found
  rw [Bool.and_eq_true, decide_eq_true_eq, spells] at holds
  have stands : partner.StandsIn line.masked := Word.mem_words_iff.mp (by simp [whole])
  refine ⟨stands, holds.1, holds.2, fun other stands after spelled => ?_⟩
  have sorted : line.words.Pairwise fun word later => word.start < later.start :=
    Word.pairwise_ofText 0 line.masked
  rw [whole] at sorted
  -- The words before the one that was found are no partners, and those behind it begin later.
  rcases List.mem_append.mp (whole ▸ Word.mem_words_iff.mpr stands) with earlier | here
  · have no := none other earlier
    simp [after, (spells other).mpr spelled] at no
  · rcases List.mem_cons.mp here with rfl | later
    · exact Nat.le_refl _
    · have behind := (List.pairwise_cons.mp (List.pairwise_append.mp sorted).2.1).1 other later
      omega

theorem partner?_eq_some_iff {partner : Word} :
    partner? line opener stop = some partner ↔ line.PartnerFrom opener stop partner := by
  refine ⟨partnerFrom_of_partner?, fun paired => ?_⟩
  cases found : partner? line opener stop with
  | some other => rw [paired.unique (partnerFrom_of_partner? found)]
  | none =>
    have no := List.find?_eq_none.mp found partner (Word.mem_words_iff.mpr paired.stands)
    have known : partner.keyword? = some (.reserved opener.partner) :=
      Keyword.ofLower?_eq_some_iff.mpr paired.spelled
    simp [paired.behind, known] at no

/-! ## One line -/

theorem mem_checkHeader_iff {partner : Word} {d : Diagnostic} :
    d ∈ checkHeader line opener stop partner ↔
      Text.isBlank (line.slice stop partner.start) = true ∧ d = line.diagnostic .emptyCondition stop ∨
        Text.isBlank (line.slice stop partner.start) = false ∧ opener = .forOpener ∧
          ¬[':', '='] <:+: line.slice stop partner.start ∧
          d = line.diagnostic .headerWithoutAssignment stop := by
  rw [← Text.contains_iff_infix]
  simp only [checkHeader]
  split
  next blank => simp [blank]
  next shown =>
    split
    next wrong => simp_all
    next fine => simp_all

theorem mem_checkBody_iff {partner : Word} {d : Diagnostic} :
    d ∈ checkBody line opener stop partner ↔
      ¬(opener = .forOpener ∧ Text.isBlank (line.slice stop partner.start) = true) ∧
        (opener ≠ .caseOpener ∧ Text.isBlank (line.masked.drop partner.stop) = true ∨
          opener = .caseOpener ∧ ':' ∉ line.masked.drop partner.stop) ∧
        d = line.diagnostic .emptyBody partner.stop := by
  have colon (text : List Char) : Text.contains [':'] text = true ↔ ':' ∈ text := by
    rw [Text.contains_iff_infix, List.singleton_infix_iff]
  have empty : hasBody line opener partner = false ↔
      opener ≠ .caseOpener ∧ Text.isBlank (line.masked.drop partner.stop) = true ∨
        opener = .caseOpener ∧ ':' ∉ line.masked.drop partner.stop := by
    rw [← colon, hasBody]
    by_cases selects : opener = .caseOpener <;> simp [selects]
  rw [← empty]
  unfold checkBody
  split
  next hidden => simp_all
  next looked =>
    split
    next full => simp_all
    next none => simp_all

/-- Of a line that begins with an opener all is reported that it lacks, but not the body of a loop that
    lacks its header as well. -/
theorem mem_checkOpener_iff {d : Diagnostic} :
    d ∈ checkOpener line opener stop ↔
      ∃ defect column, line.Lacks opener stop defect column ∧
        ¬(opener = .forOpener ∧ defect = .emptyBody ∧ line.Lacks opener stop .emptyCondition stop) ∧
        d = line.diagnostic defect column := by
  unfold checkOpener
  cases found : partner? line opener stop with
  | none =>
    have unpaired (partner : Word) : ¬line.PartnerFrom opener stop partner := fun paired => by
      rw [partner?_eq_some_iff.mpr paired] at found
      cases found
    have other : opener.missing ≠ .emptyBody := by
      cases opener <;> decide
    simp only [Line.lacks_iff_of_unpaired unpaired, List.mem_singleton]
    constructor
    · rintro rfl
      exact ⟨_, _, ⟨rfl, rfl⟩, fun hidden => other hidden.2.1, rfl⟩
    · rintro ⟨defect, column, ⟨rfl, rfl⟩, -, same⟩
      exact same
  | some partner =>
    have paired := partner?_eq_some_iff.mp found
    have empty : line.Lacks opener stop .emptyCondition stop ↔
        Text.isBlank (line.slice stop partner.start) = true := by
      simp [paired.lacks_iff]
    simp only [List.mem_append, mem_checkHeader_iff, mem_checkBody_iff, empty]
    simp only [paired.lacks_iff]
    -- The exception is about the body, which is the last of the three that may be lacking.
    constructor
    · rintro ((⟨blank, rfl⟩ | ⟨shown, loop, unassigned, rfl⟩) | ⟨looked, none, rfl⟩)
      · exact ⟨_, _, .inl ⟨blank, rfl, rfl⟩, by simp, rfl⟩
      · exact ⟨_, _, .inr (.inl ⟨shown, loop, unassigned, rfl, rfl⟩), by simp, rfl⟩
      · exact ⟨_, _, .inr (.inr ⟨none, rfl, rfl⟩), by simpa using looked, rfl⟩
    · rintro ⟨defect, column, ⟨blank, rfl, rfl⟩ | ⟨shown, loop, unassigned, rfl, rfl⟩ |
        ⟨none, rfl, rfl⟩, looked, rfl⟩
      · exact .inl (.inl ⟨blank, rfl⟩)
      · exact .inl (.inr ⟨shown, loop, unassigned, rfl⟩)
      · exact .inr ⟨by simpa using looked, none, rfl⟩

theorem check_eq_checkOpener {word : Word} (leads : line.Leads word)
    (opens : word.text = opener.word.spelling) : check line = checkOpener line opener word.stop := by
  have known : word.keyword? = some (.reserved opener.word) := Keyword.ofLower?_eq_some_iff.mpr opens
  rw [check, Line.leadingWord?_eq_some_iff.mpr leads]
  simp only [known, Option.bind_some, Opener.ofKeyword?_eq_some_iff.mpr rfl]

end Rule.PairedKeywords

/-! ## Reports -/

/-- Behind whatever lines, of a line that begins with an opener and is no declaration each thing that it
    lacks is reported, once, and nothing else that has to do with paired keywords; but not the body of
    a `for` loop that lacks its header as well. -/
theorem lacks_reported_of_opener {checks : Checks} (on : checks.pairedKeywords = true)
    (above : List (List Char)) (text : List Char) {opener : Opener} {word : Word}
    (plain : ((Context.start.after checks above).line text).PlainBelow (Line.ofTexts 1 none above))
    (leads : ((Context.start.after checks above).line text).Leads word)
    (opens : word.text = opener.word.spelling) :
    let context := Context.start.after checks above
    let line := context.line text
    let reported := (context.check checks text).filter (·.defect.rule? = some .pairedKeywords)
    reported.Nodup ∧ ∀ d, d ∈ reported ↔
      ∃ defect column, line.Lacks opener word.stop defect column ∧
        ¬(opener = .forOpener ∧ defect = .emptyBody ∧
          line.Lacks opener word.stop .emptyCondition word.stop) ∧
        d = line.diagnostic defect column := by
  intro context line reported
  have switched : checks.has .pairedKeywords = true := on
  have remembers : context.Remembers (Line.ofTexts 1 none above) :=
    Context.holds_after (fun _ _ text before => before.advance checks text) Context.remembers_start above
  have own : reported = Rule.pairedKeywords.check context line :=
    Context.filter_check_own switched context text
  rw [own]
  refine ⟨Rule.nodup_check context line .pairedKeywords, fun d => ?_⟩
  rw [Rule.check, remembers.mem_unlessDeclaration, Rule.PairedKeywords.check_eq_checkOpener leads opens,
    and_iff_right plain, Rule.PairedKeywords.mem_checkOpener_iff]

/-- Of a line with both keywords and nothing else two things are reported. -/
theorem lacks_reported_of_opener_if :
    let line := Context.start.line "if then // b".toList
    (line.PlainBelow [] ∧ line.Leads ⟨0, "if".toList⟩) ∧
      ∀ d, d ∈ [line.diagnostic .emptyCondition 2, line.diagnostic .emptyBody 7] ↔
        ∃ defect column, line.Lacks .ifOpener 2 defect column ∧
          ¬(Opener.ifOpener = .forOpener ∧ defect = .emptyBody ∧
            line.Lacks .ifOpener 2 .emptyCondition 2) ∧
          d = line.diagnostic defect column := by
  intro line
  have on : ({ pairedKeywords := true } : Checks).pairedKeywords = true := rfl
  have plain : line.PlainBelow [] :=
    (Context.remembers_start.plainBelow_iff line).mpr (by decide +kernel)
  have leads : line.Leads ⟨0, "if".toList⟩ := Line.leadingWord?_eq_some_iff.mp (by decide +kernel)
  have opens : (⟨0, "if".toList⟩ : Word).text = Opener.ifOpener.word.spelling := by decide +kernel
  obtain ⟨-, all⟩ := lacks_reported_of_opener on [] "if then // b".toList plain leads opens
  have both : (Context.start.check { pairedKeywords := true } "if then // b".toList).filter
      (·.defect.rule? = some .pairedKeywords) =
        [line.diagnostic .emptyCondition 2, line.diagnostic .emptyBody 7] := by
    decide +kernel
  refine ⟨⟨plain, leads⟩, fun d => ?_⟩
  rw [← both]
  exact all d

/-- Of a loop without a header and without a body only the header is reported. -/
theorem missing_body_not_reported_of_loop :
    let line := Context.start.line "for do".toList
    line.PlainBelow [] ∧ line.Leads ⟨0, "for".toList⟩ ∧ line.Lacks .forOpener 3 .emptyBody 6 ∧
      Context.start.check { pairedKeywords := true } "for do".toList =
        [line.diagnostic .emptyCondition 3] := by
  intro line
  have paired : line.PartnerFrom .forOpener 3 ⟨4, "do".toList⟩ :=
    Rule.PairedKeywords.partner?_eq_some_iff.mp (by decide +kernel)
  refine ⟨(Context.remembers_start.plainBelow_iff line).mpr (by decide +kernel),
    Line.leadingWord?_eq_some_iff.mp (by decide +kernel), ?_, by decide +kernel⟩
  exact .body paired (by decide) (by decide +kernel)

end PascalLint
