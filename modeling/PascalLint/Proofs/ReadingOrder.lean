import Mathlib.Data.List.DropRight
import Mathlib.Data.List.Induction
import PascalLint.Proofs.Recording

/-! # The order of findings

Recording is a stable sort. Whatever the order of the diagnostics that are recorded, the findings have
them in reading order, and those at one position in the order in which they were recorded. There is
only one such list (`Findings.Sorts.unique`), so the findings are what any stable sort makes of the
diagnostics; clearing in between takes away what was recorded before and leaves no other trace.
-/

namespace PascalLint

theorem Position.le_antisymm {p q : Position} (first : p ≤ q) (second : q ≤ p) : p = q := by
  obtain ⟨line, column⟩ := p
  obtain ⟨line', column'⟩ := q
  simp only [Position.le_iff, Position.mk.injEq] at *
  omega

namespace Findings

/-! ## Stable sorting -/

/-- The list `sorted` has the diagnostics of `list` in reading order, and those at one position in the
    order of the list. -/
structure Sorts (list sorted : List Diagnostic) : Prop where
  ordered : sorted.Pairwise fun d e => d.position ≤ e.position
  ties : ∀ position, sorted.filter (·.position = position) = list.filter (·.position = position)

/-- What is first in one of two ordered lists comes before all that the other one has. -/
private theorem head_le {d e : Diagnostic} {rest other : List Diagnostic}
    (ordered : (e :: other).Pairwise fun d e => d.position ≤ e.position)
    (same : (d :: rest).filter (·.position = d.position) =
      (e :: other).filter (·.position = d.position)) : e.position ≤ d.position := by
  have here : d ∈ (e :: other).filter (·.position = d.position) := by
    rw [← same, List.filter_cons_of_pos (by simp)]
    exact List.mem_cons_self
  cases (List.mem_filter.mp here).1 with
  | head => exact Position.le_refl _
  | tail _ later => exact (List.pairwise_cons.mp ordered).1 d later

/-- An ordered list is determined by what it has at each position. -/
theorem eq_of_ordered {list other : List Diagnostic}
    (ordered : list.Pairwise fun d e => d.position ≤ e.position)
    (ordered' : other.Pairwise fun d e => d.position ≤ e.position)
    (same : ∀ position, list.filter (·.position = position) = other.filter (·.position = position)) :
    list = other := by
  induction list generalizing other with
  | nil =>
    cases other with
    | nil => rfl
    | cons e other => simpa using same e.position
  | cons d list ih =>
    cases other with
    | nil => simpa using same d.position
    | cons e other =>
      -- Both lists begin at the position that is first of all, and so with the same diagnostic.
      have place : d.position = e.position :=
        Position.le_antisymm (head_le ordered (same e.position).symm) (head_le ordered' (same d.position))
      obtain ⟨rfl, -⟩ : d = e ∧ _ := by simpa [place] using same e.position
      have tails : list = other := by
        apply ih (List.pairwise_cons.mp ordered).2 (List.pairwise_cons.mp ordered').2
        intro position
        by_cases here : d.position = position
        · simpa [here] using same position
        · simpa [here] using same position
      rw [tails]

namespace Sorts

variable {list sorted : List Diagnostic}

theorem unique {other : List Diagnostic} (sorts : Sorts list sorted) (sorts' : Sorts list other) :
    sorted = other := by
  apply eq_of_ordered sorts.ordered sorts'.ordered
  intro position
  rw [sorts.ties, sorts'.ties]

/-- Nothing is dropped and nothing is added. -/
theorem perm (sorts : Sorts list sorted) : sorted.Perm list := by
  rw [List.perm_iff_count]
  intro d
  have own : (decide (d.position = d.position)) = true := decide_eq_true rfl
  have ties := congrArg (List.count d) (sorts.ties d.position)
  rwa [List.count_filter (p := fun e : Diagnostic => decide (e.position = d.position)) own,
    List.count_filter (p := fun e : Diagnostic => decide (e.position = d.position)) own] at ties

/-- A part of what is sorted is the part of the list, sorted. -/
theorem filter (sorts : Sorts list sorted) (keep : Diagnostic → Bool) :
    Sorts (list.filter keep) (sorted.filter keep) where
  ordered := sorts.ordered.sublist List.filter_sublist
  ties position := by
    rw [List.filter_comm, sorts.ties, List.filter_comm]

end Sorts

/-- A merge sort by a comparison that is reading order among the diagnostics of the list. -/
theorem sorts_mergeSort {list : List Diagnostic} {le : Diagnostic → Diagnostic → Bool}
    (trans : ∀ a b c, le a b = true → le b c = true → le a c = true)
    (total : ∀ a b, (le a b || le b a) = true)
    (agrees : ∀ d ∈ list, ∀ e ∈ list, le d e = true ↔ d.position ≤ e.position) :
    Sorts list (list.mergeSort le) where
  ordered := by
    have inside : ∀ d ∈ list.mergeSort le, d ∈ list := fun d => (list.mergeSort_perm le).mem_iff.mp
    apply (List.pairwise_mergeSort trans total list).imp_of_mem
    intro d e first second before
    exact (agrees d (inside d first) e (inside e second)).mp before
  ties position := by
    have tied : (list.filter (·.position = position)).Pairwise fun d e => le d e = true := by
      apply List.pairwise_of_forall_mem_list
      intro d first e second
      obtain ⟨first, here⟩ := List.mem_filter.mp first
      obtain ⟨second, there⟩ := List.mem_filter.mp second
      apply (agrees d first e second).mpr
      rw [of_decide_eq_true here, of_decide_eq_true there]
      exact Position.le_refl position
    -- Those at one position are in order already, so the sort leaves them as they are.
    have kept := (List.sublist_mergeSort trans total tied List.filter_sublist).filter
      (fun d : Diagnostic => decide (d.position = position))
    rw [List.filter_filter] at kept
    simp only [Bool.and_self] at kept
    exact (kept.eq_of_length ((list.mergeSort_perm le).filter _).length_eq.symm).symm

theorem sorts_reading (list : List Diagnostic) :
    Sorts list (list.mergeSort fun d e => d.position ≤ e.position) := by
  apply sorts_mergeSort
  · intro a b c first second
    simp only [decide_eq_true_eq] at *
    exact Position.le_trans first second
  · intro a b
    simpa using Position.le_total a.position b.position
  · intro d _ e _
    exact decide_eq_true_iff

/-- On one line reading order is the order of columns. -/
theorem sorts_columns {list : List Diagnostic} {line : Nat} (own : ∀ d ∈ list, d.position.line = line) :
    Sorts list (list.mergeSort fun d e => d.position.column ≤ e.position.column) := by
  apply sorts_mergeSort
  · intro a b c first second
    simp only [decide_eq_true_eq] at *
    omega
  · intro a b
    simpa using Nat.le_total a.position.column b.position.column
  · intro d first e second
    rw [decide_eq_true_iff, Position.le_iff, own d first, own e second]
    omega

/-! ## Recording -/

/-- One more diagnostic comes behind those that were recorded at its position before. -/
theorem Sorts.insert {list sorted : List Diagnostic} (sorts : Sorts list sorted) (d : Diagnostic) :
    Sorts (list ++ [d]) (insert d sorted) where
  ordered := insert_sorted d sorts.ordered
  ties position := by
    rw [List.filter_append]
    by_cases here : d.position = position
    · have behind : ∀ e ∈ list.filter (·.position = position), e.position ≤ d.position := by
        intro e found
        have place : e.position = position := by simpa using (List.mem_filter.mp found).2
        rw [place, here]
        exact Position.le_refl position
      have last := insert_append_of_before behind []
      rw [List.append_nil, Findings.insert] at last
      rw [filter_insert_kept (by simpa using here) sorts.ordered, sorts.ties, last,
        List.filter_cons_of_pos (by simpa using here), List.filter_nil]
    · rw [filter_insert_dropped (by simpa using here), sorts.ties,
        List.filter_cons_of_neg (by simpa using here), List.filter_nil, List.append_nil]

theorem sorts_ofList (list : List Diagnostic) : Sorts list (ofList list).all := by
  induction list using List.reverseRecOn with
  | nil => exact ⟨.nil, fun position => rfl⟩
  | append_singleton list d ih =>
    rw [all_ofList_concat]
    exact ih.insert d

/-! ## Counting -/

/-- A diagnostic counts in the category of its defect and in no other. -/
theorem Ordered.add_countOf {findings : Findings} (ordered : findings.Ordered) :
    findings.countOf .lexical + findings.countOf .structural + findings.countOf .heuristic =
      findings.count := by
  rw [ordered.counted]
  unfold countOf
  induction findings.all with
  | nil => rfl
  | cons d list ih =>
    rw [List.countP_cons, List.countP_cons, List.countP_cons, List.length_cons]
    cases category : d.defect.category <;> simp <;> omega

/-! ## Operations -/

/-- What may be done to findings. -/
inductive Operation
  | record (d : Diagnostic)
  | clear
deriving DecidableEq, Repr

/-- The diagnostic that an operation records. -/
def Operation.diagnostic? : Operation → Option Diagnostic
  | record d => some d
  | clear => none

/-- The findings behind an operation. -/
def perform (findings : Findings) : Operation → Findings
  | .record d => findings.record d
  | .clear => findings.clear

/-- The findings behind some operations, the first of the list first. -/
def performAll (operations : List Operation) : Findings :=
  operations.foldl perform empty

/-- What has been recorded since the last operation that cleared the findings. -/
def sinceClear (operations : List Operation) : List Diagnostic :=
  (operations.rtakeWhile (· ≠ .clear)).filterMap Operation.diagnostic?

/-- Findings keep what has been recorded since they were cleared, as if nothing had been before. -/
theorem performAll_eq_ofList (operations : List Operation) :
    performAll operations = ofList (sinceClear operations) := by
  induction operations using List.reverseRecOn with
  | nil => rfl
  | append_singleton operations last ih =>
    have step : performAll (operations ++ [last]) = (performAll operations).perform last :=
      List.foldl_concat _ _ _ _
    rw [step, sinceClear, List.rtakeWhile_concat]
    cases last with
    | clear => rfl
    | record d =>
      rw [if_pos (by simp), List.filterMap_append, ih]
      exact (ofList_concat _ d).symm

/-- Behind any operations the findings are the diagnostics recorded since the last one that cleared
    them, in a stable sort by line and column. What is on a line is the part of it that is on this line,
    which is a stable sort by column. The number that was counted is that of the diagnostics recorded, and
    those of the categories are of these and add up to it. -/
theorem performAll_sorts (operations : List Operation) :
    let findings := performAll operations
    let recorded := sinceClear operations
    findings.all = recorded.mergeSort (fun d e => d.position ≤ e.position) ∧
      (∀ position,
        findings.all.filter (·.position = position) = recorded.filter (·.position = position)) ∧
      (∀ line, findings.onLine line =
          (recorded.mergeSort fun d e => d.position ≤ e.position).filter (·.position.line = line) ∧
        findings.onLine line = (recorded.filter (·.position.line = line)).mergeSort
          fun d e => d.position.column ≤ e.position.column) ∧
      findings.count = recorded.length ∧
      (findings.isEmpty = true ↔ recorded = []) ∧
      (∀ category, findings.countOf category = recorded.countP (·.defect.category = category)) ∧
      findings.countOf .lexical + findings.countOf .structural + findings.countOf .heuristic =
        findings.count := by
  intro findings recorded
  have same : findings = ofList recorded := performAll_eq_ofList operations
  have ordered : findings.Ordered := same ▸ ordered_ofList recorded
  have sorts : Sorts recorded findings.all := same ▸ sorts_ofList recorded
  have whole := sorts.unique (sorts_reading recorded)
  have counted : findings.count = recorded.length := ordered.counted.trans sorts.perm.length_eq
  have onLine (line : Nat) : findings.onLine line = findings.all.filter (·.position.line = line) := by
    rw [ordered.onLine_eq]
    exact List.filter_congr fun d _ => beq_eq_decide _ _
  refine ⟨whole, sorts.ties, fun line => ⟨?_, ?_⟩, counted, ?_, fun category => ?_, ordered.add_countOf⟩
  · rw [onLine, whole]
  · have own : ∀ d ∈ recorded.filter (·.position.line = line), d.position.line = line := by
      intro d found
      simpa using (List.mem_filter.mp found).2
    rw [onLine]
    exact (sorts.filter (·.position.line = line)).unique (sorts_columns own)
  · rw [isEmpty, counted, beq_iff_eq, List.length_eq_zero_iff]
  · exact sorts.perm.countP_eq _

example :
    (performAll [.record ⟨⟨1, 1⟩, .emptyBody⟩, .clear, .record ⟨⟨3, 0⟩, .tripleDot⟩,
      .record ⟨⟨2, 7⟩, .missingDo⟩, .record ⟨⟨3, 0⟩, .emptyBody⟩]).all =
        [⟨⟨2, 7⟩, .missingDo⟩, ⟨⟨3, 0⟩, .tripleDot⟩, ⟨⟨3, 0⟩, .emptyBody⟩] := by
  decide +kernel

end Findings

end PascalLint
