import Mathlib.Data.List.Induction
import PascalLint.Findings

/-! # What recording keeps

The search for the place of a diagnostic on its line finds it only if the line is in order already, so
that findings are in order (`Findings.Ordered`) is carried through every recording. Findings in order
are a list in reading order, and recording is an insertion into that list (`Findings.all_record`). So
everything that is recorded is found again, and leaving diagnostics out before they are recorded is the
same as leaving them out afterwards: an insertion looks at positions only, and the place it chooses does
not depend on what else is in the list.
-/

namespace PascalLint

/-! ## Searches by halving -/

theorem bisect_append {α : Type} {inFront : α → Bool} {front behind : List α}
    (first : ∀ a ∈ front, inFront a = true) (later : ∀ a ∈ behind, inFront a = false) {low high : Nat}
    (below : low ≤ front.length) (above : front.length ≤ high) :
    bisect inFront (front ++ behind) low high = front.length := by
  -- The end of the front part stays between the bounds, whichever half the search goes on in.
  fun_induction bisect inFront (front ++ behind) low high with
  | case1 low high open_ middle holds ih =>
    refine ih (Nat.lt_of_not_le fun short => ?_) above
    rw [List.getElem?_append_right short] at holds
    obtain ⟨a, found, inside⟩ := (Option.any_eq_true _ _).mp holds
    rw [later a (List.mem_of_getElem? found)] at inside
    cases inside
  | case2 low high open_ middle fails ih =>
    refine ih below (Nat.le_of_not_lt fun inside => fails ?_)
    rw [List.getElem?_append_left inside, List.getElem?_eq_getElem inside, Option.any_some]
    exact first _ (List.getElem_mem inside)
  | case3 low high closed => omega

theorem partitionPoint_append {α : Type} {inFront : α → Bool} {front behind : List α}
    (first : ∀ a ∈ front, inFront a = true) (later : ∀ a ∈ behind, inFront a = false) :
    partitionPoint inFront (front ++ behind) = front.length :=
  bisect_append first later (Nat.zero_le _) (by simp)

theorem insertIdx_at_joint {α : Type} (front behind : List α) (a : α) :
    (front ++ behind).insertIdx front.length a = front ++ a :: behind := by
  induction front with
  | nil => exact List.insertIdx_zero
  | cons b front ih => exact List.insertIdx_succ_cons.trans (congrArg (b :: ·) ih)

namespace Findings

/-! ## Insertion into a list -/

/-- Puts `d` behind all diagnostics of a list that are not after it. -/
def insert (d : Diagnostic) : List Diagnostic → List Diagnostic
  | [] => [d]
  | e :: rest => if e.position ≤ d.position then e :: insert d rest else d :: e :: rest

theorem insert_perm (d : Diagnostic) (list : List Diagnostic) :
    (insert d list).Perm (d :: list) := by
  induction list with
  | nil => exact .refl _
  | cons e rest ih =>
    simp only [insert]
    split
    · exact (ih.cons e).trans (.swap d e rest)
    · exact .refl _

theorem mem_insert {d e : Diagnostic} {list : List Diagnostic} :
    e ∈ insert d list ↔ e = d ∨ e ∈ list := by
  rw [(insert_perm d list).mem_iff, List.mem_cons]

/-- Where the place of `d` lies between two parts, it comes between them. -/
theorem insert_append {d : Diagnostic} {front behind : List Diagnostic}
    (before : ∀ e ∈ front, e.position ≤ d.position)
    (after : ∀ e ∈ behind, ¬e.position ≤ d.position) :
    insert d (front ++ behind) = front ++ d :: behind := by
  induction front with
  | nil =>
    cases behind with
    | nil => rfl
    | cons e behind => rw [List.nil_append, insert, if_neg (after e List.mem_cons_self), List.nil_append]
  | cons e front ih =>
    obtain ⟨first, later⟩ := List.forall_mem_cons.mp before
    rw [List.cons_append, insert, if_pos first, ih later, List.cons_append]

/-- What is not before the place of `d` may be added behind. -/
theorem insert_append_of_after {d : Diagnostic} {behind : List Diagnostic}
    (after : ∀ e ∈ behind, ¬e.position ≤ d.position) (front : List Diagnostic) :
    insert d (front ++ behind) = insert d front ++ behind := by
  induction front with
  | nil => exact insert_append (List.forall_mem_nil _) after
  | cons e front ih =>
    rw [List.cons_append, insert, ih, insert]
    split <;> rfl

/-- What is not after `d` stays in front. -/
theorem insert_append_of_before {d : Diagnostic} {front : List Diagnostic}
    (before : ∀ e ∈ front, e.position ≤ d.position) (behind : List Diagnostic) :
    insert d (front ++ behind) = front ++ insert d behind := by
  induction front with
  | nil => rfl
  | cons e front ih =>
    obtain ⟨first, later⟩ := List.forall_mem_cons.mp before
    rw [List.cons_append, insert, if_pos first, ih later, List.cons_append]

/-- A list in reading order has those that are not after a position in front of the others. -/
theorem exists_parted {list : List Diagnostic}
    (sorted : list.Pairwise fun d e => d.position ≤ e.position) (position : Position) :
    ∃ front behind, list = front ++ behind ∧ (∀ e ∈ front, e.position ≤ position) ∧
      ∀ e ∈ behind, ¬e.position ≤ position := by
  induction list with
  | nil => exact ⟨[], [], rfl, List.forall_mem_nil _, List.forall_mem_nil _⟩
  | cons d list ih =>
    obtain ⟨first, tail⟩ := List.pairwise_cons.mp sorted
    by_cases early : d.position ≤ position
    · obtain ⟨front, behind, rfl, before, after⟩ := ih tail
      exact ⟨d :: front, behind, rfl, List.forall_mem_cons.mpr ⟨early, before⟩, after⟩
    · refine ⟨[], d :: list, rfl, List.forall_mem_nil _, List.forall_mem_cons.mpr ⟨early, ?_⟩⟩
      intro e found before
      exact early (Position.le_trans (first e found) before)

theorem insert_sorted (d : Diagnostic) {list : List Diagnostic}
    (sorted : list.Pairwise fun d e => d.position ≤ e.position) :
    (insert d list).Pairwise fun d e => d.position ≤ e.position := by
  obtain ⟨front, behind, rfl, before, after⟩ := exists_parted sorted d.position
  obtain ⟨first, later, across⟩ := List.pairwise_append.mp sorted
  rw [insert_append before after]
  refine List.pairwise_append.mpr ⟨first, List.pairwise_cons.mpr ⟨?_, later⟩, fun x inFront => ?_⟩
  · exact fun y found => Position.le_of_not_le (after y found)
  · exact List.forall_mem_cons.mpr ⟨before x inFront, across x inFront⟩

/-! ## Findings in order -/

/-- The lines are in order, and each has diagnostics of its own in the order of their columns. -/
structure InOrder (lines : List (Nat × List Diagnostic)) : Prop where
  down : lines.Pairwise (·.1 < ·.1)
  own : ∀ line ∈ lines, ∀ d ∈ line.2, d.position.line = line.1
  across : ∀ line ∈ lines, line.2.Pairwise fun d e => d.position.column ≤ e.position.column

/-- The findings are in order, and what has been counted is what is there. -/
structure Ordered (findings : Findings) : Prop where
  inOrder : InOrder findings.lines
  counted : findings.count = findings.all.length

/-- On one line, reading order is the order of columns. -/
theorem le_iff_column_le {d e : Diagnostic} (same : d.position.line = e.position.line) :
    d.position ≤ e.position ↔ d.position.column ≤ e.position.column := by
  rw [Position.le_iff]
  omega

theorem pairwise_le_iff {list : List Diagnostic} {number : Nat}
    (own : ∀ d ∈ list, d.position.line = number) :
    (list.Pairwise fun d e => d.position ≤ e.position) ↔
      list.Pairwise fun d e => d.position.column ≤ e.position.column :=
  List.Pairwise.iff_of_mem fun first second =>
    le_iff_column_le ((own _ first).trans (own _ second).symm)

/-- The place that is found by halving is the one in reading order. -/
theorem place_eq_insert {d : Diagnostic} {line : List Diagnostic}
    (own : ∀ e ∈ line, e.position.line = d.position.line)
    (across : line.Pairwise fun d e => d.position.column ≤ e.position.column) :
    place d line = insert d line := by
  obtain ⟨front, behind, rfl, before, after⟩ :=
    exists_parted ((pairwise_le_iff own).mpr across) d.position
  have first : ∀ e ∈ front, decide (e.position.column ≤ d.position.column) = true := by
    intro e found
    exact decide_eq_true ((le_iff_column_le (own e (List.mem_append_left _ found))).mp (before e found))
  have later : ∀ e ∈ behind, decide (e.position.column ≤ d.position.column) = false := by
    intro e found
    refine decide_eq_false fun early => after e found ?_
    exact (le_iff_column_le (own e (List.mem_append_right _ found))).mpr early
  rw [place, partitionPoint_append first later, insertIdx_at_joint, insert_append before after]

theorem place_nil (d : Diagnostic) : place d [] = [d] :=
  place_eq_insert (List.forall_mem_nil _) .nil

section Alter

variable {first : Nat} {entries : List Diagnostic} {below lines : List (Nat × List Diagnostic)}

theorem inOrder_cons : InOrder ((first, entries) :: below) ↔
    (∀ line ∈ below, first < line.1) ∧ (∀ d ∈ entries, d.position.line = first) ∧
      (entries.Pairwise fun d e => d.position.column ≤ e.position.column) ∧ InOrder below := by
  constructor
  · rintro ⟨down, own, across⟩
    obtain ⟨here, down⟩ := List.pairwise_cons.mp down
    obtain ⟨mine, own⟩ := List.forall_mem_cons.mp own
    obtain ⟨columns, across⟩ := List.forall_mem_cons.mp across
    exact ⟨here, mine, columns, down, own, across⟩
  · rintro ⟨here, mine, columns, down, own, across⟩
    exact ⟨List.pairwise_cons.mpr ⟨here, down⟩, List.forall_mem_cons.mpr ⟨mine, own⟩,
      List.forall_mem_cons.mpr ⟨columns, across⟩⟩

/-- Everything on the lines below a line is on a line below it. -/
theorem lt_of_mem_flatMap {line : Nat} (inOrder : InOrder lines) (here : ∀ other ∈ lines, line < other.1)
    {e : Diagnostic} (found : e ∈ lines.flatMap (·.2)) : line < e.position.line := by
  obtain ⟨other, inside, found⟩ := List.mem_flatMap.mp found
  rw [inOrder.own other inside e found]
  exact here other inside

theorem not_le_of_line_lt {d e : Diagnostic} (below : d.position.line < e.position.line) :
    ¬e.position ≤ d.position := by
  rw [Position.le_iff]
  omega

/-- A change on a line adds no other line. -/
theorem lt_of_mem_alter {line number : Nat} {change : List Diagnostic → List Diagnostic}
    (low : number < line) (here : ∀ other ∈ lines, number < other.1) :
    ∀ other ∈ alter line change lines, number < other.1 := by
  fun_induction alter line change lines with
  | case1 => simpa using low
  | case2 first entries below before =>
    exact List.forall_mem_cons.mpr ⟨low, here⟩
  | case3 entries below after =>
    exact List.forall_mem_cons.mpr ⟨low, (List.forall_mem_cons.mp here).2⟩
  | case4 first entries below after other ih =>
    obtain ⟨mine, here⟩ := List.forall_mem_cons.mp here
    exact List.forall_mem_cons.mpr ⟨mine, ih here⟩

/-- To put a diagnostic on its line is to insert it into the list of all of them. -/
theorem flatMap_alter (inOrder : InOrder lines) (d : Diagnostic) :
    (alter d.position.line (place d) lines).flatMap (·.2) = insert d (lines.flatMap (·.2)) := by
  fun_induction alter d.position.line (place d) lines with
  | case1 => exact (List.append_nil _).trans (place_nil d)
  | case2 first entries below before =>
    have after : ∀ e ∈ ((first, entries) :: below).flatMap (·.2), ¬e.position ≤ d.position := by
      intro e found
      have lower : ∀ line ∈ (first, entries) :: below, d.position.line < line.1 :=
        List.forall_mem_cons.mpr
          ⟨before, fun line inside => Nat.lt_trans before ((inOrder_cons.mp inOrder).1 line inside)⟩
      exact not_le_of_line_lt (lt_of_mem_flatMap inOrder lower found)
    rw [List.flatMap_cons, place_nil]
    exact (insert_append (List.forall_mem_nil _) after).symm
  | case3 entries below before =>
    obtain ⟨here, own, across, inOrder⟩ := inOrder_cons.mp inOrder
    have after : ∀ e ∈ below.flatMap (·.2), ¬e.position ≤ d.position :=
      fun e found => not_le_of_line_lt (lt_of_mem_flatMap inOrder here found)
    rw [List.flatMap_cons, List.flatMap_cons, place_eq_insert own across, insert_append_of_after after]
  | case4 first entries below before other ih =>
    obtain ⟨-, own, -, inOrder⟩ := inOrder_cons.mp inOrder
    have early : ∀ e ∈ entries, e.position ≤ d.position := by
      intro e found
      rw [Position.le_iff, own e found]
      omega
    rw [List.flatMap_cons, List.flatMap_cons, ih inOrder, insert_append_of_before early]

theorem InOrder.alter (inOrder : InOrder lines) (d : Diagnostic) :
    InOrder (alter d.position.line (place d) lines) := by
  -- One diagnostic is put among those of its own line, or on a line of its own.
  have put {line : List Diagnostic} (own : ∀ e ∈ line, e.position.line = d.position.line)
      (across : line.Pairwise fun d e => d.position.column ≤ e.position.column) :
      (∀ e ∈ place d line, e.position.line = d.position.line) ∧
        (place d line).Pairwise fun d e => d.position.column ≤ e.position.column := by
    rw [place_eq_insert own across]
    have own' : ∀ e ∈ insert d line, e.position.line = d.position.line := by
      intro e found
      rcases mem_insert.mp found with rfl | inside
      · rfl
      · exact own e inside
    exact ⟨own', (pairwise_le_iff own').mp (insert_sorted d ((pairwise_le_iff own).mpr across))⟩
  fun_induction Findings.alter d.position.line (place d) lines with
  | case1 =>
    obtain ⟨own, across⟩ := put (List.forall_mem_nil _) .nil
    exact inOrder_cons.mpr ⟨List.forall_mem_nil _, own, across, inOrder⟩
  | case2 first entries below before =>
    obtain ⟨own, across⟩ := put (List.forall_mem_nil _) .nil
    refine inOrder_cons.mpr ⟨List.forall_mem_cons.mpr ⟨before, ?_⟩, own, across, inOrder⟩
    exact fun line inside => Nat.lt_trans before ((inOrder_cons.mp inOrder).1 line inside)
  | case3 entries below before =>
    obtain ⟨here, own, across, inOrder⟩ := inOrder_cons.mp inOrder
    obtain ⟨own, across⟩ := put own across
    exact inOrder_cons.mpr ⟨here, own, across, inOrder⟩
  | case4 first entries below before other ih =>
    obtain ⟨here, own, across, inOrder⟩ := inOrder_cons.mp inOrder
    exact inOrder_cons.mpr ⟨lt_of_mem_alter (by omega) here, own, across, ih inOrder⟩

theorem lookup_eq_filter (inOrder : InOrder lines) (number : Nat) :
    (lines.lookup number).getD [] = (lines.flatMap (·.2)).filter (·.position.line == number) := by
  induction lines with
  | nil => rfl
  | cons line below ih =>
    obtain ⟨first, entries⟩ := line
    obtain ⟨here, own, -, inOrder⟩ := inOrder_cons.mp inOrder
    have ih := ih inOrder
    rw [List.flatMap_cons, List.filter_append, ← ih, List.lookup_cons]
    by_cases same : number = first
    · -- The lines below have nothing on this one.
      have mine : entries.filter (·.position.line == number) = entries := by
        rw [List.filter_eq_self]
        intro d found
        rw [own d found, same, beq_self_eq_true]
      have none : (below.lookup number).getD [] = [] := by
        rw [ih, List.filter_eq_nil_iff]
        intro d found on
        have lower := lt_of_mem_flatMap inOrder here found
        exact absurd (beq_iff_eq.mp on) (by omega)
      rw [mine, none, same, beq_self_eq_true, List.append_nil]
      rfl
    · have none : entries.filter (·.position.line == number) = [] := by
        rw [List.filter_eq_nil_iff]
        intro d found on
        exact same ((beq_iff_eq.mp on).symm.trans (own d found))
      rw [none, beq_false_of_ne same, List.nil_append]

end Alter

/-! ## Recording -/

theorem ordered_empty : empty.Ordered :=
  ⟨⟨.nil, List.forall_mem_nil _, List.forall_mem_nil _⟩, rfl⟩

section Ordered

variable {findings : Findings} (ordered : findings.Ordered)
include ordered

/-- Recording is an insertion into the list of all diagnostics. -/
theorem Ordered.all_record (d : Diagnostic) : (findings.record d).all = insert d findings.all :=
  flatMap_alter ordered.inOrder d

theorem Ordered.record (d : Diagnostic) : (findings.record d).Ordered where
  inOrder := ordered.inOrder.alter d
  counted := by
    rw [ordered.all_record, (insert_perm d findings.all).length_eq, List.length_cons, ← ordered.counted]
    rfl

theorem Ordered.recordAll (list : List Diagnostic) : (findings.recordAll list).Ordered := by
  induction list generalizing findings with
  | nil => exact ordered
  | cons d list ih => exact ih (ordered.record d)

theorem Ordered.sorted : findings.all.Pairwise fun d e => d.position ≤ e.position := by
  refine List.pairwise_flatMap.mpr ⟨fun line found => ?_, ?_⟩
  · exact (pairwise_le_iff (ordered.inOrder.own line found)).mpr (ordered.inOrder.across line found)
  · refine ordered.inOrder.down.imp_of_mem fun first second below d here e there => ?_
    rw [Position.le_iff, ordered.inOrder.own _ first d here, ordered.inOrder.own _ second e there]
    exact .inl below

theorem Ordered.onLine_eq (line : Nat) :
    findings.onLine line = findings.all.filter (·.position.line == line) :=
  lookup_eq_filter ordered.inOrder line

end Ordered

theorem ordered_ofList (list : List Diagnostic) : (ofList list).Ordered :=
  ordered_empty.recordAll list

theorem ofList_concat (list : List Diagnostic) (d : Diagnostic) :
    ofList (list ++ [d]) = (ofList list).record d :=
  List.foldl_append

/-- Diagnostics that are recorded one lot after the other are recorded as one. -/
theorem recordAll_ofList (list later : List Diagnostic) :
    (ofList list).recordAll later = ofList (list ++ later) :=
  List.foldl_append.symm

theorem all_ofList_concat (list : List Diagnostic) (d : Diagnostic) :
    (ofList (list ++ [d])).all = insert d (ofList list).all := by
  rw [ofList_concat, (ordered_ofList list).all_record]

theorem mem_ofList {list : List Diagnostic} {d : Diagnostic} : d ∈ (ofList list).all ↔ d ∈ list := by
  induction list using List.reverseRecOn with
  | nil => exact Iff.rfl
  | append_singleton list e ih => simp [all_ofList_concat, mem_insert, ih, or_comm]

/-! ## Recording a part -/

theorem filter_insert_dropped {keep : Diagnostic → Bool} {d : Diagnostic} (dropped : keep d = false)
    (list : List Diagnostic) : (insert d list).filter keep = list.filter keep := by
  induction list with
  | nil => simp [insert, dropped]
  | cons e list ih =>
    simp only [insert]
    split
    · rw [List.filter_cons, List.filter_cons, ih]
    · rw [List.filter_cons_of_neg (by simp [dropped])]

theorem filter_insert_kept {keep : Diagnostic → Bool} {d : Diagnostic} (kept : keep d = true)
    {list : List Diagnostic} (sorted : list.Pairwise fun d e => d.position ≤ e.position) :
    (insert d list).filter keep = insert d (list.filter keep) := by
  obtain ⟨front, behind, rfl, before, after⟩ := exists_parted sorted d.position
  have before' : ∀ e ∈ front.filter keep, e.position ≤ d.position :=
    fun e found => before e ((List.mem_filter.mp found).1)
  have after' : ∀ e ∈ behind.filter keep, ¬e.position ≤ d.position :=
    fun e found => after e ((List.mem_filter.mp found).1)
  rw [insert_append before after, List.filter_append, List.filter_cons_of_pos kept, List.filter_append,
    insert_append before' after']

theorem filter_ofList (keep : Diagnostic → Bool) (list : List Diagnostic) :
    (ofList list).all.filter keep = (ofList (list.filter keep)).all := by
  induction list using List.reverseRecOn with
  | nil => rfl
  | append_singleton list d ih =>
    rw [all_ofList_concat, List.filter_append]
    by_cases kept : keep d = true
    · rw [filter_insert_kept kept (ordered_ofList list).sorted, ih, List.filter_cons_of_pos kept,
        List.filter_nil, all_ofList_concat]
    · rw [filter_insert_dropped (by simpa using kept), ih, List.filter_cons_of_neg kept,
        List.filter_nil, List.append_nil]

end Findings

end PascalLint
