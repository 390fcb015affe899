import PascalLint.CommandLine.Run
import PascalLint.Proofs.Outcomes

/-! # The check of several paths

The check of files has no memory: what it writes about a file depends on the options, the settings and
the file, so what it writes about several paths is what it writes about each of the files that they stand
for, one after the other (`output_runCheck`, `errors_runCheck`), and it fails if it fails for one of them
(`status_runCheck`). That no file is found, and that a directory cannot be listed, is told in the log
only.
-/

namespace PascalLint.CommandLine

/-! ## Sequences -/

theorem output_sequence (outcomes : List Outcome) :
    (sequence outcomes).output = String.join (outcomes.map (·.output)) := by
  induction outcomes with
  | nil => rfl
  | cons outcome outcomes ih =>
    rw [List.map_cons, String.join_cons, ← ih]
    simp only [sequence, Outcome.output, List.flatMap_cons, List.map_append, String.join_append]

theorem errors_sequence (filter : Log.Filter) (outcomes : List Outcome) :
    (sequence outcomes).errors filter = String.join (outcomes.map (·.errors filter)) := by
  induction outcomes with
  | nil => rfl
  | cons outcome outcomes ih =>
    rw [List.map_cons, String.join_cons, ← ih]
    simp only [sequence, Outcome.errors, List.flatMap_cons, List.map_append, String.join_append]

/-- The largest of some numbers that are zero or one. -/
theorem foldl_max_of_le_one {numbers : List Nat} (small : ∀ n ∈ numbers, n ≤ 1) {start : Nat}
    (first : start ≤ 1) :
    numbers.foldl max start ≤ 1 ∧ (numbers.foldl max start = 1 ↔ start = 1 ∨ 1 ∈ numbers) := by
  induction numbers generalizing start with
  | nil => simpa using first
  | cons n numbers ih =>
    obtain ⟨here, later⟩ := List.forall_mem_cons.mp small
    obtain ⟨bound, one⟩ := ih later (Nat.max_le.mpr ⟨first, here⟩)
    refine ⟨bound, ?_⟩
    rw [List.foldl_cons, one, List.mem_cons, ← or_assoc]
    refine or_congr_left ?_
    omega

/-! ## Inputs -/

section CheckInputs

variable (codecs : Encoding.Codecs) (request : CheckRequest) (settings : Settings) (inputs : List Input)

theorem output_checkInputs : (checkInputs codecs request settings inputs).output =
    String.join (inputs.map (Input.report codecs request settings)) := by
  cases inputs with
  | nil => rfl
  | cons input inputs =>
    refine (output_sequence _).trans ?_
    rw [List.map_map]
    exact congrArg String.join
      (List.map_congr_left fun input _ => output_checkInput codecs request settings input)

theorem errors_checkInputs {filter : Log.Filter} (quiet : filter.Quiet) :
    (checkInputs codecs request settings inputs).errors filter =
      String.join (inputs.map Input.complaint) := by
  cases inputs with
  | nil =>
    have silent : filter.shows ⟨.warn, .check, "no `.pas` files found"⟩ = false := quiet _ (by simp)
    simp [checkInputs, Outcome.errors, Event.errorText, silent]
  | cons input inputs =>
    refine (errors_sequence filter _).trans ?_
    rw [List.map_map]
    exact congrArg String.join
      (List.map_congr_left fun input _ => errors_checkInput codecs request settings input quiet)

theorem status_checkInputs :
    (checkInputs codecs request settings inputs).status ≤ 1 ∧
      ((checkInputs codecs request settings inputs).status = 1 ↔
        ∃ input ∈ inputs, Input.Fails codecs request settings input) := by
  cases inputs with
  | nil => simp [checkInputs]
  | cons input inputs =>
    have small : ∀ n ∈ ((input :: inputs).map (checkInput codecs request settings)).map (·.status),
        n ≤ 1 := by
      simp only [List.map_map, List.forall_mem_map]
      exact fun other _ => (status_checkInput codecs request settings other).1
    obtain ⟨bound, one⟩ := foldl_max_of_le_one small (Nat.zero_le 1)
    refine ⟨bound, one.trans ?_⟩
    simp only [List.map_map, List.mem_map, Function.comp_apply]
    refine (or_iff_right (by decide)).trans (exists_congr fun other => and_congr_right fun _ => ?_)
    exact (status_checkInput codecs request settings other).2

end CheckInputs

/-! ## Searches -/

/-- The files among what a search has found. -/
def inputsOf (disk : Disk) (deep : Bool) (paths : List String) : List Input :=
  (paths.flatMap (search disk deep)).filterMap Found.input?

theorem inputsOf_append (disk : Disk) (deep : Bool) (front back : List String) :
    inputsOf disk deep (front ++ back) = inputsOf disk deep front ++ inputsOf disk deep back := by
  rw [inputsOf, List.flatMap_append, List.filterMap_append]
  rfl

/-- The messages of a search are warnings. -/
theorem level_ne_error_of_message? {found : Found} {message : Log.Message}
    (told : found.message? = some message) : message.level ≠ .error := by
  cases found with
  | input file => cases told
  | unlistable path error =>
    obtain rfl := Option.some.inj told
    simp

/-! ## Paths -/

section Paths

variable (codecs : Encoding.Codecs) {disk : Disk} {filter : Log.Filter} {options : CheckRequest}
  {settings : Settings}

/-- With settings, and with one path at least, the check is that of what the paths stand for. -/
theorem runCheck_of_loaded (loaded : options.settings disk = .ok settings) {paths : List String}
    (nonempty : paths ≠ []) :
    runCheck codecs disk { options with paths } =
      checkFound codecs options settings (paths.flatMap (search disk options.recursive)) := by
  have same : ({ options with paths } : CheckRequest).settings disk = .ok settings := loaded
  have targets : ({ options with paths } : CheckRequest).targets = paths :=
    if_neg (by simpa using nonempty)
  rw [runCheck, same, targets]
  rfl

theorem output_runCheck (loaded : options.settings disk = .ok settings) {paths : List String}
    (nonempty : paths ≠ []) :
    (runCheck codecs disk { options with paths }).output =
      String.join ((inputsOf disk options.recursive paths).map
        (Input.report codecs options settings)) := by
  rw [runCheck_of_loaded codecs loaded nonempty, checkFound, Outcome.output_logs]
  exact output_checkInputs codecs options settings _

theorem errors_runCheck (quiet : filter.Quiet) (loaded : options.settings disk = .ok settings)
    {paths : List String} (nonempty : paths ≠ []) :
    (runCheck codecs disk { options with paths }).errors filter =
      String.join ((inputsOf disk options.recursive paths).map Input.complaint) := by
  rw [runCheck_of_loaded codecs loaded nonempty, checkFound, Outcome.errors_logs quiet]
  · exact errors_checkInputs codecs options settings _ quiet
  · intro message told
    obtain ⟨found, -, same⟩ := List.mem_filterMap.mp told
    exact level_ne_error_of_message? same

theorem status_runCheck (loaded : options.settings disk = .ok settings) {paths : List String}
    (nonempty : paths ≠ []) :
    (runCheck codecs disk { options with paths }).status ≤ 1 ∧
      ((runCheck codecs disk { options with paths }).status = 1 ↔
        ∃ input ∈ inputsOf disk options.recursive paths, Input.Fails codecs options settings input) := by
  rw [runCheck_of_loaded codecs loaded nonempty]
  exact status_checkInputs codecs options settings _

/-- Between the paths of two lists, one more path adds a text to the output for errors and changes
    nothing else, and by itself it leads to nothing but this text. -/
structure AddsOnly (filter : Log.Filter) (run : List String → Outcome) (front : List String)
    (path : String) (back : List String) (text : String) : Prop where
  output_alone : (run [path]).output = ""
  errors_alone : (run [path]).errors filter = text
  passes_alone : (run [path]).status = 0
  output : (run (front ++ path :: back)).output = (run (front ++ back)).output
  errors : (run (front ++ path :: back)).errors filter =
    (run front).errors filter ++ text ++ (run back).errors filter
  status : (run (front ++ path :: back)).status = (run (front ++ back)).status

/-- A path that stands for nothing that can be read. -/
theorem addsOnly_runCheck (quiet : filter.Quiet) (loaded : options.settings disk = .ok settings)
    {front back : List String} (front_ne : front ≠ []) (back_ne : back ≠ []) {path : String}
    {inputs : List Input} (stands : inputsOf disk options.recursive [path] = inputs)
    (unread : ∀ input ∈ inputs, ∃ path error, input = (path, .error error)) :
    AddsOnly filter (fun paths => runCheck codecs disk { options with paths }) front path back
      (String.join (inputs.map Input.complaint)) := by
  have silent : String.join (inputs.map (Input.report codecs options settings)) = "" := by
    refine join_map_eq_empty fun input found => ?_
    obtain ⟨path, error, rfl⟩ := unread input found
    rfl
  have passes : ¬∃ input ∈ inputs, Input.Fails codecs options settings input := by
    rintro ⟨input, found, fails⟩
    obtain ⟨path, error, rfl⟩ := unread input found
    exact fails
  have single : [path] ≠ [] := List.cons_ne_nil path []
  have longer : front ++ path :: back ≠ [] := List.append_ne_nil_of_left_ne_nil front_ne _
  have whole : front ++ back ≠ [] := List.append_ne_nil_of_left_ne_nil front_ne back
  -- The path is a part of its own between the other two.
  have between : inputsOf disk options.recursive (front ++ path :: back) =
      inputsOf disk options.recursive front ++ (inputs ++ inputsOf disk options.recursive back) := by
    rw [← stands, ← inputsOf_append, ← inputsOf_append, List.singleton_append]
  constructor
  · rw [output_runCheck codecs loaded single, stands, silent]
  · rw [errors_runCheck codecs quiet loaded single, stands]
  · obtain ⟨bound, fails⟩ := status_runCheck codecs loaded single
    rw [stands] at fails
    rw [← fails] at passes
    omega
  · rw [output_runCheck codecs loaded longer, output_runCheck codecs loaded whole, between,
      inputsOf_append]
    simp only [List.map_append, String.join_append, silent, String.empty_append]
  · rw [errors_runCheck codecs quiet loaded longer, errors_runCheck codecs quiet loaded front_ne,
      errors_runCheck codecs quiet loaded back_ne, between]
    simp only [List.map_append, String.join_append, String.append_assoc]
  · -- Statuses are zero or one, so they are equal if they are one for the same runs.
    obtain ⟨bound, fails⟩ := status_runCheck codecs loaded longer
    obtain ⟨bound', fails'⟩ := status_runCheck codecs loaded whole
    rw [between] at fails
    rw [inputsOf_append] at fails'
    simp only [List.mem_append, or_and_right, exists_or, passes, false_or] at fails fails'
    rw [← fails'] at fails
    omega

/-- A new-line ends the text about a file that cannot be read; others are those of its parts. -/
theorem count_readFailure (path : String) (error : ReadError) :
    (readFailure path error ++ "\n").toList.count '\n' =
      path.toList.count '\n' + error.message.toList.count '\n' + 1 := by
  have colon : (": ").toList.count '\n' = 0 := by decide
  have last : ("\n").toList.count '\n' = 1 := by decide
  simp only [readFailure, String.toList_append, List.count_append, colon, last, Nat.add_zero]

/-- The check of paths that are written one after the other writes what the checks of the two parts write
    and fails if one of these fails. In all, it writes the reports of the files that can be read and, for
    those that cannot, the name and the reason, each in its turn. So a path that cannot be read adds these
    to the output for errors, by itself or between others, and changes nothing else; that is one line if
    there are no new-lines in the path and in the reason. A directory that cannot be listed adds nothing. -/
theorem runCheck_append (quiet : filter.Quiet) (loaded : options.settings disk = .ok settings)
    {front back : List String} (front_ne : front ≠ []) (back_ne : back ≠ []) :
    let run (paths : List String) := runCheck codecs disk { options with paths }
    (run (front ++ back)).output = (run front).output ++ (run back).output ∧
      (run (front ++ back)).errors filter = (run front).errors filter ++ (run back).errors filter ∧
      (run (front ++ back)).status ≤ 1 ∧
      ((run (front ++ back)).status = 1 ↔ (run front).status = 1 ∨ (run back).status = 1) ∧
      (∀ paths, paths ≠ [] → let inputs := inputsOf disk options.recursive paths
        (run paths).output = String.join (inputs.map (Input.report codecs options settings)) ∧
        (run paths).errors filter = String.join (inputs.map Input.complaint) ∧
        ((run paths).status = 1 ↔ ∃ input ∈ inputs, Input.Fails codecs options settings input)) ∧
      (∀ path error, disk path = .error error ∨ disk path = .ok (.unreadable error) →
        AddsOnly filter run front path back (readFailure path error ++ "\n") ∧
        (readFailure path error ++ "\n").toList.count '\n' =
          path.toList.count '\n' + error.message.toList.count '\n' + 1) ∧
      ∀ path error, disk path = .ok (.unlistable error) → AddsOnly filter run front path back "" := by
  intro run
  have whole : front ++ back ≠ [] := List.append_ne_nil_of_left_ne_nil front_ne back
  have files (paths : List String) (nonempty : paths ≠ []) := status_runCheck codecs loaded nonempty
  have alone {path : String} {found : Found} (finds : search disk options.recursive path = [found]) :
      inputsOf disk options.recursive [path] = [found].filterMap Found.input? := by
    rw [inputsOf, List.flatMap_singleton, finds]
  refine ⟨?_, ?_, (files _ whole).1, ?_, fun paths nonempty => ?_,
    fun path error missing => ⟨?_, count_readFailure path error⟩, fun path error closed => ?_⟩
  · rw [output_runCheck codecs loaded whole, output_runCheck codecs loaded front_ne,
      output_runCheck codecs loaded back_ne, inputsOf_append, List.map_append, String.join_append]
  · rw [errors_runCheck codecs quiet loaded whole, errors_runCheck codecs quiet loaded front_ne,
      errors_runCheck codecs quiet loaded back_ne, inputsOf_append, List.map_append, String.join_append]
  · rw [(files _ whole).2, (files _ front_ne).2, (files _ back_ne).2, inputsOf_append]
    simp only [List.mem_append, or_and_right, exists_or]
  · exact ⟨output_runCheck codecs loaded nonempty, errors_runCheck codecs quiet loaded nonempty,
      (files paths nonempty).2⟩
  · have finds : search disk options.recursive path = [.input (path, .error error)] := by
      rcases missing with missing | missing <;> rw [search, missing]
    have text : String.join ([(path, .error error)].map Input.complaint) = readFailure path error ++ "\n" :=
      join_map_singleton Input.complaint (path, .error error)
    rw [← text]
    exact addsOnly_runCheck codecs quiet loaded front_ne back_ne (alone finds)
      fun input found => ⟨path, error, List.mem_singleton.mp found⟩
  · have finds : search disk options.recursive path = [.unlistable path error] := by
      rw [search, closed]
    exact addsOnly_runCheck codecs quiet loaded front_ne back_ne (alone finds)
      (List.forall_mem_nil _)

end Paths

/-- A missing path and a directory that cannot be listed, between other paths. -/
theorem runCheck_append_missing :
    let tree : FileTree :=
      .directory [("a.pas", .file [0x65, 0x6e, 0x64]), ("closed", .unlistable .denied)]
    let run (paths : List String) := runCheck .ascii tree.find { paths }
    let off := (Log.Filter.parse "off".toList).1
    off.Quiet ∧ tree.find "no.pas" = .error .notFound ∧ tree.find "closed" = .ok (.unlistable .denied) ∧
      (run ["no.pas", "a.pas"]).status = 1 ∧
      (run ["a.pas", "no.pas", "a.pas"]).output = (run ["a.pas"]).output ++ (run ["a.pas"]).output ∧
      (run ["a.pas", "no.pas", "a.pas"]).errors off =
        "no.pas: No such file or directory (os error 2)\n" ∧
      (run ["a.pas", "closed", "a.pas"]).errors off = "" := by
  intro tree run off
  have quiet : off.Quiet := Log.Filter.quiet_of_rank_le (by decide)
  have missing : tree.find "no.pas" = .error .notFound :=
    FileTree.find_directory (by decide +kernel) _
  have closed : tree.find "closed" = .ok (.unlistable .denied) :=
    FileTree.find_directory (by decide +kernel) _
  have found : tree.find "a.pas" = .ok (.file [0x65, 0x6e, 0x64]) :=
    FileTree.find_directory (by decide +kernel) _
  have fails : (run ["a.pas"]).status = 1 := by decide +kernel
  have loaded : CheckRequest.settings {} tree.find = .ok {} := rfl
  have file := List.cons_ne_nil "a.pas" []
  obtain ⟨-, -, -, status, -⟩ :=
    runCheck_append .ascii quiet loaded (List.cons_ne_nil "no.pas" []) file
  obtain ⟨output, -, -, -, files, unread, unlisted⟩ := runCheck_append .ascii quiet loaded file file
  have silent : (run ["a.pas"]).errors off = "" := by
    have inputs : inputsOf tree.find false ["a.pas"] = [("a.pas", .ok [0x65, 0x6e, 0x64])] := by
      rw [inputsOf, List.flatMap_singleton, search, found]
      rfl
    refine ((files ["a.pas"] file).2.1).trans ?_
    rw [inputs]
    rfl
  have adds := (unread "no.pas" .notFound (.inl missing)).1
  refine ⟨quiet, missing, closed, status.mpr (.inr fails), adds.output.trans output,
    adds.errors.trans ?_, (unlisted "closed" .denied closed).errors.trans ?_⟩
  · rw [silent]
    rfl
  · rw [silent]
    rfl

/-- With the log off, a directory that cannot be listed has no line, and a path with a new-line in it
    that names nothing has two. -/
theorem runCheck_without_one_line :
    let tree : FileTree := .directory [("closed", .unlistable .denied)]
    let run (path : String) := runCheck .ascii tree.find { paths := [path] }
    let off := (Log.Filter.parse "off".toList).1
    tree.find "closed" = .ok (.unlistable .denied) ∧ (run "closed").errors off = "" ∧
      tree.find "no\nsuch.pas" = .error .notFound ∧
      (run "no\nsuch.pas").errors off = "no\nsuch.pas: No such file or directory (os error 2)\n" ∧
      ((run "no\nsuch.pas").errors off).toList.count '\n' = 2 := by
  intro tree run off
  have closed : tree.find "closed" = .ok (.unlistable .denied) :=
    FileTree.find_directory (by decide +kernel) _
  have missing : tree.find "no\nsuch.pas" = .error .notFound :=
    FileTree.find_directory (by decide +kernel) _
  have quiet : off.Quiet := Log.Filter.quiet_of_rank_le (by decide)
  have loaded : CheckRequest.settings {} tree.find = .ok {} := rfl
  have shown : (run "no\nsuch.pas").errors off = _ :=
    errors_runCheck .ascii quiet loaded (List.cons_ne_nil "no\nsuch.pas" [])
  have text : (run "no\nsuch.pas").errors off =
      "no\nsuch.pas: No such file or directory (os error 2)\n" := by
    rw [shown, inputsOf, List.flatMap_singleton, search, missing]
    rfl
  refine ⟨closed, ?_, missing, text, ?_⟩
  · refine (errors_runCheck .ascii quiet loaded (List.cons_ne_nil "closed" [])).trans ?_
    rw [inputsOf, List.flatMap_singleton, search, closed]
    rfl
  · rw [text]
    decide

end PascalLint.CommandLine
