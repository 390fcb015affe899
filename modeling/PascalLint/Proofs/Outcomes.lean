import PascalLint.CommandLine.Commands

/-! # What commands write

Outputs are put together from what the events of a command add to them. Messages of the log add nothing
to the output, and nothing to the output for errors under a filter that shows errors only
(`Log.Filter.Quiet`), because no message of a check is an error.
-/

namespace PascalLint

/-- Shows errors at most. -/
def Log.Filter.Quiet (filter : Log.Filter) : Prop :=
  ∀ message : Log.Message, message.level ≠ .error → filter.shows message = false

/-- The filter that shows nothing, and the one that holds if none is asked for. -/
theorem Log.Filter.quiet_of_rank_le {rank : Nat} (low : rank ≤ Log.Level.error.rank) :
    (Log.Filter.mk [⟨none, rank⟩] none).Quiet := by
  intro message other
  have shown : (Log.Filter.mk [⟨none, rank⟩] none).rankFor message.component = rank := rfl
  have above : rank < message.level.rank := by
    cases level : message.level with
    | error => exact absurd level other
    | _ => exact Nat.lt_of_le_of_lt low (by decide)
  rw [shows, shown, decide_eq_false (Nat.not_le_of_lt above), Bool.false_and]

theorem Note.level_message_ne_error (note : Note) : note.message.level ≠ .error := by
  cases note <;> simp [message, level]

theorem Source.level_ne_error_of_mem_read {codecs : Encoding.Codecs} {path : String}
    {encoding : Option Encoding} {bytes : List UInt8} {message : Log.Message}
    (found : message ∈ (read codecs path encoding bytes).messages) : message.level ≠ .error := by
  simp only [read] at found
  split at found
  · obtain rfl := List.mem_singleton.mp found
    simp
  · cases found

theorem Report.level_ne_error_of_mem_messages {settings : Settings} {report : Report}
    {message : Log.Message} (found : message ∈ report.messages settings) :
    message.level ≠ .error := by
  rcases List.mem_append.mp found with noted | last
  · obtain ⟨note, -, rfl⟩ := List.mem_map.mp noted
    exact note.level_message_ne_error
  · obtain rfl := List.mem_singleton.mp last
    simp

/-- Texts that are empty add nothing. -/
theorem join_map_eq_empty {α : Type} {text : α → String} {list : List α}
    (empty : ∀ a ∈ list, text a = "") : String.join (list.map text) = "" := by
  induction list with
  | nil => rfl
  | cons a list ih =>
    rw [List.forall_mem_cons] at empty
    rw [List.map_cons, String.join_cons, empty.1, ih empty.2, String.empty_append]

theorem join_map_singleton {α : Type} (text : α → String) (a : α) :
    String.join ([a].map text) = text a := by
  rw [List.map_singleton, String.join_cons, String.join_nil, String.append_empty]

namespace CommandLine

theorem Outcome.output_logs (messages : List Log.Message) (status : Nat) (events : List Event) :
    (Outcome.mk (messages.map .log ++ events) status).output =
      String.join (events.map Event.outputText) := by
  have silent : ∀ message ∈ messages, (Event.outputText ∘ .log) message = "" := fun message _ => rfl
  rw [output, List.map_append, String.join_append, List.map_map, join_map_eq_empty silent,
    String.empty_append]

theorem Outcome.output_errors {α : Type} (text : α → String) (list : List α) :
    String.join ((list.map fun a => Event.error (text a)).map Event.outputText) = "" := by
  rw [List.map_map]
  exact join_map_eq_empty fun a _ => rfl

theorem Outcome.errors_logs {filter : Log.Filter} (quiet : filter.Quiet)
    {messages : List Log.Message} (minor : ∀ message ∈ messages, message.level ≠ .error)
    (status : Nat) (events : List Event) :
    (Outcome.mk (messages.map .log ++ events) status).errors filter =
      String.join (events.map (Event.errorText filter)) := by
  have silent : ∀ message ∈ messages, (Event.errorText filter ∘ .log) message = "" := by
    intro message found
    exact if_neg (by simp [quiet message (minor message found)])
  rw [errors, List.map_append, String.join_append, List.map_map, join_map_eq_empty silent,
    String.empty_append]

/-! ## The check of one file -/

section CheckInput

variable (codecs : Encoding.Codecs) (request : CheckRequest) (settings : Settings)

/-- What the check of a file writes to the output: the report, if the file can be read. -/
def Input.report : Input → String
  | (_, .error _) => ""
  | (path, .ok bytes) =>
    reportText request (check settings (Source.read codecs path request.encoding bytes).source)

/-- What the check of a file writes to the output for errors: why the file cannot be read. -/
def Input.complaint : Input → String
  | (path, .error error) => readFailure path error ++ "\n"
  | (_, .ok _) => ""

/-- Holds of a file that can be read and has a diagnostic. -/
def Input.Fails : Input → Prop
  | (_, .error _) => False
  | (path, .ok bytes) =>
    (check settings (Source.read codecs path request.encoding bytes).source).hasErrors = true

variable (input : Input)

theorem output_checkInput :
    (checkInput codecs request settings input).output = Input.report codecs request settings input := by
  obtain ⟨path, error | bytes⟩ := input
  · rfl
  · simp only [checkInput]
    rw [Outcome.output_logs]
    simp [Event.outputText, Input.report]

theorem errors_checkInput {filter : Log.Filter} (quiet : filter.Quiet) :
    (checkInput codecs request settings input).errors filter = Input.complaint input := by
  obtain ⟨path, error | bytes⟩ := input
  · have silent : filter.shows ⟨.warn, .check, "skipping " ++ path⟩ = false := quiet _ (by simp)
    simp [checkInput, Outcome.errors, Event.errorText, silent, Input.complaint]
  · simp only [checkInput]
    rw [Outcome.errors_logs quiet]
    · simp [Event.errorText, Input.complaint]
    · intro message found
      simp only [List.mem_append, List.mem_singleton] at found
      rcases found with (reading | checking) | rfl
      · exact Source.level_ne_error_of_mem_read reading
      · exact Report.level_ne_error_of_mem_messages checking
      · simp

theorem status_checkInput :
    (checkInput codecs request settings input).status ≤ 1 ∧
      ((checkInput codecs request settings input).status = 1 ↔
        Input.Fails codecs request settings input) := by
  obtain ⟨path, error | bytes⟩ := input
  · simp [checkInput, Input.Fails]
  · simp only [checkInput, Input.Fails]
    split <;> simp_all

end CheckInput

end CommandLine

end PascalLint
