import PascalLint.Proofs.BatchCheck
import PascalLint.Proofs.TokenStream

/-! # Two listings of one stream

The tokens of a source are listed line by line, either straight from the stream, in which a new line of
output begins whenever the line number changes, or from a table that has been filled before. Both give
one text because the stream goes down the source: what is still to come when a line of output is
complete belongs further down, so it does not get into an entry of the table that is complete
(`TokenTable.label_append_listRest`).
-/

namespace PascalLint

namespace TokenTable

/-! ## Filling a table -/

/-- Tokens of a line above all others make up an entry of their own. -/
theorem foldr_add_above {line : Nat} {table : TokenTable} (above : ∀ entry ∈ table, line < entry.1)
    {tokens : List Token} (nonempty : tokens ≠ []) :
    tokens.foldr (add line) table = (line, tokens) :: table := by
  induction tokens with
  | nil => exact absurd rfl nonempty
  | cons token tokens ih =>
    rw [List.foldr_cons]
    by_cases last : tokens = []
    · subst last
      cases table with
      | nil => rfl
      | cons entry table => rw [List.foldr_nil, add, if_pos (above entry List.mem_cons_self)]
    · rw [ih last, add, if_neg (Nat.lt_irrefl line), if_pos rfl]

/-- Each entry is for a line on which a token of the stream begins. -/
theorem exists_line_of_mem_ofStream {stream : List Scanned} {entry : Nat × List Token}
    (found : entry ∈ ofStream stream) : ∃ scanned ∈ stream, scanned.position.line = entry.1 := by
  induction stream generalizing entry with
  | nil => cases found
  | cons scanned stream ih =>
    cases exists_of_mem_add found with
    | inl here => exact ⟨scanned, List.mem_cons_self, here.symm⟩
    | inr old =>
      obtain ⟨old, inside, same⟩ := old
      obtain ⟨later, there, line⟩ := ih inside
      exact ⟨later, .tail _ there, line.trans same⟩

theorem pairwise_add {line : Nat} (token : Token) {table : TokenTable}
    (ordered : table.Pairwise (·.1 < ·.1)) : (add line token table).Pairwise (·.1 < ·.1) := by
  induction table with
  | nil => exact List.pairwise_singleton _ _
  | cons entry table ih =>
    obtain ⟨first, tail⟩ := List.pairwise_cons.mp ordered
    rw [add]
    split
    next above =>
      refine List.pairwise_cons.mpr ⟨fun later found => ?_, ordered⟩
      cases found with
      | head => exact above
      | tail _ found => exact Nat.lt_trans above (first later found)
    next notAbove =>
      split
      next => exact List.pairwise_cons.mpr ⟨first, tail⟩
      next other =>
        refine List.pairwise_cons.mpr ⟨fun later found => ?_, ih tail⟩
        cases exists_of_mem_add found with
        | inl here =>
          rw [here]
          exact Nat.lt_of_le_of_ne (Nat.le_of_not_lt notAbove) (Ne.symm other)
        | inr old =>
          obtain ⟨old, inside, same⟩ := old
          rw [← same]
          exact first old inside

/-- The entries of a table are in the order of lines. -/
theorem pairwise_ofStream (stream : List Scanned) : (ofStream stream).Pairwise (·.1 < ·.1) := by
  induction stream with
  | nil => exact .nil
  | cons scanned stream ih => exact pairwise_add scanned.token ih

/-! ## Reading a table -/

/-- The tokens of a table, entry by entry, each with its line. -/
def toStream (table : TokenTable) : List (Nat × Token) :=
  table.flatMap fun (line, tokens) => tokens.map (line, ·)

theorem toStream_add {line : Nat} (token : Token) {table : TokenTable}
    (above : ∀ entry ∈ table, line ≤ entry.1) :
    (add line token table).toStream = (line, token) :: table.toStream := by
  cases table with
  | nil => rfl
  | cons entry table =>
    rw [add]
    split
    next => rfl
    next notAbove =>
      have here : line = entry.1 :=
        Nat.le_antisymm (above entry List.mem_cons_self) (Nat.le_of_not_lt notAbove)
      rw [if_pos here, here]
      rfl

/-- A table of a stream that goes down the source gives the stream back. -/
theorem toStream_ofStream {stream : List Scanned}
    (down : stream.Pairwise (·.position.line ≤ ·.position.line)) :
    (ofStream stream).toStream = stream.map fun scanned => (scanned.position.line, scanned.token) := by
  induction stream with
  | nil => rfl
  | cons scanned stream ih =>
    obtain ⟨first, tail⟩ := List.pairwise_cons.mp down
    have above : ∀ entry ∈ ofStream stream, scanned.position.line ≤ entry.1 := by
      intro entry found
      obtain ⟨later, inside, same⟩ := exists_line_of_mem_ofStream found
      rw [← same]
      exact first later inside
    have step := toStream_add scanned.token above
    rw [ih tail] at step
    exact step

/-! ## Listing -/

theorem listing_cons (line : Nat) (tokens : List Token) (table : TokenTable) :
    listing ((line, tokens) :: table) =
      label line ++ String.join (tokens.map item) ++ "\n" ++ table.listing := by
  rw [listing, List.map_cons, String.join_cons]
  rfl

/-- A line of output that has been begun goes on with the tokens of its line, and the rest of the
    stream is listed below it. -/
theorem label_append_listRest {line : Nat} {stream : List Scanned}
    (down : stream.Pairwise (·.position.line ≤ ·.position.line))
    (below : ∀ scanned ∈ stream, line ≤ scanned.position.line) {tokens : List Token}
    (nonempty : tokens ≠ []) :
    label line ++ String.join (tokens.map item) ++ Scanned.listRest (some line) stream =
      listing (tokens.foldr (add line) (ofStream stream)) := by
  induction stream generalizing line tokens with
  | nil =>
    rw [foldr_add_above (fun entry found => by cases found) nonempty, ofStream, List.foldr_nil,
      listing_cons]
    simp [Scanned.listRest, listing]
  | cons scanned stream ih =>
    obtain ⟨first, tail⟩ := List.pairwise_cons.mp down
    by_cases here : line = scanned.position.line
    · -- The token goes behind those that are there already, in the text and in the entry.
      have more := ih tail (here ▸ first) (List.append_ne_nil_of_left_ne_nil nonempty [scanned.token])
      simp only [List.map_append, String.join_append, List.map_cons, List.map_nil, String.join_cons,
        String.join_nil, String.append_empty, List.foldr_append, List.foldr_cons, List.foldr_nil] at more
      rw [Scanned.listRest, if_pos (by rw [here]), ofStream, List.foldr_cons, ← here]
      simp only [String.empty_append, String.append_assoc] at more ⊢
      exact more
    · have further : ∀ later ∈ scanned :: stream, line < later.position.line := by
        have next : line < scanned.position.line :=
          Nat.lt_of_le_of_ne (below scanned List.mem_cons_self) here
        exact List.forall_mem_cons.mpr
          ⟨next, fun later found => Nat.lt_of_lt_of_le next (first later found)⟩
      have above : ∀ entry ∈ ofStream (scanned :: stream), line < entry.1 := by
        intro entry found
        obtain ⟨later, inside, same⟩ := exists_line_of_mem_ofStream found
        rw [← same]
        exact further later inside
      have rest := ih tail first (List.cons_ne_nil scanned.token [])
      simp only [List.map_cons, List.map_nil, String.join_cons, String.join_nil,
        String.append_empty, List.foldr_cons, List.foldr_nil] at rest
      rw [foldr_add_above above nonempty, listing_cons, ofStream, List.foldr_cons, Scanned.listRest,
        if_neg (by simpa using here), Option.isSome_some, if_pos rfl]
      simp only [String.append_assoc] at rest ⊢
      rw [rest]
      rfl

theorem listing_ofStream {stream : List Scanned} (nonempty : stream ≠ [])
    (down : stream.Pairwise (·.position.line ≤ ·.position.line)) :
    (ofStream stream).listing = Scanned.listing stream := by
  cases stream with
  | nil => exact absurd rfl nonempty
  | cons scanned stream =>
    obtain ⟨first, tail⟩ := List.pairwise_cons.mp down
    have whole := label_append_listRest tail first (List.cons_ne_nil scanned.token [])
    simp only [List.map_cons, List.map_nil, String.join_cons, String.join_nil, String.append_empty,
      List.foldr_cons, List.foldr_nil] at whole
    rw [Scanned.listing, Scanned.listRest, if_neg (by simp), Option.isSome_none, if_neg (by simp),
      String.empty_append, whole]
    rfl

end TokenTable

/-! ## Sources -/

theorem line_le_of_scan (dialect : Dialect) (lines : List (List Char)) :
    (scan dialect lines).Pairwise (·.position.line ≤ ·.position.line) := by
  apply (Scanner.pairwise_position_tokens (Scanner.start dialect lines)).imp
  intro scanned later before
  simp only [Position.lt_iff] at before
  omega

theorem scan_ne_nil (dialect : Dialect) (lines : List (List Char)) : scan dialect lines ≠ [] := by
  rw [scan, Scanner.tokens_eq_items_append]
  exact List.concat_ne_nil _ _

namespace CommandLine

theorem output_runTokens (codecs : Encoding.Codecs) {disk : Disk} {path : String} {bytes : List UInt8}
    (file : disk path = .ok (.file bytes)) (encoding : Option Encoding) (dialect : Dialect) :
    (runTokens codecs disk { input := path, encoding, dialect }).output =
      Scanned.listing (scan dialect (Source.read codecs path encoding bytes).source.lines) := by
  have contents : disk.read path = .ok bytes := by
    rw [Disk.read, file]
    rfl
  simp only [runTokens, Option.getD_some, contents, Bool.false_eq_true, if_false, List.append_assoc]
  rw [Outcome.output_logs, List.map_append, String.join_append, Outcome.output_errors]
  simp [Event.outputText]

/-- The check of one file with its tokens writes the report and below it the table of the tokens. -/
theorem output_runCheck_tokens (codecs : Encoding.Codecs) {disk : Disk} {path : String}
    {bytes : List UInt8} (file : disk path = .ok (.file bytes)) (encoding : Option Encoding)
    {options : CheckRequest} {settings : Settings} (loaded : options.settings disk = .ok settings) :
    let report := check settings (Source.read codecs path encoding bytes).source
    (runCheck codecs disk { options with paths := [path], encoding, format := .text, tokens := true }).output =
      report.render ++ "\n" ++ report.tokens.listing ++ "\n" := by
  intro report
  have loaded' : ({ options with encoding, format := .text, tokens := true } : CheckRequest).settings
      disk = .ok settings := loaded
  have inputs : inputsOf disk options.recursive [path] = [(path, .ok bytes)] := by
    rw [inputsOf, List.flatMap_singleton, search, file]
    rfl
  refine (output_runCheck codecs loaded' (List.cons_ne_nil path [])).trans ?_
  rw [inputs, join_map_singleton]
  simp only [Input.report, reportText, if_true, String.append_assoc]
  rfl

end CommandLine

/-- A stream of tokens is listed in the same way whether it is listed as it comes or from the table of
    the report, which has the tokens of the stream in order, each under its line. So the command that
    lists the tokens of a file writes what the check of the file writes below its report if it is asked
    for the tokens. -/
theorem token_listings_agree (settings : Settings) (source : Source) :
    let stream := scan settings.dialect source.lines
    let report := check settings source
    Scanned.listing stream = report.tokens.listing ∧
      report.tokens.Pairwise (·.1 < ·.1) ∧
      report.tokens.flatMap (·.2) = stream.map (·.token) ∧
      report.tokens.toStream = stream.map (fun scanned => (scanned.position.line, scanned.token)) ∧
      ∀ (codecs : Encoding.Codecs) (disk : Disk) (path : String) (encoding : Option Encoding)
          (bytes : List UInt8),
        disk path = .ok (.file bytes) → (Source.read codecs path encoding bytes).source = source →
        let listed := CommandLine.runTokens codecs disk
          { input := path, encoding, dialect := settings.dialect }
        listed.output = report.tokens.listing ∧
        ∀ options : CommandLine.CheckRequest, options.settings disk = .ok settings →
          (CommandLine.runCheck codecs disk
              { options with paths := [path], encoding, format := .text, tokens := true }).output =
            report.render ++ "\n" ++ listed.output ++ "\n" := by
  intro stream report
  have down : stream.Pairwise (·.position.line ≤ ·.position.line) :=
    line_le_of_scan settings.dialect source.lines
  have listing : Scanned.listing stream = report.tokens.listing :=
    (TokenTable.listing_ofStream (scan_ne_nil settings.dialect source.lines) down).symm
  have whole : report.tokens.toStream =
      stream.map fun scanned => (scanned.position.line, scanned.token) :=
    TokenTable.toStream_ofStream down
  refine ⟨listing, TokenTable.pairwise_ofStream stream, ?_, whole, ?_⟩
  · have tokens := congrArg (List.map Prod.snd) whole
    simpa [TokenTable.toStream, List.map_flatMap, Function.comp_def] using tokens
  · intro codecs disk path encoding bytes file same listed
    subst same
    have output : listed.output = report.tokens.listing :=
      (CommandLine.output_runTokens codecs file encoding settings.dialect).trans listing
    refine ⟨output, fun options loaded => ?_⟩
    rw [output]
    exact CommandLine.output_runCheck_tokens codecs file encoding loaded

theorem token_listings_agree_symbol :
    let disk : Disk := FileTree.find (.directory [("a.pas", .file [0x61, 0x0a, 0x0a, 0x3f])])
    let source := (Source.read .ascii "a.pas" none [0x61, 0x0a, 0x0a, 0x3f]).source
    let listed := CommandLine.runTokens .ascii disk { input := some "a.pas" }
    disk "a.pas" = .ok (.file [0x61, 0x0a, 0x0a, 0x3f]) ∧ source.lines = [['a'], [], ['?']] ∧
      listed.output = "   1: 2\n   3: 0\n   4: 0\n" ∧
      (CommandLine.runCheck .ascii disk { paths := ["a.pas"], tokens := true }).output =
        (check {} source).render ++ "\n" ++ listed.output ++ "\n" := by
  intro disk source listed
  have file : FileTree.find (.directory [("a.pas", .file [0x61, 0x0a, 0x0a, 0x3f])]) "a.pas" =
      .ok (.file [0x61, 0x0a, 0x0a, 0x3f]) :=
    FileTree.find_directory (by decide +kernel) _
  have loaded : CommandLine.CheckRequest.settings {} disk = .ok {} := rfl
  obtain ⟨-, -, -, -, commands⟩ := token_listings_agree {} source
  obtain ⟨output, below⟩ := commands .ascii disk "a.pas" none _ file rfl
  exact ⟨file, by decide +kernel, output.trans (by decide +kernel), below {} loaded⟩

end PascalLint
