import PascalLint.CommandLine.Arguments
import PascalLint.CommandLine.Outcome
import PascalLint.FileTree
import PascalLint.Settings.Document
import PascalLint.Summary

/-! # Commands

The two commands, as functions from what paths name to an outcome. The check of files goes through
the paths in the order in which they are given. A directory stands for the Pascal files in it, in
the order of their names, and if asked for also for those in the directories below. A file that
cannot be read is skipped, and so is a directory whose entries cannot be listed; neither makes the
check fail. The check fails if any file has a diagnostic.
-/

namespace PascalLint.CommandLine

/-! ## Finding files -/

/-- Holds of the names of Pascal files: after the last point, which is not the first character,
    they end in the letters of the language's short name. -/
def isPascalName (name : String) : Bool :=
  match name.toList.reverse with
  | s :: a :: p :: '.' :: _ :: _ => [p, a, s].map Char.toLower == ['p', 'a', 's']
  | _ => false

/-- The path of an entry of a directory. -/
def entryPath (path name : String) : String :=
  if path.endsWith "/" then path ++ name else path ++ "/" ++ name

/-- A file to check: its path and its contents, or why it cannot be read. -/
abbrev Input := String × Except ReadError (List UInt8)

/-- What the search for files comes across. -/
inductive Found
  | input (file : Input)
  /-- A directory whose entries cannot be listed. -/
  | unlistable (path : String) (error : ReadError)

namespace Found

/-- The file to check, if it is one. -/
def input? : Found → Option Input
  | input file => some file
  | unlistable _ _ => none

/-- The message about a directory whose entries cannot be listed. -/
def message? : Found → Option Log.Message
  | input _ => none
  | unlistable path error =>
    some ⟨.warn, .check, "IO error for operation on " ++ path ++ ": " ++ error.message⟩

end Found

mutual

/-- What there is under an entry of a directory: a Pascal file, or if `deep` is set what is below a
    directory. -/
def filesOfEntry (deep : Bool) (path name : String) : FileTree → List Found
  | .file contents => if isPascalName name then [.input (path, .ok contents)] else []
  | .unreadable error => if isPascalName name then [.input (path, .error error)] else []
  | .directory entries => if deep then filesOfEntries deep path entries else []
  | .unlistable error => if deep then [.unlistable path error] else []

/-- What there is under the entries of a directory, in their order. -/
def filesOfEntries (deep : Bool) (path : String) : List (String × FileTree) → List Found
  | [] => []
  | (name, tree) :: rest =>
    filesOfEntry deep (entryPath path name) name tree ++ filesOfEntries deep path rest

end

/-- What a path stands for. What is not a directory is a file to check, even if it is not there. -/
def search (disk : Disk) (deep : Bool) (path : String) : List Found :=
  match disk path with
  | .ok (.file contents) => [.input (path, .ok contents)]
  | .ok (.unreadable error) | .error error => [.input (path, .error error)]
  | .ok (.directory entries) => filesOfEntries deep path entries
  | .ok (.unlistable error) => [.unlistable path error]

/-! ## Settings -/

/-- Why settings cannot be had. -/
inductive ConfigError
  | unreadable (path : String) (error : ReadError)
  | invalid (path : String) (error : SettingsError)
deriving DecidableEq, Repr

/-- Reads the settings document that a path names. -/
def loadSettings (disk : Disk) (path : String) : Except ConfigError Settings :=
  match disk.read path with
  | .error error => .error (.unreadable path error)
  | .ok bytes =>
    match Encoding.decodeStrict? bytes with
    | none => .error (.unreadable path .notUtf8)
    | some text =>
      match Settings.parse text with
      | .ok settings => .ok settings
      | .error error => .error (.invalid path error)

namespace CheckRequest

/-- The settings of a check: those of the document, if one is named, as changed by options. -/
def settings (request : CheckRequest) (disk : Disk) : Except ConfigError Settings :=
  let base := match request.config with
    | some path => loadSettings disk path
    | none => .ok {}
  base.map fun base =>
    { dialect := request.dialect.getD base.dialect
      checks :=
        if request.pairedKeywords then { base.checks with pairedKeywords := true }
        else base.checks }

end CheckRequest

/-! ## The check of files -/

/-- The name of a file that cannot be read, and the reason. -/
def readFailure (path : String) (error : ReadError) : String :=
  path ++ ": " ++ error.message

/-- What is written when a command cannot do its work. -/
def failure (path : String) (error : ReadError) : Outcome :=
  ⟨[.error ("Error: " ++ readFailure path error ++ "\n\nCaused by:\n    " ++ error.message ++ "\n")],
    1⟩

/-- The outcome of a check whose settings cannot be had. -/
def configFailure : ConfigError → Outcome
  | .unreadable path error => failure path error
  | .invalid path error =>
    ⟨[.error ("Error: " ++ path ++ ": TOML parse error\n" ++ error.message ++ "\n")], 1⟩

/-- The outcome of several commands one after the other. -/
def sequence (outcomes : List Outcome) : Outcome :=
  ⟨outcomes.flatMap (·.events), (outcomes.map (·.status)).foldl max 0⟩

/-- What the check of a file writes. -/
def reportText (request : CheckRequest) (report : Report) : String :=
  match request.format with
  | .text =>
    let listing := if request.tokens then "\n" ++ report.tokens.listing else ""
    report.render ++ listing ++ "\n"
  | .json => (report.summary request.tokens).toJson.render ++ "\n"

section Check

variable (codecs : Encoding.Codecs)

/-- The outcome of the check of a file. -/
def checkInput (request : CheckRequest) (settings : Settings) : Input → Outcome
  | (path, .error error) =>
    ⟨[.log ⟨.warn, .check, "skipping " ++ path⟩, .error (readFailure path error ++ "\n")], 0⟩
  | (path, .ok bytes) =>
    let reading := Source.read codecs path request.encoding bytes
    let report := check settings reading.source
    let messages := reading.messages ++ report.messages settings
      ++ [⟨.info, .check, path ++ ": " ++ toString report.findings.count ++ " error(s)"⟩]
    ⟨messages.map .log ++ [.output (reportText request report)],
      if report.hasErrors then 1 else 0⟩

/-- The outcome of the check of some files. -/
def checkInputs (request : CheckRequest) (settings : Settings) (inputs : List Input) : Outcome :=
  let none : Outcome := ⟨[.log ⟨.warn, .check, "no `.pas` files found"⟩], 0⟩
  if inputs.isEmpty then none else sequence (inputs.map (checkInput codecs request settings))

/-- The outcome of the check of what a search has found. The search is over when the first file is
    read. -/
def checkFound (request : CheckRequest) (settings : Settings) (found : List Found) : Outcome :=
  let outcome := checkInputs codecs request settings (found.filterMap Found.input?)
  { outcome with events := (found.filterMap Found.message?).map .log ++ outcome.events }

/-- The check of files. -/
def runCheck (disk : Disk) (request : CheckRequest) : Outcome :=
  match request.settings disk with
  | .error error => configFailure error
  | .ok settings =>
    checkFound codecs request settings (request.targets.flatMap (search disk request.recursive))

end Check

/-! ## The listing of tokens -/

/-- The listing of the tokens of a file. -/
def runTokens (codecs : Encoding.Codecs) (disk : Disk) (request : TokensRequest) : Outcome :=
  let path := request.input.getD ""
  match disk.read path with
  | .error error => failure path error
  | .ok bytes =>
    let reading := Source.read codecs path request.encoding bytes
    let stream := scan request.dialect reading.source.lines
    let listing := if request.verbose then Scanned.longListing stream else Scanned.listing stream
    let diagnostics := (Findings.ofList (lexicalDiagnostics stream)).all
    ⟨reading.messages.map .log ++ [.output listing]
      ++ diagnostics.map (fun diagnostic => .error (diagnostic.render ++ "\n")), 0⟩

/-! ## Invocations -/

/-- What the request for the version writes. -/
def versionText : String := "pasdiag 0.1.0\n"

/-- What the request for help writes. -/
def helpText : String :=
  "Diagnostics for Pascal source files\n\n"
    ++ "Usage: pasdiag check [OPTIONS] [PATHS]...\n"
    ++ "       pasdiag tokens [OPTIONS] <INPUT>\n\n"
    ++ "Options of check:\n"
    ++ "  -r, --recursive          search subdirectories too\n"
    ++ "      --encoding LABEL     the encoding of the files\n"
    ++ "      --config FILE        a settings file, in TOML format\n"
    ++ "      --paired-keywords    check keywords that come in pairs\n"
    ++ "      --dialect DIALECT    standard or extended\n"
    ++ "  -f, --format FORMAT      text or json\n"
    ++ "      --tokens             also show the token codes for each line\n\n"
    ++ "Options of tokens:\n"
    ++ "      --encoding LABEL     the encoding of the file\n"
    ++ "      --dialect DIALECT    standard or extended\n"
    ++ "  -v, --verbose            show the position and name of each token\n"

/-- The paths that an invocation looks at. -/
def Invocation.paths : Invocation → List String
  | help | version => []
  | check request => request.config.toList ++ request.targets
  | tokens request => request.input.toList

/-- Holds if an invocation looks below the directories in a directory. -/
def Invocation.isDeep : Invocation → Bool
  | check request => request.recursive
  | help | version | tokens _ => false

/-- Runs what is asked for. -/
def Invocation.run (codecs : Encoding.Codecs) (disk : Disk) : Invocation → Outcome
  | help => .ofOutput helpText
  | version => .ofOutput versionText
  | check request => runCheck codecs disk request
  | tokens request => runTokens codecs disk request

/-- The outcome of a command line that is not understood. -/
def usageFailure (error : UsageError) : Outcome :=
  ⟨[.error ("error: " ++ error.message ++ "\n\nFor more information, try '--help'.\n")], 2⟩

/-- Runs a command line. -/
def runWith (codecs : Encoding.Codecs) (disk : Disk) (arguments : List String) : Outcome :=
  match parse arguments with
  | .error error => usageFailure error
  | .ok invocation => invocation.run codecs disk

end PascalLint.CommandLine
