import PascalLint.Encoding.Basic
import PascalLint.Reserved

/-! # Arguments

A command line names one of two commands, and gives it options and paths in any order. Long
options take their value behind an equals sign or as the next argument, short ones also right
behind their letter, and short options without a value may be joined. Two hyphens by themselves
end the options. No option may be given twice.
-/

namespace PascalLint.CommandLine

/-! ## Invocations -/

/-- The forms of output. -/
inductive Format
  | text
  | json
deriving DecidableEq, Repr

/-- What is asked of the check of files. -/
structure CheckRequest where
  paths : List String := []
  recursive : Bool := false
  encoding : Option Encoding := none
  config : Option String := none
  pairedKeywords : Bool := false
  dialect : Option Dialect := none
  format : Format := .text
  tokens : Bool := false
deriving DecidableEq, Repr

/-- What is asked of the listing of tokens. -/
structure TokensRequest where
  input : Option String := none
  encoding : Option Encoding := none
  dialect : Dialect := .extended
  verbose : Bool := false
deriving DecidableEq, Repr

/-- What a command line asks for. -/
inductive Invocation
  | help
  | version
  | check (request : CheckRequest)
  | tokens (request : TokensRequest)
deriving DecidableEq, Repr

/-- What may be wrong with a command line. -/
inductive UsageError
  | noCommand
  | unknownCommand (name : String)
  | unknownOption (name : String)
  | repeatedOption (name : String)
  | missingValue (name : String)
  | unexpectedValue (name : String)
  | badValue (name value : String)
  | missingInput
  | extraArgument (value : String)
deriving DecidableEq, Repr

/-- The wording of an error. -/
def UsageError.message : UsageError → String
  | noCommand => "a command is required: check or tokens"
  | unknownCommand name => "unrecognized command: " ++ name
  | unknownOption name => "unexpected option: " ++ name
  | repeatedOption name => "option given more than once: " ++ name
  | missingValue name => "option without its value: " ++ name
  | unexpectedValue name => "option takes no value: " ++ name
  | badValue name value => "invalid value for " ++ name ++ ": " ++ value
  | missingInput => "an input file is required"
  | extraArgument value => "unexpected argument: " ++ value

/-! ## Options -/

/-- The options of both commands. -/
inductive Flag
  | help
  | recursive
  | encoding
  | config
  | pairedKeywords
  | dialect
  | format
  | tokens
  | verbose
deriving DecidableEq, Repr

namespace Flag

/-- The long name of an option, without its hyphens. -/
def long : Flag → String
  | help => "help"
  | recursive => "recursive"
  | encoding => "encoding"
  | config => "config"
  | pairedKeywords => "paired-keywords"
  | dialect => "dialect"
  | format => "format"
  | tokens => "tokens"
  | verbose => "verbose"

/-- The letter of an option, if it has one. -/
def short? : Flag → Option Char
  | help => some 'h'
  | recursive => some 'r'
  | format => some 'f'
  | verbose => some 'v'
  | encoding | config | pairedKeywords | dialect | tokens => none

/-- Holds of the options that take a value. -/
def takesValue : Flag → Bool
  | encoding | config | dialect | format => true
  | help | recursive | pairedKeywords | tokens | verbose => false

/-- An option as it is written. -/
def written (flag : Flag) : String :=
  "--" ++ flag.long

/-- The options of the check of files. -/
def ofCheck : List Flag :=
  [help, recursive, encoding, config, pairedKeywords, dialect, format, tokens]

/-- The options of the listing of tokens. -/
def ofTokens : List Flag :=
  [help, encoding, dialect, verbose]

end Flag

/-! ## Items

Arguments are first taken apart into options with their values and positional arguments. What is
not well formed becomes an item too, because an option before it may make it irrelevant. -/

/-- A piece of a command line. -/
inductive Item
  | option (flag : Flag) (value : Option String)
  | positional (value : String)
  | bad (error : UsageError)
deriving DecidableEq, Repr

/-- Holds of arguments that cannot be the value of an option before them. -/
def looksLikeOption (argument : String) : Bool :=
  argument.startsWith "-" && argument != "-"

/-- The items in the letters behind a hyphen, and the option that waits for its value. -/
def readLetters (flags : List Flag) : List Char → List Item × Option Flag
  | [] => ([], none)
  | letter :: rest =>
    match flags.find? (·.short? == some letter) with
    | none => ([.bad (.unknownOption (String.ofList ['-', letter]))], none)
    | some flag =>
      if flag.takesValue then
        match rest with
        | [] => ([], some flag)
        | '=' :: value => ([.option flag (some (String.ofList value))], none)
        | value => ([.option flag (some (String.ofList value))], none)
      else
        let (items, waiting) := readLetters flags rest
        (.option flag none :: items, waiting)

/-- The items in what is behind two hyphens, and the option that waits for its value. -/
def readLong (flags : List Flag) (text : List Char) : List Item × Option Flag :=
  let name := String.ofList (text.takeWhile (· != '='))
  let value := match text.dropWhile (· != '=') with
    | [] => none
    | _ :: value => some (String.ofList value)
  match flags.find? (·.long == name), value with
  | none, _ => ([.bad (.unknownOption ("--" ++ name))], none)
  | some flag, none => if flag.takesValue then ([], some flag) else ([.option flag none], none)
  | some flag, some value =>
    if flag.takesValue then ([.option flag (some value)], none)
    else ([.bad (.unexpectedValue flag.written)], none)

/-- The items in an argument, and the option that waits for its value. -/
def readArgument (flags : List Flag) (argument : String) : List Item × Option Flag :=
  match argument.toList with
  | '-' :: '-' :: text => readLong flags text
  | '-' :: letter :: letters => readLetters flags (letter :: letters)
  | _ => ([.positional argument], none)

/-- The items in some arguments, before which an option may wait for its value. -/
def items (flags : List Flag) : Option Flag → List String → List Item
  | none, [] => []
  | some flag, [] => [.bad (.missingValue flag.written)]
  | some flag, argument :: rest =>
    if looksLikeOption argument then [.bad (.missingValue flag.written)]
    else .option flag (some argument) :: items flags none rest
  | none, argument :: rest =>
    if argument = "--" then rest.map .positional
    else
      let (found, waiting) := readArgument flags argument
      found ++ items flags waiting rest

/-! ## Requests -/

/-- A path, which is not empty. -/
def readPath (name value : String) : Except UsageError String :=
  if value.isEmpty then .error (.badValue name value) else .ok value

/-- The encoding with the given label. -/
def readEncoding (label : String) : Except UsageError Encoding :=
  match Encoding.ofLabel? label with
  | some encoding => .ok encoding
  | none => .error (.badValue Flag.encoding.written (label ++ ": unknown encoding"))

/-- The dialect with the given name. -/
def readDialect (name : String) : Except UsageError Dialect :=
  match Dialect.ofName? name with
  | some dialect => .ok dialect
  | none => .error (.badValue Flag.dialect.written name)

/-- The form of output with the given name. -/
def readFormat (name : String) : Except UsageError Format :=
  if name = "text" then .ok .text
  else if name = "json" then .ok .json
  else .error (.badValue Flag.format.written name)

namespace CheckRequest

/-- Sets an option. -/
def set (request : CheckRequest) : Flag → Option String → Except UsageError CheckRequest
  | .recursive, none => .ok { request with recursive := true }
  | .pairedKeywords, none => .ok { request with pairedKeywords := true }
  | .tokens, none => .ok { request with tokens := true }
  | .encoding, some value =>
    (readEncoding value).map fun encoding => { request with encoding := some encoding }
  | .config, some value =>
    (readPath Flag.config.written value).map fun path => { request with config := some path }
  | .dialect, some value =>
    (readDialect value).map fun dialect => { request with dialect := some dialect }
  | .format, some value => (readFormat value).map fun format => { request with format }
  | flag, _ => .error (.unknownOption flag.written)

/-- Adds a path. -/
def place (request : CheckRequest) (value : String) : Except UsageError CheckRequest :=
  (readPath "[PATHS]" value).map fun path => { request with paths := request.paths ++ [path] }

/-- The paths to check; without any, the current directory. -/
def targets (request : CheckRequest) : List String :=
  if request.paths.isEmpty then ["."] else request.paths

end CheckRequest

namespace TokensRequest

/-- Sets an option. -/
def set (request : TokensRequest) : Flag → Option String → Except UsageError TokensRequest
  | .verbose, none => .ok { request with verbose := true }
  | .encoding, some value =>
    (readEncoding value).map fun encoding => { request with encoding := some encoding }
  | .dialect, some value => (readDialect value).map fun dialect => { request with dialect }
  | flag, _ => .error (.unknownOption flag.written)

/-- Sets the input file, of which there is one only. -/
def place (request : TokensRequest) (value : String) : Except UsageError TokensRequest :=
  match request.input with
  | some _ => .error (.extraArgument value)
  | none => (readPath "<INPUT>" value).map fun path => { request with input := some path }

end TokensRequest

/-- Follows the items of a command line, given the options that have been set. An item that is
    not well formed is an error, unless help is asked for before it; then there is no request. -/
def follow {α : Type} (set : α → Flag → Option String → Except UsageError α)
    (place : α → String → Except UsageError α) (seen : List Flag) (request : α) :
    List Item → Except UsageError (Option α)
  | [] => .ok (some request)
  | .bad error :: _ => .error error
  | .positional value :: rest => do follow set place seen (← place request value) rest
  | .option .help _ :: _ => .ok none
  | .option flag value :: rest =>
    if seen.contains flag then .error (.repeatedOption flag.written)
    else do follow set place (flag :: seen) (← set request flag value) rest

/-! ## Command lines -/

/-- What the arguments of the check of files ask for. -/
def parseCheck (arguments : List String) : Except UsageError Invocation := do
  match ← follow CheckRequest.set CheckRequest.place [] {} (items Flag.ofCheck none arguments) with
  | none => .ok .help
  | some request => .ok (.check request)

/-- What the arguments of the listing of tokens ask for. -/
def parseTokens (arguments : List String) : Except UsageError Invocation := do
  match ← follow TokensRequest.set TokensRequest.place [] {}
      (items Flag.ofTokens none arguments) with
  | none => .ok .help
  | some request =>
    if request.input.isSome then .ok (.tokens request) else .error .missingInput

/-- What the arguments of the request for help ask for. -/
def parseHelp : List String → Except UsageError Invocation
  | [] | ["check"] | ["tokens"] | ["help"] => .ok .help
  | name :: _ => .error (.unknownCommand name)

/-- What an option before the command asks for. -/
def parseOption (argument : String) : Except UsageError Invocation :=
  match argument.toList with
  | '-' :: 'h' :: _ => .ok .help
  | '-' :: 'V' :: _ => .ok .version
  | _ =>
    if argument = "--help" then .ok .help
    else if argument = "--version" then .ok .version
    else .error (.unknownOption argument)

/-- What a command line asks for. -/
def parse : List String → Except UsageError Invocation
  | [] => .error .noCommand
  | "check" :: rest => parseCheck rest
  | "tokens" :: rest => parseTokens rest
  | "help" :: rest => parseHelp rest
  | argument :: _ =>
    if argument.startsWith "-" then parseOption argument else .error (.unknownCommand argument)

end PascalLint.CommandLine
