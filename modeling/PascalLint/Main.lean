import PascalLint.CommandLine.Run

/-! # The program

Reads what the paths of the command line name into memory, runs the command on it, and writes the
outcome.
-/

namespace PascalLint.Main

/-- Why a file could not be read. -/
def readError : IO.Error → ReadError
  | .noFileOrDirectory .. | .noSuchThing .. => .notFound
  | .permissionDenied _ 13 _ => .denied
  | .inappropriateType _ 20 _ => .notADirectory
  | .inappropriateType _ 21 _ => .isADirectory
  | error => .other (toString error)

/-- What is listed under a path: the names in a directory, or why it cannot be listed; none if it is no
    directory. -/
def listDirectory (path : String) : IO (Option (Except ReadError (List String))) := do
  let place := (← IO.currentDir) / path
  if ← place.isDir then
    try
      let entries ← place.readDir
      pure (some (.ok (entries.toList.map (·.fileName))))
    catch error => pure (some (.error (readError error)))
  else pure none

/-- Holds if a path is a link, which a search does not follow. -/
def isLink (path : String) : IO Bool := do
  let place := (← IO.currentDir) / path
  try pure ((← place.symlinkMetadata).type == .symlink) catch _ => pure false

/-- What a path names. What is below the directories of a directory is left out unless `deep` is
    set. -/
partial def load (deep : Bool) (path : String) : IO (Except ReadError FileTree) := do
  match ← listDirectory path with
  | none =>
    try
      let contents ← IO.FS.readBinFile path
      pure (.ok (.file contents.toList))
    catch error => pure (.error (readError error))
  | some (.error error) => pure (.ok (.unlistable error))
  | some (.ok names) =>
    let mut entries := []
    for name in names do
      let below := CommandLine.entryPath path name
      unless ← isLink below do
        let isDirectory := (← listDirectory below).isSome
        let inner ← if isDirectory && !deep then pure (.ok .empty) else load deep below
        let tree := match inner with
          | .ok tree => tree
          | .error error => .unreadable error
        entries := FileTree.insertEntry name tree entries
    pure (.ok (.directory entries))

/-- What some paths name. -/
def loadAll (deep : Bool) (paths : List String) : IO Disk := do
  let mut found : List (String × Except ReadError FileTree) := []
  for path in paths do
    found := (path, ← load deep path) :: found
  let disk := found
  pure fun path => (disk.lookup path).getD (.error .notFound)

/-- The filter for log messages that the environment asks for, and what is wrong with it. -/
def logFilter : IO (Log.Filter × List String) := do
  match ← IO.getEnv "RUST_LOG" with
  | some text => pure (Log.Filter.parse text.toList)
  | none => pure (.errorsOnly, [])

/-- Runs a command line on the files of the machine. -/
def run (arguments : List String) : IO UInt32 := do
  let (filter, problems) ← logFilter
  IO.eprint (CommandLine.filterWarnings problems)
  let (deep, paths) := match CommandLine.parse arguments with
    | .ok invocation => (invocation.isDeep, invocation.paths)
    | .error _ => (false, [])
  let outcome := CommandLine.run (← loadAll deep paths) arguments
  for event in outcome.events do
    IO.print event.outputText
    IO.eprint (event.errorText filter)
  pure outcome.status.toUInt32

end PascalLint.Main

def main (arguments : List String) : IO UInt32 :=
  PascalLint.Main.run arguments
