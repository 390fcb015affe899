import PascalLint.Text.Search

/-! # Trees of files

Files and directories as a value, and what a path names in them. The entries of a directory are
kept in the order of their names. Files and directories may refuse to be opened. A path is taken apart
at its slashes; empty parts and single points stay where they are, but only a directory that can be
opened has parts below it. Nothing is above the root.
-/

namespace PascalLint

/-- Why a file cannot be read. -/
inductive ReadError
  | notFound
  | denied
  | notADirectory
  | isADirectory
  | notUtf8
  | other (text : String)
deriving DecidableEq, Repr

/-- The wording of an error. -/
def ReadError.message : ReadError → String
  | notFound => "No such file or directory (os error 2)"
  | denied => "Permission denied (os error 13)"
  | notADirectory => "Not a directory (os error 20)"
  | isADirectory => "Is a directory (os error 21)"
  | notUtf8 => "stream did not contain valid UTF-8"
  | other text => text

/-- What there may be under a name. -/
inductive FileTree
  | file (contents : List UInt8)
  /-- A file that cannot be opened. -/
  | unreadable (error : ReadError)
  /-- A directory with its entries in the order of their names. -/
  | directory (entries : List (String × FileTree))
  /-- A directory that cannot be opened, neither to list its entries nor on the way to one of them. -/
  | unlistable (error : ReadError)

namespace FileTree

/-! ## Building -/

/-- The directory without entries. -/
def empty : FileTree := .directory []

/-- The entries of a directory. Of others none are known. -/
def entries : FileTree → List (String × FileTree)
  | directory entries => entries
  | file _ | unreadable _ | unlistable _ => []

/-- Gives a name to a tree among entries, in place of what had the name before. -/
def insertEntry (name : String) (tree : FileTree) :
    List (String × FileTree) → List (String × FileTree)
  | [] => [(name, tree)]
  | (other, old) :: rest =>
    if name < other then (name, tree) :: (other, old) :: rest
    else if name = other then (name, tree) :: rest
    else (other, old) :: insertEntry name tree rest

/-- Puts a file, or if there are no contents a directory, where a list of names leads. Directories
    are made as needed, and a directory that is there already is kept. -/
def put (contents : Option (List UInt8)) : List String → FileTree → FileTree
  | [], tree =>
    match contents with
    | some contents => .file contents
    | none => .directory tree.entries
  | name :: names, tree =>
    let inner := (tree.entries.lookup name).getD empty
    .directory (insertEntry name (put contents names inner) tree.entries)

/-! ## Paths -/

/-- The parts of a path. -/
def parts (path : String) : List String :=
  (Text.splitOn '/' path.toList).map String.ofList

/-- Holds of the parts that stay where they are. -/
def isIdle (part : String) : Bool :=
  part == "" || part == "."

/-- What the parts of a path lead to from a tree, above which are the given directories, the
    nearest first. -/
def follow (above : List FileTree) (tree : FileTree) : List String → Except ReadError FileTree
  | [] => .ok tree
  | part :: rest =>
    match tree with
    | .file _ | .unreadable _ => .error .notADirectory
    | .unlistable error => if part = "" then follow above tree rest else .error error
    | .directory entries =>
      if isIdle part then follow above tree rest
      else if part = ".." then
        match above with
        | [] => .error .notFound
        | parent :: above => follow above parent rest
      else
        match entries.lookup part with
        | none => .error .notFound
        | some child => follow (tree :: above) child rest

/-- What a path names. -/
def find (root : FileTree) (path : String) : Except ReadError FileTree :=
  if path = "" || path.startsWith "/" then .error .notFound
  else follow [] root (parts path)

/-- The name of an entry is a path of one part that neither stays where it is nor leads upwards. -/
def IsName (name : String) : Prop :=
  parts name = [name] ∧ isIdle name = false ∧ name ≠ ".." ∧ name.startsWith "/" = false
deriving Decidable

/-- A name leads to the entry of the directory that has the name. -/
theorem find_directory {name : String} (isName : IsName name)
    (entries : List (String × FileTree)) :
    find (.directory entries) name = match entries.lookup name with
      | none => .error .notFound
      | some child => .ok child := by
  obtain ⟨single, ordinary, inner, relative⟩ := isName
  have named : name ≠ "" := by
    rintro rfl
    cases ordinary
  rw [find, relative, if_neg (by simpa using named), single, follow, ordinary,
    if_neg Bool.false_ne_true, if_neg inner]
  cases entries.lookup name <;> rfl

/-- Adds a file, or a directory if there are no contents or the path ends in a slash. -/
def add (root : FileTree) (path : String) (contents : Option (List UInt8)) : FileTree :=
  let contents := if path.endsWith "/" then none else contents
  put contents ((parts path).filter (!isIdle ·)) root

/-- The contents of a file. -/
def contents : FileTree → Except ReadError (List UInt8)
  | file contents => .ok contents
  | directory _ => .error .isADirectory
  | unreadable error | unlistable error => .error error

end FileTree

/-- What paths name. -/
abbrev Disk := String → Except ReadError FileTree

/-- The contents of the file that a path names. -/
def Disk.read (disk : Disk) (path : String) : Except ReadError (List UInt8) :=
  disk path >>= FileTree.contents

end PascalLint
