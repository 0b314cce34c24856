import OverpassQuery.Submission.Error
import OverpassQuery.Text.Utf8

/-!
# Storage

What a program needs of a file system: to ask whether there is a file under a
path, to read it, and to write it. `FileTree` is a file system held as data, in
which a run can be rehearsed and reasoned about: directories, files with their
contents, and the directory that relative paths start from.
-/

set_option autoImplicit false

namespace OverpassQuery

/-- The file operations that a program uses. -/
structure Storage (m : Type → Type) where
  isFile : String → m Bool
  read : String → m (Except FileError Bytes)
  write : String → Bytes → m (Except FileError Unit)

/-- The names from the root to a file or directory. -/
abbrev FilePath := List String

/-- A file system held as data. -/
structure FileTree where
  directories : List FilePath
  files : List (FilePath × Bytes)
  workingDirectory : FilePath

namespace FileTree

/-- The greatest number of bytes in a name. -/
def maxNameBytes : Nat := 255

/-- Whether there is a directory at a place; the root always is one. -/
def isDirectory (tree : FileTree) (place : FilePath) : Bool :=
  place = [] || tree.directories.contains place

/-- The content of the file at a place. -/
def content? (tree : FileTree) (place : FilePath) : Option Bytes := tree.files.lookup place

/-- The names of a path, with an empty one for each doubled or final slash. -/
def names (path : String) : List String :=
  (path.toList.splitOn '/').map String.ofList

/-- The place that a list of names leads to. All but the last must be directories. -/
def walk (tree : FileTree) (place : FilePath) : List String → Except FileError FilePath
  | [] => .ok place
  | name :: rest =>
      if tree.isDirectory place then
        if name = "" ∨ name = "." then walk tree place rest
        else if name = ".." then walk tree place.dropLast rest
        else if maxNameBytes < (Utf8.encode name).length then .error .invalidName
        else walk tree (place ++ [name]) rest
      else if (tree.content? place).isSome then .error .notADirectory
      else .error .notFound

/-- The greatest number of bytes in a path. -/
def maxPathBytes : Nat := 4095

/-- The place that the names of a path lead to. -/
def follow (tree : FileTree) (path : String) (steps : List String) : Except FileError FilePath :=
  if path = "" then .error .notFound
  else if path.toList.contains '\x00' then .error .invalidInput
  else if maxPathBytes < (Utf8.encode path).length then .error .invalidName
  else walk tree (if path.toList.head? = some '/' then [] else tree.workingDirectory) steps

/-- The place that a path leads to. -/
def locate (tree : FileTree) (path : String) : Except FileError FilePath :=
  tree.follow path (names path)

/-- Whether a path leads to a file. -/
def isFile (tree : FileTree) (path : String) : Bool :=
  match tree.locate path with
  | .ok place => (tree.content? place).isSome
  | .error _ => false

/-- The content of the file that a path leads to. -/
def read (tree : FileTree) (path : String) : Except FileError Bytes := do
  let place ← tree.locate path
  if tree.isDirectory place then .error .isADirectory
  else
    match tree.content? place with
    | some content => .ok content
    | none => .error .notFound

/-- A tree with a file at a place, in the stead of the one that was there. -/
def put (tree : FileTree) (place : FilePath) (content : Bytes) : FileTree :=
  { tree with files := (place, content) :: tree.files.filter (·.1 ≠ place) }

/-- The names of a path without empty ones at its end. -/
def namesToLast (path : String) : List String :=
  ((names path).reverse.dropWhile (· = "")).reverse

/-- The tree after a file is written. Its directory must exist. A path with a slash at its
end can only mean a directory. -/
def write (tree : FileTree) (path : String) (content : Bytes) : Except FileError FileTree := do
  let place ← tree.follow path (namesToLast path)
  if tree.isDirectory place ∨ path.toList.getLast? = some '/' then .error .isADirectory
  else .ok (tree.put place content)

/-- The operations on a file tree inside a larger state. -/
def storage {State : Type} (tree : State → FileTree) (withTree : State → FileTree → State) :
    Storage (StateM State) where
  isFile path := return (tree (← get)).isFile path
  read path := return (tree (← get)).read path
  write path content := do
    let state ← get
    match (tree state).write path content with
    | .ok tree =>
        set (withTree state tree)
        return .ok ()
    | .error cause => return .error cause

end FileTree

end OverpassQuery
