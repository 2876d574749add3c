import GrammarLex.Text.Feed

/-!
# File trees

A file tree is a directory with files in it, some of them inside further directories. A path is
walked part by part from the top of the tree. Every part but the last has to lead into a directory,
and a slash at the end asks for a directory as well. Nothing is known of the directories above the
top but that they are there: no name is found in them.
-/
namespace GrammarLex

inductive FileError where
  | notFound
  | notDirectory
  -- The path leads to a directory, which holds no bytes.
  | isDirectory
  -- A part of the path is longer than any name, or the path is longer than any path.
  | nameTooLong
  -- The path holds the character that ends paths.
  | nulInPath
  | notText
  deriving DecidableEq, Repr

def FileError.message : FileError → String
  | .notFound => "No such file or directory (os error 2)"
  | .notDirectory => "Not a directory (os error 20)"
  | .isDirectory => "Is a directory (os error 21)"
  | .nameTooLong => "File name too long (os error 36)"
  | .nulInPath => "file name contained an unexpected NUL byte"
  | .notText => "stream did not contain valid UTF-8"

/-- Files by the parts of their paths. Directories exist as far as files are in them; others are
listed. -/
structure FileTree where
  files : List (List String × List UInt8) := []
  directories : List (List String) := []
  deriving Repr

inductive FileNode where
  | file (bytes : List UInt8)
  | directory
  deriving DecidableEq, Repr

namespace FileTree

def parts (path : String) : List String := (path.toList.splitOn '/').map String.ofList

/-- What lies at a place, given by the parts of its path from the top. -/
def at? (tree : FileTree) (place : List String) : Option FileNode :=
  match tree.files.lookup place with
  | some bytes => some (.file bytes)
  | none =>
    let holds (inner : List String) : Bool := place.isPrefixOf inner
    if place.isEmpty || tree.directories.any holds || tree.files.any fun (inner, _) => holds inner
    then some .directory
    else none

def longestName : Nat := 255

/-- Longest path, in bytes. A longer one is refused before it is walked. -/
def longestPath : Nat := 4095

/-- Walk the parts of a path. The place reached so far is given with its innermost part first; it is
`none` above the top. -/
def walk (tree : FileTree) (place : Option (List String)) : List String → Except FileError FileNode
  | [] =>
    match place with
    | none => .ok .directory
    | some place =>
      match tree.at? place.reverse with
      | some node => .ok node
      | none => .error .notFound
  | part :: rest =>
    match place with
    | none => if part = ".." ∨ part = "." ∨ part = "" then walk tree none rest else .error .notFound
    | some place =>
      match tree.at? place.reverse with
      | none => .error .notFound
      | some (.file _) => .error .notDirectory
      | some .directory =>
        if part = "" ∨ part = "." then walk tree (some place) rest
        else if part = ".." then
          -- The way back leads out of the directory that has been reached, so it must exist.
          match place with
          | [] => walk tree none rest
          | _ :: outer => walk tree (some outer) rest
        else if part.utf8ByteSize > longestName then .error .nameTooLong
        else walk tree (some (part :: place)) rest

def locate (tree : FileTree) (path : String) : Except FileError FileNode :=
  if path.contains '\x00' then .error .nulInPath
  else if path.isEmpty then .error .notFound
  else if path.utf8ByteSize > longestPath then .error .nameTooLong
  else tree.walk (if path.startsWith "/" then none else some []) (parts path)

def contains (tree : FileTree) (path : String) : Bool := (tree.locate path).isOk

/-- Open a file. A directory can be opened too, but every read of it fails. -/
def openFeed (tree : FileTree) (path : String) : Except FileError Feed := do
  match ← tree.locate path with
  | .file bytes => return .ofBytes bytes
  | .directory => return ⟨[.failed FileError.isDirectory.message], 0⟩

def readText (tree : FileTree) (path : String) : Except FileError String := do
  match ← tree.locate path with
  | .directory => throw .isDirectory
  | .file bytes =>
    match String.fromUTF8? ⟨bytes.toArray⟩ with
    | some text => return text
    | none => throw .notText

end FileTree

/-- The path of something below a directory. An absolute path stands for itself. -/
def joinPath (directory path : String) : String :=
  if path.startsWith "/" then path
  else if directory.isEmpty || directory.endsWith "/" then directory ++ path
  else directory ++ "/" ++ path

end GrammarLex
