import Dispatch.Dict
import Dispatch.Diagnostic
import Dispatch.Files.Path

/-!
# Files

A file system as the program sees it: files and directories at places, and a working directory. A
place is the list of names from the root. Reading, writing and making directories fail for the
reasons and with the words of the operating system.
-/

namespace Dispatch

/-! ## 1. Failures -/

/-- Why the operating system refuses. -/
inductive OsError where
  | notFound
  | fileExists
  | notDirectory
  | isDirectory
  | nameTooLong
  | notUtf8
  | nulInName
  deriving DecidableEq, Repr

namespace OsError

/-- The number, the kind and the words of an error of the operating system; the last two errors
are found before it is asked. -/
def parts : OsError → Option Nat × String × String
  | .notFound => (some 2, "NotFound", "No such file or directory")
  | .fileExists => (some 17, "AlreadyExists", "File exists")
  | .notDirectory => (some 20, "NotADirectory", "Not a directory")
  | .isDirectory => (some 21, "IsADirectory", "Is a directory")
  | .nameTooLong => (some 36, "InvalidFilename", "File name too long")
  | .notUtf8 => (none, "InvalidData", "stream did not contain valid UTF-8")
  | .nulInName => (none, "InvalidInput", "file name contained an unexpected NUL byte")

/-- The error in one line. -/
def message (error : OsError) : String :=
  match error.parts with
  | (some code, _, words) => words ++ " (os error " ++ toString code ++ ")"
  | (none, _, words) => words

open Diagnostic in
/-- The error with its structure written out. -/
def structured (error : OsError) : String :=
  match error.parts with
  | (some code, kind, words) =>
    record "Os" [("code", toString code), ("kind", kind), ("message", Dispatch.quoted words)]
  | (none, kind, words) => record "Error" [("kind", kind), ("message", Dispatch.quoted words)]

instance : Diagnostic OsError := ⟨message, fun _ => [], structured⟩

end OsError

/-! ## 2. Trees -/

/-- What is at a place. -/
inductive Entry where
  | file (bytes : ByteArray)
  | directory

/-- The names from the root to a place. -/
abbrev Place := List Text

/-- Files and directories at places, and the place where relative paths start. -/
structure FileTree where
  entries : Dict Place Entry
  workingDirectory : Place

namespace FileTree

/-- What is at a place; the root is always a directory. -/
def entryAt? (tree : FileTree) (place : Place) : Option Entry :=
  if place.isEmpty then some .directory else Dict.get? place tree.entries

/-- Whether there is a directory at a place. -/
def isDirectoryAt (tree : FileTree) (place : Place) : Bool :=
  match tree.entryAt? place with
  | some .directory => true
  | _ => false

/-- The tree with an entry at a place. -/
def put (place : Place) (entry : Entry) (tree : FileTree) : FileTree :=
  { tree with entries := Dict.insert place entry tree.entries }

/-- The place of a name in a directory, whether or not there is anything. -/
def step (tree : FileTree) (place : Place) (piece : Text) : Except OsError Place :=
  match tree.entryAt? place with
  | none => .error .notFound
  | some (.file _) => .error .notDirectory
  | some .directory =>
    if piece.isEmpty ∨ piece = ['.'] then .ok place
    else if piece = ['.', '.'] then .ok place.dropLast
    else if Text.byteLength piece > 255 then .error .nameTooLong
    else .ok (place ++ [piece])

/-- The place where a path starts. -/
def start (tree : FileTree) (path : Path) : Place :=
  if path.isAbsolute then [] else tree.workingDirectory

/-- The place that a path of some pieces leads to, whether or not there is anything. -/
def locateBy (tree : FileTree) (path : Path) (pieces : List Text) : Except OsError Place :=
  if path.text.isEmpty then .error .notFound
  else if '\x00' ∈ path.text.toList then .error .nulInName
  else pieces.foldlM tree.step (tree.start path)

/-- The place that a path leads to, whether or not there is anything. -/
def locate (tree : FileTree) (path : Path) : Except OsError Place := tree.locateBy path path.pieces

/-- What a path leads to. -/
def lookup (tree : FileTree) (path : Path) : Except OsError Entry := do
  let place ← tree.locate path
  match tree.entryAt? place with
  | some entry => return entry
  | none => throw .notFound

/-- Whether a path leads to a file. -/
def isFile (tree : FileTree) (path : Path) : Bool :=
  match tree.lookup path with
  | .ok (.file _) => true
  | _ => false

/-- Whether a path leads to a directory. -/
def isDirectory (tree : FileTree) (path : Path) : Bool :=
  match tree.lookup path with
  | .ok .directory => true
  | _ => false

/-- The text of a file. -/
def readText (tree : FileTree) (path : Path) : Except OsError String := do
  match ← tree.lookup path with
  | .directory => throw .isDirectory
  | .file bytes =>
    match String.fromUTF8? bytes with
    | some text => return text
    | none => throw .notUtf8

/-! ## 3. Changes -/

/-- Makes one directory, whose parent is there. Separators at the end of the path are ignored. -/
def makeDirectory (tree : FileTree) (path : Path) : Except OsError FileTree := do
  let pieces := (path.pieces.reverse.dropWhile List.isEmpty).reverse
  let place ← tree.locateBy path pieces
  match tree.entryAt? place with
  | some _ => throw .fileExists
  | none =>
    if tree.isDirectoryAt place.dropLast then return tree.put place .directory
    else throw .notFound

/-- Makes a directory and the missing ones above it. The parents of a path are tried at most once
for each of its pieces. -/
def makeDirectoriesWithin : Nat → FileTree → Path → Except OsError FileTree
  | 0, tree, path => tree.makeDirectory path
  | fuel + 1, tree, path =>
    if path.components.isEmpty then .ok tree
    else match tree.makeDirectory path with
      | .ok tree => .ok tree
      | .error .notFound =>
        match path.parent? with
        | none => .error .notFound
        | some parent => do
          let tree ← makeDirectoriesWithin fuel tree parent
          match tree.makeDirectory path with
          | .ok tree => return tree
          | .error failure => if tree.isDirectory path then return tree else throw failure
      | .error failure => if tree.isDirectory path then .ok tree else .error failure

/-- Makes a directory and the missing ones above it; a directory that is there is left. -/
def makeDirectories (tree : FileTree) (path : Path) : Except OsError FileTree :=
  makeDirectoriesWithin (path.pieces.length + 1) tree path

/-- Writes a file, in place of the one that was there. -/
def writeFile (tree : FileTree) (path : Path) (bytes : ByteArray) : Except OsError FileTree := do
  let place ← tree.locate path
  match tree.entryAt? place with
  | some .directory => throw .isDirectory
  | some (.file _) => return tree.put place (.file bytes)
  | none =>
    if tree.isDirectoryAt place.dropLast then return tree.put place (.file bytes)
    else throw .notFound

/-- The files below a directory, by their names from there. -/
def filesBelow (tree : FileTree) (path : Path) : List (Text × ByteArray) :=
  match tree.locate path with
  | .error _ => []
  | .ok place => tree.entries.filterMap fun (below, entry) =>
    match entry with
    | .directory => none
    | .file bytes =>
      if place.isPrefixOf below ∧ below ≠ place then
        some (Text.joinWith ['/'] (below.drop place.length), bytes)
      else none

end FileTree

end Dispatch
