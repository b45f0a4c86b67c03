import Dispatch.Text.Quoted

/-!
# Paths

A path is kept as it was written. Two paths are the same when their components are: repeated
separators, a separator at the end and a `.` inside a path say nothing, a `.` at its start does.
-/

namespace Dispatch

/-- A path, as written. -/
structure Path where
  text : String
  deriving DecidableEq, Repr, Inhabited

/-- A step of a path. -/
inductive PathStep where
  | root
  | here
  | up
  | name (text : Text)
  deriving DecidableEq, Repr

namespace PathStep

/-- The place of a kind of step in the order of paths. -/
def rank : PathStep → Nat
  | .root => 0
  | .here => 1
  | .up => 2
  | .name _ => 3

/-- The name of a step; empty for a step without one. -/
def nameText : PathStep → Text
  | .name text => text
  | _ => []

/-- The order of steps: by kind, then by name. -/
def before (a b : PathStep) : Bool :=
  a.rank < b.rank || (a.rank = b.rank && decide (a.nameText < b.nameText))

end PathStep

namespace Path

/-! ## 1. Components -/

/-- The pieces of a path between its separators. -/
def pieces (path : Path) : List Text := Text.splitOn '/' path.text.toList

/-- Whether a path starts at the root. -/
def isAbsolute (path : Path) : Bool := path.text.toList.head? = some '/'

/-- The step of a piece that is neither empty nor `.`. -/
def stepOf (piece : Text) : PathStep := if piece = ['.', '.'] then .up else .name piece

/-- The steps of the pieces that say something. -/
def stepsOf (pieces : List Text) : List PathStep :=
  (pieces.filter fun piece => piece ≠ [] ∧ piece ≠ ['.']).map stepOf

/-- The components of a path. -/
def components (path : Path) : List PathStep :=
  let first : List PathStep :=
    if path.isAbsolute then [.root]
    else if path.pieces.head? = some ['.'] then [.here]
    else []
  first ++ stepsOf path.pieces

/-- Whether two paths are the same. -/
def same (a b : Path) : Bool := a.components = b.components

/-- Whether one list of steps comes before another, step by step. -/
def stepsBefore : List PathStep → List PathStep → Bool
  | [], [] => false
  | [], _ :: _ => true
  | _ :: _, [] => false
  | a :: as, b :: bs => a.before b || (a = b && stepsBefore as bs)

/-- The order of paths: component by component. -/
def before (a b : Path) : Bool := stepsBefore a.components b.components

/-! ## 2. Building and taking apart -/

/-- A path behind a directory; an absolute path replaces the directory. -/
def join (directory : Path) (name : String) : Path :=
  if name.toList.head? = some '/' then ⟨name⟩
  else if directory.text.isEmpty ∨ directory.text.toList.getLast? = some '/' then
    ⟨directory.text ++ name⟩
  else ⟨directory.text ++ "/" ++ name⟩

/-- The name that a path ends with, if it ends with one. -/
def fileName? (path : Path) : Option Text :=
  match path.components.getLast? with
  | some (.name text) => some text
  | _ => none

/-- The extension of the name: what stands behind its last dot, unless the name starts there. -/
def extension? (path : Path) : Option Text := do
  let name ← path.fileName?
  let reversed := name.reverse
  match reversed.dropWhile (· ≠ '.') with
  | _ :: _ :: _ => some (reversed.takeWhile (· ≠ '.')).reverse
  | _ => none

/-- The pieces of a path without its last component, and without what says nothing behind it. -/
def parentPieces (pieces : List Text) : List Text :=
  let silent : Text → Bool := fun piece => piece = [] ∨ piece = ['.']
  (((pieces.reverse.dropWhile silent).drop 1).dropWhile silent).reverse

/-- The path without its last component; none if it has none. -/
def parent? (path : Path) : Option Path :=
  match path.components.getLast? with
  | none => none
  | some .root => none
  | some .here => some ⟨""⟩
  | some _ =>
    let text := Text.joinWith ['/'] (parentPieces path.pieces)
    if path.isAbsolute then some ⟨String.ofList ('/' :: text.dropWhile (· = '/'))⟩
    else some ⟨String.ofList text⟩

/-- The path between quotes. -/
def quoted (path : Path) : String := String.ofList (Text.quotedPath path.text.toList)

end Path

end Dispatch
