import Dispatch.Error
import Dispatch.Event

/-!
# Personnel

Groups of variables may hold information on people, one table for each person; other groups name
who holds which position, one person or a list of persons. Resolving puts the information in the
place of the names. Positions are resolved in the order of their names, and what was resolved
before a failure stays so.
-/

namespace Dispatch

/-- The fields of a table. -/
abbrev Fields := Dict String Value

/-- Information on people, by name. Each person's information holds the name itself. -/
structure PeopleInfo where
  people : Dict String Fields := []

namespace PeopleInfo

/-! ## 1. Collecting information -/

/-- The information on the members of a group, on top of what is known. A later person of the same
name takes the place of the earlier one. -/
def addMembers (group : String) (people : Dict String Fields) :
    List (String × Value) → Except RenderError (Dict String Fields)
  | [] => .ok people
  | (name, .table info) :: rest =>
    addMembers group (Dict.insert name (Dict.insert "name" (.string name) info) people) rest
  | _ :: _ => .error (.invalidVarGroup group .personNotTable)

/-- The information of some groups, on top of what is known. -/
def addGroups (vars : Context) (people : Dict String Fields) :
    List String → Except RenderError (Dict String Fields)
  | [] => .ok people
  | group :: rest =>
    match Dict.get? group vars with
    | some (.table members) => do
      let people ← addMembers group people members
      addGroups vars people rest
    | some _ => .error (.invalidVarGroup group .peopleNotTable)
    | none => .error (.peopleInfoGroupNotFound group)

/-- The information of some groups. -/
def ofGroups (vars : Context) (groups : List String) : Except RenderError PeopleInfo :=
  (addGroups vars [] groups).map fun people => ⟨people⟩

/-- The information on a person. -/
def get? (name : String) (info : PeopleInfo) : Option Fields := Dict.get? name info.people

/-- How many people there is information on. -/
def size (info : PeopleInfo) : Nat := info.people.length

/-! ## 2. Replacing names -/

/-- The information on the person that a value names. -/
def lookup (info : PeopleInfo) : Value → Except RenderError Value
  | .string name =>
    match info.get? name with
    | some fields => .ok (.table fields)
    | none => .error (.personNotFound name)
  | other => .error (.personNotFound other.compactText)

/-- The information that takes the place of a position: of one person, or of each in a list. -/
def position (info : PeopleInfo) : Value → Except RenderError Value
  | .list names => (names.mapM info.lookup).map .list
  | name => info.lookup name

/-- Resolves positions in order. The positions before a failure are resolved, the others are as
they were. -/
def positions (info : PeopleInfo) : Fields → Fields × Except RenderError Unit
  | [] => ([], .ok ())
  | (name, names) :: rest =>
    match info.position names with
    | .error failure => ((name, names) :: rest, .error failure)
    | .ok value =>
      let (resolved, outcome) := positions info rest
      ((name, value) :: resolved, outcome)

/-- Resolves one group of personnel. -/
def group (info : PeopleInfo) (vars : Context) (name : String) :
    Context × Except RenderError Unit :=
  match Dict.get? name vars with
  | some (.table fields) =>
    let (resolved, outcome) := info.positions fields
    (Dict.insert name (.table resolved) vars, outcome)
  | some _ => (vars, .error (.invalidVarGroup name .personnelNotTable))
  | none => (vars, .error (.personnelGroupNotFound name))

/-- Resolves groups of personnel in order, up to the first failure. -/
def replaceNames (info : PeopleInfo) (vars : Context) :
    List String → Logged (Context × Except RenderError Unit)
  | [] => return (vars, .ok ())
  | name :: rest =>
    match info.group vars name with
    | (vars, .error failure) => return (vars, .error failure)
    | (vars, .ok ()) => do
      report (.replacedNames name)
      info.replaceNames vars rest

end PeopleInfo

/-- Collects information on people and reports how many there are. -/
def collectPeople (vars : Context) (groups : List String) :
    Logged (Except RenderError PeopleInfo) := do
  match PeopleInfo.ofGroups vars groups with
  | .error failure => return .error failure
  | .ok info =>
    report (.loadedPeople info.size)
    return .ok info

/-- Resolves groups of personnel with the information of some groups. -/
def resolvePersonnel (vars : Context) (peopleGroups personnelGroups : List String) :
    Logged (Context × Except RenderError Unit) := do
  match ← collectPeople vars peopleGroups with
  | .error failure => return (vars, .error failure)
  | .ok info => info.replaceNames vars personnelGroups

end Dispatch
