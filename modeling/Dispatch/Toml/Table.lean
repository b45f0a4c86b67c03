import Dispatch.Value.Basic

/-!
# Tables under construction

While a document of TOML is read, a table remembers how it came to be: by a header of its own, on
the way to another header, or by a dotted key. A header may complete a table of the second kind
only; a dotted key may extend a table of the third kind only. Inline tables and arrays written with
their items are finished values, which nothing extends.
-/

namespace Dispatch.Toml

/-- How a table came to be. -/
inductive Origin where
  | header
  | path
  | dotted
  deriving DecidableEq, Repr

/-- A value of a document under construction. -/
inductive Node where
  | value (v : Value)
  | table (origin : Origin) (entries : List (String × Node))
  /-- Tables that headers of one array have opened, the last one first. -/
  | tables (reversed : List (List (String × Node)))

/-- The entries of a table under construction. -/
abbrev Entries := Dict String Node

mutual

/-- The finished value of a node. -/
def Node.finish : Node → Value
  | .value v => v
  | .table _ entries => .table (finishEntries entries)
  | .tables reversed => .list (finishTables reversed).reverse

/-- The finished fields of a table. -/
def finishEntries : List (String × Node) → List (String × Value)
  | [] => []
  | (key, node) :: rest => (key, node.finish) :: finishEntries rest

/-- The finished tables of an array. -/
def finishTables : List (List (String × Node)) → List Value
  | [] => []
  | entries :: rest => .table (finishEntries entries) :: finishTables rest

end

/-- Changes the table that a header's keys lead to; a missing table on the way is made. In an array
of tables the way leads through the last one. -/
def alongHeader (change : Entries → Option Entries) : List String → Entries → Option Entries
  | [], entries => change entries
  | key :: keys, entries =>
    match Dict.get? key entries with
    | none => do
      let inner ← alongHeader change keys []
      return Dict.insert key (.table .path inner) entries
    | some (.table origin inner) => do
      let inner ← alongHeader change keys inner
      return Dict.insert key (.table origin inner) entries
    | some (.tables (last :: earlier)) => do
      let last ← alongHeader change keys last
      return Dict.insert key (.tables (last :: earlier)) entries
    | some _ => none

/-- Puts a value under a dotted key. Tables on the way must be made by dotted keys. -/
def putDotted (value : Node) : List String → Entries → Option Entries
  | [], _ => none
  | [key], entries =>
    match Dict.get? key entries with
    | none => some (Dict.insert key value entries)
    | some _ => none
  | key :: keys, entries =>
    match Dict.get? key entries with
    | none => do
      let inner ← putDotted value keys []
      return Dict.insert key (.table .dotted inner) entries
    | some (.table .dotted inner) => do
      let inner ← putDotted value keys inner
      return Dict.insert key (.table .dotted inner) entries
    | some _ => none

/-- Opens the table of a header. -/
def openTable (key : String) (entries : Entries) : Option Entries :=
  match Dict.get? key entries with
  | none => some (Dict.insert key (.table .header []) entries)
  | some (.table .path inner) => some (Dict.insert key (.table .header inner) entries)
  | some _ => none

/-- Opens another table of an array of tables. -/
def openArrayTable (key : String) (entries : Entries) : Option Entries :=
  match Dict.get? key entries with
  | none => some (Dict.insert key (.tables [[]]) entries)
  | some (.tables reversed) => some (Dict.insert key (.tables ([] :: reversed)) entries)
  | some _ => none

end Dispatch.Toml
