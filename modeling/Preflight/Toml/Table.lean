import Preflight.Json.Basic

/-! # Tables of a TOML document
A document is put together statement by statement: a header opens a table or a further element of an array of
tables, and a key, which may be dotted, sets a value in it. A table knows how it came to be, since that decides
whether a later statement may still add to it. -/
namespace Preflight.Toml

/-- By its own header, as a step on the way to another header's table, or by a dotted key. -/
inductive Origin | header | implied | dotted
  deriving DecidableEq

inductive Item where
  | value (v : Json)
  | table (origin : Origin) (entries : List (String × Item))
  /-- An array of tables, the last one first. -/
  | tables (elements : List (List (String × Item)))

mutual
def Item.toJson : Item → Json
  | .value v => v
  | .table _ entries => .obj (Item.entriesToJson entries)
  | .tables elements => .arr (Item.elementsToJson elements [])

def Item.entriesToJson : List (String × Item) → List (String × Json)
  | [] => []
  | (key, item) :: entries => (key, item.toJson) :: Item.entriesToJson entries

def Item.elementsToJson : List (List (String × Item)) → List Json → List Json
  | [], later => later
  | entries :: elements, later => Item.elementsToJson elements (.obj (Item.entriesToJson entries) :: later)
end

structure Table where
  origin : Origin := .header
  entries : List (String × Item) := []

def Table.toJson (t : Table) : Json := .obj (Item.entriesToJson t.entries)

namespace Table

/-- Changes the table at the end of a path, creating the tables that are missing on the way. Of an array of
tables the last one is meant. A dotted key does not reach into a table that has a header of its own. -/
def update (dotted : Bool) (change : Table → Option Table) : List String → Table → Option Table
  | [], t => change t
  | key :: path, t => do
    let item ← match Entries.find? key t.entries with
      | none => do
        let child ← update dotted change path { origin := if dotted then .dotted else .implied }
        pure (Item.table child.origin child.entries)
      | some (.table origin entries) =>
        if dotted && origin = .header then none
        else do
          let child ← update dotted change path ⟨origin, entries⟩
          pure (Item.table child.origin child.entries)
      | some (.tables (entries :: elements)) => do
        let child ← update dotted change path ⟨.header, entries⟩
        pure (Item.tables (child.entries :: elements))
      | some _ => none
    return { t with entries := Entries.insert key item t.entries }

/-- Sets a key that the table does not have yet. -/
def addNew (key : String) (item : Item) (t : Table) : Option Table :=
  match Entries.find? key t.entries with
  | none => some { t with entries := Entries.insert key item t.entries }
  | some _ => none

/-- Sets a value under a key that may be dotted. The path of a dotted key leads through tables made by such keys. -/
def setValue (path : List String) (key : String) (v : Json) (t : Table) : Option Table :=
  update true (fun t => if path ≠ [] ∧ t.origin ≠ .dotted then none else addNew key (.value v) t) path t

/-- Opens the table of a header, which may only have been implied so far. -/
def openTable (path : List String) (key : String) (t : Table) : Option Table :=
  update false (fun t => match Entries.find? key t.entries with
    | none => some { t with entries := Entries.insert key (.table .header []) t.entries }
    | some (.table .implied entries) =>
      some { t with entries := Entries.insert key (.table .header entries) t.entries }
    | some _ => none) path t

/-- Opens a further element of an array of tables. -/
def openElement (path : List String) (key : String) (t : Table) : Option Table :=
  update false (fun t => match Entries.find? key t.entries with
    | none => some { t with entries := Entries.insert key (.tables [[]]) t.entries }
    | some (.tables elements) =>
      some { t with entries := Entries.insert key (.tables ([] :: elements)) t.entries }
    | some _ => none) path t

end Table

/-- A key with the path in front of it, if it is dotted. -/
structure Key where
  path : List String
  last : String

inductive Statement where
  | setValue (key : Key) (value : Json)
  | openTable (key : Key)
  | openElement (key : Key)

/-- Follows the statements, of which those that set a value speak of the table opened last. -/
def Table.build : (opened : List String) → List Statement → Table → Option Table
  | _, [], t => some t
  | opened, .setValue key v :: rest, t => do
    build opened rest (← Table.update false (Table.setValue key.path key.last v) opened t)
  | _, .openTable key :: rest, t => do build (key.path ++ [key.last]) rest (← t.openTable key.path key.last)
  | _, .openElement key :: rest, t => do build (key.path ++ [key.last]) rest (← t.openElement key.path key.last)

end Preflight.Toml
