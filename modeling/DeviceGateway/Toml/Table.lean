/-
# Tables of TOML

A document defines each table once.  A header defines the table it names, and makes those on the way to
it without defining them, so that a later header still may.  A key with points makes the tables on its
way for the section or braces it stands in; no header can define those, and no such key can reach into
a table that a header has defined.  A header in double brackets adds a table to a list of tables, and
names that go through the list lead into its last table.  Neither a value nor a table in braces is ever
reopened.

These rules need to know of each table how it came about, which is its `Origin`.

The names of a table stand in the order in which they were defined, because a table whose first name is
the reserved one is no table but a moment.
-/

import DeviceGateway.Config.Value
import DeviceGateway.Toml.Moment
import DeviceGateway.Toml.Text

namespace DeviceGateway.Toml

/-- How a table came about. -/
inductive Origin where
  /-- A header defines it, or it is the document itself. -/
  | defined
  /-- It lies on the way of a header. -/
  | passed
  /-- It lies on the way of a key with points. -/
  | dotted
  /-- Braces define it. -/
  | closed
deriving DecidableEq, Repr

/-- What stands under a name. -/
inductive Item where
  /-- A value that is neither a string nor a list nor a table. -/
  | scalar (value : Config.Value)
  | string (text : String)
  | list (items : List Item)
  | table (origin : Origin) (members : List (String × Item))
  /-- A list of tables: those before the last, from the latest on, and the last. -/
  | tables (earlier : List (List (String × Item))) (last : List (String × Item))

/-- A table. -/
structure Table where
  origin : Origin := .defined
  /-- What stands under its names, from the first that was defined on. -/
  members : List (String × Item) := []

/-- Put an item under a name, in its place or behind the others. -/
def putItem (name : String) (item : Item) : List (String × Item) → List (String × Item)
  | [] => [(name, item)]
  | (other, present) :: rest =>
    if other = name then (name, item) :: rest else (other, present) :: putItem name item rest

namespace Table

/-- What stands under a name. -/
def get? (table : Table) (name : String) : Option Item := Entries.get? name table.members

/-- The table with an item under a name. -/
def set (table : Table) (name : String) (item : Item) : Table :=
  { table with members := putItem name item table.members }

/-- The table with an item under a name, behind all others. -/
def setLast (table : Table) (name : String) (item : Item) : Table :=
  { table with members := (table.members.filter fun member => member.1 ≠ name) ++ [(name, item)] }

/-- Work on the table to which a path leads.  Tables that are not there are made, for a key with points
or for a header. -/
def within (dotted : Bool) (work : Table → Option Table) : List String → Table → Option Table
  | [], table => work table
  | name :: rest, table =>
    match table.get? name with
    | some (.scalar _) | some (.string _) | some (.list _) => none
    | some (.tables earlier last) =>
      (within dotted work rest { members := last }).map fun inner =>
        table.set name (.tables earlier inner.members)
    | some (.table origin members) =>
      if origin = .closed ∨ dotted ∧ origin = .defined then none
      else
        (within dotted work rest { origin, members }).map fun inner =>
          table.set name (.table inner.origin inner.members)
    | none =>
      (within dotted work rest { origin := if dotted then .dotted else .passed }).map fun inner =>
        table.set name (.table inner.origin inner.members)

/-- Put an item under a key.  The name must be free, and a key with points has to end in a table that
was made for such keys. -/
def define (key : Key) (item : Item) : Table → Option Table :=
  within true (fun table =>
    if table.origin = .dotted ↔ key.path = [] then none
    else if (table.get? key.last).isSome then none
    else some (table.set key.last item)) key.path

/-- Define the table that a header names.  One that lies on the way of an earlier header counts from now
on as defined last. -/
def openTable (header : Key) : Table → Option Table :=
  within false (fun parent =>
    match parent.get? header.last with
    | none => some (parent.set header.last (.table .defined []))
    | some (.table .passed members) => some (parent.setLast header.last (.table .defined members))
    | some _ => none) header.path

/-- Add a table to the list that a header in double brackets names. -/
def addTable (header : Key) : Table → Option Table :=
  within false (fun parent =>
    match parent.get? header.last with
    | none => some (parent.set header.last (.tables [] []))
    | some (.tables earlier last) =>
      some (parent.set header.last (.tables (last :: earlier) []))
    | some _ => none) header.path

end Table

/-! ## Values -/

/-- The moment that a table with the reserved name in front stands for; whatever else is in the table
does not count. -/
def momentOf? : List (String × Item) → Option (Option String)
  | (name, item) :: _ =>
    if name = Moment.reservedName then
      match item with
      | .string text => some (Moment.read? .string text.toList)
      | _ => some none
    else none
  | [] => none

mutual

/-- The value that an item is. -/
def Item.value? : Item → Option Config.Value
  | .scalar value => some value
  | .string text => some (.text text)
  | .list items => (itemValues? items).map .array
  | .table _ members => tableValue? (momentOf? members) members
  | .tables earlier last => do
    let last ← tableValue? (momentOf? last) last
    let values ← tableValues? [last] earlier
    return .array values

/-- The values of the items of a list. -/
def itemValues? : List Item → Option (List Config.Value)
  | [] => some []
  | item :: rest => do
    let value ← item.value?
    let values ← itemValues? rest
    return value :: values

/-- The value of a table with some members, which may stand for a moment. -/
def tableValue? (moment : Option (Option String)) (members : List (String × Item)) :
    Option Config.Value :=
  match moment with
  | some found => found.map .text
  | none => (memberValues? members).map .table

/-- The values under the names of a table, in the order of the names. -/
def memberValues? : List (String × Item) → Option (List (String × Config.Value))
  | [] => some []
  | (name, item) :: rest => do
    let value ← item.value?
    let values ← memberValues? rest
    return Entries.insert name value values

/-- The values of tables, given from the latest on, in front of later ones. -/
def tableValues? (later : List Config.Value) :
    List (List (String × Item)) → Option (List Config.Value)
  | [] => some later
  | members :: rest => do
    let value ← tableValue? (momentOf? members) members
    tableValues? (value :: later) rest

end

/-- The values under the names of a document; a document stands for no moment. -/
def Table.values? (table : Table) : Option (List (String × Config.Value)) :=
  match momentOf? table.members with
  | some _ => none
  | none => memberValues? table.members

end DeviceGateway.Toml
