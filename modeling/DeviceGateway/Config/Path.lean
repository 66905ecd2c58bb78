/-
# Paths to configuration values

Settings are put together from several sources, the later ones over the earlier ones.  The name of a
setting in a source is a path: names with points between them, and numbers in brackets for the items of
lists.  Assigning to a path makes the tables and lists on the way, in the place of whatever else is
there.  A table is merged into a table, name by name; everything else replaces what it meets.

Whatever is put under a name is put under its small form.  That reaches the names of tables that are
merged, but nothing inside a list.
-/

import DeviceGateway.Config.Name
import DeviceGateway.Config.Value

namespace DeviceGateway.Config

/-- One step of a path. -/
inductive Step where
  /-- To the value under a name. -/
  | member (name : String)
  /-- To an item of a list; a negative number counts from the end. -/
  | item (index : Int)
deriving DecidableEq, Repr

/-- The way to a value. -/
abbrev Path := List Step

namespace Path

/-- Whether a character may stand in a name on a path. -/
def isNameCharacter (c : Char) : Bool := c.isAlphanum || c == ' ' || c == '_' || c == '-'

/-- Whether a character may stand beside the number of an item. -/
def isSpace (c : Char) : Bool := c == ' ' || c == '\t'

/-- The number of an item, up to the closing bracket, and what follows the bracket. -/
def index? (text : List Char) : Option (Int × List Char) :=
  let written := text.dropWhile isSpace
  let (negative, unsigned) := match written with
    | '-' :: rest => (true, rest)
    | _ => (false, written)
  match Numeral.digits? (unsigned.takeWhile Char.isDigit),
      (unsigned.dropWhile Char.isDigit).dropWhile isSpace with
  | some value, ']' :: rest =>
    let index := if negative then -(value : Int) else value
    if Word.fitsSigned index then some (index, rest) else none
  | _, _ => none

/-- The name at the start of a text and what follows it. -/
def name? (text : List Char) : Option (String × List Char) :=
  match text.takeWhile isNameCharacter with
  | [] => none
  | name => some (String.ofList name, text.dropWhile isNameCharacter)

/-- The steps after the first.  Each takes at least one unit of `fuel` characters. -/
def steps? (fuel : Nat) (text : List Char) : Option Path :=
  match fuel, text with
  | _, [] => some []
  | fuel + 1, '.' :: rest => do
    let (name, after) ← name? rest
    let more ← steps? fuel after
    return .member name :: more
  | fuel + 1, '[' :: rest => do
    let (index, after) ← index? rest
    let more ← steps? fuel after
    return .item index :: more
  | _, _ => none

/-- Read a path; a text that is none is a name as a whole. -/
def ofText (text : String) : Path :=
  let read := do
    let (name, rest) ← name? text.toList
    let more ← steps? rest.length rest
    return Step.member name :: more
  read.getD [.member text]

end Path

namespace Value

/-- The members of a table; there are none where there is no table. -/
def members : Value → List (String × Value)
  | table members => members
  | _ => []

/-- The items of a list; there are none where there is no list. -/
def items : Value → List Value
  | array items => items
  | _ => []

mutual

/-- Put a value under a name.  What is no table becomes one first, and a table is merged into what
already stands under the name. -/
def put (target : Value) (name : String) : Value → Value
  | table incoming =>
    let present := (Entries.get? (Name.small name) target.members).getD (table [])
    table (Entries.insert (Name.small name) (merge present incoming) target.members)
  | other => table (Entries.insert (Name.small name) other target.members)

/-- Put values under their names. -/
def merge (target : Value) : List (String × Value) → Value
  | [] => target
  | (name, value) :: rest => merge (put target name value) rest

end

/-- Change the item at a place of a list; a negative place counts from the end.  The list grows up to a
place behind its end, and at its front down to a place before its first item. -/
def changeItem (change : Value → Value) (index : Int) (items : List Value) : List Value :=
  if 0 ≤ index then
    (items ++ List.replicate (index.toNat + 1 - items.length) absent).modify index.toNat change
  else
    (List.replicate (index.natAbs - items.length) absent ++ items).modify
      (items.length - index.natAbs) change

/-- Assign a value to a path. -/
def assign (target value : Value) : Path → Value
  | [] => value
  | [.member name] => put target name value
  | .member name :: rest =>
    let present := (Entries.get? (Name.small name) target.members).getD absent
    table (Entries.insert (Name.small name) (assign present value rest) target.members)
  | .item index :: rest =>
    array (changeItem (fun present => assign present value rest) index target.items)

/-- Assign the values of a source to the paths that their names are. -/
def overlay (target : Value) (source : List (String × Value)) : Value :=
  source.foldl (fun whole entry => assign whole entry.2 (Path.ofText entry.1)) target

/-- The values of several sources, the later ones over the earlier ones.  The whole is a source again, so
that a name which is a path only in its small form leads along it in the end. -/
def ofSources (sources : List (List (String × Value))) : Value :=
  (table []).overlay (sources.foldl overlay (table [])).members

end Value

end DeviceGateway.Config
