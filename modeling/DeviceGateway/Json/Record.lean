/-
# Reading records

A record is a document with known fields.  It is an object with the fields under their names, or an
array with the fields in their order.  A field may be missing where it has a default; an array may
end early and may not be too long.  No field may occur twice.  What stands under an unknown name has
to be grammatical and is otherwise ignored.

A `Shape` reads one kind of document; shapes of records are put together from those of their
fields.
-/

import DeviceGateway.Decimal.Nearest
import DeviceGateway.Format
import DeviceGateway.Json.Reader

namespace DeviceGateway.Json

/-- A part of a document, and how deep it may be nested. -/
structure Part where
  depth : Nat
  form : Syntax

/-- A way to read a part of a document. -/
abbrev Shape (α : Type) := Part → Option α

namespace Shape

/-- A string. -/
def text : Shape String := fun part =>
  match part.form with
  | .text pieces => pieceText? pieces
  | _ => none

/-- One of the two truth values. -/
def bool : Shape Bool := fun part =>
  match part.form with
  | .bool value => some value
  | _ => none

/-- A whole number from 0 to `greatest`, written without point and exponent. -/
def natural (greatest : Nat) : Shape Nat := fun part =>
  match part.form with
  | .number numeral =>
    match Number.of? numeral with
    | some (.integer value) =>
      if 0 ≤ value ∧ value ≤ greatest then some value.toNat else none
    | _ => none
  | _ => none

/-- A double; a whole number is rounded to one. -/
def double : Shape Decimal.Binary64 := fun part =>
  match part.form with
  | .number numeral =>
    (Number.of? numeral).map fun
      | .integer value => .ofInt value
      | .double value => value
  | _ => none

/-- The items of an array. -/
def items : Shape (List Part) := fun part =>
  match part.form, part.depth with
  | .array items, depth + 1 => some (items.map fun item => ⟨depth, item⟩)
  | _, _ => none

/-- An object with any members. -/
def object : Shape Object := fun part => part.form.object? part.depth

/-- A name out of a table of names, as a string or as the only member of an object, with the value
`null`. -/
def oneOf {α : Type} (table : List (String × α)) : Shape α := fun part =>
  match part.form, part.depth with
  | .text pieces, _ => (pieceText? pieces).bind fun name => Entries.get? name table
  | .object [(pieces, .null)], _ + 1 =>
    (pieceText? pieces).bind fun name => Entries.get? name table
  | _, _ => none

end Shape

/-- Gather the known members of an object, which may be nested `depth` deep; none of them may occur
twice. -/
def gatherMembers (names : List String) (depth : Nat) (before : Fields Part) :
    List (List Piece × Syntax) → Option (Fields Part)
  | [] => some before
  | (pieces, member) :: rest =>
    match pieceText? pieces with
    | none => none
    | some name =>
      if name ∈ names then
        if (before.any fun field => field.1 == name) then none
        else gatherMembers names depth ((name, ⟨depth, member⟩) :: before) rest
      else gatherMembers names depth before rest

/-- The fields of a record with the given names. -/
def Shape.fields (names : List String) : Shape (Fields Part) := fun part =>
  match part.form, part.depth with
  | .object members, depth + 1 => gatherMembers names depth [] members
  | .array items, depth + 1 =>
    if items.length ≤ names.length then some (names.zip (items.map fun item => ⟨depth, item⟩))
    else none
  | _, _ => none

/-- JSON as a format: every value is written in the one way that its type has. -/
def format : Format Part where
  text := Shape.text
  bool := Shape.bool
  natural := Shape.natural
  double := Shape.double
  isNothing part := match part.form with
    | .null => true
    | _ => false
  items := Shape.items
  fields := Shape.fields

/-- The shape of what a reader of every format reads. -/
def Shape.of {α : Type} (reader : Reader α) : Shape α := reader format

/-- Read a document given as bytes in a shape. -/
def Shape.read? {α : Type} (shape : Shape α) (input : Bytes) : Option α :=
  (Syntax.read? input).bind fun document => shape ⟨greatestDepth, document⟩

end DeviceGateway.Json
