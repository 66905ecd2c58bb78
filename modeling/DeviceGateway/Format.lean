/-
# Formats

The same settings are read from documents of different formats.  A format knows how to take a text, a
truth value, a number, the items of a list and the fields of a record out of a part of a document;
the settings know which of them stands where.  A `Reader` is therefore written once, for the parts of
documents of every format.

A field that is not there may have a default.  What is there has to be readable.
-/

import DeviceGateway.Data.TextMap
import DeviceGateway.Decimal.Binary64

namespace DeviceGateway

/-- The fields of a record that were given, each under its name. -/
abbrev Fields (Part : Type) := List (String × Part)

/-- A format whose documents consist of parts of one type. -/
structure Format (Part : Type) where
  /-- The text that a part gives. -/
  text : Part → Option String
  /-- The truth value that a part gives. -/
  bool : Part → Option Bool
  /-- The whole number that a part gives, from 0 to the greatest that is wanted. -/
  natural : (greatest : Nat) → Part → Option Nat
  /-- The double that a part gives. -/
  double : Part → Option Decimal.Binary64
  /-- Whether a part says that there is nothing. -/
  isNothing : Part → Bool
  /-- The items of a list. -/
  items : Part → Option (List Part)
  /-- Those fields of a record that are there, out of the known names in their order. -/
  fields : (names : List String) → Part → Option (Fields Part)

/-- A way to read a value out of the documents of every format. -/
abbrev Reader (α : Type) := {Part : Type} → Format Part → Part → Option α

namespace Fields

variable {Part α : Type}

/-- The value of a field that has a default. -/
def get (given : Fields Part) (name : String) (read : Part → Option α) (default : α) : Option α :=
  match Entries.get? name given with
  | some part => read part
  | none => some default

/-- The value of a field that has to be given. -/
def require (given : Fields Part) (name : String) (read : Part → Option α) : Option α :=
  match Entries.get? name given with
  | some part => read part
  | none => none

end Fields

namespace Format

variable {Part α : Type}

/-- A value, or nothing where a part says so. -/
def optional (format : Format Part) (read : Part → Option α) (part : Part) : Option (Option α) :=
  if format.isNothing part then some none else (read part).map some

/-- The values of parts, each of which has to be readable. -/
def readAll (read : Part → Option α) : List Part → Option (List α)
  | [] => some []
  | first :: rest =>
    match read first with
    | none => none
    | some value => (readAll read rest).map (value :: ·)

/-- The values of the items of a list. -/
def list (format : Format Part) (read : Part → Option α) (part : Part) : Option (List α) :=
  (format.items part).bind (readAll read)

end Format

end DeviceGateway
