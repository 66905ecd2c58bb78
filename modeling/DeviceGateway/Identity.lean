/-
# Identities

An identity names a device, or a module that a device hosts.  Its text is the name of the device, and
for a module a slash and the name of the module.  Neither name is blank and neither contains a
slash; the names are otherwise free and kept as they are.
-/

import DeviceGateway.Fault
import DeviceGateway.Json.Record
import DeviceGateway.Text.Blank
import DeviceGateway.Text.Split

namespace DeviceGateway

/-- Whether a text may be the name of a device or of a module. -/
def isComponent (name : String) : Bool :=
  !Text.isBlankText name && !name.toList.contains '/'

/-- The name of a device, or the names of a module and of the device that hosts it. -/
structure Identity where
  /-- The name of the device. -/
  device : String
  /-- The name of the module, for a module. -/
  module? : Option String
  /-- The name of the device is neither blank nor divided. -/
  device_valid : isComponent device = true
  /-- The name of the module is neither blank nor divided. -/
  module_valid : ∀ name ∈ module?, isComponent name = true
deriving DecidableEq

namespace Identity

/-- Why a text is no name, if it is none: a blank one is reported before one with a slash. -/
def componentFault (what name : String) : Fault :=
  if Text.isBlankText name then .invalidIdentity name (what ++ " must not be empty")
  else .invalidIdentity name (what ++ " must not contain '/'")

/-- The identity of a device. -/
def ofDevice (device : String) : Answer Identity :=
  if valid : isComponent device = true then
    .ok { device, module? := none, device_valid := valid, module_valid := by simp }
  else .error (componentFault "device id" device)

/-- The identity of a module.  A fault in the name of the device is reported first. -/
def ofModule (device name : String) : Answer Identity :=
  if validDevice : isComponent device = true then
    if validModule : isComponent name = true then
      .ok { device, module? := some name, device_valid := validDevice,
            module_valid := by simpa using validModule }
    else .error (componentFault "module id" name)
  else .error (componentFault "device id" device)

/-- Read an identity: what stands before the first slash names the device, what follows it the
module. -/
def parse (text : String) : Answer Identity :=
  match Text.splitFirst '/' text.toList with
  | some (device, name) => ofModule (String.ofList device) (String.ofList name)
  | none => ofDevice text

/-- The text of an identity. -/
def toText (identity : Identity) : String :=
  match identity.module? with
  | some name => identity.device ++ "/" ++ name
  | none => identity.device

/-- Whether the identity is that of a module. -/
def isModule (identity : Identity) : Bool := identity.module?.isSome

/-- Devices stand in the order of their names, and a device before its modules. -/
def before (first second : Identity) : Bool :=
  if first.device < second.device then true
  else if first.device = second.device then
    match first.module?, second.module? with
    | none, some _ => true
    | some first, some second => first < second
    | _, none => false
  else false

/-- An identity is given as its text. -/
def reader : Reader Identity := fun format part =>
  (format.text part).bind fun text => (parse text).toOption

/-- The JSON form of an identity. -/
def shape : Json.Shape Identity := .of reader

/-- The JSON value of an identity. -/
def toJson (identity : Identity) : Json.Value := .text identity.toText

/-- Put an identity in its place among others, unless it is there. -/
def insertInto (identity : Identity) : List Identity → List Identity
  | [] => [identity]
  | other :: rest =>
    if identity.before other then identity :: other :: rest
    else if identity = other then other :: rest
    else other :: insertInto identity rest

/-- Identities in their order, each once. -/
def sorted (identities : List Identity) : List Identity :=
  identities.foldl (fun placed identity => identity.insertInto placed) []

end Identity

end DeviceGateway
