/-
# Settings in the environment

A variable of the environment is a setting when its name begins with `EB__`, in any case.  The rest of
the name is the path of the setting, in small letters, where two underscores stand for a point.  A value
that reads as a truth value, a whole number or a double is one; every other value is a text.
-/

import DeviceGateway.Config.Name
import DeviceGateway.Config.Value
import DeviceGateway.Text.Split

namespace DeviceGateway.Config.Environment

/-- What names of settings begin with. -/
def beginning : List Char := ['e', 'b', '_', '_']

/-- A text with a point in the place of every two underscores. -/
def pointed : List Char → List Char
  | '_' :: '_' :: rest => '.' :: pointed rest
  | c :: rest => c :: pointed rest
  | [] => []

/-- The path that the name of a variable gives, if it is the name of a setting. -/
def path? (name : String) : Option String :=
  (Text.afterStart beginning (Name.small name).toList).map fun rest => String.ofList (pointed rest)

/-- The value that the text of a variable stands for. -/
def value (text : String) : Value :=
  let word := Value.lower text
  if word = "true" then .bool true
  else if word = "false" then .bool false
  else
    match Numeral.integer? text.toList with
    | some whole => .integer whole
    | none =>
      match Decimal.Binary64.parse? text.toList with
      | some double => .double double
      | none => .text text

/-- The settings among variables, in the order of their paths. -/
def settings (environment : TextMap String) : List (String × Value) :=
  (TextMap.ofList (environment.toList.filterMap fun entry =>
    (path? entry.1).map fun path => (path, value entry.2))).toList

end DeviceGateway.Config.Environment
