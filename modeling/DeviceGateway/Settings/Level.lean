/-
# Levels of logging

Which messages of the program are logged.  A level is named in any case or given by its number, where
1 is the most severe; white space around it is ignored.
-/

import DeviceGateway.Text.Blank
import DeviceGateway.Text.Numeral

namespace DeviceGateway.Settings

/-- A level of logging, from the most severe on. -/
inductive Level where
  | error
  | warn
  | info
  | debug
  | trace
deriving DecidableEq, Repr

namespace Level

instance : Inhabited Level := ⟨info⟩

/-- The name of a level. -/
def name : Level → String
  | error => "ERROR"
  | warn => "WARN"
  | info => "INFO"
  | debug => "DEBUG"
  | trace => "TRACE"

/-- The level with a number. -/
def ofNumber? : Nat → Option Level
  | 1 => some error
  | 2 => some warn
  | 3 => some info
  | 4 => some debug
  | 5 => some trace
  | _ => none

/-- The level with a name in any case. -/
def ofName? (name : List Char) : Option Level :=
  [error, warn, info, debug, trace].find? fun level =>
    level.name.toList == name.map Char.toUpper

/-- Read a level. -/
def parse? (text : String) : Option Level :=
  let trimmed := Text.trim text.toList
  match (Numeral.natural? Word.greatest64 trimmed).bind ofNumber? with
  | some level => some level
  | none => ofName? trimmed

end Level

/-- The level at which the program logs, which may be changed while it runs. -/
structure Logger where
  /-- The present level. -/
  level : Level

namespace Logger

/-- A logger with a level; without one it logs what is informative. -/
def new (level : Option Level) : Logger := ⟨level.getD default⟩

/-- Change the level. -/
def setLevel (_ : Logger) (level : Level) : Logger := ⟨level⟩

/-- Change the level to the one with a name; a text that names none changes nothing. -/
def set (logger : Logger) (text : String) : Logger :=
  match Level.parse? text with
  | some level => logger.setLevel level
  | none => logger

/-- The logger as it is and after each of several changes. -/
def history (logger : Logger) : List String → List Logger
  | [] => [logger]
  | change :: rest => logger :: history (logger.set change) rest

end Logger

end DeviceGateway.Settings
