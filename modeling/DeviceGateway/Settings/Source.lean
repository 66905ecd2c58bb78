/-
# Where settings come from

The settings of the program are those of a file, which may be missing, and over them those of the
environment.  Both are configuration values first, so that a variable may set a single field inside a
section of the file, and the settings are read from the whole.
-/

import DeviceGateway.Config.Environment
import DeviceGateway.Config.Path
import DeviceGateway.Settings.Basic
import DeviceGateway.Toml.Reader

namespace DeviceGateway.Settings

/-- The name of the file that is read when no other is named. -/
def defaultPath : String := "bridge.toml"

/-- The bytes of a byte order mark. -/
def byteOrderMark : Bytes := [0xEF, 0xBB, 0xBF]

/-- The text of a file: a byte order mark is skipped, and a broken character replaced. -/
def fileText (content : Bytes) : List Char :=
  Utf8.decodeLossy (if byteOrderMark.isPrefixOf content then content.drop 3 else content)

/-- The configuration values of a file; a missing file has none. -/
def fileValues? : Option Bytes → Option (List (String × Config.Value))
  | none => some []
  | some content => Toml.read? (fileText content)

/-- The settings of a file and of the variables of the environment. -/
def load? (file : Option Bytes) (environment : TextMap String) : Option Document := do
  let values ← fileValues? file
  let whole := Config.Value.ofSources [values, Config.Environment.settings environment]
  Document.reader Config.format whole

end DeviceGateway.Settings
