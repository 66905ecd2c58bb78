/-
# The start of the program

What the command line asks for, and which sessions the settings open: one for every identity they list,
with the token they give it.  A session whose client cannot be made is reported, and the others open all
the same.
-/

import DeviceGateway.Settings.Source
import DeviceGateway.Uplink.Provider

namespace DeviceGateway.Startup

/-- What the command line asks for. -/
inductive Request where
  /-- To run with the settings of a file; without a name it is the usual one. -/
  | run (path : Option String)
  /-- To explain the command line. -/
  | help
  /-- Nothing that is known; the argument is the first that does not fit. -/
  | refused (argument : String)
deriving DecidableEq, Repr

namespace Request

/-- The name of a file that an argument gives by itself. -/
def attached? (argument : String) : Option String :=
  (Text.afterStart "--config=".toList argument.toList).map String.ofList

/-- Read the arguments behind the name of a file, or all of them where there is no name. -/
def ofRest (named : Option String) : List String → Request
  | [] => run named
  | argument :: _ => if argument ∈ ["-h", "--help"] then help else refused argument

/-- Read the arguments of the command line, of which one at most names a file. -/
def ofArguments : List String → Request
  | [] => run none
  | argument :: rest =>
    match attached? argument, rest with
    | some path, _ => ofRest (some path) rest
    | none, path :: more =>
      if argument ∈ ["-c", "--config"] then ofRest (some path) more
      else ofRest none (argument :: rest)
    | none, [] => ofRest none [argument]

/-- The path of the file with the settings, where the environment may name one too. -/
def path (named fromEnvironment : Option String) : String :=
  (named <|> fromEnvironment).getD Settings.defaultPath

end Request

/-- The provider of clients that the settings describe. -/
def provider (settings : Settings.Document) : Uplink.Provider :=
  settings.identities.foldl (fun known entry =>
      match entry.sasToken with
      | some token => known.setCredentials entry.identity token
      | none => known)
    { settings := settings.hub }

/-- The sessions that the settings open: each identity with what it presents to the hub. -/
def sessions (settings : Settings.Document) (readable : String → Bool) :
    List (Identity × Answer Uplink.Options) :=
  settings.identities.map fun entry =>
    (entry.identity, ((provider settings).create readable entry.identity).map Prod.fst)

/-- The variables of a block of memory in which a zero byte ends each of them. -/
def assignments (block : Bytes) : TextMap String :=
  TextMap.ofList ((Text.splitAll '\x00' (Utf8.decodeLossy block)).filterMap fun assignment =>
    (Text.splitFirst '=' assignment).map fun parts =>
      (String.ofList parts.1, String.ofList parts.2))

/-- The line that reports a session. -/
def report : Identity × Answer Uplink.Options → String
  | (identity, .ok options) =>
    "session " ++ identity.toText ++ ": " ++ options.userName ++ " at " ++ options.host ++ ":" ++
      Numeral.ofNat options.port
  | (identity, .error fault) => "session " ++ identity.toText ++ ": " ++ fault.message

end DeviceGateway.Startup
