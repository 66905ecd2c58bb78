/-
# The command line of the gateway

Reads the file with the settings and the environment, and reports which sessions they open.
-/

import DeviceGateway.Startup

open DeviceGateway

namespace DeviceGateway.CommandLine

/-- How to call the program. -/
def usage : String := "Usage: gateway [-c FILE | --config FILE]\n"

/-- The bytes of a file, if there is one. -/
def content? (path : String) : IO (Option Bytes) := do
  try
    return some (← IO.FS.readBinFile path).toList
  catch
    | .noFileOrDirectory _ _ _ => return none
    | failure => throw failure

/-- The variables of the environment. -/
def environment : IO (TextMap String) := do
  return Startup.assignments ((← content? "/proc/self/environ").getD [])

/-- Whether a file can be read. -/
def isReadable (path : String) : IO Bool := do
  try
    return (← content? path).isSome
  catch _ => return false

/-- Run with the settings of a file. -/
def run (path : String) : IO UInt32 := do
  match Settings.load? (← content? path) (← environment) with
  | none =>
    IO.eprintln (ProgramFault.configuration path).message
    return 1
  | some settings =>
    let certified ← match settings.hub.caPath with
      | some certificate => isReadable certificate
      | none => pure false
    if settings.identities.isEmpty then IO.eprintln "No identities configured, nothing to bridge"
    for session in Startup.sessions settings fun _ => certified do
      IO.println (Startup.report session)
    return 0

end DeviceGateway.CommandLine

/-- The program. -/
def main (arguments : List String) : IO UInt32 := do
  match Startup.Request.ofArguments arguments with
  | .help =>
    IO.print CommandLine.usage
    return 0
  | .refused argument =>
    IO.eprintln ("unexpected argument '" ++ argument ++ "'")
    IO.eprint CommandLine.usage
    return 2
  | .run named =>
    CommandLine.run (Startup.Request.path named (← IO.getEnv "EB_CONFIG"))
