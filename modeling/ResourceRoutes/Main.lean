import ResourceRoutes.Command.Run
import ResourceRoutes.CommandLine.Arguments
set_option autoImplicit false

namespace ResourceRoutes.Main

def faultOf : IO.Error → FileFault
  | .noFileOrDirectory .. => .missing
  | .inappropriateType _ 20 _ => .notDirectory
  | .inappropriateType _ 21 _ => .isDirectory
  | .invalidArgument _ 36 _ => .nameTooLong
  | error => .refused (toString error)

def readText (path : String) : IO (Except FileFault String) := do
  match ← (IO.FS.readBinFile path).toBaseIO with
  | .error error => return .error (faultOf error)
  | .ok bytes =>
    match String.fromUTF8? bytes with
    | some content => return .ok content
    | none => return .error .notText

def writeText (path content : String) : IO (Except FileFault Unit) := do
  match ← (IO.FS.writeFile path content).toBaseIO with
  | .error error => return .error (faultOf error)
  | .ok () => return .ok ()

def environment : IO Environment := do
  let bindings ← Environment.names.filterMapM fun name => do
    return (← IO.getEnv name).map (name, ·)
  return ⟨bindings⟩

def deliver (format : Log.Format) : Emission → IO Unit
  | .output line => IO.println line
  | .note line => IO.eprintln line
  | .event event => IO.eprintln <| match format with
    | .json => String.ofList (Json.ofDocument event.document).compact
    | .pretty => event.line

end ResourceRoutes.Main

open ResourceRoutes in
def main (words : List String) : IO UInt32 := do
  match CommandLine.ofArguments words with
  | .error fault =>
    if fault.exitCode = 0 then IO.println fault.message else IO.eprintln fault.message
    return fault.exitCode.toUInt32
  | .ok line =>
    let env ← Main.environment
    let outcome ← line.run ⟨Main.readText, Main.writeText⟩ env
    outcome.emissions.forM (Main.deliver (line.logSettings env).format)
    if let some fault := outcome.fault? then IO.eprintln (Outcome.faultLine fault)
    return outcome.exitCode.toUInt32
