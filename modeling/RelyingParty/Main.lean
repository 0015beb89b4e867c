import RelyingParty.CommandLine.Run
import Std.Time.DateTime.Timestamp

namespace RelyingParty.CommandLine

def readFile (path : String) : IO (Except String Bytes) := do
  match ← (IO.FS.readBinFile path).toBaseIO with
  | .ok content => return .ok content.data.toList
  | .error (.noFileOrDirectory ..) => return .error "No such file or directory (os error 2)"
  | .error e => return .error (toString e)

def readFiles (paths : List String) : IO Files := do
  let contents ← paths.mapM fun path => do return (path, ← readFile path)
  return fun path =>
    match contents.find? (·.1 == path) with
    | some (_, content) => content
    | none => .error "not read"

def currentTime : IO UInt64 := do
  let now ← Std.Time.Timestamp.now
  return UInt64.ofNat now.toSecondsSinceUnixEpoch.val.toNat

def runArguments (args : List String) : IO UInt32 := do
  match Invocation.ofArguments args with
  | .error e =>
    if e = .help then IO.println e.message else IO.eprintln e.message
    return UInt32.ofNat e.exitCode
  | .ok invocation =>
    let files ← readFiles invocation.command.paths
    match invocation.run (← currentTime) files with
    | .ok answer =>
      IO.println answer
      return 0
    | .error e =>
      IO.eprintln ("Error: " ++ e.message)
      return UInt32.ofNat e.exitCode

end RelyingParty.CommandLine

def main (args : List String) : IO UInt32 := RelyingParty.CommandLine.runArguments args
