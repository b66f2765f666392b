import SessionProbe.Bus.Recording
import SessionProbe.Program

set_option autoImplicit false

/-!
The command line. The first argument names a probe, and standard input holds a recording of the
bus; further arguments count for nothing. The reply goes to standard output, the log and the report
of a failure to standard error.
-/

namespace SessionProbe

/-- The status that tells of a command line or a recording that cannot be used. -/
def misuseStatus : UInt32 := 2

/-- The lines of a stream, without their ends. -/
partial def readLines (stream : IO.FS.Stream) : IO (List String) := do
  let line ← stream.getLine
  if line.isEmpty then
    return []
  else
    return line.trimAsciiEnd.toString :: (← readLines stream)

def findFile (path : String) : IO Settings.File := do
  try
    let content ← IO.FS.readBinFile path
    return .octets content.toList
  catch
    | .noFileOrDirectory .. => return .missing
    | .inappropriateType .. => return .directory
    | problem => return .unreadable (toString problem)

/-- What the program finds around it, given what is at the address of the bus. -/
def findEnvironment (endpoint : Bus.Endpoint) : IO Environment := do
  let settingsPath := Settings.defaultPath (← IO.getEnv "XDG_CONFIG_HOME") (← IO.getEnv "HOME")
  return {
    logFilter := ← IO.getEnv "RUST_LOG"
    settingsPath
    settingsFile := ← findFile settingsPath
    endpoint }

def Ending.present (ending : Ending) : IO UInt32 := do
  for message in ending.messages do
    IO.eprintln message
  let output ← IO.getStdout
  output.write (ByteArray.mk ending.output.toArray)
  output.flush
  return UInt32.ofNat ending.status

def refuse (reason : String) : IO UInt32 := do
  IO.eprintln reason
  return misuseStatus

end SessionProbe

open SessionProbe

def main (arguments : List String) : IO UInt32 := do
  match arguments.head?.bind Probe.named? with
  | none => refuse "usage: session-probe (cbsim | matt1) < recording"
  | some probe =>
    match Bus.Endpoint.ofRecording (← readLines (← IO.getStdin)) with
    | .error fault => refuse fault.message
    | .ok endpoint => (probe.main (← findEnvironment endpoint)).present
