/-
The program as a process.

It takes its words from the command line, the log filter from the environment and its settings
from a file, and prints what the run comes to.  Any free port is granted to it, and it runs until
its standard input ends.
-/
import FrontDoor.Program.Run

open FrontDoor

/-- What an error of the file system means for reading a text. -/
def fileError : IO.Error → Disk.Error
  | .noFileOrDirectory _ code _ => .system ⟨code.toNat⟩
  | .permissionDenied _ code _ => .system ⟨code.toNat⟩
  | .inappropriateType _ code _ => .system ⟨code.toNat⟩
  | .invalidArgument _ code _ => .system ⟨code.toNat⟩
  | e => .other (toString e)

/-- The text of a file. -/
def fileText (path : String) : IO (Except Disk.Error String) := do
  try
    let content ← IO.FS.readBinFile path
    return match Bytes.toString? content.toList with
      | some text => .ok text
      | none => .error .notText
  catch e => return .error (fileError e)

/-- The address that is bound when one is asked for: the same, on a free port if on none. -/
def grantedAddress : Net.SocketAddress → Except Disk.Errno Net.SocketAddress
  | .v4 octets 0 => .ok (.v4 octets 49152)
  | .v6 groups scope 0 => .ok (.v6 groups scope 49152)
  | address => .ok address

def main (words : List String) : IO UInt32 := do
  let text ← match Program.Command.ofWords words with
    | .run ⟨some path, _⟩ => fileText path
    | _ => pure (.ok "")
  let around : Program.Surroundings :=
    { readText := fun _ => text
      logFilter? := ← IO.getEnv "RUST_LOG"
      bind := grantedAddress }
  let report := Program.run around words .terminate
  if report.ending = .stopped then
    let _ ← (← IO.getStdin).readToEnd
  report.log.forM IO.println
  report.complaints.forM IO.eprintln
  match report.ending with
  | .told text => IO.println text
  | .failed cause => IO.eprintln ("Error: " ++ cause)
  | .misused | .stopped | .broken => pure ()
  return report.ending.exitCode.toUInt32
