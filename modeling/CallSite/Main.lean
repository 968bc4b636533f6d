import CallSite.CommandLine

/-!
# The program

Reads the file that a command names, runs the command, and prints what it leaves.
-/

namespace CallSite

/-- What is found under the name of a file. -/
def readContents (name : String) : IO Command.FileContents := do
  try
    return .text (← IO.FS.readFile name)
  catch e =>
    match e with
    | .noFileOrDirectory .. => return .absent
    | e => return .unreadable (toString e)

/-- The result of a command. -/
def runCommand (c : Command) : IO Command.Output := do
  match c with
  | .inspect name _ =>
    let contents ← readContents name
    return c.run fun _ => contents
  | .natives => return c.run fun _ => .absent

end CallSite

/-- **The command-line program.** -/
def main (args : List String) : IO UInt32 := do
  match CallSite.Command.parse? args with
  | none =>
    IO.eprintln "Usage: callopt [-v] inspect [-q] <FILE> | natives"
    return 2
  | some c =>
    let out ← CallSite.runCommand c
    out.lines.forM IO.println
    if !out.complaint.isEmpty then IO.eprintln out.complaint
    return out.exitCode
