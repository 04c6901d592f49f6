import Schemata.Console.Reading
import Schemata.Console.Run
import Std.Time.DateTime.Timestamp

/-!
# The program

The command line without migrations of its own.  It reads the arguments, runs the invocation on a
file tree that has only the current directory, prints what it tells, and makes the new entries of
the tree in the file system.
-/

namespace Schemata

namespace Program

/-- Prints an event on one line. -/
def printEvent (e : Event) : IO Unit :=
  IO.eprintln (e.level.name ++ " " ++ e.message ++
    String.join (e.fields.map fun (name, value) => " " ++ name ++ "=" ++ value))

/-- Prints the events, details only if they are wanted. -/
def printEvents (verbose : Bool) (events : List Event) : IO Unit :=
  for e in events do
    if verbose || e.level != .debug then printEvent e

/-- The path that leads to a place from the root. -/
def pathOf (p : Place) : String :=
  "/" ++ String.intercalate "/" p

/-- The place that a path from the root leads to. -/
def placeOf (path : String) : Place :=
  (FileTree.parts path).filter (· ≠ "")

/-- Makes an entry in the file system.  A file that is already there is left alone. -/
def store (p : Place) : Entry → IO Unit
  | .directory => IO.FS.createDirAll (pathOf p)
  | .file contents => do
    let handle ← IO.FS.Handle.mk (pathOf p) .writeNew
    handle.putStr contents

/-- The exit code of a command line that asks for nothing. -/
def exitCode : UsageError → UInt32
  | .displayHelp | .displayVersion => 0
  | _ => 2

/-- Runs an invocation and gives the exit code. -/
def runInvocation (configured : Option String) (i : Invocation) : IO UInt32 := do
  let now ← Std.Time.Timestamp.now
  let before := FileTree.bare (placeOf (toString (← IO.currentDir)))
  let world : World :=
    { configured, now := now.toSecondsSinceUnixEpoch.val, tree := before }
  let f := i.run {} world
  try
    for (p, e) in f.tree.entries.drop before.entries.length do store p e
  catch e =>
    IO.eprintln ("Error: " ++ toString e)
    return 1
  printEvents i.verbose f.events
  IO.print (f.output ++ f.sink.printed)
  match f.result with
  | .ok () => return 0
  | .error e =>
    IO.eprintln ("Error: " ++ e.message)
    return 1

end Program

end Schemata

/-- Runs the command line. -/
def main (args : List String) : IO UInt32 := do
  let configured ← IO.getEnv "DB_DRIVER"
  match Schemata.Invocation.read configured args with
  | .ok i => Schemata.Program.runInvocation configured i
  | .error e =>
    if e = .displayHelp then IO.print (Schemata.Console.help configured)
    else if e = .displayVersion then IO.println "tablekit"
    else IO.eprintln "error: the command line is not accepted; see --help"
    return Schemata.Program.exitCode e
