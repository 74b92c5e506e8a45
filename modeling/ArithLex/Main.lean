import ArithLex.Log.Time
import ArithLex.Program
import Std.Time.DateTime.Timestamp

set_option autoImplicit false

/-! The program on a real machine: it looks at the files that the command line names, and writes
what the library says. -/
namespace ArithLex.Main

open Program (Outcome ShellTask)

/-- The path is a folder, as an attempt to read it shows. -/
def isFolderError : IO.Error → Bool
  | .inappropriateType _ code _ => code == 21
  | _ => false

/-- Notes what is at every name on the way along a path, up to the first file or gap. -/
def look (directory : Directory) (path : String) : IO Directory := do
  let names := Directory.names path
  let mut seen := directory
  for count in List.range names.length do
    let way := "/".intercalate (names.take (count + 1))
    -- an absolute path has an empty first name
    if way ≠ "" then
      try
        let bytes ← IO.FS.readBinFile way
        return seen.make way (.file bytes.toList)
      catch error =>
        if isFolderError error then seen := seen.make way .folder else return seen
  return seen

/-- Writes at the end of the log file what a run added to it. -/
def saveLog (path : String) (before after : Directory) : IO Unit := do
  match before.read path, after.read path with
  | old, .ok new =>
    let added := new.drop (old.toOption.getD []).length
    let handle ← IO.FS.Handle.mk path .append
    handle.write ⟨added.toArray⟩
  | _, .error _ => pure ()

def logPath? (arguments : List String) : Option String :=
  match CommandLine.parse arguments with
  | .ok arguments => arguments.logFile
  | .error _ => none

/-- Writes what a finished run says, and its log. -/
def finish (arguments : List String) (before : Directory) (outcome : Outcome) : IO UInt32 := do
  if let some path := logPath? arguments then
    saveLog path before outcome.directory
  (← IO.getStderr).putStr outcome.errors
  (← IO.getStdout).putStr outcome.output
  return outcome.exit.toUInt32

/-- Reads a line with the line feed at its end; at the end of the input it is empty. -/
partial def readLine (input : IO.FS.Stream) (read : List UInt8) : IO (List UInt8) := do
  let bytes ← input.read 1
  match bytes.toList with
  | [] => return read.reverse
  | byte :: _ => if byte = 10 then return (byte :: read).reverse else readLine input (byte :: read)

def record (task : ShellTask) (log : Option IO.FS.Handle) (events : List Log.Event) : IO Unit := do
  (← IO.getStderr).putStr (task.journal.console.records events)
  if let (some handle, some file) := (log, task.journal.file) then
    handle.write (file.records events).toUTF8
    handle.flush

/-- Prompts for lines and answers them until the input ends. -/
partial def converse (task : ShellTask) (log : Option IO.FS.Handle) : IO UInt32 := do
  let output ← IO.getStdout
  output.putStr task.shell.prompt
  output.flush
  let line ← readLine (← IO.getStdin) []
  if line.isEmpty then
    output.putStr "\n"
    record task log [Shell.endEvent]
    return 0
  match Shell.answer? task.shell task.style line with
  | none =>
    (← IO.getStderr).putStr (ShellTask.complaint .notText)
    return 1
  | some answer =>
    record task log answer.events
    output.putStr answer.result
    converse task log

end ArithLex.Main

open ArithLex in
def main (arguments : List String) : IO UInt32 := do
  let working := (Directory.names (toString (← IO.currentDir))).filter (· != "")
  let directory ← (Program.paths arguments).foldlM Main.look (.emptyAt working)
  let now ← Std.Time.Timestamp.now
  let micros := now.toNanosecondsSinceUnixEpoch.toInt.toNat / 1000
  let colored := ((← IO.getEnv "NO_COLOR").getD "").isEmpty
  match Program.start { directory, colored, time := Log.timestamp micros } arguments with
  | .finished outcome => Main.finish arguments directory outcome
  | .shell task => do
    let log ← (Main.logPath? arguments).mapM fun path => IO.FS.Handle.mk path .append
    Main.record task log [Program.shellEvent]
    Main.converse task log
