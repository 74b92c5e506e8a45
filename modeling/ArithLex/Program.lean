import ArithLex.CommandLine
import ArithLex.Directory
import ArithLex.Settings.Reader
import ArithLex.Shell
import ArithLex.Slot

set_option autoImplicit false

/-! The whole program, from a command line and the files around it to what it writes. -/
namespace ArithLex.Program

open Log (Event)

/-- What a run finds: the files, whether its terminal shows colours, the time that log records carry,
and what it knows of where events come from. -/
structure World where
  directory : Directory
  colored : Bool
  time : String
  site? : Event → Option Log.Site := fun _ => none

structure Outcome where
  exit : Nat
  output : String
  errors : String
  directory : Directory
deriving DecidableEq

/-- The settings file that is read if no other is asked for. -/
def usualSettings : String := "abacus.json"

def loadSettings (directory : Directory) (path : String) : Except Failure Settings :=
  match directory.readText path with
  | .error cause => .error (.badSettings path cause.message)
  | .ok text =>
    match Settings.parse text with
    | .error rejection => .error (.badSettings path rejection.message)
    | .ok settings => .ok settings

/-- The settings file asked for, else the usual one if it is there, else no settings at all. -/
def findSettings (directory : Directory) (asked : Option String) : Except Failure Settings :=
  match asked with
  | some path => loadSettings directory path
  | none =>
    if directory.reaches usualSettings then loadSettings directory usualSettings else .ok {}

/-- Reads and scans a file; its path is its name. -/
def tokenizeFile (directory : Directory) (path : String) (style : Style) :
    Log.Logged (Except Failure Listing) :=
  match directory.readText path with
  | .error cause => ⟨.error (.unreadable path cause), []⟩
  | .ok text => tokenize ⟨path, text⟩ style

/-- The layer of the log that writes to a file. -/
structure LogFile extends Log.Layer where
  place : List String

/-- Where log records go. -/
structure Journal where
  console : Log.Layer
  file : Option LogFile

namespace Journal

/-- Every layer has a filter of its own, by the same settings. -/
def init (world : World) (arguments : CommandLine.Arguments) (logging : Settings.Logging)
    (place : Option (List String)) : Journal :=
  let layout := arguments.logFormat.getD .compact
  { console :=
      { filter := logging.filter
        format := fun event =>
          event.consoleLine layout world.colored world.time (world.site? event) }
    file := place.map fun place =>
      { filter := logging.filter
        format := fun event => event.fullLine world.time
        place := place } }

/-- Writes the records of the events to the log file. -/
def write (journal : Journal) (directory : Directory) (events : List Event) : Directory :=
  match journal.file with
  | none => directory
  | some file => directory.append file.place (Text.encode (file.records events))

end Journal

def openLog (directory : Directory) (asked : Option String) :
    Except AccessError (Directory × Option (List String)) :=
  match asked with
  | none => .ok (directory, none)
  | some path => (directory.openEnd path).map fun (opened, place) => (opened, some place)

def fileEvent (path : String) : Event :=
  ⟨.info, .cli, "Tokenizing file", [("file", .shown path)]⟩

def shellEvent : Event := ⟨.info, .cli, "Starting shell", []⟩

/-- Scans a file. The records of its beginning are written before it is read. -/
def runFile (directory : Directory) (journal : Journal) (style : Style) (path : String) : Outcome :=
  let begun := journal.write directory [fileEvent path]
  let scanned := tokenizeFile begun path style
  let logged := journal.write begun scanned.events
  let records := journal.console.records (fileEvent path :: scanned.events)
  match scanned.result with
  | .ok listing => ⟨0, style.renderListing listing ++ "\n", records, logged⟩
  | .error failure => ⟨1, "", records ++ style.renderFailure failure ++ "\n", logged⟩

/-- A shell that is about to start. -/
structure ShellTask where
  directory : Directory
  journal : Journal
  shell : Settings.Shell
  style : Style

/-- What a shell says when it breaks off. -/
def ShellTask.complaint (cause : AccessError) : String := "Error: " ++ cause.message ++ "\n"

def ShellTask.run (task : ShellTask) (input : List UInt8) : Outcome :=
  let session := Shell.run task.shell task.style input
  let events := shellEvent :: session.events
  let logged := task.journal.write task.directory events
  let records := task.journal.console.records events
  match session.result with
  | .ok () => ⟨0, session.output, records, logged⟩
  | .error cause => ⟨1, session.output, records ++ ShellTask.complaint cause, logged⟩

/-- How far a run comes without its standard input: to its end, or to the start of a shell. -/
inductive Start where
  | finished (outcome : Outcome)
  | shell (task : ShellTask)

/-- Scans the file, or gets the shell ready, with the style that the slot holds once it is set. -/
def begin (world : World) (arguments : CommandLine.Arguments) (settings : Settings)
    (directory : Directory) (logFile : Option (List String)) : Start :=
  let journal := Journal.init world arguments settings.logging logFile
  match (Slot.empty.set settings.output).bind Slot.get with
  -- out of reach: the slot of a run is empty at first
  | .error misuse => .finished ⟨101, "", misuse.message ++ "\n", directory⟩
  | .ok style =>
    match arguments.file with
    | some path => .finished (runFile directory journal style path)
    | none => .shell ⟨directory, journal, settings.shell, style⟩

/-- Answers a question about the program, or says how it was misused. -/
def answer (directory : Directory) : CommandLine.Stop → Outcome
  | .summary => ⟨0, CommandLine.page CommandLine.summary, "", directory⟩
  | .manual => ⟨0, CommandLine.page CommandLine.manual, "", directory⟩
  | .version => ⟨0, CommandLine.page CommandLine.version, "", directory⟩
  | .misuse misuse => ⟨2, "", misuse.report, directory⟩

/-- Starts the program. The command line is read first, then the settings; then the log file is
opened, and only then anything is scanned. -/
def start (world : World) (arguments : List String) : Start :=
  match CommandLine.parse arguments with
  | .error stop => .finished (answer world.directory stop)
  | .ok arguments =>
    match findSettings world.directory arguments.config with
    | .error failure => .finished ⟨2, "", "Error: " ++ failure.message ++ "\n", world.directory⟩
    | .ok settings =>
      match openLog world.directory arguments.logFile with
      | .error cause =>
        .finished
          ⟨2, "", "Error: Cannot open log file: " ++ cause.message ++ "\n", world.directory⟩
      | .ok (directory, logFile) =>
        begin world arguments (arguments.override settings) directory logFile

/-- Runs the program from its command line and its standard input to its end. -/
def run (world : World) (input : List UInt8) (arguments : List String) : Outcome :=
  match start world arguments with
  | .finished outcome => outcome
  | .shell task => task.run input

/-- The paths that a run may look at. -/
def paths (arguments : List String) : List String :=
  match CommandLine.parse arguments with
  | .error _ => []
  | .ok arguments =>
    usualSettings :: arguments.config.toList ++ arguments.logFile.toList ++ arguments.file.toList

end ArithLex.Program
