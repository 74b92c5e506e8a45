import ArithLex.Proofs.Log.Record
import ArithLex.Proofs.Program.Run

set_option autoImplicit false

/-! What a run leaves of the files. It writes to its log file only, there at the end only, and not
before its command line and its settings are in order; what it writes are the records of the same
events as on the console. -/
namespace ArithLex.Program

open Log (Event)

variable {world : World} {line : List String}

theorem directory_of_stop {stop : CommandLine.Stop} (stopped : CommandLine.parse line = .error stop)
    (input : List UInt8) : (run world input line).directory = world.directory := by
  simp only [run, start, stopped]
  cases stop <;> rfl

/-- The log file only grows, and it is complete. A command line that is not understood, or one that
asks about the program, changes no file; nor does a run without settings or one whose log file
cannot be opened. Any other run leaves the log file with what it held, which is nothing if it was
not there, and behind that one record for each event that passes the filter: the time, the level,
the target, the message and the fields of the event, on lines of their own. The records on the
console are those of the same events, in the same order. All other files are as they were. The log
file is a plain one here, as all files are: a device may keep nothing of what is written to it. -/
theorem log_file_only_grows (world : World) (input : List UInt8) (line : List String) :
    (∀ stop, CommandLine.parse line = .error stop →
      (run world input line).directory = world.directory) ∧
    ∀ arguments log, CommandLine.parse line = .ok arguments → arguments.logFile = some log →
      ((¬ ∃ settings, Configured world.directory arguments.config settings) →
        (run world input line).directory = world.directory) ∧
      (∀ cause, world.directory.openEnd log = .error cause →
        (run world input line).directory = world.directory) ∧
      ∀ settings opened place, Configured world.directory arguments.config settings →
        world.directory.openEnd log = .ok (opened, place) →
        ∃ (ready : Ready world line) (recorded : List Event) (records shown : List String)
          (old : List UInt8),
          ready.arguments = arguments ∧ ready.settings = settings ∧
          recorded = (ready.events input).filter
            (arguments.override settings).logging.filter.passes ∧
          List.Forall₂ (Log.FiledAs world.time) recorded records ∧
          List.Forall₂ (fun event =>
            Log.ShownAs world.time event (arguments.logFormat.getD .compact)) recorded shown ∧
          (world.directory.read log = .ok old ∨
            world.directory.read log = .error .notFound ∧ old = []) ∧
          (run world input line).directory.resolve log =
            .ok ⟨place, .file (old ++ Text.encode (String.join records))⟩ ∧
          (run world input line).errors = String.join shown ++ ready.complaint input ∧
          ∀ other, other ≠ place →
            (run world input line).directory.node? other = world.directory.node? other := by
  refine ⟨fun stop stopped => directory_of_stop stopped input, ?_⟩
  intro arguments log understood asked
  refine ⟨?_, ?_, ?_⟩
  · intro unconfigured
    obtain ⟨errors, ended⟩ := run_of_unconfigured understood input unconfigured
    rw [ended]
  · intro cause refused
    have unlogged := openLog_eq_error_iff.mpr ⟨log, asked, refused⟩
    obtain ⟨errors, ended⟩ := run_of_unlogged understood input unlogged
    rw [ended]
  · intro settings opened place configured opens
    have logged : openLog world.directory arguments.logFile = .ok (opened, some place) := by
      simp only [openLog, asked, opens, Except.map]
    let ready : Ready world line :=
      ⟨arguments, settings, opened, some place, understood, configured, logged⟩
    have written := ready.directory_eq input rfl
    obtain ⟨old, reached, content⟩ := Directory.openEnd_content opens
    refine ⟨ready, ready.passing input, _, _, old, rfl, rfl, rfl,
      (Log.forall₂_iff_map_eq (Log.filedAs_iff world.time)).mpr rfl, ?_, content, ?_,
      ready.errors_eq input, ?_⟩
    · rw [List.forall₂_map_right_iff, List.forall₂_same]
      intro event _
      exact event.consoleLine_shown world.colored world.time _ _
    · rw [written]
      exact Directory.resolve_append reached _
    · intro other apart
      rw [written]
      exact ((Directory.openEnd_writes opens).1.append _).elsewhere other apart

/-- A log file that holds a line already, and a file to scan. -/
def keptLog : World where
  directory :=
    ⟨["work"],
      [(["work", "log"], .file (Text.encode "kept\n")), (["work", "sum"], .file (Text.encode "1"))]⟩
  colored := false
  time := "12:00"

def keptLogRun : Ready keptLog ["--log-level", "info", "--log-file", "./log", "sum"] where
  arguments := { file := some "sum", logLevel := some .info, logFile := some "./log" }
  settings := {}
  opened := keptLog.directory
  logFile := some ["work", "log"]
  understood := by decide +kernel
  configured := .absent (by decide +kernel)
  logged := by decide +kernel

theorem log_file_only_grows_kept_line :
    CommandLine.parse ["--log-level", "info", "--log-file", "./log", "sum"] =
        .ok { file := some "sum", logLevel := some .info, logFile := some "./log" } ∧
      Configured keptLog.directory none {} ∧
      keptLog.directory.openEnd "./log" = .ok (keptLog.directory, ["work", "log"]) ∧
      (run keptLog [] ["--log-level", "info", "--log-file", "./log", "sum"]).directory.resolve
          "./log" =
        .ok ⟨["work", "log"], .file (Text.encode "kept\n" ++ Text.encode
          ("12:00  INFO abacus::cli: Tokenizing file file=sum\n" ++
            "12:00  INFO abacus::api: Starting scan file=\"sum\"\n" ++
            "12:00  INFO abacus::api: Scan completed count=1\n"))⟩ := by
  have opens : keptLog.directory.openEnd "./log" = .ok (keptLog.directory, ["work", "log"]) := by
    decide +kernel
  have held : keptLog.directory.read "./log" = .ok (Text.encode "kept\n") := by decide +kernel
  obtain ⟨-, law⟩ :=
    log_file_only_grows keptLog [] ["--log-level", "info", "--log-file", "./log", "sum"]
  obtain ⟨-, -, grows⟩ := law _ "./log" keptLogRun.understood rfl
  obtain ⟨ready, recorded, records, _, old, _, _, passed, filed, _, content, grown, _⟩ :=
    grows {} keptLog.directory ["work", "log"] keptLogRun.configured opens
  obtain rfl := ready.unique keptLogRun
  have written : String.join records =
      "12:00  INFO abacus::cli: Tokenizing file file=sum\n" ++
        "12:00  INFO abacus::api: Starting scan file=\"sum\"\n" ++
        "12:00  INFO abacus::api: Scan completed count=1\n" := by
    rw [← (Log.forall₂_iff_map_eq (Log.filedAs_iff keptLog.time)).mp filed, passed]
    decide +kernel
  rw [held] at content
  rcases content with same | ⟨absent, -⟩
  · obtain rfl := Except.ok.inj same
    rw [written] at grown
    exact ⟨keptLogRun.understood, keptLogRun.configured, opens, grown⟩
  · cases absent

end ArithLex.Program
