import ArithLex.Program
import ArithLex.Proofs.Directory
import ArithLex.Proofs.Scan.Step
import ArithLex.Proofs.Shell.Session

set_option autoImplicit false

/-! A run of the program, stage by stage: the command line, the settings and the log file decide
whether anything is scanned at all; the rest of the run depends on what they gave. -/
namespace ArithLex.Program

open CommandLine (Arguments)
open Log (Event)

/-- The settings that a run goes by: those of the file that is asked for; else those of the usual
file if that is there; else the usual settings. -/
inductive Configured (directory : Directory) : Option String → Settings → Prop where
  | asked {path text : String} {settings : Settings} : directory.readText path = .ok text →
      Settings.parse text = .ok settings → Configured directory (some path) settings
  | found {text : String} {settings : Settings} : directory.reaches usualSettings = true →
      directory.readText usualSettings = .ok text → Settings.parse text = .ok settings →
      Configured directory none settings
  | absent : directory.reaches usualSettings = false → Configured directory none {}

theorem loadSettings_eq_ok_iff {directory : Directory} {path : String} {settings : Settings} :
    loadSettings directory path = .ok settings ↔
      ∃ text, directory.readText path = .ok text ∧ Settings.parse text = .ok settings := by
  cases read : directory.readText path with
  | error cause => simp [loadSettings, read]
  | ok text => cases parsed : Settings.parse text <;> simp [loadSettings, read, parsed]

theorem findSettings_eq_ok_iff {directory : Directory} {asked : Option String}
    {settings : Settings} :
    findSettings directory asked = .ok settings ↔ Configured directory asked settings := by
  constructor
  · intro found
    cases asked with
    | some path =>
      obtain ⟨text, read, parsed⟩ := loadSettings_eq_ok_iff.mp found
      exact .asked read parsed
    | none =>
      cases reached : directory.reaches usualSettings with
      | true =>
        simp only [findSettings, reached, ↓reduceIte] at found
        obtain ⟨text, read, parsed⟩ := loadSettings_eq_ok_iff.mp found
        exact .found reached read parsed
      | false =>
        simp only [findSettings, reached, Bool.false_eq_true, ↓reduceIte, Except.ok.injEq] at found
        exact found ▸ .absent reached
  · intro configured
    cases configured with
    | asked read parsed => exact loadSettings_eq_ok_iff.mpr ⟨_, read, parsed⟩
    | found reached read parsed =>
      simp only [findSettings, reached, ↓reduceIte]
      exact loadSettings_eq_ok_iff.mpr ⟨_, read, parsed⟩
    | absent reached => simp [findSettings, reached]

theorem Configured.unique {directory : Directory} {asked : Option String}
    {settings others : Settings} (configured : Configured directory asked settings)
    (again : Configured directory asked others) : settings = others := by
  have found := findSettings_eq_ok_iff.mpr configured
  rw [findSettings_eq_ok_iff.mpr again, Except.ok.injEq] at found
  exact found.symm

theorem openLog_eq_error_iff {directory : Directory} {asked : Option String} {cause : AccessError} :
    openLog directory asked = .error cause ↔
      ∃ path, asked = some path ∧ directory.openEnd path = .error cause := by
  cases asked with
  | none => simp [openLog]
  | some path => cases opened : directory.openEnd path <;> simp [openLog, opened, Except.map]

theorem openLog_eq_ok {directory opened : Directory} {asked : Option String}
    {logFile : Option (List String)} (logged : openLog directory asked = .ok (opened, logFile)) :
    (asked = none ∧ opened = directory ∧ logFile = none) ∨
      ∃ path place, asked = some path ∧ logFile = some place ∧
        directory.openEnd path = .ok (opened, place) := by
  cases asked with
  | none =>
    simp only [openLog, Except.ok.injEq, Prod.mk.injEq] at logged
    exact Or.inl ⟨rfl, logged.1.symm, logged.2.symm⟩
  | some path =>
    cases found : directory.openEnd path with
    | error cause => simp [openLog, found, Except.map] at logged
    | ok target =>
      simp only [openLog, found, Except.map, Except.ok.injEq, Prod.mk.injEq] at logged
      refine Or.inr ⟨path, target.2, rfl, logged.2.symm, ?_⟩
      rw [← logged.1]
      exact found

section Stopped

variable {world : World} {line : List String} {arguments : Arguments}

/-- A run without settings ends with a complaint, before any file is touched. -/
theorem run_of_unconfigured (understood : CommandLine.parse line = .ok arguments)
    (input : List UInt8)
    (unconfigured : ¬ ∃ settings, Configured world.directory arguments.config settings) :
    ∃ errors, run world input line = ⟨2, "", errors, world.directory⟩ := by
  cases found : findSettings world.directory arguments.config with
  | ok settings => exact absurd ⟨settings, findSettings_eq_ok_iff.mp found⟩ unconfigured
  | error failure => simp [run, start, understood, found]

/-- So does a run whose log file cannot be opened. -/
theorem run_of_unlogged (understood : CommandLine.parse line = .ok arguments) (input : List UInt8)
    {cause : AccessError} (unlogged : openLog world.directory arguments.logFile = .error cause) :
    ∃ errors, run world input line = ⟨2, "", errors, world.directory⟩ := by
  cases found : findSettings world.directory arguments.config with
  | error failure => simp [run, start, understood, found]
  | ok settings => simp [run, start, understood, found, unlogged]

end Stopped

/-- A run that may start to scan: it has understood its command line, has its settings, and has
opened its log file. -/
structure Ready (world : World) (line : List String) where
  arguments : Arguments
  settings : Settings
  opened : Directory
  logFile : Option (List String)
  understood : CommandLine.parse line = .ok arguments
  configured : Configured world.directory arguments.config settings
  logged : openLog world.directory arguments.logFile = .ok (opened, logFile)

namespace Journal

theorem write_append (journal : Journal) (directory : Directory) (first second : List Event) :
    journal.write (journal.write directory first) second =
      journal.write directory (first ++ second) := by
  cases layer : journal.file with
  | none => simp only [write, layer]
  | some file =>
    have records : file.records (first ++ second) = file.records first ++ file.records second := by
      simp only [Log.Layer.records, List.filter_append, List.map_append, String.join_append]
    simp only [write, layer, Directory.append_append, records, Text.encode_append]

def filters (journal : Journal) : List Log.Filter :=
  journal.console.filter :: journal.file.toList.map (·.filter)

/-- The layers let the same events pass. -/
theorem mem_filters_init {world : World} {arguments : Arguments} {logging : Settings.Logging}
    {place : Option (List String)} {filter : Log.Filter} :
    filter ∈ (init world arguments logging place).filters ↔ filter = logging.filter := by
  cases place <;> simp [filters, init]

end Journal

namespace Ready

variable {world : World} {line : List String} (ready : Ready world line) (input : List UInt8)

theorem arguments_eq {arguments : Arguments}
    (understood : CommandLine.parse line = .ok arguments) : ready.arguments = arguments := by
  have parsed := ready.understood
  rw [understood, Except.ok.injEq] at parsed
  exact parsed.symm

/-- There is only one way to be ready. -/
theorem unique (ready again : Ready world line) : ready = again := by
  obtain ⟨arguments, settings, opened, logFile, understood, configured, logged⟩ := ready
  obtain ⟨_, _, _, _, understoodToo, configuredToo, loggedToo⟩ := again
  obtain rfl := Except.ok.inj (understood.symm.trans understoodToo)
  obtain rfl := configured.unique configuredToo
  obtain ⟨rfl, rfl⟩ := Prod.mk.inj (Except.ok.inj (logged.symm.trans loggedToo))
  rfl

/-- How results are shown: the command line can ask for JSON, and it can ask for no arrows. -/
def style : Style :=
  { showArrows := ready.settings.output.showArrows && !ready.arguments.noArrows
    format := if ready.arguments.json then .json else ready.settings.output.format }

def journal : Journal :=
  .init world ready.arguments (ready.arguments.override ready.settings).logging ready.logFile

/-- The files at the time when the file is read. -/
def reading (path : String) : Directory := ready.journal.write ready.opened [fileEvent path]

theorem reading_of_unlogged {path : String} (unasked : ready.arguments.logFile = none) :
    ready.reading path = world.directory := by
  rcases openLog_eq_ok ready.logged with ⟨-, opened, unlogged⟩ | ⟨log, place, asked, -⟩
  · simp only [reading, Journal.write, journal, Journal.init, unlogged, opened, Option.map_none]
  · rw [unasked] at asked
    cases asked

theorem run_file {path : String} (named : ready.arguments.file = some path) :
    run world input line = runFile ready.opened ready.journal ready.style path := by
  simp only [run, start, ready.understood, findSettings_eq_ok_iff.mpr ready.configured,
    ready.logged, begin, named]
  rfl

theorem run_shell (unnamed : ready.arguments.file = none) :
    run world input line =
      ShellTask.run ⟨ready.opened, ready.journal, ready.settings.shell, ready.style⟩ input := by
  simp only [run, start, ready.understood, findSettings_eq_ok_iff.mpr ready.configured,
    ready.logged, begin, unnamed]
  rfl

/-- What happens in the run, in this order. -/
def events : List Event :=
  match ready.arguments.file with
  | some path =>
    fileEvent path :: (tokenizeFile (ready.reading path) path ready.style).events
  | none => shellEvent :: (Shell.run ready.settings.shell ready.style input).events

/-- What the run has to say behind its log records, if it fails. -/
def complaint : String :=
  match ready.arguments.file with
  | some path =>
    match (tokenizeFile (ready.reading path) path ready.style).result with
    | .ok _ => ""
    | .error failure => ready.style.renderFailure failure ++ "\n"
  | none =>
    match (Shell.run ready.settings.shell ready.style input).result with
    | .ok _ => ""
    | .error cause => ShellTask.complaint cause

/-- The console and the log file have the records of the same events. -/
theorem run_records :
    (run world input line).errors =
        ready.journal.console.records (ready.events input) ++ ready.complaint input ∧
      (run world input line).directory =
        ready.journal.write ready.opened (ready.events input) := by
  cases named : ready.arguments.file with
  | some path =>
    rw [ready.run_file input named]
    simp only [events, complaint, named, runFile]
    rw [Journal.write_append]
    constructor
    · simp only [reading]
      split <;> simp [*, String.append_assoc]
    · simp only [reading]
      split <;> rfl
  | none =>
    rw [ready.run_shell input named]
    simp only [events, complaint, named, ShellTask.run]
    split <;> simp [*]

/-- The events that the settings of the run let pass. -/
def passing : List Event :=
  (ready.events input).filter (ready.arguments.override ready.settings).logging.filter.passes

theorem records_eq {layer : Log.Layer} (member : layer.filter ∈ ready.journal.filters) :
    layer.records (ready.events input) =
      String.join ((ready.passing input).map layer.format) := by
  rw [Log.Layer.records, Journal.mem_filters_init.mp member]
  rfl

theorem errors_eq : (run world input line).errors =
    String.join ((ready.passing input).map fun event =>
      event.consoleLine (ready.arguments.logFormat.getD .compact) world.colored world.time
        (world.site? event)) ++ ready.complaint input := by
  have member : ready.journal.console.filter ∈ ready.journal.filters := List.mem_cons_self
  rw [(ready.run_records input).1, ready.records_eq input member]
  rfl

theorem directory_eq {place : List String} (logs : ready.logFile = some place) :
    (run world input line).directory = ready.opened.append place
      (Text.encode (String.join ((ready.passing input).map (·.fullLine world.time)))) := by
  let file : LogFile :=
    { filter := (ready.arguments.override ready.settings).logging.filter
      format := fun event => event.fullLine world.time
      place := place }
  have layer : ready.journal.file = some file := by
    rw [journal, Journal.init, logs]
    rfl
  have member : file.filter ∈ ready.journal.filters := Journal.mem_filters_init.mpr rfl
  rw [(ready.run_records input).2, Journal.write, layer]
  simp only [ready.records_eq input member, file]

end Ready
end ArithLex.Program
