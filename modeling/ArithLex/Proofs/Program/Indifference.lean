import ArithLex.Proofs.Program.Contract

set_option autoImplicit false

/-! Two runs that differ only in what they log: they end with the same exit code and write the same
output. The log can reach the result on one way only, which is a log file that is scanned itself. -/
namespace ArithLex.Program

open CommandLine (Arguments)

/-- The command lines ask for the same, apart from what is logged and from the settings file. -/
structure SameTask (one two : Arguments) : Prop where
  file : one.file = two.file
  json : one.json = two.json
  noArrows : one.noArrows = two.noArrows

/-- Two runs find the same: the same files, with the same one of them for the settings; or settings
that differ only in what is logged, and the same file to scan. -/
inductive SameFindings (first second : Directory) (one two : Arguments) : Prop where
  | files : first = second → one.config = two.config → SameFindings first second one two
  | documents {settings others : Settings} : Configured first one.config settings →
      Configured second two.config others → settings.shell = others.shell →
      settings.output = others.output →
      (∀ path, one.file = some path → first.read path = second.read path) →
      SameFindings first second one two

/-- The log file, once it is open, is not the file that is scanned. -/
def LogApart (directory : Directory) (arguments : Arguments) : Prop :=
  ∀ log path opened place, arguments.logFile = some log → arguments.file = some path →
    directory.openEnd log = .ok (opened, place) → ¬ opened.SameFile log path

variable {world other : World} {line otherLine : List String}

theorem SameFindings.configured_iff {first second : Directory} {one two : Arguments}
    (findings : SameFindings first second one two) :
    (∃ settings, Configured first one.config settings) ↔
      ∃ settings, Configured second two.config settings := by
  cases findings with
  | files directory config => rw [directory, config]
  | documents configured again => exact ⟨fun _ => ⟨_, again⟩, fun _ => ⟨_, configured⟩⟩

theorem SameFindings.settings {first second : Directory} {one two : Arguments}
    (findings : SameFindings first second one two) {settings others : Settings}
    (configured : Configured first one.config settings)
    (again : Configured second two.config others) :
    settings.shell = others.shell ∧ settings.output = others.output := by
  cases findings with
  | files directory config =>
    rw [← directory, ← config] at again
    rw [configured.unique again]
    exact ⟨rfl, rfl⟩
  | documents other otherAgain shell output _ =>
    rw [configured.unique other, again.unique otherAgain]
    exact ⟨shell, output⟩

theorem SameFindings.gives_iff {first second : Directory} {one two : Arguments}
    (findings : SameFindings first second one two) {path : String} (named : one.file = some path)
    (tokens : List Token) : FileGives first path tokens ↔ FileGives second path tokens := by
  cases findings with
  | files directory _ => rw [directory]
  | documents _ _ _ _ read => rw [FileGives, FileGives, read path named]

theorem hindered_iff {directory : Directory} {arguments : Arguments} :
    Hindered directory arguments ↔
      (¬ ∃ settings, Configured directory arguments.config settings) ∨
        (openLog directory arguments.logFile).isOk = false := by
  have refused : (∃ path cause, arguments.logFile = some path ∧
      directory.openEnd path = .error cause) ↔
      (openLog directory arguments.logFile).isOk = false := by
    rw [exists_comm]
    simp only [← openLog_eq_error_iff]
    cases openLog directory arguments.logFile <;> simp [Except.isOk, Except.toBool]
  rw [Hindered, refused]

namespace Ready

/-- The beginning of the log does not change what is scanned. -/
theorem gives_reading_iff (ready : Ready world line) {path : String}
    (named : ready.arguments.file = some path)
    (apart : LogApart world.directory ready.arguments) (tokens : List Token) :
    FileGives (ready.reading path) path tokens ↔ FileGives world.directory path tokens := by
  have same : ∀ text, (ready.reading path).readText path = .ok text ↔
      world.directory.readText path = .ok text := by
    intro text
    rcases openLog_eq_ok ready.logged with
      ⟨unasked, -, -⟩ | ⟨log, place, asked, logged, opened⟩
    · rw [ready.reading_of_unlogged unasked]
    · simp only [reading, Journal.write, journal, Journal.init, logged, Option.map_some]
      exact Directory.readText_append opened (apart log path _ place asked named opened) _ text
  simp only [FileGives, ← Directory.readText_eq_ok_iff, same]

/-- Runs that are ready for the same task with the same file content, style and shell end alike. -/
theorem run_alike (ready : Ready world line) (again : Ready other otherLine) (input : List UInt8)
    (file : ready.arguments.file = again.arguments.file) (style : ready.style = again.style)
    (shell : ready.settings.shell = again.settings.shell)
    (gives : ∀ path, ready.arguments.file = some path → ∀ tokens,
      FileGives (ready.reading path) path tokens ↔ FileGives (again.reading path) path tokens) :
    (run world input line).exit = (run other input otherLine).exit ∧
      (run world input line).output = (run other input otherLine).output := by
  cases named : ready.arguments.file with
  | some path =>
    have namedAgain : again.arguments.file = some path := file ▸ named
    by_cases some : ∃ tokens, FileGives (ready.reading path) path tokens
    · obtain ⟨tokens, given⟩ := some
      obtain ⟨exit, output⟩ := ready.run_of_tokens input named given
      obtain ⟨exitAgain, outputAgain⟩ :=
        again.run_of_tokens input namedAgain ((gives path named tokens).mp given)
      rw [exit, exitAgain, output, outputAgain, style]
      exact ⟨rfl, rfl⟩
    · have none : ¬ ∃ tokens, FileGives (again.reading path) path tokens := by
        simpa only [gives path named] using some
      obtain ⟨exit, output, -⟩ := ready.run_of_no_tokens input named some
      obtain ⟨exitAgain, outputAgain, -⟩ := again.run_of_no_tokens input namedAgain none
      rw [exit, exitAgain, output, outputAgain]
      exact ⟨rfl, rfl⟩
  | none =>
    have unnamed : again.arguments.file = none := file ▸ named
    obtain ⟨output, exit⟩ := ready.run_of_session input named
    obtain ⟨outputAgain, exitAgain⟩ := again.run_of_session input unnamed
    rw [output, outputAgain, style, shell]
    refine ⟨?_, rfl⟩
    rcases exit with ⟨valid, exit⟩ | ⟨invalid, exit⟩ <;>
      rcases exitAgain with ⟨validAgain, exitAgain⟩ | ⟨invalidAgain, exitAgain⟩
    · rw [exit, exitAgain]
    · exact absurd valid invalidAgain
    · exact absurd validAgain invalid
    · rw [exit, exitAgain]

end Ready

/-- What is logged never influences the result. Take two runs over the same input whose command
lines ask for the same task, and which find the same files or settings that differ only in what is
logged. If either both of their log files can be opened or neither can, and none of them is the file
that is scanned, then both runs end with the same exit code and the same output. Two plain files can
only be the same if their places are; a link or a device could lead to the scanned file unseen. -/
theorem run_indifferent_to_logging (first second : World) (input : List UInt8)
    {one two : List String} {a b : Arguments} (understood : CommandLine.parse one = .ok a)
    (understoodToo : CommandLine.parse two = .ok b) (task : SameTask a b)
    (findings : SameFindings first.directory second.directory a b)
    (opens : (openLog first.directory a.logFile).isOk = (openLog second.directory b.logFile).isOk)
    (apart : LogApart first.directory a) (apartToo : LogApart second.directory b) :
    (run first input one).exit = (run second input two).exit ∧
      (run first input one).output = (run second input two).output := by
  have both : Hindered first.directory a ↔ Hindered second.directory b := by
    rw [hindered_iff, hindered_iff, findings.configured_iff, opens]
  by_cases hindered : Hindered first.directory a
  · obtain ⟨exit, output⟩ := run_of_hindered understood input hindered
    obtain ⟨exitToo, outputToo⟩ := run_of_hindered understoodToo input (both.mp hindered)
    rw [exit, exitToo, output, outputToo]
    exact ⟨rfl, rfl⟩
  · obtain ⟨ready⟩ := ready_of_not_hindered understood hindered
    obtain ⟨again⟩ :=
      ready_of_not_hindered understoodToo (fun blocked => hindered (both.mpr blocked))
    obtain rfl := ready.arguments_eq understood
    obtain rfl := again.arguments_eq understoodToo
    obtain ⟨shell, output⟩ := findings.settings ready.configured again.configured
    have style : ready.style = again.style := by
      simp only [Ready.style, output, task.json, task.noArrows]
    refine ready.run_alike again input task.file style shell ?_
    intro path named tokens
    rw [ready.gives_reading_iff named apart, findings.gives_iff named]
    exact (again.gives_reading_iff (task.file ▸ named) apartToo tokens).symm

/-- Files for two runs, one of which writes a log. -/
def oneSum : World where
  directory := ⟨["work"], [(["work", "sum"], .file (Text.encode "1+2"))]⟩
  colored := false
  time := ""

theorem run_indifferent_to_logging_log_file :
    CommandLine.parse ["sum"] = .ok { file := some "sum" } ∧
      CommandLine.parse ["--log-level", "trace", "--log-file", "log", "sum"] =
        .ok { file := some "sum", logLevel := some .trace, logFile := some "log" } ∧
      (run oneSum [] ["sum"]).exit =
        (run oneSum [] ["--log-level", "trace", "--log-file", "log", "sum"]).exit ∧
      (run oneSum [] ["sum"]).output =
        (run oneSum [] ["--log-level", "trace", "--log-file", "log", "sum"]).output := by
  have understood : CommandLine.parse ["sum"] = .ok { file := some "sum" } := by decide +kernel
  have understoodToo : CommandLine.parse ["--log-level", "trace", "--log-file", "log", "sum"] =
      .ok { file := some "sum", logLevel := some .trace, logFile := some "log" } := by decide +kernel
  have opened : oneSum.directory.openEnd "log" =
      .ok (oneSum.directory.put ["work", "log"] (.file []), ["work", "log"]) := by decide +kernel
  have apart : LogApart oneSum.directory { file := some "sum" } := by
    intro log path _ _ asked
    cases asked
  have apartToo : LogApart oneSum.directory
      { file := some "sum", logLevel := some .trace, logFile := some "log" } := by
    rintro _ _ after place ⟨⟩ ⟨⟩ made ⟨_, _, _, toLog, toSum⟩
    rw [opened] at made
    cases made
    have log : (oneSum.directory.put ["work", "log"] (.file [])).resolve "log" =
        .ok ⟨["work", "log"], .file []⟩ := by
      decide +kernel
    have sum : (oneSum.directory.put ["work", "log"] (.file [])).resolve "sum" =
        .ok ⟨["work", "sum"], .file (Text.encode "1+2")⟩ := by decide +kernel
    rw [log] at toLog
    rw [sum] at toSum
    cases toLog
    simp at toSum
  exact ⟨understood, understoodToo, run_indifferent_to_logging oneSum oneSum [] understood
    understoodToo ⟨rfl, rfl, rfl⟩ (.files rfl rfl) (by decide +kernel) apart apartToo⟩

end ArithLex.Program
