import ArithLex.Proofs.Program.Run

set_option autoImplicit false

/-! The level that a command line asks for, against the levels of the settings. It takes the place
of the general level only: a part of the run whose level the settings give keeps that level. -/
namespace ArithLex

namespace Settings.Logging

/-- The level of a part of a run for which the command line asks for a level. -/
def levelUnder (logging : Logging) (asked : Log.Level) : Log.Stage → Log.Level
  | .lexer => logging.lexer.getD asked
  | .api => logging.api.getD asked
  | .cli => asked

/-- No target begins with another one. -/
theorem target_isPrefixOf (other stage : Log.Stage) :
    other.target.toList.isPrefixOf stage.target.toList = decide (other = stage) := by
  cases other <;> cases stage <;> decide +kernel

/-- Every part of a run has the level of its own directive. -/
theorem limit_target (logging : Logging) (stage : Log.Stage) :
    logging.filter.limit stage.target = logging.level stage := by
  have own : logging.filter.directives.filter
      (fun directive => directive.1.toList.isPrefixOf stage.target.toList) =
        [(stage.target, logging.level stage)] := by
    simp only [filter, Log.Stage.all, List.map_cons, List.map_nil, List.filter_cons,
      List.filter_nil, target_isPrefixOf]
    cases stage <;> rfl
  simp only [Log.Filter.limit, own, List.foldl_nil]

theorem filter_passes (logging : Logging) (event : Log.Event) :
    logging.filter.passes event = decide (event.level ≤ logging.level event.stage) := by
  rw [Log.Filter.passes, Log.Filter.allows, limit_target]

theorem level_override {arguments : CommandLine.Arguments} {asked : Log.Level}
    (flag : arguments.logLevel = some asked) (settings : Settings) (stage : Log.Stage) :
    (arguments.override settings).logging.level stage =
      settings.logging.levelUnder asked stage := by
  cases stage <;> simp [CommandLine.Arguments.override, flag, level, levelUnder]

theorem levelUnder_eq_asked_iff (logging : Logging) (asked : Log.Level) :
    (∀ stage, logging.levelUnder asked stage = asked) ↔
      (∀ own, logging.lexer = some own → own = asked) ∧
        ∀ own, logging.api = some own → own = asked := by
  constructor
  · intro wins
    have lexer := wins .lexer
    have api := wins .api
    simp only [levelUnder] at lexer api
    constructor
    · rintro own given
      simpa [given] using lexer
    · rintro own given
      simpa [given] using api
  · rintro ⟨lexer, api⟩ stage
    cases stage with
    | cli => rfl
    | lexer =>
      cases given : logging.lexer with
      | none => simp [levelUnder, given]
      | some own => simp [levelUnder, given, lexer own given]
    | api =>
      cases given : logging.api with
      | none => simp [levelUnder, given]
      | some own => simp [levelUnder, given, api own given]

end Settings.Logging

namespace Program

open Log (Event Level Stage)

variable {world : World} {line : List String}

/-- The events of the run that are recorded if the command line asks for a level. -/
def Ready.recorded (ready : Ready world line) (input : List UInt8) (asked : Level) : List Event :=
  (ready.events input).filter fun event =>
    decide (event.level ≤ ready.settings.logging.levelUnder asked event.stage)

theorem Ready.passing_eq (ready : Ready world line) {asked : Level}
    (flag : ready.arguments.logLevel = some asked) (input : List UInt8) :
    ready.passing input = ready.recorded input asked := by
  have passes : (ready.arguments.override ready.settings).logging.filter.passes = fun event =>
      decide (event.level ≤ ready.settings.logging.levelUnder asked event.stage) := by
    funext event
    rw [← Settings.Logging.level_override flag]
    exact Settings.Logging.filter_passes _ event
  rw [Ready.passing, passes, Ready.recorded]

/-- What a run records if its command line asks for a level, on the console and at the end of its
log file alike: of every part of the run the events up to the level that the settings give that part,
and else up to the level asked for. So the level asked for holds for every part exactly if the
settings give no part another one. -/
theorem recorded_up_to_levels (ready : Ready world line) (input : List UInt8) {asked : Level}
    (flag : ready.arguments.logLevel = some asked) :
    (run world input line).errors =
        String.join ((ready.recorded input asked).map fun event =>
          event.consoleLine (ready.arguments.logFormat.getD .compact) world.colored world.time
            (world.site? event)) ++
        ready.complaint input ∧
    (∀ place, ready.logFile = some place →
      (run world input line).directory = ready.opened.append place
        (Text.encode (String.join ((ready.recorded input asked).map (·.fullLine world.time))))) ∧
    ((∀ filter ∈ ready.journal.filters, ∀ stage : Stage, filter.limit stage.target = asked) ↔
      (∀ own, ready.settings.logging.lexer = some own → own = asked) ∧
        ∀ own, ready.settings.logging.api = some own → own = asked) ∧
    (ready.settings.logging.lexer = none → ready.settings.logging.api = none →
      ∀ event ∈ ready.recorded input asked, event.level ≤ asked) := by
  rw [← ready.passing_eq flag input]
  refine ⟨ready.errors_eq input, fun place logs => ready.directory_eq input logs, ?_, ?_⟩
  · rw [← Settings.Logging.levelUnder_eq_asked_iff]
    have limits : ∀ stage : Stage,
        (ready.arguments.override ready.settings).logging.filter.limit stage.target =
          ready.settings.logging.levelUnder asked stage := by
      intro stage
      rw [← Settings.Logging.level_override flag]
      exact Settings.Logging.limit_target _ stage
    simp only [Ready.journal, Journal.mem_filters_init, forall_eq, limits]
  · intro lexer api event member
    rw [ready.passing_eq flag input] at member
    have within := (List.mem_filter.mp member).2
    cases part : event.stage <;>
      simpa [Settings.Logging.levelUnder, lexer, api, part] using within

/-- Settings that give the lexer its own level, and a file to scan. -/
def lexerLevelSet : World where
  directory :=
    ⟨["work"],
      [(["work", "abacus.json"],
          .file (Text.encode "\x7b\"logging\":\x7b\"lexer\":\"trace\"\x7d\x7d")),
        (["work", "sum"], .file (Text.encode "1"))]⟩
  colored := false
  time := ""

/-- The run over that file that is asked to log errors only. -/
def lexerLevelRun : Ready lexerLevelSet ["--log-level", "error", "sum"] where
  arguments := { file := some "sum", logLevel := some .error }
  settings := { logging := { lexer := some .trace } }
  opened := lexerLevelSet.directory
  logFile := none
  understood := by decide +kernel
  configured :=
    .found (by decide +kernel) (Directory.readText_eq_ok_iff.mpr rfl) (by decide +kernel)
  logged := rfl

theorem recorded_up_to_levels_lexer_set :
    lexerLevelRun.arguments.logLevel = some .error ∧
      ¬ ∀ filter ∈ lexerLevelRun.journal.filters, ∀ stage : Stage,
        filter.limit stage.target = .error := by
  refine ⟨rfl, ?_⟩
  intro wins
  have own := ((recorded_up_to_levels lexerLevelRun [] rfl).2.2.1.mp wins).1 .trace rfl
  cases own

/-- Asked to log errors only, the run records every token. -/
theorem run_records_noisier_than_asked :
    CommandLine.parse ["--log-level", "error", "sum"] =
        .ok { file := some "sum", logLevel := some .error } ∧
      Configured lexerLevelSet.directory none { logging := { lexer := some .trace } } ∧
      (run lexerLevelSet [] ["--log-level", "error", "sum"]).errors =
        "DEBUG Starting scan file=sum chars=1\n" ++
          "TRACE Produced token token=INT:1 index=1\n" ++ "DEBUG Scan completed count=1\n" :=
  ⟨lexerLevelRun.understood, lexerLevelRun.configured, by decide +kernel⟩

end Program
end ArithLex
