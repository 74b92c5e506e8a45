import ArithLex.Proofs.Program.Run
import Mathlib.Tactic.Push

set_option autoImplicit false

/-! What a caller of the program may rely on: its exit code and what it writes, whatever the files,
the standard input and the command line are. -/
namespace ArithLex.Program

open CommandLine (Arguments)

variable {world : World} {line : List String} {arguments : Arguments}

/-- Why a file gives no tokens: it cannot be read as a text, or its text cannot be scanned. -/
inductive FileFails (directory : Directory) (path : String) : Failure → Prop where
  | unreadable {cause : AccessError} : directory.readText path = .error cause →
      FileFails directory path (.unreadable path cause)
  | illegal {text : String} {fault : Fault} : directory.readText path = .ok text →
      Scan.tokens ⟨path, text⟩ = .error fault → FileFails directory path (.scan fault)

/-- The file can be read as a text in UTF-8, and that is accepted with these tokens. -/
def FileGives (directory : Directory) (path : String) (tokens : List Token) : Prop :=
  ∃ text, directory.read path = .ok (Text.encode text) ∧ Scan.tokens ⟨path, text⟩ = .ok tokens

theorem tokenizeFile_eq_ok_iff {directory : Directory} {path : String} {style : Style}
    {listing : Listing} :
    (tokenizeFile directory path style).result = .ok listing ↔
      ∃ tokens, FileGives directory path tokens ∧ listing = ⟨path, tokens⟩ := by
  simp only [FileGives, ← Directory.readText_eq_ok_iff]
  cases read : directory.readText path with
  | error cause => simp [tokenizeFile, read]
  | ok text => simp [tokenizeFile, read, tokenize_eq_ok_iff]

theorem fails_of_tokenizeFile {directory : Directory} {path : String} {style : Style}
    {failure : Failure} (failed : (tokenizeFile directory path style).result = .error failure) :
    FileFails directory path failure := by
  cases read : directory.readText path with
  | error cause =>
    simp only [tokenizeFile, read, Except.error.injEq] at failed
    exact failed ▸ .unreadable read
  | ok text =>
    simp only [tokenizeFile, read] at failed
    obtain ⟨fault, scanned, rfl⟩ := tokenize_eq_error_iff.mp failed
    exact .illegal read scanned

namespace Ready

variable (ready : Ready world line) (input : List UInt8) {path : String}

theorem run_of_tokens (named : ready.arguments.file = some path) {tokens : List Token}
    (gives : FileGives (ready.reading path) path tokens) :
    (run world input line).exit = 0 ∧
      (run world input line).output = ready.style.renderListing ⟨path, tokens⟩ ++ "\n" := by
  have scanned : (tokenizeFile (ready.reading path) path ready.style).result = .ok ⟨path, tokens⟩ :=
    tokenizeFile_eq_ok_iff.mpr ⟨tokens, gives, rfl⟩
  rw [ready.run_file input named, runFile, ← reading]
  simp only [scanned, and_self]

theorem run_of_no_tokens (named : ready.arguments.file = some path)
    (none : ¬ ∃ tokens, FileGives (ready.reading path) path tokens) :
    (run world input line).exit = 1 ∧ (run world input line).output = "" ∧
      ∃ failure records, FileFails (ready.reading path) path failure ∧
        (run world input line).errors = records ++ ready.style.renderFailure failure ++ "\n" := by
  cases scanned : (tokenizeFile (ready.reading path) path ready.style).result with
  | ok listing =>
    obtain ⟨tokens, gives, -⟩ := tokenizeFile_eq_ok_iff.mp scanned
    exact absurd ⟨tokens, gives⟩ none
  | error failure =>
    rw [ready.run_file input named, runFile, ← reading]
    simp only [scanned, true_and]
    exact ⟨failure, _, fails_of_tokenizeFile scanned, rfl⟩

theorem run_of_session (unnamed : ready.arguments.file = none) :
    (run world input line).output = (Shell.run ready.settings.shell ready.style input).output ∧
      (Text.Valid input ∧ (run world input line).exit = 0 ∨
        ¬ Text.Valid input ∧ (run world input line).exit = 1) := by
  rw [ready.run_shell input unnamed, ShellTask.run, ←
    Shell.completed_iff_valid ready.settings.shell ready.style input]
  cases completed : (Shell.run ready.settings.shell ready.style input).completed <;>
    simp [Shell.Session.result, completed]

theorem exit_of_ready (ready : Ready world line) (input : List UInt8) :
    (run world input line).exit = 0 ∨ (run world input line).exit = 1 := by
  cases named : ready.arguments.file with
  | some path =>
    by_cases gives : ∃ tokens, FileGives (ready.reading path) path tokens
    · obtain ⟨tokens, gives⟩ := gives
      exact Or.inl (ready.run_of_tokens input named gives).1
    · exact Or.inr (ready.run_of_no_tokens input named gives).1
  | none =>
    rcases (ready.run_of_session input named).2 with ⟨-, exit⟩ | ⟨-, exit⟩
    · exact Or.inl exit
    · exact Or.inr exit

theorem exit_eq_zero_iff_file (named : ready.arguments.file = some path) :
    (run world input line).exit = 0 ↔ ∃ tokens, FileGives (ready.reading path) path tokens := by
  constructor
  · intro exit
    by_contra none
    rw [(ready.run_of_no_tokens input named none).1] at exit
    cases exit
  · rintro ⟨tokens, gives⟩
    exact (ready.run_of_tokens input named gives).1

theorem exit_eq_zero_iff_shell (unnamed : ready.arguments.file = none) :
    (run world input line).exit = 0 ↔ Text.Valid input := by
  rcases (ready.run_of_session input unnamed).2 with ⟨valid, exit⟩ | ⟨invalid, exit⟩ <;>
    simp [*]

end Ready

/-- Something keeps the run from scanning: there are no settings that it could go by, or the log
file that it shall write cannot be opened. -/
def Hindered (directory : Directory) (arguments : Arguments) : Prop :=
  (¬ ∃ settings, Configured directory arguments.config settings) ∨
    ∃ path cause, arguments.logFile = some path ∧ directory.openEnd path = .error cause

theorem run_of_hindered (understood : CommandLine.parse line = .ok arguments) (input : List UInt8)
    (hindered : Hindered world.directory arguments) :
    (run world input line).exit = 2 ∧ (run world input line).output = "" := by
  rcases hindered with unconfigured | ⟨path, cause, asked, refused⟩
  · obtain ⟨errors, ended⟩ := run_of_unconfigured understood input unconfigured
    rw [ended]
    exact ⟨rfl, rfl⟩
  · obtain ⟨errors, ended⟩ :=
      run_of_unlogged understood input (openLog_eq_error_iff.mpr ⟨path, asked, refused⟩)
    rw [ended]
    exact ⟨rfl, rfl⟩

theorem ready_of_not_hindered (understood : CommandLine.parse line = .ok arguments)
    (free : ¬ Hindered world.directory arguments) : Nonempty (Ready world line) := by
  unfold Hindered at free
  push Not at free
  obtain ⟨⟨settings, configured⟩, opens⟩ := free
  cases logged : openLog world.directory arguments.logFile with
  | error cause =>
    obtain ⟨path, asked, refused⟩ := openLog_eq_error_iff.mp logged
    exact absurd refused (opens path cause asked)
  | ok opened => exact ⟨arguments, settings, opened.1, opened.2, understood, configured, logged⟩

/-- The contract of the program, for every command line that asks for a run. Without settings or
without its log file it ends with two and writes nothing to its output. Otherwise a file that can be
read and scanned, as it is at that time, gives zero and its tokens; any other file gives one, no
output, and the failure at the end of what is written about errors. Without a file the shell runs,
and ends with zero exactly if its whole input is a text, whatever stands on the lines. The exit code
of a shared style that is used out of turn does not occur. Files are plain ones, which the run alone
writes to. -/
theorem run_keeps_contract (world : World) (input : List UInt8)
    (understood : CommandLine.parse line = .ok arguments) :
    (Hindered world.directory arguments →
      (run world input line).exit = 2 ∧ (run world input line).output = "") ∧
    (¬ Hindered world.directory arguments → ∃ ready : Ready world line,
      (∀ path, ready.arguments.file = some path →
        ((run world input line).exit = 0 ↔
          ∃ tokens, FileGives (ready.reading path) path tokens) ∧
        (∀ tokens, FileGives (ready.reading path) path tokens →
          (run world input line).output = ready.style.renderListing ⟨path, tokens⟩ ++ "\n") ∧
        ((run world input line).exit ≠ 0 →
          (run world input line).exit = 1 ∧ (run world input line).output = "" ∧
          ∃ failure records, FileFails (ready.reading path) path failure ∧
            (run world input line).errors =
              records ++ ready.style.renderFailure failure ++ "\n")) ∧
      (ready.arguments.file = none →
        ((run world input line).exit = 0 ↔ Text.Valid input) ∧
        ((run world input line).exit ≠ 0 → (run world input line).exit = 1) ∧
        (run world input line).output =
          (Shell.run ready.settings.shell ready.style input).output)) ∧
    (run world input line).exit ≠ 101 := by
  by_cases hindered : Hindered world.directory arguments
  · obtain ⟨exit, output⟩ := run_of_hindered understood input hindered
    refine ⟨fun _ => ⟨exit, output⟩, fun free => absurd hindered free, ?_⟩
    rw [exit]
    decide
  · obtain ⟨ready⟩ := ready_of_not_hindered understood hindered
    have exits := ready.exit_of_ready input
    refine ⟨fun blocked => absurd blocked hindered, fun _ => ⟨ready, ?_, ?_⟩, by omega⟩
    · intro path named
      have zero := ready.exit_eq_zero_iff_file input named
      refine ⟨zero, fun tokens gives => (ready.run_of_tokens input named gives).2, ?_⟩
      intro nonzero
      exact ready.run_of_no_tokens input named (fun gives => nonzero (zero.mpr gives))
    · intro unnamed
      exact ⟨ready.exit_eq_zero_iff_shell input unnamed, fun nonzero => by omega,
        (ready.run_of_session input unnamed).1⟩

/-- One file that is accepted and one that is not. -/
def goodAndBad : World where
  directory :=
    ⟨["work"],
      [(["work", "good"], .file (Text.encode "1+2")), (["work", "bad"], .file (Text.encode "1 @"))]⟩
  colored := false
  time := ""

def goodRun : Ready goodAndBad ["good"] where
  arguments := { file := some "good" }
  settings := {}
  opened := goodAndBad.directory
  logFile := none
  understood := by decide +kernel
  configured := .absent (by decide +kernel)
  logged := rfl

def badRun : Ready goodAndBad ["bad"] where
  arguments := { file := some "bad" }
  settings := {}
  opened := goodAndBad.directory
  logFile := none
  understood := by decide +kernel
  configured := .absent (by decide +kernel)
  logged := rfl

theorem run_keeps_contract_good_and_bad :
    CommandLine.parse ["good"] = .ok { file := some "good" } ∧
      (run goodAndBad [] ["good"]).exit = 0 ∧
      (run goodAndBad [] ["good"]).output = "[INT:1, PLUS, INT:2]\n" ∧
    CommandLine.parse ["bad"] = .ok { file := some "bad" } ∧
      (run goodAndBad [] ["bad"]).exit = 1 ∧
      (run goodAndBad [] ["bad"]).output = "" ∧
      ∃ records, (run goodAndBad [] ["bad"]).errors =
        records ++ "Illegal Character: '@'\nFile bad, line 1\n\n1 @\n  ^" ++ "\n" := by
  have free (path : String) : ¬ Hindered goodAndBad.directory { file := some path } := by
    rintro (unconfigured | ⟨_, _, ⟨⟩, _⟩)
    exact unconfigured ⟨{}, goodRun.configured⟩
  have accepted : FileGives (goodRun.reading "good") "good"
      [⟨.int, "1"⟩, .mark .plus, ⟨.int, "2"⟩] :=
    ⟨"1+2", by decide +kernel, by decide +kernel⟩
  have text : (badRun.reading "bad").readText "bad" = .ok "1 @" :=
    Directory.readText_eq_ok_iff.mpr (by decide +kernel)
  have broken : Scan.tokens ⟨"bad", "1 @"⟩ =
      .error ⟨⟨"bad", "1 @"⟩, ⟨2, 0, 2⟩, ⟨3, 0, 3⟩, '@'⟩ := by decide +kernel
  obtain ⟨good, law, -⟩ := (run_keeps_contract goodAndBad [] goodRun.understood).2.1 (free "good")
  obtain rfl := good.unique goodRun
  obtain ⟨zero, listed, -⟩ := law "good" rfl
  obtain ⟨bad, lawBad, -⟩ := (run_keeps_contract goodAndBad [] badRun.understood).2.1 (free "bad")
  obtain rfl := bad.unique badRun
  obtain ⟨zeroBad, -, refused⟩ := lawBad "bad" rfl
  have nonzero : (run goodAndBad [] ["bad"]).exit ≠ 0 := by
    rw [Ne, zeroBad]
    rintro ⟨tokens, other, read, scanned⟩
    rw [← Directory.readText_eq_ok_iff, text, Except.ok.injEq] at read
    subst read
    rw [broken] at scanned
    cases scanned
  obtain ⟨one, silent, failure, records, fails, errors⟩ := refused nonzero
  refine ⟨goodRun.understood, zero.mpr ⟨_, accepted⟩, ?_, badRun.understood, one, silent,
    records, ?_⟩
  · rw [listed _ accepted]
    decide +kernel
  · cases fails with
    | unreadable unread =>
      rw [text] at unread
      cases unread
    | illegal read scanned =>
      rw [text, Except.ok.injEq] at read
      subst read
      rw [broken, Except.error.injEq] at scanned
      rw [errors, ← scanned]
      congr 2

end ArithLex.Program
