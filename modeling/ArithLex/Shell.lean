import ArithLex.Text.Bytes
import ArithLex.Text.Cut
import ArithLex.Tokenize

set_option autoImplicit false

/-! The interactive shell: it reads a line, scans it on its own, shows what came of it, and goes on
until the input ends. -/
namespace ArithLex.Shell

open Log (Event)

/-- The line feeds stay at the ends of their lines. -/
def lines (input : List UInt8) : List (List UInt8) := Text.cutBehind 10 input

/-- The line without the carriage returns and line feeds at its end. -/
def trim (line : String) : String :=
  String.ofList (line.toList.reverse.dropWhile fun c => c == '\n' || c == '\r').reverse

def endEvent : Event := ⟨.debug, .cli, "End of shell input", []⟩

/-- What the shell writes about a line, if the line is a text. -/
def answer? (shell : Settings.Shell) (style : Style) (line : List UInt8) :
    Option (Log.Logged String) :=
  (Text.decode? line).map fun text =>
    let scanned := tokenize ⟨shell.fileName, trim text⟩ style
    ⟨style.render scanned.result ++ "\n", scanned.events⟩

/-- What the shell wrote, what it logged, and whether it read its whole input. -/
structure Session where
  output : String
  events : List Event
  completed : Bool
deriving DecidableEq

/-- How the session ended: on a line that is no text, as reading a file that is no text does. -/
def Session.result (session : Session) : Except AccessError Unit :=
  if session.completed then .ok () else .error .notText

/-- Answers the lines one after the other, each after a prompt. A line that is no text ends the
session at once. -/
def session (shell : Settings.Shell) (style : Style) : List (List UInt8) → Session
  | [] => ⟨shell.prompt ++ "\n", [endEvent], true⟩
  | line :: rest =>
    match answer? shell style line with
    | none => ⟨shell.prompt, [], false⟩
    | some answer =>
      let later := session shell style rest
      { output := shell.prompt ++ answer.result ++ later.output
        events := answer.events ++ later.events
        completed := later.completed }

def run (shell : Settings.Shell) (style : Style) (input : List UInt8) : Session :=
  session shell style (lines input)

end ArithLex.Shell
