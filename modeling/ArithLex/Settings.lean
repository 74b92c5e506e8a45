import ArithLex.Log.Filter

set_option autoImplicit false

/-! The settings of the program, and what they are when nobody sets them. -/
namespace ArithLex

/-- How tokens and errors are written out. -/
inductive Format where
  | text
  | json
deriving DecidableEq

namespace Format

/-- The name in a settings document. -/
def keyword : Format → String
  | text => "text"
  | json => "json"

/-- The name in a log record. -/
def label : Format → String
  | text => "Text"
  | json => "Json"

end Format

/-- How the results of a scan are shown. -/
structure Style where
  showArrows : Bool := true
  format : Format := .text
deriving DecidableEq

/-- The style as a log record shows it. -/
def Style.describe (style : Style) : String :=
  "RunConfig \x7b show_arrows: " ++ (if style.showArrows then "true" else "false")
    ++ ", output: " ++ style.format.label ++ " \x7d"

namespace Settings

/-- The noisiest level that is logged. The lexer and the scan interface may have their own. -/
structure Logging where
  general : Log.Level := .warn
  lexer : Option Log.Level := none
  api : Option Log.Level := none
deriving DecidableEq

/-- The interactive shell: what it prints before each line, and the file name of its lines. -/
structure Shell where
  prompt : String := "basic > "
  fileName : String := "<stdin>"
deriving DecidableEq

namespace Logging

/-- The level of a part of the run: its own, else the general one. -/
def level (logging : Logging) : Log.Stage → Log.Level
  | .lexer => logging.lexer.getD logging.general
  | .api => logging.api.getD logging.general
  | .cli => logging.general

/-- A directive for every part of the run, and the general level for all else. -/
def filter (logging : Logging) : Log.Filter :=
  ⟨logging.general, Log.Stage.all.map fun stage => (stage.target, logging.level stage)⟩

end Logging
end Settings

structure Settings where
  logging : Settings.Logging := {}
  shell : Settings.Shell := {}
  output : Style := {}
deriving DecidableEq

end ArithLex
