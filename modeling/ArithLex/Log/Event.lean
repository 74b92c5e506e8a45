import ArithLex.Log.Level

set_option autoImplicit false

/-! What is logged: events of the parts of a run, each with a message and named values. -/
namespace ArithLex.Log

/-- The parts of a run that log. -/
inductive Stage where
  | lexer
  | api
  | cli
deriving DecidableEq

namespace Stage

def all : List Stage := [lexer, api, cli]

def name : Stage → String
  | lexer => "lexer"
  | api => "api"
  | cli => "cli"

/-- The address of the part's events, by which they are filtered. -/
def target (stage : Stage) : String := "abacus::" ++ stage.name

end Stage

/-- A value of an event. A `name` is quoted where records are meant for people; `shown` text is
written as it is. -/
inductive Value where
  | number (value : Int)
  | name (text : String)
  | shown (text : String)
deriving DecidableEq

namespace Value

def bare : Value → String
  | number value => toString value
  | name text => text
  | shown text => text

end Value

/-- Something that happened, with what it happened to. -/
structure Event where
  level : Level
  stage : Stage
  message : String
  fields : List (String × Value)
deriving DecidableEq

/-- A result, and the events on the way to it in the order in which they happened. -/
structure Logged (α : Type) where
  result : α
  events : List Event

end ArithLex.Log
