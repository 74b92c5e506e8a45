import ArithLex.Unicode.Lowercase

set_option autoImplicit false

/-! How important an event is, and the names people write for that. -/
namespace ArithLex.Log

/-- From the quietest to the noisiest. -/
inductive Level where
  | error
  | warn
  | info
  | debug
  | trace
deriving DecidableEq

namespace Level

def all : List Level := [error, warn, info, debug, trace]

/-- Noisier levels rank higher. -/
def rank : Level → Nat
  | error => 0
  | warn => 1
  | info => 2
  | debug => 3
  | trace => 4

instance : LE Level := ⟨fun a b => a.rank ≤ b.rank⟩

instance : LT Level := ⟨fun a b => a.rank < b.rank⟩

instance (a b : Level) : Decidable (a ≤ b) := inferInstanceAs (Decidable (a.rank ≤ b.rank))

instance (a b : Level) : Decidable (a < b) := inferInstanceAs (Decidable (a.rank < b.rank))

/-- The name in a settings document. -/
def keyword : Level → String
  | error => "error"
  | warn => "warn"
  | info => "info"
  | debug => "debug"
  | trace => "trace"

/-- The name in a log record. -/
def label : Level → String
  | error => "ERROR"
  | warn => "WARN"
  | info => "INFO"
  | debug => "DEBUG"
  | trace => "TRACE"

/-- A level name that nobody knows, in lower case. -/
structure Unknown where
  name : String
deriving DecidableEq

def Unknown.message (unknown : Unknown) : String :=
  "unknown log level '" ++ unknown.name
    ++ "' (expected silent, error, warn, info, debug or trace)"

/-- The level of a name in any case of its letters; silent still lets errors through. -/
def ofArgument (argument : String) : Except Unknown Level :=
  let name := Unicode.lowercase argument
  if name = "silent" then .ok error
  else match all.find? (·.keyword == name) with
    | some level => .ok level
    | none => .error ⟨name⟩

end Level
end ArithLex.Log
