import ArithLex.Log.Event

set_option autoImplicit false

/-! Which events are recorded: each target has the noisiest level that still passes. -/
namespace ArithLex.Log

/-- Levels by the beginning of the target, and the level of all other targets. -/
structure Filter where
  fallback : Level
  directives : List (String × Level)
deriving DecidableEq

namespace Filter

/-- Of two directives the one with the longer target, and the first of two equally long ones. -/
def closer (a b : String × Level) : String × Level :=
  if a.1.length < b.1.length then b else a

/-- The noisiest level that passes for a target: that of the longest directive that the target
begins with. -/
def limit (filter : Filter) (target : String) : Level :=
  match filter.directives.filter (fun d => d.1.toList.isPrefixOf target.toList) with
  | [] => filter.fallback
  | first :: rest => (rest.foldl closer first).2

def allows (filter : Filter) (target : String) (level : Level) : Bool :=
  decide (level ≤ filter.limit target)

def passes (filter : Filter) (event : Event) : Bool :=
  filter.allows event.stage.target event.level

end Filter
end ArithLex.Log
