import ArithLex.Json
import ArithLex.Log.Filter
import ArithLex.Text.Quoted
import ArithLex.Text.Terminal

set_option autoImplicit false

/-! Log records: events as lines of text. -/
namespace ArithLex.Log

/-- How records look on the console. -/
inductive Layout where
  | pretty
  | compact
  | json
deriving DecidableEq

namespace Layout

def all : List Layout := [pretty, compact, json]

/-- The name on the command line. -/
def keyword : Layout → String
  | pretty => "pretty"
  | compact => "compact"
  | json => "json"

end Layout

/-- A value for people. -/
def Value.text : Value → String
  | .number value => toString value
  | .name text => Text.quoted text
  | .shown text => text

/-- A value for programs. -/
def Value.json : Value → Json
  | .number value => .int value
  | .name text => .str text
  | .shown text => .str text

/-- Where in the text of a program an event comes from, which only a pretty record tells. -/
structure Site where
  file : String
  line : Nat

def Level.column (level : Level) : String :=
  let label := level.label
  String.ofList (List.replicate (5 - label.length) ' ') ++ label

def Level.color : Level → String
  | .error => "31"
  | .warn => "33"
  | .info => "32"
  | .debug => "34"
  | .trace => "35"

open Text (paintedIf styledIf)

namespace Event

def body (event : Event) (colored : Bool) : String :=
  event.message ++ String.join (event.fields.map fun (name, value) =>
    " " ++ paintedIf colored "3" name ++ paintedIf colored "2" "=" ++ value.text)

/-- A record without time and target. -/
def compactLine (event : Event) (colored : Bool) : String :=
  paintedIf colored event.level.color event.level.column ++ " " ++ event.body colored ++ "\n"

/-- A record with time and target, without colours. -/
def fullLine (event : Event) (time : String) : String :=
  time ++ " " ++ event.level.column ++ " " ++ event.stage.target ++ ": " ++ event.body false ++ "\n"

/-- A name within the style of the level. That has to be taken up again behind it, since no style
outlives the end of another. -/
def boldName (event : Event) (colored : Bool) (name : String) : String :=
  paintedIf colored ("1;" ++ event.level.color) name ++ styledIf colored event.level.color

/-- A record over several lines, the last of them empty. -/
def prettyLines (event : Event) (colored : Bool) (time : String) (site? : Option Site) : String :=
  "  " ++ paintedIf colored "2" time ++ " "
    ++ paintedIf colored event.level.color event.level.column ++ " "
    ++ event.boldName colored event.stage.target ++ ": "
    ++ styledIf colored event.level.color ++ event.message
    ++ String.join (event.fields.map fun (name, value) =>
      ", " ++ event.boldName colored name ++ ": " ++ value.text)
    ++ styledIf colored "0" ++ "\n"
    ++ (site?.elim "" fun site =>
      "    " ++ paintedIf colored "2;3" "at" ++ " " ++ site.file ++ ":" ++ toString site.line
        ++ "\n")
    ++ "\n"

/-- A record as a JSON object. -/
def jsonLine (event : Event) (time : String) : String :=
  Json.compact (.obj
    [("timestamp", .str time),
     ("level", .str event.level.label),
     ("fields", .obj (("message", .str event.message)
       :: event.fields.map fun (name, value) => (name, value.json))),
     ("target", .str event.stage.target)]) ++ "\n"

def consoleLine (event : Event) (layout : Layout) (colored : Bool) (time : String)
    (site? : Option Site) : String :=
  match layout with
  | .pretty => event.prettyLines colored time site?
  | .compact => event.compactLine colored
  | .json => event.jsonLine time

end Event

/-- One of the places that a log is written to: what is recorded there, and how. -/
structure Layer where
  filter : Filter
  format : Event → String

/-- The records of the events that pass. -/
def Layer.records (layer : Layer) (events : List Event) : String :=
  String.join ((events.filter layer.filter.passes).map layer.format)

end ArithLex.Log
