import ArithLex.CommandLine.Help
import ArithLex.Log.Record
import ArithLex.Settings
import ArithLex.Text.Terminal

set_option autoImplicit false

/-! The command line: its arguments are read from left to right, and the first mistake that is
noticed ends the reading. A value is looked at only when the next argument shows that it is
complete, so a mistake in that argument may be noticed first. -/
namespace ArithLex.CommandLine

/-- The options, and the file under its own name. -/
inductive Name where
  | file
  | config
  | json
  | noArrows
  | logLevel
  | logFormat
  | logFile
  | help
  | version
deriving DecidableEq

namespace Name

/-- The name as messages show it. -/
def usage : Name → String
  | file => "[FILE]"
  | config => "--config <CONFIG>"
  | json => "--json"
  | noArrows => "--no-arrows"
  | logLevel => "--log-level <LEVEL>"
  | logFormat => "--log-format <LOG_FORMAT>"
  | logFile => "--log-file <PATH>"
  | help => "--help"
  | version => "--version"

def ofLong? : String → Option Name
  | "config" => some config
  | "json" => some json
  | "no-arrows" => some noArrows
  | "log-level" => some logLevel
  | "log-format" => some logFormat
  | "log-file" => some logFile
  | "help" => some help
  | "version" => some version
  | _ => none

def ofShort? : Char → Option Name
  | 'c' => some config
  | 'h' => some help
  | 'V' => some version
  | _ => none

def takesValue : Name → Bool
  | file | config | logLevel | logFormat | logFile => true
  | json | noArrows | help | version => false

end Name

/-- What the command line asks for. -/
structure Arguments where
  file : Option String := none
  config : Option String := none
  json : Bool := false
  noArrows : Bool := false
  logLevel : Option Log.Level := none
  logFormat : Option Log.Layout := none
  logFile : Option String := none
deriving DecidableEq

inductive Misuse where
  | unexpected (argument : String)
  | missingValue (name : Name)
  | unneededValue (value : String) (name : Name)
  | repeated (name : Name)
  | badLevel (value : String) (unknown : Log.Level.Unknown)
  | badLayout (value : String)
deriving DecidableEq

namespace Misuse

/-- Text that is wrong, as messages set it apart. -/
def faulty (text : String) : String := Text.painted "33" text

/-- The name that something is wrong about, as messages set it apart. -/
def concerned (name : Name) : String := Text.painted "1" name.usage

def complaint : Misuse → String
  | unexpected argument => "unexpected argument '" ++ faulty argument ++ "' found"
  | missingValue name =>
    "a value is required for '" ++ faulty name.usage ++ "' but none was supplied"
  | unneededValue value name =>
    "unexpected value '" ++ faulty value ++ "' for '" ++ concerned name
      ++ "' found; no more were expected"
  | repeated name => "the argument '" ++ faulty name.usage ++ "' cannot be used multiple times"
  | badLevel value unknown =>
    "invalid value '" ++ faulty value ++ "' for '" ++ concerned .logLevel ++ "': "
      ++ unknown.message
  | badLayout value => "invalid value '" ++ faulty value ++ "' for '" ++ concerned .logFormat ++ "'"

def hint : String := "For more information, try '" ++ Text.painted "1" "--help" ++ "'."

/-- The misuse as it is reported. Terminal control sequences go, also those in the arguments: one
that an argument leaves open takes of the text behind it what it would take on a terminal. -/
def report (misuse : Misuse) : String :=
  Text.plain (Text.painted "31" "error:" ++ " " ++ misuse.complaint ++ "\n\n" ++ hint ++ "\n")

end Misuse

/-- Why the program does not run: it was asked about itself, or misused. -/
inductive Stop where
  | summary
  | manual
  | version
  | misuse (misuse : Misuse)
deriving DecidableEq

namespace Arguments

def path (name : Name) (value : String) : Except Misuse String :=
  if value = "" then .error (.missingValue name) else .ok value

/-- The layout of a name, in exactly this case. -/
def layout (value : String) : Except Misuse Log.Layout :=
  if value = "" then .error (.missingValue .logFormat)
  else match Log.Layout.all.find? (·.keyword == value) with
    | some layout => .ok layout
    | none => .error (.badLayout value)

def level (value : String) : Except Misuse Log.Level :=
  match Log.Level.ofArgument value with
  | .ok level => .ok level
  | .error unknown => .error (.badLevel value unknown)

def has (arguments : Arguments) : Name → Bool
  | .file => arguments.file.isSome
  | .config => arguments.config.isSome
  | .json => arguments.json
  | .noArrows => arguments.noArrows
  | .logLevel => arguments.logLevel.isSome
  | .logFormat => arguments.logFormat.isSome
  | .logFile => arguments.logFile.isSome
  | .help | .version => false

/-- Stores a value under a name that had none; flags ignore it. -/
def store (arguments : Arguments) (name : Name) (value : String) : Except Misuse Arguments := do
  if arguments.has name then .error (.repeated name)
  else match name with
    | .file => return { arguments with file := some (← path .file value) }
    | .config => return { arguments with config := some (← path .config value) }
    | .json => return { arguments with json := true }
    | .noArrows => return { arguments with noArrows := true }
    | .logLevel => return { arguments with logLevel := some (← level value) }
    | .logFormat => return { arguments with logFormat := some (← layout value) }
    | .logFile => return { arguments with logFile := some (← path .logFile value) }
    | .help | .version => return arguments

end Arguments

/-- Where the reading stands: what is stored, the name whose value is not looked at yet with that
value if it was seen, whether a file was named, and whether all that follows are files. -/
structure Progress where
  stored : Arguments := {}
  pending : Option (Name × Option String) := none
  fileNamed : Bool := false
  optionsEnded : Bool := false
deriving DecidableEq

namespace Progress

/-- Looks at the pending value. -/
def settle (progress : Progress) : Except Misuse Progress :=
  match progress.pending with
  | none => .ok progress
  | some (name, none) => .error (.missingValue name)
  | some (name, some value) => do
    let stored ← progress.stored.store name value
    return { progress with stored := stored, pending := none }

def await (progress : Progress) (name : Name) : Except Stop Progress := do
  let settled ← progress.settle.mapError .misuse
  return { settled with pending := some (name, none) }

/-- Takes an option with the value that is attached to it. -/
def attach (progress : Progress) (name : Name) (value : String) : Except Stop Progress := do
  let settled ← progress.settle.mapError .misuse
  let stored ← (settled.stored.store name value).mapError .misuse
  return { settled with stored := stored }

/-- Takes an option without a value. A question about the program is answered at once. -/
def flag (progress : Progress) (name : Name) (isLong : Bool) : Except Stop Progress := do
  let settled ← progress.settle.mapError .misuse
  match name with
  | .help => .error (if isLong then .manual else .summary)
  | .version => .error .version
  | name =>
    let stored ← (settled.stored.store name "").mapError .misuse
    return { settled with stored := stored }

def positional (progress : Progress) (value : String) : Except Stop Progress :=
  -- a second file is refused before the pending value is looked at
  if progress.fileNamed then .error (.misuse (.unexpected value))
  else do
    let settled ← progress.settle.mapError .misuse
    return { settled with pending := some (.file, some value), fileNamed := true }

/-- Takes an argument after two dashes: a name, and behind an equals sign a value. -/
def long (progress : Progress) (body : List Char) : Except Stop Progress :=
  let spelled := body.takeWhile (· != '=')
  let value := (body.dropWhile (· != '=')).tail
  let isAttached := body.contains '='
  match Name.ofLong? (String.ofList spelled) with
  | none => .error (.misuse (.unexpected (String.ofList ('-' :: '-' :: spelled))))
  | some name =>
    if name.takesValue then
      if isAttached then progress.attach name (String.ofList value) else progress.await name
    else if isAttached then .error (.misuse (.unneededValue (String.ofList value) name))
    else progress.flag name true

/-- Takes an argument after one dash: a letter, and right behind it a value. -/
def short (progress : Progress) (letter : Char) (rest : List Char) : Except Stop Progress :=
  match Name.ofShort? letter with
  | none => .error (.misuse (.unexpected (String.ofList ['-', letter])))
  | some name =>
    if name.takesValue then
      match rest with
      | [] => progress.await name
      -- one equals sign may stand in between, and does not belong to the value
      | '=' :: value => progress.attach name (String.ofList value)
      | value => progress.attach name (String.ofList value)
    else progress.flag name false

def step (progress : Progress) (argument : String) : Except Stop Progress :=
  if progress.optionsEnded then progress.positional argument
  else match argument.toList with
    | ['-', '-'] => .ok { progress with optionsEnded := true }
    | '-' :: '-' :: body => progress.long body
    | '-' :: letter :: rest => progress.short letter rest
    -- also a dash alone, and nothing at all
    | _ =>
      match progress.pending with
      | some (name, none) => .ok { progress with pending := some (name, some argument) }
      | _ => progress.positional argument

end Progress

def parse (arguments : List String) : Except Stop Arguments := do
  let progress ← arguments.foldlM Progress.step {}
  let settled ← progress.settle.mapError .misuse
  return settled.stored

/-- The command line wins over the settings; its level takes the place of the general one. -/
def Arguments.override (arguments : Arguments) (settings : Settings) : Settings :=
  { settings with
    logging :=
      { settings.logging with general := arguments.logLevel.getD settings.logging.general }
    output :=
      { showArrows := settings.output.showArrows && !arguments.noArrows
        format := if arguments.json then .json else settings.output.format } }

end ArithLex.CommandLine
