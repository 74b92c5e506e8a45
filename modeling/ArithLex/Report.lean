import ArithLex.Json

set_option autoImplicit false

/-! Structured reports of failures, for people in one line and for programs in JSON. -/
namespace ArithLex

/-- Where a run failed: in scanning, in reading the source, or in reading the settings. -/
inductive Phase where
  | lexer
  | io
  | config
deriving DecidableEq

def Phase.name : Phase → String
  | lexer => "lexer"
  | io => "io"
  | config => "config"

/-- A report names the phase. -/
instance : Coe Phase String := ⟨Phase.name⟩

/-- A failure, taken apart. Line and column count from one. -/
structure Report where
  phase : String
  file : Option String
  line : Option Nat
  column : Option Nat
  kind : String
  message : String
  context : Option String
deriving DecidableEq

namespace Report

def json (report : Report) : Json :=
  .obj <|
    [("phase", .str report.phase),
     ("file", .ofText? report.file),
     ("line", .ofNat? report.line),
     ("column", .ofNat? report.column),
     ("error_kind", .str report.kind),
     ("message", .str report.message)]
    ++ (report.context.map fun context => ("context", Json.str context)).toList

/-- What the report is about in brackets: line and column if both are known, else the phase. -/
def place (report : Report) : String :=
  match report.line, report.column with
  | some line, some column => "[" ++ toString line ++ ":" ++ toString column ++ "]"
  | _, _ => "[" ++ report.phase ++ "]"

/-- The report in one line, with its place. -/
def text (report : Report) : String :=
  report.place ++ " " ++ report.phase ++ " error: " ++ report.message

def short (report : Report) : String :=
  report.phase ++ ": " ++ report.message

end Report
end ArithLex
