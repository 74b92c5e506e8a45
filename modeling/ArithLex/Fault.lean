import ArithLex.Excerpt

set_option autoImplicit false

/-! The one way in which scanning fails: a character that belongs to no token. -/
namespace ArithLex

/-- A character that begins no token, and the cursors on it and behind it. -/
structure Fault where
  source : Source
  start : Cursor
  stop : Cursor
  char : Char
deriving DecidableEq

namespace Fault

def title : String := "Illegal Character"

/-- What is wrong, as one word for programs to compare. -/
def tag : String := "IllegalCharacter"

def detail (fault : Fault) : String :=
  "'" ++ String.singleton fault.char ++ "'"

def summary (fault : Fault) : String :=
  title ++ ": " ++ fault.detail

def line (fault : Fault) : Nat := fault.start.lineNumber

def column (fault : Fault) : Nat := fault.start.columnNumber

/-- The summary, and under it the file and the line. -/
def message (fault : Fault) : String :=
  fault.summary ++ "\nFile " ++ fault.source.name ++ ", line " ++ toString fault.line

/-- The source line with a caret under the character. -/
def context (fault : Fault) : String :=
  Excerpt.render fault.source.text fault.start fault.stop

end Fault
end ArithLex
