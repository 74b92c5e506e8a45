set_option autoImplicit false

/-! A source text under its name, and the cursor that counts its characters, lines and columns. -/
namespace ArithLex

/-- A text to scan, with the file name that diagnostics give for it. -/
structure Source where
  name : String
  text : String
deriving DecidableEq

/-- A place in a text. All three counts start at zero on the first character; the line counts
line feeds passed, and the column counts characters since the last of them. -/
structure Cursor where
  index : Int
  line : Nat
  column : Int
deriving DecidableEq

namespace Cursor

/-- One step before the first character of a text. -/
def beforeStart : Cursor := ⟨-1, 0, -1⟩

/-- Moves on by one character. A step that consumes nothing, as before the first character or
past the last, moves the index and the column all the same. -/
def advance (cursor : Cursor) (consumed : Option Char) : Cursor :=
  if consumed = some '\n' then ⟨cursor.index + 1, cursor.line + 1, 0⟩
  else ⟨cursor.index + 1, cursor.line, cursor.column + 1⟩

def start : Cursor := beforeStart.advance none

/-- Past the characters `consumed` from the start of a text. -/
def past (consumed : List Char) : Cursor :=
  consumed.foldl (fun cursor c => cursor.advance (some c)) start

@[simp] theorem past_nil : past [] = start := rfl

/-- One character more is one step more. -/
@[simp] theorem past_concat (consumed : List Char) (c : Char) :
    past (consumed ++ [c]) = (past consumed).advance (some c) := by
  simp only [past, List.foldl_append, List.foldl_cons, List.foldl_nil]

/-- The line as people count it. -/
def lineNumber (cursor : Cursor) : Nat := cursor.line + 1

/-- Characters to the left of the cursor on its line; none for a cursor left of the first column. -/
def indent (cursor : Cursor) : Nat := cursor.column.toNat

/-- The column as people count it. -/
def columnNumber (cursor : Cursor) : Nat := cursor.indent + 1

end Cursor
end ArithLex
