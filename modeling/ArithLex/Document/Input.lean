import ArithLex.Document.Problem

set_option autoImplicit false

/-! Reading a document from left to right, one character of lookahead at a time. -/
namespace ArithLex.Document

/-- The characters not yet read, and the place of the first of them. -/
structure Input where
  rest : List Char
  place : Place
deriving DecidableEq

namespace Input

def ofText (text : String) : Input := ⟨text.toList, .start⟩

/-- The place past the next byte, where a problem with that byte is reported. -/
def ahead (input : Input) : Place :=
  match input.rest with
  | [] => input.place
  | c :: _ => input.place.pastByte c

def tail (input : Input) : Input :=
  match input.rest with
  | [] => input
  | c :: rest => ⟨rest, input.place.past c⟩

def drop (input : Input) : Nat → Input
  | 0 => input
  | count + 1 => input.tail.drop count

end Input

/-- The characters that may stand around any value, name or mark of a document. -/
def isBlank (c : Char) : Bool :=
  c == ' ' || c == '\n' || c == '\t' || c == '\r'

/-- Reads a part of a document, or rejects the document. -/
abbrev Reader := StateT Input (Except Rejection)

namespace Reader

variable {α : Type}

def fail (problem : Problem) : Reader α := fun input => .error ⟨problem, input.place⟩

/-- Rejects the document over its next byte; at the end of the document that is here. -/
def failAhead (problem : Problem) : Reader α := fun input => .error ⟨problem, input.ahead⟩

def peek : Reader (Option Char) := fun input => .ok (input.rest.head?, input)

def skip : Reader Unit := fun input => .ok ((), input.tail)

/-- Reads the blanks up to the next character that is none. -/
def skipBlanks : Reader Unit := fun input =>
  .ok ((), input.drop (input.rest.takeWhile isBlank).length)

def digits : Reader (List Char) := fun input =>
  let run := input.rest.takeWhile Char.isDigit
  .ok (run, input.drop run.length)

/-- Reads the letters of a known word. -/
def word : List Char → Reader Unit
  | [] => pure ()
  | letter :: letters => do
    match ← peek with
    | none => fail .endInValue
    | some c =>
      if c = letter then
        skip
        word letters
      else failAhead .expectedWord

end Reader
end ArithLex.Document
