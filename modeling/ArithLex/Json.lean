set_option autoImplicit false

/-! JSON values and their text, on one line or indented. -/
namespace ArithLex

/-- A JSON value; members keep their order. -/
inductive Json where
  | null
  | bool (value : Bool)
  | int (value : Int)
  | str (value : String)
  | arr (items : List Json)
  | obj (members : List (String × Json))

namespace Json

/-- The hexadecimal digit of a number below sixteen, in lower case. -/
def hexDigit (n : Nat) : Char := Nat.digitChar n

/-- A character inside a string: quote and backslash after a backslash, a control by its short
escape or its four digits, all else as it is. -/
def escape (c : Char) : List Char :=
  if c = '"' then ['\\', '"']
  else if c = '\\' then ['\\', '\\']
  else if c = '\x08' then ['\\', 'b']
  else if c = '\x0c' then ['\\', 'f']
  else if c = '\n' then ['\\', 'n']
  else if c = '\r' then ['\\', 'r']
  else if c = '\t' then ['\\', 't']
  else if c.toNat < 0x20 then
    ['\\', 'u', '0', '0', hexDigit (c.toNat / 16), hexDigit (c.toNat % 16)]
  else [c]

def quote (text : String) : List Char :=
  '"' :: (text.toList.flatMap escape ++ ['"'])

/-- How the parts of a value are set apart: what comes before a part at some depth, and what stands
between a member's name and its value. -/
structure Layout where
  gap : Nat → List Char
  colon : List Char

namespace Layout

def compact : Layout := ⟨fun _ => [], [':']⟩

/-- Each part on a line of its own, indented by two spaces a level. -/
def pretty : Layout := ⟨fun depth => '\n' :: List.replicate (2 * depth) ' ', [':', ' ']⟩

end Layout

mutual

/-- The text of a value whose first character stands at the given depth. -/
def write (layout : Layout) (depth : Nat) : Json → List Char
  | .null => ['n', 'u', 'l', 'l']
  | .bool true => ['t', 'r', 'u', 'e']
  | .bool false => ['f', 'a', 'l', 's', 'e']
  | .int value => (toString value).toList
  | .str value => quote value
  | .arr [] => ['[', ']']
  | .arr (item :: rest) =>
    '[' :: (layout.gap (depth + 1) ++ write layout (depth + 1) item
      ++ writeItems layout depth rest)
  | .obj [] => ['\x7b', '\x7d']
  | .obj ((name, value) :: rest) =>
    '\x7b' :: (layout.gap (depth + 1) ++ quote name ++ layout.colon
      ++ write layout (depth + 1) value ++ writeMembers layout depth rest)

/-- The items after the first, and the end of their array. -/
def writeItems (layout : Layout) (depth : Nat) : List Json → List Char
  | [] => layout.gap depth ++ [']']
  | item :: rest =>
    ',' :: (layout.gap (depth + 1) ++ write layout (depth + 1) item
      ++ writeItems layout depth rest)

/-- The members after the first, and the end of their object. -/
def writeMembers (layout : Layout) (depth : Nat) : List (String × Json) → List Char
  | [] => layout.gap depth ++ ['\x7d']
  | (name, value) :: rest =>
    ',' :: (layout.gap (depth + 1) ++ quote name ++ layout.colon
      ++ write layout (depth + 1) value ++ writeMembers layout depth rest)

end

def compact (value : Json) : String := String.ofList (value.write .compact 0)

def pretty (value : Json) : String := String.ofList (value.write .pretty 0)

def ofText? (text : Option String) : Json := text.elim null str

def ofNat? (number : Option Nat) : Json := number.elim null fun n => int n

end Json
end ArithLex
