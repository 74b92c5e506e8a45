set_option autoImplicit false

/-! Text for a terminal: what is text in it, and what are control sequences between the text. -/
namespace ArithLex.Text

/-- Switches to a style, `0` being none. -/
def styled (style : String) : String := "\x1b[" ++ style ++ "m"

def painted (style text : String) : String := styled style ++ text ++ styled "0"

/-- The same on a terminal that may show no colours. -/
def styledIf (colored : Bool) (style : String) : String := if colored then styled style else ""

def paintedIf (colored : Bool) (style text : String) : String :=
  styledIf colored style ++ text ++ styledIf colored "0"

namespace Terminal

/-- What a terminal is in the middle of. -/
inductive Mode where
  | text
  /-- After the escape character. -/
  | escape
  /-- A short sequence, which its first character from the digits on ends. -/
  | designation
  /-- A control sequence, which its first character from the at sign on ends. -/
  | control
  /-- The start of a device string. -/
  | device
  /-- The parameters of a device string. -/
  | parameters
  /-- What stands between the parameters of a device string and its data. -/
  | intermediates
  /-- Data for no one, up to the byte that ends strings. -/
  | data
  /-- A command to the system around the terminal, up to a bell. -/
  | command
deriving DecidableEq

/-- White space that moves the cursor, and so shows. -/
def isSpacing (c : Char) : Bool :=
  c == '\t' || c == '\n' || c == '\x0c' || c == '\r'

/-- The character shows between control sequences. -/
def isText (c : Char) : Bool :=
  isSpacing c || (' ' ≤ c && c != '\x7f')

/-- The byte that ends strings is among those of the character. -/
def endsData (c : Char) : Bool :=
  (String.utf8EncodeChar c).contains 0x9C

namespace Mode

/-- The mode after a visible ASCII character or a space. -/
def afterVisible (mode : Mode) (c : Char) : Mode :=
  match mode with
  | text => text
  | escape =>
    if c < '0' then designation
    else if c = '[' then control
    else if c = ']' then command
    else if c = 'P' then device
    else if c = 'X' ∨ c = '^' ∨ c = '_' then data
    else text
  | designation => if c < '0' then designation else text
  | control => if c < '@' then control else text
  | device => if c < '0' then intermediates else if c < '@' then parameters else data
  | parameters => if c < '0' then intermediates else if c < '<' then parameters else data
  | intermediates => if c < '0' then intermediates else data
  | data => data
  | command => command

/-- The mode after a character. Cancel and substitute end every sequence, and an escape character
starts one anywhere. -/
def next (mode : Mode) (c : Char) : Mode :=
  if c = '\x18' ∨ c = '\x1a' then text
  else if c = '\x1b' then escape
  else if mode = command ∧ c = '\x07' then text
  else if mode = data ∧ endsData c then text
  else if ' ' ≤ c ∧ c < '\x7f' then mode.afterVisible c
  else mode

/-- The character is kept in this mode: strings take all that is in them, and shorter sequences let
white space through. -/
def keeps (mode : Mode) (c : Char) : Bool :=
  match mode with
  | text => isText c
  | escape | designation | control => isSpacing c
  | device | parameters | intermediates | data | command => false

end Mode

/-- A reading of text. A sequence that let white space through is put off while text flows, and goes
on at the next character that is no text. -/
structure Reading where
  mode : Mode := .text
  flows : Bool := true
deriving DecidableEq

namespace Reading

def keeps (reading : Reading) (c : Char) : Bool :=
  if reading.flows then isText c else reading.mode.keeps c

/-- The reading after a character. One that takes several bytes drops the sequence put off. -/
def next (reading : Reading) (c : Char) : Reading :=
  if reading.flows && isText c then
    { reading with mode := if c ≤ '\x7f' then reading.mode else .text }
  else ⟨reading.mode.next c, reading.mode.keeps c⟩

def kept (reading : Reading) : List Char → List Char
  | [] => []
  | c :: rest =>
    let later := (reading.next c).kept rest
    if reading.keeps c then c :: later else later

end Reading
end Terminal

/-- The text without its control sequences and control characters. -/
def plain (text : String) : String :=
  String.ofList (Terminal.Reading.kept {} text.toList)

end ArithLex.Text
