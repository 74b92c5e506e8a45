set_option autoImplicit false

/-! Tokens of arithmetic: number literals, operators and brackets. -/
namespace ArithLex

namespace Token

/-- What a token is. The first two are literals, the others marks of one character. -/
inductive Kind where
  | int
  | float
  | plus
  | minus
  | times
  | divide
  | leftBracket
  | rightBracket
deriving DecidableEq

namespace Kind

def all : List Kind :=
  [int, float, plus, minus, times, divide, leftBracket, rightBracket]

/-- The name under which a token listing shows the kind. -/
def name : Kind → String
  | int => "INT"
  | float => "FLOAT"
  | plus => "PLUS"
  | minus => "MINUS"
  | times => "MUL"
  | divide => "DIV"
  | leftBracket => "LBRACKET"
  | rightBracket => "RBRACKET"

def ofName? (name : String) : Option Kind :=
  all.find? (·.name == name)

/-- The source character of a mark; a literal has none. -/
def symbol? : Kind → Option Char
  | int | float => none
  | plus => some '+'
  | minus => some '-'
  | times => some '*'
  | divide => some '/'
  | leftBracket => some '('
  | rightBracket => some ')'

/-- The mark that the character stands for. -/
def ofSymbol? : Char → Option Kind
  | '+' => some plus
  | '-' => some minus
  | '*' => some times
  | '/' => some divide
  | '(' => some leftBracket
  | ')' => some rightBracket
  | _ => none

def isLiteral : Kind → Bool
  | int | float => true
  | _ => false

end Kind
end Token

/-- A kind with the digits of a literal as they stand in the source; a mark has no text. -/
structure Token where
  kind : Token.Kind
  text : String
deriving DecidableEq

namespace Token

/-- A token without text. -/
def mark (kind : Kind) : Token := ⟨kind, ""⟩

/-- The kind's name, and after a colon the text if there is any. -/
def render (token : Token) : String :=
  if token.text.isEmpty then token.kind.name else token.kind.name ++ ":" ++ token.text

/-- The blanks that may stand between tokens. -/
def isBlank (c : Char) : Bool :=
  c == ' ' || c == '\t' || c == '\n' || c == '\r'

/-- A decimal digit, `0` to `9` and no other script's. -/
def isDigit (c : Char) : Bool := c.isDigit

end Token
end ArithLex
