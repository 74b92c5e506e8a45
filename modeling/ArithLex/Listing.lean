import ArithLex.Json
import ArithLex.Token

set_option autoImplicit false

/-! Token listings, for people in one line and for programs in JSON. -/
namespace ArithLex

namespace Token

/-- The word for a kind in JSON, which is not bound to the name that people see. -/
def Kind.tag : Kind → String
  | .int => "INT"
  | .float => "FLOAT"
  | .plus => "PLUS"
  | .minus => "MINUS"
  | .times => "MUL"
  | .divide => "DIV"
  | .leftBracket => "LBRACKET"
  | .rightBracket => "RBRACKET"

def Kind.json (kind : Kind) : Json := .str kind.tag

def json (token : Token) : Json :=
  .obj [("kind", token.kind.json), ("text", .str token.text)]

end Token

/-- All tokens of a source, under its file name. -/
structure Listing where
  fileName : String
  tokens : List Token
deriving DecidableEq

namespace Listing

/-- The tokens in brackets, set apart by commas. -/
def text (listing : Listing) : String :=
  String.ofList
    ('[' :: (List.intercalate [',', ' '] (listing.tokens.map (·.render.toList)) ++ [']']))

def json (listing : Listing) : Json :=
  .obj [("file_name", .str listing.fileName), ("tokens", .arr (listing.tokens.map (·.json)))]

end Listing
end ArithLex
