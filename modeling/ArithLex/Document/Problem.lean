import ArithLex.Decimal.Shortest
import ArithLex.Text.Quoted

set_option autoImplicit false

/-! What can be wrong with a settings document, where, and in which words. -/
namespace ArithLex.Document

/-- A place in a document: the line counted from one, and the bytes since that line began. -/
structure Place where
  line : Nat
  column : Nat
deriving DecidableEq

namespace Place

def start : Place := ⟨1, 0⟩

def past (place : Place) (c : Char) : Place :=
  if c = '\n' then ⟨place.line + 1, 0⟩ else ⟨place.line, place.column + c.utf8Size⟩

/-- Past the first byte of the character. -/
def pastByte (place : Place) (c : Char) : Place :=
  if c = '\n' then ⟨place.line + 1, 0⟩ else ⟨place.line, place.column + 1⟩

/-- Past the given number of bytes of the characters, or past all of them if they have fewer. -/
def pastBytes (place : Place) (count : Nat) : List Char → Place
  | [] => place
  | c :: rest =>
    if count = 0 then place
    else if c.utf8Size ≤ count then (place.past c).pastBytes (count - c.utf8Size) rest
    else ⟨place.line, place.column + count⟩

end Place

/-- A value that stands where another kind of value should. -/
inductive Found where
  | null
  | boolean (value : Bool)
  | integer (value : Int)
  | float (bits : UInt64)
  | text (value : String)
  | sequence
  | map
deriving DecidableEq

namespace Found

/-- Doubles are written with the fewest digits that read back, and with a point or an exponent. They
are positional from `1e-5` up to `1e16`, and a positive exponent has its sign. -/
def floatText (bits : UInt64) : String :=
  let (digits, power) := (Decimal.shortest (.ofBits bits)).scientific
  let body :=
    if -5 ≤ power ∧ power < 0 then
      ['0', '.'] ++ List.replicate (-power - 1).toNat '0' ++ digits
    else if 0 ≤ power ∧ power < 16 then
      let whole := power.toNat + 1
      let fraction := digits.drop whole
      digits.take whole ++ List.replicate (whole - digits.length) '0' ++ '.' ::
        (if fraction.isEmpty then ['0'] else fraction)
    else
      let fraction := digits.drop 1
      digits.take 1 ++ (if fraction.isEmpty then [] else '.' :: fraction) ++
        ['e', if power < 0 then '-' else '+'] ++ Nat.toDigits 10 power.natAbs
  String.ofList (if bits >>> 63 = 1 then '-' :: body else body)

def describe : Found → String
  | null => "null"
  | boolean value => "boolean `" ++ (if value then "true" else "false") ++ "`"
  | integer value => "integer `" ++ toString value ++ "`"
  | float bits => "floating point `" ++ floatText bits ++ "`"
  | text value => "string " ++ Text.quoted value
  | sequence => "sequence"
  | map => "map"

end Found

/-- Why a document cannot be read. -/
inductive Problem where
  | endInValue
  | endInObject
  | endInList
  | endInString
  | expectedColon
  | expectedCommaOrBracket
  | expectedCommaOrBrace
  | expectedWord
  | expectedValue
  | invalidEscape
  | invalidNumber
  | numberOutOfRange
  | loneSurrogate
  | missingSurrogate
  | controlCharacter
  | keyNotString
  | trailingComma
  | trailingCharacters
  | wrongType (found : Found) (expected : String)
  | unknownField (name : String) (known : List String)
  | unknownVariant (name : String) (known : List String)
  | duplicateField (name : String)
deriving DecidableEq

/-- Whether the document broke off, is no JSON, or is JSON that does not fit. -/
inductive Category where
  | ending
  | form
  | content
deriving DecidableEq

namespace Problem

def category : Problem → Category
  | endInValue | endInObject | endInList | endInString => .ending
  | wrongType .. | unknownField .. | unknownVariant .. | duplicateField .. => .content
  | _ => .form

/-- Names to choose from, each in backquotes. -/
def choice (names : List String) : String :=
  match names.map (fun name => "`" ++ name ++ "`") with
  | [a, b] => a ++ " or " ++ b
  | all => "one of " ++ ", ".intercalate all

def describe : Problem → String
  | endInValue => "EOF while parsing a value"
  | endInObject => "EOF while parsing an object"
  | endInList => "EOF while parsing a list"
  | endInString => "EOF while parsing a string"
  | expectedColon => "expected `:`"
  | expectedCommaOrBracket => "expected `,` or `]`"
  | expectedCommaOrBrace => "expected `,` or `\x7d`"
  | expectedWord => "expected ident"
  | expectedValue => "expected value"
  | invalidEscape => "invalid escape"
  | invalidNumber => "invalid number"
  | numberOutOfRange => "number out of range"
  | loneSurrogate => "lone leading surrogate in hex escape"
  | missingSurrogate => "unexpected end of hex escape"
  | controlCharacter => "control character (\\u0000-\\u001F) found while parsing a string"
  | keyNotString => "key must be a string"
  | trailingComma => "trailing comma"
  | trailingCharacters => "trailing characters"
  | wrongType found expected => "invalid type: " ++ found.describe ++ ", expected " ++ expected
  | unknownField name known => "unknown field `" ++ name ++ "`, expected " ++ choice known
  | unknownVariant name known => "unknown variant `" ++ name ++ "`, expected " ++ choice known
  | duplicateField name => "duplicate field `" ++ name ++ "`"

end Problem

/-- A problem and the place where reading stopped over it. -/
structure Rejection where
  problem : Problem
  place : Place
deriving DecidableEq

/-- The problem with its place. -/
def Rejection.message (rejection : Rejection) : String :=
  rejection.problem.describe ++ " at line " ++ toString rejection.place.line
    ++ " column " ++ toString rejection.place.column

end ArithLex.Document
