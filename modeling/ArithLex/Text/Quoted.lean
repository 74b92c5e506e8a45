import ArithLex.Unicode.GraphemeExtend
import ArithLex.Unicode.Unprintable

set_option autoImplicit false

/-! Quoted text for people to read, where every character that would not show is spelled out. -/
namespace ArithLex.Text

/-- Letters that hold a place open and show nothing in it. -/
def fillers : List Unicode.CodeRange :=
  [(0x115F, 0x1160), (0x3164, 0x3164), (0xFFA0, 0xFFA0)]

/-- Sound marks of half width, which extend the letter before them from a place of their own. -/
def soundMarks : List Unicode.CodeRange := [(0xFF9E, 0xFF9F)]

/-- The character would merge with the one before it. -/
def isMerging (c : Char) : Bool :=
  Unicode.inRanges Unicode.graphemeExtend c && !Unicode.inRanges soundMarks c

/-- The character would not show, or would merge with the one before it. -/
def isHidden (c : Char) : Bool :=
  isMerging c || Unicode.inRanges Unicode.unprintable c || Unicode.inRanges fillers c

/-- A code point in braces, in hexadecimal without leading zeros. -/
def spelledOut (c : Char) : List Char :=
  ['\\', 'u', '\x7b'] ++ Nat.toDigits 16 c.toNat ++ ['\x7d']

/-- A character between two marks: the mark itself and the backslash after a backslash, the common
controls by a letter, a hidden character by its code point. -/
def visible (mark c : Char) : List Char :=
  if c = '\x00' then ['\\', '0']
  else if c = '\t' then ['\\', 't']
  else if c = '\r' then ['\\', 'r']
  else if c = '\n' then ['\\', 'n']
  else if c = '\\' then ['\\', '\\']
  else if c = mark then ['\\', mark]
  else if isHidden c then spelledOut c
  else [c]

def quoted (text : String) : String :=
  String.ofList ('"' :: (text.toList.flatMap (visible '"') ++ ['"']))

def quotedChar (c : Char) : String :=
  String.ofList ('\'' :: (visible '\'' c ++ ['\'']))

end ArithLex.Text
