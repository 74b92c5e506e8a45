import ArithLex.Document.Input

set_option autoImplicit false

/-! Numbers of a document: integers of 64 bits, and doubles for all other numbers. -/
namespace ArithLex.Document

def digitValue (digit : Char) : Nat := digit.toNat - '0'.toNat

/-- Appends digits to a number as long as it stays within the bound, and gives back the digits that
no longer fit. -/
def absorb (bound number : Nat) : List Char → Nat × List Char
  | [] => (number, [])
  | digit :: more =>
    let longer := number * 10 + digitValue digit
    if longer ≤ bound then absorb bound longer more else (number, digit :: more)

/-- The greatest unsigned integer of 64 bits. -/
def maxMantissa : Nat := UInt64.size - 1

/-- The greatest exponent that is read. -/
def maxExponent : Nat := Nat.pow 2 31 - 1

def tenTo (power : Nat) : Float := Float.ofScientific 1 false power

/-- The greatest power of ten that is a double. -/
def greatestPower : Nat := 308

/-- The number over a power of ten, in steps that are doubles themselves. -/
def shrink (number : Float) (power : Nat) : Float :=
  if power ≤ greatestPower then number / tenTo power
  else if number == 0 then number
  else shrink (number / tenTo greatestPower) (power - greatestPower)
termination_by power
decreasing_by
  simp only [greatestPower] at *
  omega

/-- `mantissa * 10 ^ exponent` as a double, if it is not too great for one. -/
def double? (mantissa : Nat) (exponent : Int) : Option Float :=
  let number := mantissa.toUInt64.toFloat
  if exponent < 0 then some (shrink number (-exponent).toNat)
  else if exponent.toNat ≤ greatestPower then
    let product := number * tenTo exponent.toNat
    if product.isInf then none else some product
  else if mantissa = 0 then some number
  else none

def signed (negative : Bool) (magnitude : Float) : Found :=
  .float (if negative then -magnitude else magnitude).toBits

/-- The number without point and exponent. A negative number that is no integer of 64 bits, and the
negative zero, are doubles. -/
def wholeNumber (negative : Bool) (mantissa : Nat) : Found :=
  if !negative then .integer mantissa
  else if mantissa = 0 ∨ Nat.pow 2 63 < mantissa then signed true mantissa.toUInt64.toFloat
  else .integer (-(mantissa : Int))

namespace Reader

/-- The double of these parts; it must not be too great. -/
def double (negative : Bool) (mantissa : Nat) (exponent : Int) : Reader Found :=
  match double? mantissa exponent with
  | some magnitude => pure (signed negative magnitude)
  | none => fail .numberOutOfRange

/-- Reads an exponent's digits. One that is too great ends the reading at the digit that makes it
so, unless the number is zero or the exponent is negative: then it is zero after all the digits. -/
def exponentDigits (negative : Bool) (mantissa : Nat) (scale : Int) (upward : Bool) :
    Reader Found := fun input =>
  let run := input.rest.takeWhile Char.isDigit
  let (power, excess) := absorb maxExponent 0 run
  if excess.isEmpty then
    double negative mantissa (if upward then scale + power else scale - power)
      (input.drop run.length)
  else if mantissa ≠ 0 ∧ upward then
    fail .numberOutOfRange (input.drop (run.length - excess.length + 1))
  else .ok (signed negative 0, input.drop run.length)

/-- Reads an exponent whose letter is already read. -/
def exponent (negative : Bool) (mantissa : Nat) (scale : Int) : Reader Found := do
  let sign ← peek
  if sign = some '+' ∨ sign = some '-' then skip
  match ← peek with
  | none => fail .endInValue
  | some c =>
    if c.isDigit then exponentDigits negative mantissa scale (sign ≠ some '-')
    else failAhead .invalidNumber

def exponentIfAny (negative : Bool) (mantissa : Nat) (scale : Int) : Reader Found := do
  let next ← peek
  if next = some 'e' ∨ next = some 'E' then
    skip
    exponent negative mantissa scale
  else double negative mantissa scale

/-- Reads the digits behind a point that is already read. -/
def fraction (negative : Bool) (mantissa : Nat) (scale : Int) : Reader Found := do
  let run ← digits
  if run.isEmpty then
    match ← peek with
    | none => failAhead .endInValue
    | some _ => failAhead .invalidNumber
  else
    -- digits that the mantissa has no room for are dropped here, but scale it before the point
    let (mantissa, excess) := absorb maxMantissa mantissa run
    exponentIfAny negative mantissa (scale - (run.length - excess.length : Nat))

/-- Reads the digits before a point: a zero alone, or digits that begin with another one. -/
def wholeDigits : Reader (List Char) := do
  match ← peek with
  | none => fail .endInValue
  | some '0' => do
    skip
    match ← peek with
    | some c => if c.isDigit then failAhead .invalidNumber else pure ['0']
    | none => pure ['0']
  | some c => if c.isDigit then digits else failAhead .invalidNumber

def number (negative : Bool) : Reader Found := do
  let run ← wholeDigits
  let (mantissa, excess) := absorb maxMantissa 0 run
  if (← peek) = some '.' then
    skip
    fraction negative mantissa excess.length
  else if excess.isEmpty ∧ (← peek) ≠ some 'e' ∧ (← peek) ≠ some 'E' then
    pure (wholeNumber negative mantissa)
  else exponentIfAny negative mantissa excess.length

end Reader
end ArithLex.Document
