set_option autoImplicit false

/-! The decimal with the fewest digits that still reads back as a given binary number. -/
namespace ArithLex

/-- The number `digits * 10 ^ exponent`. -/
structure Decimal where
  digits : Nat
  exponent : Int
deriving DecidableEq

namespace Decimal

/-- A positive binary number `mantissa * 2 ^ exponent`. Its lower neighbour is closer than its upper
one if `narrow` holds. -/
structure Binary where
  mantissa : Nat
  exponent : Int
  narrow : Bool

/-- The parts of a double, its sign apart. -/
def Binary.ofBits (bits : UInt64) : Binary :=
  let field := (bits >>> 52).toNat % 2048
  let fraction := bits.toNat % Nat.pow 2 52
  if field = 0 then ⟨fraction, -1074, false⟩
  else ⟨Nat.pow 2 52 + fraction, (field : Int) - 1075, fraction == 0 && decide (1 < field)⟩

/-- A number between the ends of the interval that rounds to it, all over one denominator. -/
structure Quarters where
  low : Nat
  value : Nat
  high : Nat
  denominator : Nat

/-- The number and its interval in quarters of the step between neighbours. The interval ends half
way to them. -/
def Binary.quarters (b : Binary) : Quarters :=
  let scale := b.exponent - 2
  let up := Nat.pow 2 scale.toNat
  { low := (4 * b.mantissa - if b.narrow then 1 else 2) * up
    value := 4 * b.mantissa * up
    high := (4 * b.mantissa + 2) * up
    denominator := Nat.pow 2 (-scale).toNat }

/-- The power of ten of the leading digit of `numerator / denominator`. -/
def leadingPower (numerator denominator : Nat) : Int :=
  if denominator ≤ numerator then (Nat.toDigits 10 (numerator / denominator)).length - 1
  else -((Nat.toDigits 10 (denominator / numerator)).length : Int)

/-- The decimal of the given number of digits within the interval, if one lies there: of two the
nearer, and of two equally near ones the one with an even last digit. -/
def atLength? (b : Binary) (length : Nat) : Option Decimal :=
  let q := b.quarters
  let power := leadingPower q.value q.denominator - length + 1
  let grid := Nat.pow 10 power.toNat * q.denominator
  let fine := Nat.pow 10 (-power).toNat
  let below := q.value * fine / grid
  let inside (digits : Nat) : Bool :=
    let place := digits * grid
    -- half way between two numbers is read as the even one, so only that has the ends
    if b.mantissa % 2 = 0 then decide (q.low * fine ≤ place) && decide (place ≤ q.high * fine)
    else decide (q.low * fine < place) && decide (place < q.high * fine)
  let distance (digits : Nat) : Nat :=
    max (digits * grid) (q.value * fine) - min (digits * grid) (q.value * fine)
  let candidates := [below, below + 1].filter inside
  match candidates with
  | [] => none
  | [digits] => some ⟨digits, power⟩
  | lower :: upper :: _ =>
    let takesUpper := decide (distance upper < distance lower) ||
      (distance upper == distance lower && upper % 2 == 0)
    some ⟨if takesUpper then upper else lower, power⟩

/-- Seventeen digits always suffice for a double. -/
def shortest (b : Binary) : Decimal :=
  if b.mantissa = 0 then ⟨0, 0⟩
  else ((List.range 17).findSome? fun n => atLength? b (n + 1)).getD ⟨b.mantissa, 0⟩

/-- The digits as text, without zeros at their end, and the power of ten of the first of them. -/
def scientific (d : Decimal) : List Char × Int :=
  let digits := Nat.toDigits 10 d.digits
  let stripped := (digits.reverse.dropWhile (· == '0')).reverse
  (if stripped.isEmpty then ['0'] else stripped, d.exponent + digits.length - 1)

end Decimal
end ArithLex
