set_option autoImplicit false

/-! Sets of characters given by ranges of code points. -/
namespace ArithLex.Unicode

/-- First and last code point of a range. -/
abbrev CodeRange := Nat × Nat

/-- The range holds the character, both ends included. -/
def CodeRange.holds (range : CodeRange) (c : Char) : Bool :=
  decide (range.1 ≤ c.toNat) && decide (c.toNat ≤ range.2)

/-- Some range of the list holds the character. -/
def inRanges (ranges : List CodeRange) (c : Char) : Bool :=
  ranges.any (·.holds c)

end ArithLex.Unicode
