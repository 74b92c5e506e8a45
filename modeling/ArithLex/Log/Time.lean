set_option autoImplicit false

/-! Points in time as log records show them. -/
namespace ArithLex.Log

/-- The number with zeros before it, up to the given width. -/
def padded (width number : Nat) : String :=
  let digits := Nat.toDigits 10 number
  String.ofList (List.replicate (width - digits.length) '0' ++ digits)

/-- Year, month and day, `days` after the first of January 1970. Years are counted from the first of
March, so that the day that leap years add is the last one of its year. -/
def civilDate (days : Nat) : Nat × Nat × Nat :=
  let sinceEra := days + 719468
  let era := sinceEra / 146097
  let dayOfEra := sinceEra % 146097
  let yearOfEra := (dayOfEra - dayOfEra / 1460 + dayOfEra / 36524 - dayOfEra / 146096) / 365
  let dayOfYear := dayOfEra - (365 * yearOfEra + yearOfEra / 4 - yearOfEra / 100)
  -- five months in a row have 153 days, from March as well as from August on
  let shifted := (5 * dayOfYear + 2) / 153
  let day := dayOfYear - (153 * shifted + 2) / 5 + 1
  let month := if shifted < 10 then shifted + 3 else shifted - 9
  (yearOfEra + era * 400 + (if month ≤ 2 then 1 else 0), month, day)

def timestamp (micros : Nat) : String :=
  let seconds := micros / 1000000
  let (year, month, day) := civilDate (seconds / 86400)
  padded 4 year ++ "-" ++ padded 2 month ++ "-" ++ padded 2 day ++ "T"
    ++ padded 2 (seconds / 3600 % 24) ++ ":" ++ padded 2 (seconds / 60 % 60) ++ ":"
    ++ padded 2 (seconds % 60) ++ "." ++ padded 6 (micros % 1000000) ++ "Z"

end ArithLex.Log
