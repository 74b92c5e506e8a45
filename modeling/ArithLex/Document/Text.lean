import ArithLex.Document.Input

set_option autoImplicit false

/-! Strings of a document, with their escapes. -/
namespace ArithLex.Document

def hexValue? (c : Char) : Option Nat :=
  if '0' ≤ c ∧ c ≤ '9' then some (c.toNat - '0'.toNat)
  else if 'a' ≤ c ∧ c ≤ 'f' then some (c.toNat - 'a'.toNat + 10)
  else if 'A' ≤ c ∧ c ≤ 'F' then some (c.toNat - 'A'.toNat + 10)
  else none

/-- The character of an escape of one letter. -/
def escaped? : Char → Option Char
  | '"' => some '"'
  | '\\' => some '\\'
  | '/' => some '/'
  | 'b' => some '\x08'
  | 'f' => some '\x0c'
  | 'n' => some '\n'
  | 'r' => some '\r'
  | 't' => some '\t'
  | _ => none

/-- The first half of a character beyond the basic plane. -/
def isLeading (unit : Nat) : Bool := decide (0xD800 ≤ unit) && decide (unit ≤ 0xDBFF)

/-- The second half of a character beyond the basic plane. -/
def isTrailing (unit : Nat) : Bool := decide (0xDC00 ≤ unit) && decide (unit ≤ 0xDFFF)

def combine (leading trailing : Nat) : Char :=
  Char.ofNat (0x10000 + (leading - 0xD800) * 0x400 + (trailing - 0xDC00))

/-- Four bytes that are no four digits, or the end of a document that has no four bytes left. -/
def badUnit (input : Input) : Rejection :=
  let bytes := (String.ofList (input.rest.take 4)).utf8ByteSize
  ⟨if bytes < 4 then .endInString else .invalidEscape, input.place.pastBytes 4 input.rest⟩

/-- Reads the four digits of a numeric escape. -/
def codeUnit (input : Input) : Except Rejection (Nat × Input) :=
  match input.rest with
  | a :: b :: c :: d :: _ =>
    match hexValue? a, hexValue? b, hexValue? c, hexValue? d with
    | some a, some b, some c, some d => .ok (((a * 16 + b) * 16 + c) * 16 + d, input.drop 4)
    | _, _, _, _ => .error (badUnit input)
  | _ => .error (badUnit input)

/-- Reads a character that the second half of a numeric escape needs. -/
def expectInPair (wanted : Char) (input : Input) : Except Rejection Input :=
  match input.rest with
  | [] => .error ⟨.endInString, input.place⟩
  | c :: _ => if c = wanted then .ok input.tail else .error ⟨.missingSurrogate, input.ahead⟩

/-- Reads what follows the letter of a numeric escape: one code unit, or two halves. -/
def numericEscape (input : Input) : Except Rejection (Char × Input) := do
  let (unit, after) ← codeUnit input
  if isTrailing unit then .error ⟨.loneSurrogate, after.place⟩
  else if isLeading unit then
    let after ← expectInPair '\\' after
    let after ← expectInPair 'u' after
    let (second, after) ← codeUnit after
    if isTrailing second then .ok (combine unit second, after)
    else .error ⟨.loneSurrogate, after.place⟩
  else .ok (Char.ofNat unit, after)

def escapeTail (input : Input) : Except Rejection (Char × Input) :=
  match input.rest with
  | [] => .error ⟨.endInString, input.place⟩
  | c :: _ =>
    if c = 'u' then numericEscape input.tail
    else match escaped? c with
      | some plain => .ok (plain, input.tail)
      | none => .error ⟨.invalidEscape, input.ahead⟩

/-- Reads one character of a string, or the quote at its end. -/
def textStep (input : Input) : Except Rejection (Option Char × Input) :=
  match input.rest with
  | [] => .error ⟨.endInString, input.place⟩
  | c :: _ =>
    if c = '"' then .ok (none, input.tail)
    else if c = '\\' then (escapeTail input.tail).map fun (plain, after) => (some plain, after)
    else if c.toNat < 0x20 then .error ⟨.controlCharacter, input.ahead⟩
    else .ok (some c, input.tail)

namespace Input

theorem length_tail_le (input : Input) : input.tail.rest.length ≤ input.rest.length := by
  unfold tail
  split <;> simp_all

theorem length_tail_lt (input : Input) (c : Char) (rest : List Char)
    (unread : input.rest = c :: rest) : input.tail.rest.length < input.rest.length := by
  simp [tail, unread]

theorem length_drop_le (count : Nat) (input : Input) :
    (input.drop count).rest.length ≤ input.rest.length := by
  induction count generalizing input with
  | zero => exact Nat.le_refl _
  | succ count ih => exact Nat.le_trans (ih input.tail) input.length_tail_le

end Input

theorem codeUnit_length_le {input after : Input} {unit : Nat}
    (read : codeUnit input = .ok (unit, after)) : after.rest.length ≤ input.rest.length := by
  unfold codeUnit at read
  split at read
  · split at read
    · cases read
      exact input.length_drop_le 4
    · cases read
  · cases read

theorem expectInPair_length_le {wanted : Char} {input after : Input}
    (read : expectInPair wanted input = .ok after) : after.rest.length ≤ input.rest.length := by
  unfold expectInPair at read
  split at read
  · cases read
  · split at read
    · cases read
      exact input.length_tail_le
    · cases read

theorem numericEscape_length_le {input after : Input} {c : Char}
    (read : numericEscape input = .ok (c, after)) : after.rest.length ≤ input.rest.length := by
  unfold numericEscape at read
  cases first : codeUnit input with
  | error rejection => simp [first, bind, Except.bind] at read
  | ok unit =>
    have firstLe := codeUnit_length_le first
    simp only [first, bind, Except.bind] at read
    split at read
    · cases read
    · split at read
      · cases slash : expectInPair '\\' unit.2 with
        | error rejection => simp [slash] at read
        | ok slashed =>
          have slashLe := expectInPair_length_le slash
          simp only [slash] at read
          cases letter : expectInPair 'u' slashed with
          | error rejection => simp [letter] at read
          | ok lettered =>
            have letterLe := expectInPair_length_le letter
            simp only [letter] at read
            cases second : codeUnit lettered with
            | error rejection => simp [second] at read
            | ok pair =>
              have secondLe := codeUnit_length_le second
              simp only [second] at read
              split at read
              · simp only [Except.ok.injEq, Prod.mk.injEq] at read
                rw [← read.2]
                omega
              · cases read
      · simp only [Except.ok.injEq, Prod.mk.injEq] at read
        rw [← read.2]
        exact firstLe

theorem escapeTail_length_le {input after : Input} {c : Char}
    (read : escapeTail input = .ok (c, after)) : after.rest.length ≤ input.rest.length := by
  unfold escapeTail at read
  split at read
  · cases read
  · split at read
    · exact Nat.le_trans (numericEscape_length_le read) input.length_tail_le
    · split at read
      · cases read
        exact input.length_tail_le
      · cases read

/-- Every step of a string reads at least one character. -/
theorem textStep_length_lt {input after : Input} {c : Option Char}
    (read : textStep input = .ok (c, after)) : after.rest.length < input.rest.length := by
  unfold textStep at read
  split at read
  · cases read
  · next first rest unread =>
    have shorter := input.length_tail_lt first rest unread
    split at read
    · cases read
      exact shorter
    · split at read
      · cases escape : escapeTail input.tail with
        | error rejection => simp [escape, Except.map] at read
        | ok pair =>
          simp only [escape, Except.map, Except.ok.injEq, Prod.mk.injEq] at read
          have le := escapeTail_length_le escape
          rw [← read.2]
          omega
      · split at read
        · cases read
        · cases read
          exact shorter

/-- Reads the characters of a string up to the quote at its end, which is read too. -/
def textTail (input : Input) : Except Rejection (List Char × Input) :=
  match _step : textStep input with
  | .error rejection => .error rejection
  | .ok (none, after) => .ok ([], after)
  | .ok (some c, after) =>
    match textTail after with
    | .error rejection => .error rejection
    | .ok (more, last) => .ok (c :: more, last)
termination_by input.rest.length
decreasing_by exact textStep_length_lt ‹_›

namespace Reader

/-- Reads a string whose opening quote is already read. -/
def textBody : Reader String := fun input =>
  (textTail input).map fun (chars, after) => (String.ofList chars, after)

end Reader
end ArithLex.Document
