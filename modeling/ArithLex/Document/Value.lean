import ArithLex.Document.Number
import ArithLex.Document.Text

set_option autoImplicit false

/-! The values that a settings document is made of: truth values, texts, names of a fixed choice,
and records of named members. -/
namespace ArithLex.Document.Reader

variable {α σ : Type}

/-- Reads the value that stands where another kind was expected, and rejects the document over it.
The value's own problems come first. -/
def mismatch (expected : String) : Reader α := do
  match ← peek with
  | some 'n' => do
    skip
    word ['u', 'l', 'l']
    fail (.wrongType .null expected)
  | some 't' => do
    skip
    word ['r', 'u', 'e']
    fail (.wrongType (.boolean true) expected)
  | some 'f' => do
    skip
    word ['a', 'l', 's', 'e']
    fail (.wrongType (.boolean false) expected)
  | some '-' => do
    skip
    let found ← number true
    fail (.wrongType found expected)
  | some '"' => do
    skip
    let text ← textBody
    fail (.wrongType (.text text) expected)
  | some '[' => fail (.wrongType .sequence expected)
  | some '\x7b' => fail (.wrongType .map expected)
  | some c =>
    if c.isDigit then do
      let found ← number false
      fail (.wrongType found expected)
    else failAhead .expectedValue
  | none => failAhead .endInValue

def text : Reader String := do
  skipBlanks
  match ← peek with
  | some '"' => do
    skip
    textBody
  | _ => mismatch "a string"

def boolean : Reader Bool := do
  skipBlanks
  match ← peek with
  | some 't' => do
    skip
    word ['r', 'u', 'e']
    pure true
  | some 'f' => do
    skip
    word ['a', 'l', 's', 'e']
    pure false
  | _ => mismatch "a boolean"

/-- Reads a null and nothing else. -/
def unit : Reader Unit := do
  skipBlanks
  match ← peek with
  | some 'n' => do
    skip
    word ['u', 'l', 'l']
  | _ => mismatch "unit"

/-- Reads null as nothing, and any other value as the given kind. -/
def optional (value : Reader α) : Reader (Option α) := do
  skipBlanks
  match ← peek with
  | some 'n' => do
    skip
    word ['u', 'l', 'l']
    pure none
  | _ => do
    let value ← value
    pure (some value)

def colon : Reader Unit := do
  skipBlanks
  match ← peek with
  | some ':' => skip
  | some _ => failAhead .expectedColon
  | none => failAhead .endInObject

/-- Reads a name of the choice; its opening quote is already read. -/
def choiceBody (choices : List (String × α)) : Reader α := do
  let name ← textBody
  match choices.find? (·.1 == name) with
  | some choice => pure choice.2
  | none => fail (.unknownVariant name (choices.map (·.1)))

/-- Reads a name of the choice, either as a text or as the only name of an object that gives it a
null. -/
def variant (choices : List (String × α)) : Reader α := do
  skipBlanks
  match ← peek with
  | some '"' => do
    skip
    choiceBody choices
  | some '\x7b' => do
    skip
    skipBlanks
    match ← peek with
    | some '"' => skip
    | some '\x7d' => failAhead .expectedValue
    | some _ => failAhead .keyNotString
    | none => failAhead .endInObject
    let choice ← choiceBody choices
    colon
    unit
    skipBlanks
    match ← peek with
    | some '\x7d' => do
      skip
      pure choice
    | some _ => fail .expectedValue
    | none => fail .endInObject
  | some _ => failAhead .expectedValue
  | none => failAhead .endInValue

/-- A member that a record may have: its name, and how its value is read into the record. -/
structure Member (σ : Type) where
  name : String
  read : σ → Reader σ

/-- Rejects the document over a name just read. The place is past the blanks behind the name, and
past a brace that closes the object there. -/
def failOnName (problem : Problem) : Reader α := do
  skipBlanks
  if (← peek) = some '\x7d' then skip
  fail problem

/-- Reads up to the next name of an object and that name, or up to the end of the object and that
end. Only the first name has no comma before it. -/
def nextName (isFirst : Bool) : Reader (Option String) := do
  skipBlanks
  match ← peek with
  | none => failAhead .endInObject
  | some '\x7d' => do
    skip
    pure none
  | some c => do
    if isFirst then
      if c ≠ '"' then failAhead .keyNotString
    else if c ≠ ',' then failAhead .expectedCommaOrBrace
    else
      skip
      skipBlanks
      match ← peek with
      | some '"' => pure ()
      | some '\x7d' => failAhead .trailingComma
      | some _ => failAhead .keyNotString
      | none => failAhead .endInValue
    skip
    let name ← textBody
    pure (some name)

/-- Reads the members of an object up to its end. A name of `known` that is not among `missing` was
there before. -/
def members (known : List String) (missing : List (Member σ)) (isFirst : Bool) (record : σ) :
    Reader σ := do
  match ← nextName isFirst with
  | none => pure record
  | some name =>
    match _present : missing.find? (·.name == name) with
    | none =>
      failOnName (if name ∈ known then .duplicateField name else .unknownField name known)
    | some member => do
      colon
      let record ← member.read record
      members known (missing.eraseP (·.name == name)) false record
termination_by missing.length
decreasing_by
  have found := List.find?_some ‹_›
  have inside := List.mem_of_find?_eq_some ‹_›
  have erased := List.length_eraseP_of_mem (p := fun m => m.name == name) inside found
  have filled := List.length_pos_of_mem inside
  omega

/-- Reads up to the next item of a list, or up to the end of the list, which stays unread. Only the
first item has no comma before it. -/
def nextItem (isFirst : Bool) : Reader Bool := do
  skipBlanks
  match ← peek with
  | none => failAhead .endInList
  | some ']' => pure false
  | some c =>
    if isFirst then pure true
    else if c ≠ ',' then failAhead .expectedCommaOrBracket
    else
      skip
      skipBlanks
      match ← peek with
      | some ']' => failAhead .trailingComma
      | some _ => pure true
      | none => failAhead .endInValue

def listEnd : Reader Unit := do
  skipBlanks
  match ← peek with
  | some ']' => skip
  | some ',' => do
    skip
    skipBlanks
    if (← peek) = some ']' then failAhead .trailingComma else failAhead .trailingCharacters
  | some _ => failAhead .trailingCharacters
  | none => failAhead .endInList

/-- Reads the values of a list into the members in their order. -/
def items (isFirst : Bool) (record : σ) : List (Member σ) → Reader σ
  | [] => do
    listEnd
    pure record
  | member :: later => do
    if ← nextItem isFirst then
      let record ← member.read record
      items false record later
    else
      listEnd
      pure record

/-- Reads a record over the values that `initial` has for the members that are left out. An object
gives its members by name, a list by their order. -/
def record (name : String) (all : List (Member σ)) (initial : σ) : Reader σ := do
  skipBlanks
  match ← peek with
  | some '\x7b' => do
    skip
    members (all.map (·.name)) all true initial
  | some '[' => do
    skip
    items true initial all
  | _ => mismatch ("struct " ++ name)

def whole (value : Reader α) : Reader α := do
  let value ← value
  skipBlanks
  match ← peek with
  | none => pure value
  | some _ => failAhead .trailingCharacters

end ArithLex.Document.Reader
