import ArithLex.Fault
import ArithLex.Token

set_option autoImplicit false

/-! Scanning: one pass over the characters of a source, one step a character. A literal is held back
until the character after it is seen, and the pass ends at the first character that begins no
token. -/
namespace ArithLex.Scan

/-- A number being read: its characters so far, and whether the point is among them. -/
structure Literal where
  text : String
  dotted : Bool
deriving DecidableEq

namespace Literal

def begin (digit : Char) : Literal := ⟨String.singleton digit, false⟩

/-- A literal goes on with a digit, and with a point if it has none yet. -/
def extend? (literal : Literal) (c : Char) : Option Literal :=
  if c = '.' then
    if literal.dotted then none else some ⟨literal.text.push c, true⟩
  else if Token.isDigit c then some ⟨literal.text.push c, literal.dotted⟩
  else none

/-- With a point a float, without one an integer. -/
def token (literal : Literal) : Token :=
  ⟨if literal.dotted then .float else .int, literal.text⟩

end Literal

/-- A token and the index noted for it: behind a literal, on a mark. -/
structure Production where
  token : Token
  index : Int
deriving DecidableEq

/-- Where a pass stands: the cursor on the next character, the literal held back, and what was
produced so far. -/
structure State where
  source : Source
  cursor : Cursor
  literal : Option Literal
  produced : Array Production
deriving DecidableEq

/-- Where a pass broke off, and what it had produced by then. -/
structure Halt where
  fault : Fault
  produced : Array Production
deriving DecidableEq

namespace State

def start (source : Source) : State := ⟨source, .start, none, #[]⟩

/-- Produces the literal held back, if there is one. -/
def close (state : State) : State :=
  match state.literal with
  | none => state
  | some literal =>
    { state with
      literal := none
      produced := state.produced.push ⟨literal.token, state.cursor.index⟩ }

def pass (state : State) (c : Char) : State :=
  { state with cursor := state.cursor.advance (some c) }

/-- Produces the mark under the cursor. -/
def produceMark (state : State) (kind : Token.Kind) : State :=
  { state with produced := state.produced.push ⟨.mark kind, state.cursor.index⟩ }

/-- The fault of a character that begins no token. -/
def halt (state : State) (c : Char) : Halt :=
  ⟨⟨state.source, state.cursor, state.cursor.advance (some c), c⟩, state.produced⟩

/-- Takes a character outside literals: a blank is skipped, a digit begins a literal, and a mark is
produced. -/
def enter (state : State) (c : Char) : Except Halt State :=
  if Token.isBlank c then .ok (state.pass c)
  else if Token.isDigit c then .ok { state.pass c with literal := some (.begin c) }
  else match Token.Kind.ofSymbol? c with
    | some kind => .ok ((state.produceMark kind).pass c)
    | none => .error (state.halt c)

/-- Takes the next character: into the literal held back if that can go on with it, else on its own
once that literal is produced. -/
def step (state : State) (c : Char) : Except Halt State :=
  match state.literal.bind (·.extend? c) with
  | some longer => .ok { state.pass c with literal := some longer }
  | none => state.close.enter c

def feed (state : State) (chars : List Char) : Except Halt State :=
  chars.foldlM step state

@[simp] theorem feed_nil (state : State) : state.feed [] = .ok state := rfl

@[simp] theorem feed_cons (state : State) (c : Char) (rest : List Char) :
    state.feed (c :: rest) = state.step c >>= fun next => next.feed rest := rfl

/-- A pass over two texts in a row goes on from where it stood after the first. -/
theorem feed_append (state : State) (first second : List Char) :
    state.feed (first ++ second) = state.feed first >>= fun reached => reached.feed second := by
  simp only [feed, List.foldlM_append]

end State

/-- What a whole pass produced, in source order, and the fault that broke it off if one did. -/
structure Pass where
  produced : List Production
  fault : Option Fault
deriving DecidableEq

/-- Scans the source from its first character on. -/
def run (source : Source) : Pass :=
  match (State.start source).feed source.text.toList with
  | .ok state => ⟨state.close.produced.toList, none⟩
  | .error halt => ⟨halt.produced.toList, some halt.fault⟩

/-- All tokens of the source, or the fault; a fault leaves no tokens. -/
def tokens (source : Source) : Except Fault (List Token) :=
  let pass := run source
  match pass.fault with
  | none => .ok (pass.produced.map (·.token))
  | some fault => .error fault

end ArithLex.Scan
