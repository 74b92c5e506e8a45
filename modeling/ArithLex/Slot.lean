import ArithLex.Tokenize

set_option autoImplicit false

/-! A style that is set once and then shared: whoever comes first decides, and nobody can change it
afterwards. -/
namespace ArithLex

/-- The shared style, once it is set. -/
abbrev Slot := Option Style

namespace Slot

def empty : Slot := none

/-- A call out of turn. -/
inductive Misuse where
  | alreadySet (rejected : Style)
  | notSet
deriving DecidableEq

def Misuse.message : Misuse → String
  | alreadySet rejected => "Config already initialized: " ++ rejected.describe
  | notSet => "Config not initialized"

def set (slot : Slot) (style : Style) : Except Misuse Slot :=
  match slot with
  | none => .ok (some style)
  | some _ => .error (.alreadySet style)

/-- The style, which must be set. -/
def get (slot : Slot) : Except Misuse Style :=
  match slot with
  | none => .error .notSet
  | some style => .ok style

/-- The calls that others may make on the slot. -/
inductive Call where
  | set (style : Style)
  | get
  | isSet
  | scan (source : Source)
  | quick (text : String)
deriving DecidableEq

inductive Answer where
  | done
  | style (style : Style)
  | isSet (yes : Bool)
  | scanned (outcome : Except Failure Listing)

def quickName : String := "<stdin>"

/-- Carries out a call. A quick scan sets the usual style if none is set; no other scan sets one,
and a misuse leaves the slot as it was. -/
def call (slot : Slot) : Call → Slot × Except Misuse Answer
  | .set style =>
    match slot.set style with
    | .ok filled => (filled, .ok .done)
    | .error misuse => (slot, .error misuse)
  | .get => (slot, slot.get.map .style)
  | .isSet => (slot, .ok (.isSet slot.isSome))
  | .scan source =>
    (slot, slot.get.map fun style => .scanned (tokenize source style).result)
  | .quick text =>
    let style := slot.getD {}
    (some style, .ok (.scanned (tokenize ⟨quickName, text⟩ style).result))

end Slot
end ArithLex
