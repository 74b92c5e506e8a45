import ArithLex.Tokenize
import Mathlib.Data.List.DropRight

set_option autoImplicit false

/-! What one step of a pass can do, told by the class of the character it takes, and how a pass
over many characters comes apart into steps. -/
namespace ArithLex

namespace Token

/-- The characters that literals are made of. -/
def isNumeral (c : Char) : Bool := isDigit c || c == '.'

theorem Kind.symbol?_of_ofSymbol? {c : Char} {kind : Kind} (mark : ofSymbol? c = some kind) :
    kind.symbol? = some c := by
  unfold ofSymbol? at mark
  split at mark <;> cases mark <;> rfl

theorem Kind.isLiteral_of_ofSymbol? {c : Char} {kind : Kind} (mark : ofSymbol? c = some kind) :
    kind.isLiteral = false := by
  have symbol := symbol?_of_ofSymbol? mark
  cases kind <;> first | rfl | cases symbol

/-- The marks, spelled out. -/
theorem Kind.ofSymbol?_isSome (c : Char) :
    (ofSymbol? c).isSome ↔ c ∈ ['+', '-', '*', '/', '(', ')'] := by
  constructor
  · intro mark
    obtain ⟨kind, named⟩ := Option.isSome_iff_exists.mp mark
    have symbol := symbol?_of_ofSymbol? named
    cases kind <;> cases symbol <;> decide
  · intro listed
    simp only [List.mem_cons, List.not_mem_nil, or_false] at listed
    rcases listed with rfl | rfl | rfl | rfl | rfl | rfl <;> rfl

theorem isBlank_iff (c : Char) : isBlank c = true ↔ c = ' ' ∨ c = '\t' ∨ c = '\n' ∨ c = '\r' := by
  simp only [isBlank, Bool.or_eq_true, beq_iff_eq, or_assoc]

theorem isNumeral_of_isDigit {c : Char} (digit : isDigit c = true) : isNumeral c = true := by
  simp only [isNumeral, digit, Bool.true_or]

theorem ne_point_of_isDigit {c : Char} (digit : isDigit c = true) : c ≠ '.' := by
  rintro rfl
  cases digit

theorem isNumeral_of_isBlank {c : Char} (blank : isBlank c = true) : isNumeral c = false := by
  rcases (isBlank_iff c).mp blank with rfl | rfl | rfl | rfl <;> rfl

theorem isNumeral_of_ofSymbol? {c : Char} {kind : Kind} (mark : Kind.ofSymbol? c = some kind) :
    isNumeral c = false := by
  have symbol := Kind.symbol?_of_ofSymbol? mark
  cases kind <;> cases symbol <;> rfl

theorem isBlank_of_ofSymbol? {c : Char} {kind : Kind} (mark : Kind.ofSymbol? c = some kind) :
    isBlank c = false := by
  have symbol := Kind.symbol?_of_ofSymbol? mark
  cases kind <;> cases symbol <;> rfl

theorem isBlank_of_isNumeral {c : Char} (numeral : isNumeral c = true) : isBlank c = false := by
  by_contra blank
  rw [isNumeral_of_isBlank (by simpa using blank)] at numeral
  cases numeral

theorem isDigit_of_not_isNumeral {c : Char} (foreign : isNumeral c = false) :
    isDigit c = false ∧ c ≠ '.' := by
  simpa only [isNumeral, Bool.or_eq_false_iff, beq_eq_false_iff_ne] using foreign

end Token

namespace Scan

open Token (isBlank isDigit isNumeral)

namespace Literal

theorem extend?_eq_none {c : Char} (foreign : isNumeral c = false) (literal : Literal) :
    literal.extend? c = none := by
  obtain ⟨notDigit, notPoint⟩ := Token.isDigit_of_not_isNumeral foreign
  simp only [extend?, notDigit, notPoint, Bool.false_eq_true, ↓reduceIte]

theorem extend?_digit {c : Char} (digit : isDigit c = true) (literal : Literal) :
    literal.extend? c = some ⟨literal.text.push c, literal.dotted⟩ := by
  simp only [extend?, digit, Token.ne_point_of_isDigit digit, ↓reduceIte]

theorem extend?_point {literal : Literal} (undotted : literal.dotted = false) :
    literal.extend? '.' = some ⟨literal.text.push '.', true⟩ := by
  simp only [extend?, undotted, Bool.false_eq_true, ↓reduceIte]

/-- Both ways in which a literal goes on. -/
theorem extend?_cases {literal longer : Literal} {c : Char}
    (extended : literal.extend? c = some longer) :
    (c = '.' ∧ literal.dotted = false ∧ longer = ⟨literal.text.push '.', true⟩) ∨
    (isDigit c = true ∧ longer = ⟨literal.text.push c, literal.dotted⟩) := by
  unfold extend? at extended
  split at extended
  · rename_i point
    split at extended
    · cases extended
    · rename_i undotted
      cases extended
      exact Or.inl ⟨point, by simpa using undotted, by rw [point]⟩
  · split at extended
    · rename_i digit
      cases extended
      exact Or.inr ⟨digit, rfl⟩
    · cases extended

theorem isNumeral_of_extend? {literal longer : Literal} {c : Char}
    (extended : literal.extend? c = some longer) : isNumeral c = true := by
  rcases extend?_cases extended with ⟨rfl, _, _⟩ | ⟨digit, _⟩
  · rfl
  · exact Token.isNumeral_of_isDigit digit

theorem extend?_text {literal longer : Literal} {c : Char}
    (extended : literal.extend? c = some longer) : longer.text = literal.text.push c := by
  rcases extend?_cases extended with ⟨rfl, _, rfl⟩ | ⟨_, rfl⟩ <;> rfl

end Literal

namespace State

@[simp] theorem close_source (state : State) : state.close.source = state.source := by
  unfold close
  split <;> rfl

@[simp] theorem close_cursor (state : State) : state.close.cursor = state.cursor := by
  unfold close
  split <;> rfl

@[simp] theorem close_literal (state : State) : state.close.literal = none := by
  unfold close
  split
  · assumption
  · rfl

theorem close_of_idle {state : State} (idle : state.literal = none) : state.close = state := by
  simp only [close, idle]

theorem close_of_held {state : State} {literal : Literal} (held : state.literal = some literal) :
    state.close = { state with
      literal := none
      produced := state.produced.push ⟨literal.token, state.cursor.index⟩ } := by
  simp only [close, held]

@[simp] theorem close_close (state : State) : state.close.close = state.close :=
  close_of_idle (close_literal state)

/-- The tokens read so far, the literal held back among them. -/
def tokens (state : State) : List Token := state.close.produced.toList.map (·.token)

theorem tokens_of_idle {state : State} (idle : state.literal = none) :
    state.tokens = state.produced.toList.map (·.token) := by
  rw [tokens, close_of_idle idle]

theorem tokens_of_held {state : State} {literal : Literal} (held : state.literal = some literal) :
    state.tokens = state.produced.toList.map (·.token) ++ [literal.token] := by
  simp only [tokens, close_of_held held, Array.toList_push, List.map_append, List.map_cons,
    List.map_nil]

@[simp] theorem tokens_close (state : State) : state.close.tokens = state.tokens := by
  rw [tokens, tokens, close_close]

@[simp] theorem tokens_pass (state : State) (c : Char) :
    (state.pass c).tokens = state.tokens := by
  cases held : state.literal with
  | none =>
      have passed : (state.pass c).literal = none := held
      rw [tokens_of_idle held, tokens_of_idle passed, pass]
  | some literal =>
      have passed : (state.pass c).literal = some literal := held
      rw [tokens_of_held held, tokens_of_held passed, pass]

@[simp] theorem tokens_close_produceMark (state : State) (kind : Token.Kind) :
    (state.close.produceMark kind).tokens = state.tokens ++ [.mark kind] := by
  have idle : (state.close.produceMark kind).literal = none := close_literal state
  rw [tokens_of_idle idle]
  simp only [produceMark, tokens, Array.toList_push, List.map_append, List.map_cons, List.map_nil]

@[simp] theorem tokens_start (source : Source) : (start source).tokens = [] := rfl

/-- A character of no literal is taken on its own. -/
theorem step_of_not_numeral {c : Char} (foreign : isNumeral c = false) (state : State) :
    state.step c = state.close.enter c := by
  unfold step
  cases state.literal with
  | none => rfl
  | some literal => simp only [Option.bind_some, Literal.extend?_eq_none foreign]

theorem step_blank {c : Char} (blank : isBlank c = true) (state : State) :
    state.step c = .ok (state.close.pass c) := by
  rw [step_of_not_numeral (Token.isNumeral_of_isBlank blank)]
  simp only [enter, blank, ↓reduceIte]

theorem step_mark {c : Char} {kind : Token.Kind} (mark : Token.Kind.ofSymbol? c = some kind)
    (state : State) : state.step c = .ok ((state.close.produceMark kind).pass c) := by
  have foreign := Token.isNumeral_of_ofSymbol? mark
  rw [step_of_not_numeral foreign]
  simp only [enter, Token.isBlank_of_ofSymbol? mark, (Token.isDigit_of_not_isNumeral foreign).1,
    mark, Bool.false_eq_true, ↓reduceIte]

theorem step_begin {c : Char} (digit : isDigit c = true) {state : State}
    (idle : state.literal = none) :
    state.step c = .ok { state.pass c with literal := some (.begin c) } := by
  have notBlank := Token.isBlank_of_isNumeral (Token.isNumeral_of_isDigit digit)
  simp only [step, idle, Option.bind_none, close_of_idle idle, enter, notBlank, digit,
    Bool.false_eq_true, ↓reduceIte]

theorem step_extend {c : Char} {state : State} {literal longer : Literal}
    (held : state.literal = some literal) (extended : literal.extend? c = some longer) :
    state.step c = .ok { state.pass c with literal := some longer } := by
  simp only [step, held, Option.bind_some, extended]

/-- Everything a step that succeeds can do. -/
theorem step_cases {state next : State} {c : Char} (stepped : state.step c = .ok next) :
    (isBlank c = true ∧ next = state.close.pass c) ∨
    (∃ kind, Token.Kind.ofSymbol? c = some kind ∧ next = (state.close.produceMark kind).pass c) ∨
    (isDigit c = true ∧ state.literal = none ∧
      next = { state.pass c with literal := some (.begin c) }) ∨
    (∃ literal longer, state.literal = some literal ∧ literal.extend? c = some longer ∧
      next = { state.pass c with literal := some longer }) := by
  cases extended : state.literal.bind (·.extend? c) with
  | some longer =>
      obtain ⟨literal, held, grown⟩ := Option.bind_eq_some_iff.mp extended
      rw [step_extend held grown] at stepped
      cases stepped
      exact Or.inr (Or.inr (Or.inr ⟨literal, longer, held, grown, rfl⟩))
  | none =>
      by_cases blank : isBlank c = true
      · rw [step_blank blank] at stepped
        cases stepped
        exact Or.inl ⟨blank, rfl⟩
      · by_cases digit : isDigit c = true
        · have idle : state.literal = none := by
            by_contra held
            obtain ⟨literal, held⟩ := Option.ne_none_iff_exists'.mp held
            rw [held, Option.bind_some, Literal.extend?_digit digit] at extended
            cases extended
          rw [step_begin digit idle] at stepped
          cases stepped
          exact Or.inr (Or.inr (Or.inl ⟨digit, idle, rfl⟩))
        · cases mark : Token.Kind.ofSymbol? c with
          | some kind =>
              rw [step_mark mark] at stepped
              cases stepped
              exact Or.inr (Or.inl ⟨kind, rfl, rfl⟩)
          | none =>
              simp only [step, extended, enter, blank, digit, mark, Bool.false_eq_true,
                ↓reduceIte] at stepped
              cases stepped

/-- A literal is held back only behind a character of literals. -/
theorem literal_of_step {state next : State} {c : Char} (foreign : isNumeral c = false)
    (stepped : state.step c = .ok next) : next.literal = none := by
  have notNumeral : ¬ isNumeral c = true := by simp [foreign]
  rcases step_cases stepped with
    ⟨_, rfl⟩ | ⟨_, _, rfl⟩ | ⟨digit, _, _⟩ | ⟨_, _, _, extended, _⟩
  · exact close_literal state
  · exact close_literal state
  · exact absurd (Token.isNumeral_of_isDigit digit) notNumeral
  · exact absurd (Literal.isNumeral_of_extend? extended) notNumeral

/-- A step fails only on its own character, with everything read so far produced. -/
theorem step_error {state : State} {c : Char} {halt : Halt} (failed : state.step c = .error halt) :
    halt = state.close.halt c := by
  unfold step at failed
  split at failed
  · cases failed
  · unfold enter at failed
    split at failed
    · cases failed
    · split at failed
      · cases failed
      · split at failed
        · cases failed
        · cases failed
          rfl

/-- A pass over one character more than a pass that succeeded. -/
theorem feed_concat {state reached : State} {consumed : List Char}
    (passed : state.feed consumed = .ok reached) (c : Char) :
    state.feed (consumed ++ [c]) = reached.step c := by
  rw [feed_append, passed]
  change (reached.step c >>= fun next => next.feed []) = _
  cases reached.step c <;> rfl

/-- A pass that succeeds has succeeded on every beginning of its text. -/
theorem feed_ok_split {state reached : State} {first second : List Char}
    (passed : state.feed (first ++ second) = .ok reached) :
    ∃ middle, state.feed first = .ok middle ∧ middle.feed second = .ok reached := by
  rw [feed_append] at passed
  cases begun : state.feed first with
  | ok middle =>
      rw [begun] at passed
      exact ⟨middle, rfl, passed⟩
  | error halt =>
      rw [begun] at passed
      cases passed

/-- What holds at the start and is kept by every step holds wherever a pass stands. -/
theorem feed_invariant {source : Source} {Inv : List Char → State → Prop}
    (initial : Inv [] (start source))
    (kept : ∀ consumed state c next, Inv consumed state → state.step c = .ok next →
      Inv (consumed ++ [c]) next)
    {consumed : List Char} {state : State} (passed : (start source).feed consumed = .ok state) :
    Inv consumed state := by
  induction consumed using List.reverseRecOn generalizing state with
  | nil =>
      cases passed
      exact initial
  | append_singleton consumed c ih =>
      obtain ⟨middle, begun, _⟩ := feed_ok_split passed
      rw [feed_concat begun] at passed
      exact kept consumed middle c state (ih begun) passed

/-- A pass that breaks off does so at one character, and whatever follows does not matter. -/
theorem feed_error_split {state : State} {chars : List Char} {halt : Halt}
    (failed : state.feed chars = .error halt) :
    ∃ consumed c rest reached, chars = consumed ++ c :: rest ∧
      state.feed consumed = .ok reached ∧ reached.step c = .error halt := by
  induction chars generalizing state with
  | nil => cases failed
  | cons c rest ih =>
      rw [feed_cons] at failed
      cases stepped : state.step c with
      | error first =>
          rw [stepped] at failed
          cases failed
          exact ⟨[], c, rest, state, rfl, rfl, stepped⟩
      | ok next =>
          rw [stepped] at failed
          obtain ⟨consumed, bad, later, reached, same, passed, broken⟩ := ih failed
          refine ⟨c :: consumed, bad, later, reached, ?_, ?_, broken⟩
          · rw [same, List.cons_append]
          · rw [feed_cons, stepped]
            exact passed

theorem feed_error_append {state : State} {first : List Char} {halt : Halt}
    (failed : state.feed first = .error halt) (second : List Char) :
    state.feed (first ++ second) = .error halt := by
  rw [feed_append, failed]
  rfl

end State

/-- The scan of a source is its pass, with only the tokens and the fault kept. -/
theorem tokens_eq (source : Source) :
    tokens source =
      match (State.start source).feed source.text.toList with
      | .ok reached => .ok reached.tokens
      | .error halt => .error halt.fault := by
  unfold tokens run
  cases (State.start source).feed source.text.toList <;> rfl

theorem tokens_of_feed_ok {source : Source} {reached : State}
    (passed : (State.start source).feed source.text.toList = .ok reached) :
    tokens source = .ok reached.tokens := by
  rw [tokens_eq, passed]

theorem tokens_of_feed_error {source : Source} {halt : Halt}
    (failed : (State.start source).feed source.text.toList = .error halt) :
    tokens source = .error halt.fault := by
  rw [tokens_eq, failed]

theorem feed_ok_of_tokens {source : Source} {read : List Token}
    (scanned : tokens source = .ok read) :
    ∃ reached, (State.start source).feed source.text.toList = .ok reached ∧
      reached.tokens = read := by
  cases passed : (State.start source).feed source.text.toList with
  | ok reached =>
      rw [tokens_of_feed_ok passed] at scanned
      cases scanned
      exact ⟨reached, rfl, rfl⟩
  | error halt =>
      rw [tokens_of_feed_error passed] at scanned
      cases scanned

theorem feed_error_of_tokens {source : Source} {fault : Fault}
    (failed : tokens source = .error fault) :
    ∃ halt, (State.start source).feed source.text.toList = .error halt ∧ halt.fault = fault := by
  cases passed : (State.start source).feed source.text.toList with
  | ok reached =>
      rw [tokens_of_feed_ok passed] at failed
      cases failed
  | error halt =>
      rw [tokens_of_feed_error passed] at failed
      cases failed
      exact ⟨halt, rfl, rfl⟩

end Scan

theorem tokenize_result (source : Source) (style : Style) :
    (tokenize source style).result =
      match Scan.tokens source with
      | .ok read => .ok ⟨source.name, read⟩
      | .error fault => .error (.scan fault) := by
  cases fault : (Scan.run source).fault <;> simp only [tokenize, Scan.tokens, fault]

theorem tokenize_eq_ok_iff {source : Source} {style : Style} {listing : Listing} :
    (tokenize source style).result = .ok listing ↔
      ∃ read, Scan.tokens source = .ok read ∧ listing = ⟨source.name, read⟩ := by
  rw [tokenize_result]
  cases Scan.tokens source with
  | ok read => simp [eq_comm]
  | error fault => simp

theorem tokenize_isOk_iff {source : Source} {style : Style} :
    (∃ listing, (tokenize source style).result = .ok listing) ↔
      ∃ read, Scan.tokens source = .ok read := by
  simp only [tokenize_eq_ok_iff]
  constructor
  · rintro ⟨listing, read, scanned, _⟩
    exact ⟨read, scanned⟩
  · rintro ⟨read, scanned⟩
    exact ⟨_, read, scanned, rfl⟩

theorem tokenize_eq_error_iff {source : Source} {style : Style} {failure : Failure} :
    (tokenize source style).result = .error failure ↔
      ∃ fault, Scan.tokens source = .error fault ∧ failure = .scan fault := by
  rw [tokenize_result]
  cases Scan.tokens source with
  | ok read => simp
  | error fault => simp [eq_comm]

end ArithLex
