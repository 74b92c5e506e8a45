import ArithLex.Proofs.Cursor
import ArithLex.Proofs.Scan.Step

set_option autoImplicit false

/-! A pass that goes on behind a text does what a fresh pass over the rest does: the same steps with
the same tokens, at places counted from the end of the first text. -/
namespace ArithLex.Scan

open Token (isBlank isNumeral)

namespace State

/-- The production of a fresh pass, at its place behind what `base` has read. -/
def resumeProduction (base : State) (production : Production) : Production :=
  ⟨production.token, base.cursor.index + production.index⟩

/-- The state of a fresh pass, put behind what `base` has read. -/
def resume (base state : State) : State :=
  { source := base.source
    cursor := base.cursor.rebase state.cursor
    literal := state.literal
    produced := base.produced ++ state.produced.map base.resumeProduction }

/-- The fault of a fresh pass, at its place behind what `base` has read. -/
def resumeFault (base : State) (fault : Fault) : Fault :=
  { source := base.source
    start := base.cursor.rebase fault.start
    stop := base.cursor.rebase fault.stop
    char := fault.char }

/-- The end of a fresh pass, put behind what `base` has read. -/
def resumeHalt (base : State) (halt : Halt) : Halt :=
  { fault := base.resumeFault halt.fault
    produced := base.produced ++ halt.produced.map base.resumeProduction }

/-- Whatever came of a fresh pass, put behind what `base` has read. -/
def resumeResult (base : State) : Except Halt State → Except Halt State
  | .ok state => .ok (base.resume state)
  | .error halt => .error (base.resumeHalt halt)

/-- Outside literals, a pass stands as one that is about to begin. -/
theorem resume_start {base : State} (idle : base.literal = none) (source : Source) :
    base.resume (start source) = base := by
  obtain ⟨origin, cursor, literal, produced⟩ := base
  cases idle
  simp [resume, start]

theorem resume_close (base state : State) :
    (base.resume state).close = base.resume state.close := by
  cases held : state.literal with
  | none =>
      have resumed : (base.resume state).literal = none := held
      rw [close_of_idle held, close_of_idle resumed]
  | some literal =>
      have resumed : (base.resume state).literal = some literal := held
      rw [close_of_held held, close_of_held resumed]
      simp [resume, resumeProduction]

theorem resume_pass (base state : State) (c : Char) :
    (base.resume state).pass c = base.resume (state.pass c) := by
  simp only [pass, resume, Cursor.rebase_advance]

theorem resume_enter (base state : State) (c : Char) :
    (base.resume state).enter c = base.resumeResult (state.enter c) := by
  unfold enter
  split
  · rw [resume_pass]
    rfl
  · split
    · rw [resume_pass]
      rfl
    · split
      · rename_i kind mark
        have produced : (base.resume state).produceMark kind =
            base.resume (state.produceMark kind) := by
          simp [produceMark, resume, resumeProduction]
        rw [produced, resume_pass]
        rfl
      · simp only [halt, resumeResult, resumeHalt, resumeFault, resume, Cursor.rebase_advance]

theorem resume_step (base state : State) (c : Char) :
    (base.resume state).step c = base.resumeResult (state.step c) := by
  have same : (base.resume state).literal = state.literal := rfl
  cases extended : state.literal.bind (·.extend? c) with
  | some longer =>
      simp only [step, same, extended, resume_pass]
      rfl
  | none =>
      simp only [step, same, extended]
      rw [resume_close, resume_enter]

theorem resume_feed (base state : State) (chars : List Char) :
    (base.resume state).feed chars = base.resumeResult (state.feed chars) := by
  induction chars generalizing state with
  | nil => rfl
  | cons c rest ih =>
      rw [feed_cons, feed_cons, resume_step]
      cases state.step c with
      | ok next => exact ih next
      | error halt => rfl

/-- A pass outside literals goes on as a fresh pass over the rest of its text. -/
theorem feed_of_idle {base : State} (idle : base.literal = none) (source : Source)
    (chars : List Char) : base.feed chars = base.resumeResult ((start source).feed chars) := by
  rw [← resume_feed, resume_start idle]

theorem tokens_resume {base : State} (idle : base.literal = none) (state : State) :
    (base.resume state).tokens = base.tokens ++ state.tokens := by
  rw [tokens, resume_close, tokens_of_idle idle, tokens]
  simp [resume, resumeProduction]

/-- No literal is held back, or the next character is none that a literal goes on with. -/
def Severed (state : State) (rest : List Char) : Prop :=
  state.literal = none ∨ ∃ c later, rest = c :: later ∧ isNumeral c = false

/-- A literal that is over may as well be produced before the pass goes on. -/
theorem feed_close {state : State} {rest : List Char} (severed : state.Severed rest) :
    state.close.feed rest = state.feed rest := by
  rcases severed with idle | ⟨c, later, rfl, foreign⟩
  · rw [close_of_idle idle]
  · rw [feed_cons, feed_cons, step_of_not_numeral foreign, step_of_not_numeral foreign,
      close_close]

@[simp] theorem resumeFault_close (base : State) (fault : Fault) :
    base.close.resumeFault fault = base.resumeFault fault := by
  simp only [resumeFault, close_source, close_cursor]

/-- Blanks end the literal held back and change nothing else. -/
theorem feed_blanks {blanks : List Char} (blank : ∀ c ∈ blanks, isBlank c = true) (state : State) :
    ∃ next, state.feed blanks = .ok next ∧ next.tokens = state.tokens ∧
      (blanks ≠ [] → next.literal = none) := by
  induction blanks using List.reverseRecOn with
  | nil => exact ⟨state, rfl, rfl, fun nonempty => absurd rfl nonempty⟩
  | append_singleton blanks c ih =>
      obtain ⟨middle, passed, same, _⟩ :=
        ih (fun other member => blank other (List.mem_append_left _ member))
      refine ⟨middle.close.pass c, ?_, ?_, fun _ => close_literal middle⟩
      · rw [feed_concat passed, step_blank (blank c (by simp))]
      · rw [tokens_pass, tokens_close, same]

/-- A pass over the first of two texts finds the places of that text. -/
theorem feed_start (source other : Source) (chars : List Char) :
    (start source).feed chars = (start source).resumeResult ((start other).feed chars) :=
  feed_of_idle rfl other chars

end State

/-- A text that scans is read the same at the beginning of any source. -/
theorem feed_of_tokens {name text : String} {read : List Token}
    (scanned : tokens ⟨name, text⟩ = .ok read) (source : Source) :
    ∃ reached, (State.start source).feed text.toList = .ok reached ∧ reached.tokens = read := by
  obtain ⟨state, passed, rfl⟩ := feed_ok_of_tokens scanned
  refine ⟨(State.start source).resume state, ?_, ?_⟩
  · rw [State.feed_start source ⟨name, text⟩, passed]
    rfl
  · rw [State.tokens_resume rfl, State.tokens_start, List.nil_append]

/-- A text that can be read at the beginning of some source scans on its own. -/
theorem tokens_of_feed {source other : Source} {reached : State}
    (passed : (State.start other).feed source.text.toList = .ok reached) :
    tokens source = .ok reached.tokens := by
  have own : (State.start source).feed source.text.toList =
      .ok ((State.start source).resume reached) := by
    rw [State.feed_start source other, passed]
    rfl
  rw [tokens_of_feed_ok own, State.tokens_resume rfl, State.tokens_start, List.nil_append]

/-- A fault stands, whatever text comes behind it. -/
theorem tokens_error_append {name first : String} {fault : Fault}
    (failed : tokens ⟨name, first⟩ = .error fault) (second : String) :
    tokens ⟨name, first ++ second⟩ = .error { fault with source := ⟨name, first ++ second⟩ } := by
  obtain ⟨halt, passed, rfl⟩ := feed_error_of_tokens failed
  have begun : (State.start ⟨name, first ++ second⟩).feed first.toList =
      .error ((State.start ⟨name, first ++ second⟩).resumeHalt halt) := by
    rw [State.feed_start _ ⟨name, first⟩, passed]
    rfl
  have whole := State.feed_error_append begun second.toList
  rw [← String.toList_append] at whole
  rw [tokens_of_feed_error whole]
  simp only [State.resumeHalt, State.resumeFault, State.start, Cursor.start_rebase]

section Append

variable {name first second : String} {reached : State}

/-- Behind a text whose last literal is over, the rest is scanned on its own. -/
theorem feed_append_of_severed
    (passed : (State.start ⟨name, first ++ second⟩).feed first.toList = .ok reached)
    (severed : reached.Severed second.toList) :
    (State.start ⟨name, first ++ second⟩).feed (first ++ second).toList =
      reached.close.resumeResult ((State.start ⟨name, second⟩).feed second.toList) := by
  rw [String.toList_append, State.feed_append, passed]
  change reached.feed second.toList = _
  rw [← State.feed_close severed]
  exact State.feed_of_idle (State.close_literal reached) ⟨name, second⟩ second.toList

theorem tokens_append_ok
    (passed : (State.start ⟨name, first ++ second⟩).feed first.toList = .ok reached)
    (severed : reached.Severed second.toList) {read : List Token}
    (scanned : tokens ⟨name, second⟩ = .ok read) :
    tokens ⟨name, first ++ second⟩ = .ok (reached.tokens ++ read) := by
  obtain ⟨state, rest, rfl⟩ := feed_ok_of_tokens scanned
  have whole := feed_append_of_severed passed severed
  rw [rest] at whole
  rw [tokens_of_feed_ok whole, State.tokens_resume (State.close_literal reached),
    State.tokens_close]

theorem tokens_append_error
    (passed : (State.start ⟨name, first ++ second⟩).feed first.toList = .ok reached)
    (severed : reached.Severed second.toList) {fault : Fault}
    (failed : tokens ⟨name, second⟩ = .error fault) :
    tokens ⟨name, first ++ second⟩ = .error (reached.resumeFault fault) := by
  obtain ⟨halt, rest, rfl⟩ := feed_error_of_tokens failed
  have whole := feed_append_of_severed passed severed
  rw [rest] at whole
  rw [tokens_of_feed_error whole, State.resumeHalt, State.resumeFault_close]

end Append

end ArithLex.Scan
