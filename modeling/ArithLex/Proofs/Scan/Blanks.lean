import ArithLex.Proofs.Scan.Admissible
import ArithLex.Proofs.Scan.Resume

set_option autoImplicit false

/-! Blanks matter to a scan only where they keep two characters of literals apart. A pass over a text
and a pass over the text with its blanks squeezed go side by side: both take every other character,
and each skips blanks while the other waits. -/
namespace ArithLex.Scan

open Token (isBlank isNumeral)

/-- Squeezes the blanks out of a text that comes behind `left`. -/
def squeezeFrom (left : Option Char) (text : List Char) : List Char :=
  match text with
  | [] => []
  | c :: rest =>
    if isBlank c then
      -- A run of blanks begins at `c`. Its neighbours are `left` and what comes behind all blanks.
      (if left.any isNumeral && (rest.dropWhile isBlank).head?.any isNumeral then [' '] else [])
        ++ squeezeFrom left (rest.dropWhile isBlank)
    else c :: squeezeFrom (some c) rest
termination_by text.length
decreasing_by
  · exact Nat.lt_succ_of_le (List.length_dropWhile_le isBlank rest)
  · exact Nat.lt_succ_self rest.length

/-- The text with every run of blanks replaced by one space if the run has neighbours on both sides
and literals are made of such characters, and deleted otherwise. -/
def squeeze (text : List Char) : List Char := squeezeFrom none text

example : squeeze " 1  .5\t+ 2\n".toList = "1 .5+2".toList := by decide +kernel

/-- How many characters of the text are no blanks. -/
def ink (text : List Char) : Nat := text.countP (fun c => !isBlank c)

/-- How many characters before the place are no blanks. -/
def inkBefore (text : List Char) (place : Cursor) : Nat := ink (text.take place.index.toNat)

@[simp] theorem ink_append (first second : List Char) :
    ink (first ++ second) = ink first + ink second :=
  List.countP_append

theorem ink_blanks {blanks : List Char} (blank : ∀ c ∈ blanks, isBlank c = true) :
    ink blanks = 0 := by
  apply List.countP_eq_zero.mpr
  intro c member
  simp [blank c member]

namespace State

/-- The pass takes all of `consumed` and breaks off at the character behind it. -/
def BreaksAt (state : State) (text consumed : List Char) (c : Char) : Prop :=
  ∃ rest reached halt, text = consumed ++ c :: rest ∧ state.feed consumed = .ok reached ∧
    reached.step c = .error halt

theorem BreaksAt.head {state : State} {c : Char} {halt : Halt}
    (failed : state.step c = .error halt) (rest : List Char) :
    state.BreaksAt (c :: rest) [] c :=
  ⟨rest, state, halt, rfl, rfl, failed⟩

theorem BreaksAt.append {state next : State} {first : List Char}
    (passed : state.feed first = .ok next) {text consumed : List Char} {c : Char}
    (breaks : next.BreaksAt text consumed c) :
    state.BreaksAt (first ++ text) (first ++ consumed) c := by
  obtain ⟨rest, reached, halt, cut, continued, broken⟩ := breaks
  refine ⟨rest, reached, halt, ?_, ?_, broken⟩
  · rw [cut, List.append_assoc]
  · rw [feed_append, passed]
    exact continued

/-- Two passes over two texts come out alike: with the same tokens, or broken off at the same
character behind as many characters that are no blanks. -/
inductive Agree (state : State) (text : List Char) (other : State) (otherText : List Char) :
    Prop where
  | ok {reached otherReached : State} (passed : state.feed text = .ok reached)
      (otherPassed : other.feed otherText = .ok otherReached)
      (same : reached.tokens = otherReached.tokens) : Agree state text other otherText
  | error {consumed otherConsumed : List Char} {c : Char} (breaks : state.BreaksAt text consumed c)
      (otherBreaks : other.BreaksAt otherText otherConsumed c)
      (same : ink consumed = ink otherConsumed) : Agree state text other otherText

section Agree

variable {state other : State} {text otherText : List Char} {c : Char}

theorem Agree.symm (agree : state.Agree text other otherText) :
    other.Agree otherText state text := by
  cases agree with
  | ok passed otherPassed same => exact .ok otherPassed passed same.symm
  | error breaks otherBreaks same => exact .error otherBreaks breaks same.symm

/-- Both passes take characters, as many of which are no blanks. -/
theorem Agree.append {first otherFirst : List Char} {next otherNext : State}
    (passed : state.feed first = .ok next) (otherPassed : other.feed otherFirst = .ok otherNext)
    (same : ink first = ink otherFirst) (agree : next.Agree text otherNext otherText) :
    state.Agree (first ++ text) other (otherFirst ++ otherText) := by
  cases agree with
  | ok continued otherContinued sameTokens =>
      refine .ok ?_ ?_ sameTokens
      · rw [feed_append, passed]
        exact continued
      · rw [feed_append, otherPassed]
        exact otherContinued
  | error breaks otherBreaks sameInk =>
      refine .error (breaks.append passed) (otherBreaks.append otherPassed) ?_
      rw [ink_append, ink_append, same, sameInk]

/-- One pass skips blanks while the other waits. -/
theorem Agree.blanks {blanks : List Char} (blank : ∀ c ∈ blanks, isBlank c = true) {next : State}
    (passed : state.feed blanks = .ok next) (agree : next.Agree text other otherText) :
    state.Agree (blanks ++ text) other otherText :=
  Agree.append passed (feed_nil other) (ink_blanks blank) agree

/-- A step depends on nothing but the tokens read so far and, if the character can go into one, the
literal held back. -/
theorem step_ok_alike (tokens : state.tokens = other.tokens)
    (literal : isNumeral c = true → state.literal = other.literal) {next : State}
    (stepped : state.step c = .ok next) :
    ∃ otherNext, other.step c = .ok otherNext ∧ next.tokens = otherNext.tokens ∧
      next.literal = otherNext.literal := by
  rcases step_cases stepped with
    ⟨blank, rfl⟩ | ⟨kind, mark, rfl⟩ | ⟨digit, idle, rfl⟩ | ⟨held, longer, holds, extended, rfl⟩
  · refine ⟨_, step_blank blank other, ?_, ?_⟩
    · rw [tokens_pass, tokens_pass, tokens_close, tokens_close, tokens]
    · exact (close_literal state).trans (close_literal other).symm
  · refine ⟨_, step_mark mark other, ?_, ?_⟩
    · rw [tokens_pass, tokens_pass, tokens_close_produceMark, tokens_close_produceMark, tokens]
    · exact (close_literal state).trans (close_literal other).symm
  · have otherIdle : other.literal = none :=
      (literal (Token.isNumeral_of_isDigit digit)).symm.trans idle
    rw [tokens_of_idle idle, tokens_of_idle otherIdle] at tokens
    refine ⟨_, step_begin digit otherIdle, ?_, rfl⟩
    rw [tokens_of_held rfl, tokens_of_held rfl]
    exact congrArg (· ++ [(Literal.begin c).token]) tokens
  · have otherHolds : other.literal = some held :=
      (literal (Literal.isNumeral_of_extend? extended)).symm.trans holds
    rw [tokens_of_held holds, tokens_of_held otherHolds, List.append_cancel_right_eq] at tokens
    refine ⟨_, step_extend otherHolds extended, ?_, rfl⟩
    rw [tokens_of_held rfl, tokens_of_held rfl]
    exact congrArg (· ++ [longer.token]) tokens

/-- Passes that stand alike before a character both take it and go on, or both break off there. -/
theorem Agree.take (tokens : state.tokens = other.tokens)
    (literal : isNumeral c = true → state.literal = other.literal)
    (goOn : ∀ next otherNext : State, next.tokens = otherNext.tokens →
      next.literal = otherNext.literal → (isNumeral c = false → otherNext.literal = none) →
      next.Agree text otherNext otherText) :
    state.Agree (c :: text) other (c :: otherText) := by
  cases stepped : state.step c with
  | ok next =>
      obtain ⟨otherNext, otherStepped, sameTokens, sameLiteral⟩ :=
        step_ok_alike tokens literal stepped
      have agree := goOn next otherNext sameTokens sameLiteral
        (fun foreign => literal_of_step foreign otherStepped)
      have passed : state.feed [c] = .ok next := by
        rw [feed_cons, stepped]
        rfl
      have otherPassed : other.feed [c] = .ok otherNext := by
        rw [feed_cons, otherStepped]
        rfl
      exact Agree.append passed otherPassed rfl agree
  | error halt =>
      cases otherStepped : other.step c with
      | ok otherNext =>
          obtain ⟨next, taken, _⟩ :=
            step_ok_alike tokens.symm (fun numeral => (literal numeral).symm) otherStepped
          rw [stepped] at taken
          cases taken
      | error otherHalt =>
          exact .error (BreaksAt.head stepped text) (BreaksAt.head otherStepped otherText) rfl

end Agree

/-- The pass `state` before a text and the pass `other` before the squeezed text stand alike, except
that `other` may hold a literal back that the next character cannot go into. It does so only if
`left`, the last character that is no blank, is one of literals. -/
structure Abreast (left : Option Char) (text : List Char) (state other : State) : Prop where
  tokens : state.tokens = other.tokens
  literal : text.head?.any isNumeral = true → state.literal = other.literal
  idle : left.any isNumeral = false → other.literal = none

/-- Abreast passes come out alike. -/
theorem Abreast.agree {left : Option Char} {text : List Char} {state other : State}
    (abreast : Abreast left text state other) :
    state.Agree text other (squeezeFrom left text) := by
  induction left, text using squeezeFrom.induct generalizing state other with
  | case1 left =>
      rw [squeezeFrom]
      exact .ok rfl rfl abreast.tokens
  | case2 left c rest blank ih =>
      rw [squeezeFrom, if_pos blank]
      have run : ∀ d ∈ c :: rest.takeWhile isBlank, isBlank d = true := by
        rw [List.forall_mem_cons]
        exact ⟨blank, fun d member => List.mem_takeWhile_imp member⟩
      have cut : c :: rest = (c :: rest.takeWhile isBlank) ++ rest.dropWhile isBlank := by
        rw [List.cons_append, List.takeWhile_append_dropWhile]
      obtain ⟨next, passed, same, idle⟩ := feed_blanks run state
      have nextIdle : next.literal = none := idle (List.cons_ne_nil _ _)
      rw [cut]
      apply Agree.blanks run passed
      by_cases apart :
          (left.any isNumeral && (rest.dropWhile isBlank).head?.any isNumeral) = true
      · rw [if_pos apart]
        -- The squeezed text has a space here, and the other pass gives up its literal too.
        have space : ∀ d ∈ [' '], isBlank d = true := by simp [isBlank]
        obtain ⟨otherNext, otherPassed, otherSame, otherIdle⟩ := feed_blanks space other
        have otherNextIdle : otherNext.literal = none := otherIdle (List.cons_ne_nil _ _)
        apply Agree.symm
        apply Agree.blanks space otherPassed
        apply Agree.symm
        apply ih
        refine ⟨?_, ?_, fun _ => otherNextIdle⟩
        · rw [same, otherSame, abreast.tokens]
        · intro _
          rw [nextIdle, otherNextIdle]
      · rw [if_neg apart, List.nil_append]
        apply ih
        refine ⟨?_, ?_, abreast.idle⟩
        · rw [same, abreast.tokens]
        · intro numeral
          have foreign : left.any isNumeral = false := by simpa [numeral] using apart
          rw [nextIdle, abreast.idle foreign]
  | case3 left c rest solid ih =>
      rw [squeezeFrom, if_neg solid]
      apply Agree.take abreast.tokens abreast.literal
      intro next otherNext tokens literal idle
      exact ih ⟨tokens, fun _ => literal, idle⟩

theorem agree_squeeze (source squeezed : Source) (text : List Char) :
    (start source).Agree text (start squeezed) (squeeze text) := by
  have together : Abreast none text (start source) (start squeezed) :=
    ⟨rfl, fun _ => rfl, fun _ => rfl⟩
  exact together.agree

end State

theorem tokens_of_breaksAt {source : Source} {consumed : List Char} {c : Char}
    (breaks : (State.start source).BreaksAt source.text.toList consumed c) :
    tokens source = .error ⟨source, .past consumed, .past (consumed ++ [c]), c⟩ ∧
      source.text.toList.take consumed.length = consumed := by
  obtain ⟨rest, reached, halt, cut, passed, broken⟩ := breaks
  have failed : (State.start source).feed source.text.toList = .error halt := by
    rw [cut, State.feed_append, passed]
    change reached.feed (c :: rest) = _
    rw [State.feed_cons, broken]
    rfl
  constructor
  · rw [tokens_of_feed_error failed, (State.feed_reached passed).step_error broken]
  · rw [cut, List.take_left]

/-- The scans of two sources come out alike: with the same tokens, or with faults of the same
character behind as many characters that are no blanks. -/
inductive Congruent (source other : Source) : Prop where
  | ok {read : List Token} (scanned : tokens source = .ok read)
      (otherScanned : tokens other = .ok read) : Congruent source other
  | error {fault otherFault : Fault} (failed : tokens source = .error fault)
      (otherFailed : tokens other = .error otherFault) (char : fault.char = otherFault.char)
      (ink : inkBefore source.text.toList fault.start =
        inkBefore other.text.toList otherFault.start) : Congruent source other

theorem congruent_of_agree {source other : Source}
    (agree : (State.start source).Agree source.text.toList (State.start other) other.text.toList) :
    Congruent source other := by
  cases agree with
  | ok passed otherPassed same =>
      refine .ok (tokens_of_feed_ok passed) ?_
      rw [tokens_of_feed_ok otherPassed, same]
  | error breaks otherBreaks same =>
      obtain ⟨failed, taken⟩ := tokens_of_breaksAt breaks
      obtain ⟨otherFailed, otherTaken⟩ := tokens_of_breaksAt otherBreaks
      refine .error failed otherFailed rfl ?_
      simp only [inkBefore, Cursor.past_index, Int.toNat_natCast, taken, otherTaken, same]

theorem congruent_squeeze (name text : String) :
    Congruent ⟨name, text⟩ ⟨name, String.ofList (squeeze text.toList)⟩ := by
  apply congruent_of_agree
  rw [String.toList_ofList]
  exact State.agree_squeeze _ _ text.toList

theorem Congruent.symm {source other : Source} (congruent : Congruent source other) :
    Congruent other source := by
  cases congruent with
  | ok scanned otherScanned => exact .ok otherScanned scanned
  | error failed otherFailed char ink => exact .error otherFailed failed char.symm ink.symm

theorem Congruent.trans {first second third : Source} (one : Congruent first second)
    (two : Congruent second third) : Congruent first third := by
  cases one with
  | ok scanned middle =>
      cases two with
      | ok middleAgain otherScanned =>
          rw [middle, Except.ok.injEq] at middleAgain
          exact .ok scanned (middleAgain ▸ otherScanned)
      | error middleAgain _ _ _ =>
          rw [middle] at middleAgain
          cases middleAgain
  | error failed middle char ink =>
      cases two with
      | ok middleAgain _ =>
          rw [middle] at middleAgain
          cases middleAgain
      | error middleAgain otherFailed otherChar otherInk =>
          rw [middle, Except.error.injEq] at middleAgain
          subst middleAgain
          exact .error failed otherFailed (char.trans otherChar) (ink.trans otherInk)

/-- Blanks are transparent. Texts that are the same once squeezed have the same tokens, or faults of
the same kind and character behind as many characters that are no blanks. -/
theorem tokens_of_squeeze_eq {first second : String}
    (same : squeeze first.toList = squeeze second.toList) (name : String) :
    (∀ read, tokens ⟨name, first⟩ = .ok read ↔ tokens ⟨name, second⟩ = .ok read) ∧
    ∀ fault, tokens ⟨name, first⟩ = .error fault →
      ∃ other, tokens ⟨name, second⟩ = .error other ∧
        other.summary = fault.summary ∧ other.detail = fault.detail ∧
        inkBefore second.toList other.start = inkBefore first.toList fault.start := by
  have squeezed := congruent_squeeze name second
  rw [← same] at squeezed
  have congruent := (congruent_squeeze name first).trans squeezed.symm
  cases congruent with
  | ok scanned otherScanned =>
      constructor
      · intro read
        rw [scanned, otherScanned]
      · intro fault failed
        rw [scanned] at failed
        cases failed
  | error failed otherFailed char ink =>
      constructor
      · intro read
        rw [failed, otherFailed]
        simp
      · intro fault failedAgain
        rw [failed, Except.error.injEq] at failedAgain
        subst failedAgain
        refine ⟨_, otherFailed, ?_, ?_, ink.symm⟩
        · simp only [Fault.summary, Fault.detail, char]
        · simp only [Fault.detail, char]

theorem tokens_of_squeeze_eq_split_point :
    squeeze "1 .5 +2".toList = squeeze "\n1\t\t.5+ 2".toList ∧
    tokens ⟨"sum", "1 .5 +2"⟩ = .error ⟨⟨"sum", "1 .5 +2"⟩, ⟨2, 0, 2⟩, ⟨3, 0, 3⟩, '.'⟩ ∧
    ∃ other, tokens ⟨"sum", "\n1\t\t.5+ 2"⟩ = .error other ∧
      inkBefore "\n1\t\t.5+ 2".toList other.start = 1 := by
  have same : squeeze "1 .5 +2".toList = squeeze "\n1\t\t.5+ 2".toList := by decide +kernel
  have failed : tokens ⟨"sum", "1 .5 +2"⟩ =
      .error ⟨⟨"sum", "1 .5 +2"⟩, ⟨2, 0, 2⟩, ⟨3, 0, 3⟩, '.'⟩ := by decide
  obtain ⟨other, otherFailed, _, _, ink⟩ := (tokens_of_squeeze_eq same "sum").2 _ failed
  exact ⟨same, failed, other, otherFailed, ink⟩

end ArithLex.Scan
