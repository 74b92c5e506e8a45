import ArithLex.Proofs.Scan.Step
import Mathlib.Data.List.Chain
import Mathlib.Data.List.Induction

set_option autoImplicit false

/-! Tokens laid out over a text: blanks, a lexeme, blanks, a lexeme, and so on. A scan reads the
tokens of a layout back, and whatever a scan reads is laid out over its text. -/
namespace ArithLex

namespace Token

/-- The characters of the token in a source: a mark's symbol, a literal's text. -/
def lexeme (token : Token) : List Char :=
  match token.kind.symbol? with
  | some c => [c]
  | none => token.text.toList

/-- A mark has no text. An integer is digits, and a float is digits with one point among them that
is not the first character. -/
def WellFormed (token : Token) : Prop :=
  match token.kind with
  | .int => token.text.toList ≠ [] ∧ ∀ c ∈ token.text.toList, isDigit c = true
  | .float => ∃ whole part, token.text.toList = whole ++ '.' :: part ∧ whole ≠ [] ∧
      (∀ c ∈ whole, isDigit c = true) ∧ ∀ c ∈ part, isDigit c = true
  | _ => token.text = ""

theorem eq_mark_of_wellFormed {token : Token} (formed : token.WellFormed)
    (notLiteral : token.kind.isLiteral = false) : token = .mark token.kind := by
  rcases token with ⟨kind, text⟩
  cases kind <;> first | exact congrArg (Token.mk _) formed | cases notLiteral

theorem mark_wellFormed {c : Char} {kind : Kind} (mark : Kind.ofSymbol? c = some kind) :
    (Token.mark kind).WellFormed := by
  have notLiteral := Kind.isLiteral_of_ofSymbol? mark
  cases kind <;> first | rfl | cases notLiteral

theorem lexeme_mark {c : Char} {kind : Kind} (mark : Kind.ofSymbol? c = some kind) :
    (Token.mark kind).lexeme = [c] := by
  simp only [lexeme, Token.mark, Kind.symbol?_of_ofSymbol? mark]

theorem lexeme_literal {token : Token} (literal : token.kind.isLiteral = true) :
    token.lexeme = token.text.toList := by
  rcases token with ⟨kind, text⟩
  cases kind <;> first | rfl | cases literal

theorem exists_symbol {token : Token} (notLiteral : token.kind.isLiteral = false) :
    ∃ c, Kind.ofSymbol? c = some token.kind ∧ token.lexeme = [c] := by
  rcases token with ⟨kind, text⟩
  cases kind <;> first | exact ⟨_, rfl, rfl⟩ | cases notLiteral

/-- The text of a token is made of digits and points. -/
theorem isNumeral_of_mem_text {token : Token} (formed : token.WellFormed) {c : Char}
    (member : c ∈ token.text.toList) : isNumeral c = true := by
  obtain ⟨kind, text⟩ := token
  cases kind with
  | int => exact isNumeral_of_isDigit (formed.2 c member)
  | float =>
      obtain ⟨whole, part, spelled, -, wholeDigits, partDigits⟩ := formed
      rw [spelled, List.mem_append, List.mem_cons] at member
      rcases member with inWhole | rfl | inPart
      · exact isNumeral_of_isDigit (wholeDigits c inWhole)
      · rfl
      · exact isNumeral_of_isDigit (partDigits c inPart)
  | _ =>
      have empty : text = "" := formed
      simp [empty] at member

/-- No character of a lexeme is a blank. -/
theorem isBlank_of_mem_lexeme {token : Token} (formed : token.WellFormed) {c : Char}
    (member : c ∈ token.lexeme) : isBlank c = false := by
  cases literal : token.kind.isLiteral with
  | false =>
      obtain ⟨symbol, mark, same⟩ := exists_symbol literal
      rw [same, List.mem_singleton] at member
      exact member ▸ isBlank_of_ofSymbol? mark
  | true =>
      rw [lexeme_literal literal] at member
      exact isBlank_of_isNumeral (isNumeral_of_mem_text formed member)

end Token

open Token (isBlank isDigit)

/-- A token and the blanks before it. -/
structure Spaced where
  gap : List Char
  token : Token
deriving DecidableEq

/-- Between two literals there has to be a gap. -/
def Spaced.Apart (first second : Spaced) : Prop :=
  first.token.kind.isLiteral = true → second.token.kind.isLiteral = true → second.gap ≠ []

/-- Tokens spread over a text, and the blanks behind the last of them. -/
structure Layout where
  body : List Spaced
  trail : List Char
deriving DecidableEq

namespace Layout

def tokens (layout : Layout) : List Token := layout.body.map (·.token)

def chars (layout : Layout) : List Char :=
  layout.body.flatMap (fun spaced => spaced.gap ++ spaced.token.lexeme) ++ layout.trail

def text (layout : Layout) : String := String.ofList layout.chars

/-- Every token is one that a source can hold, gaps are blank, and literals do not touch. -/
structure Valid (layout : Layout) : Prop where
  formed : ∀ spaced ∈ layout.body, spaced.token.WellFormed
  blank : ∀ spaced ∈ layout.body, ∀ c ∈ spaced.gap, isBlank c = true
  trailBlank : ∀ c ∈ layout.trail, isBlank c = true
  apart : layout.body.IsChain Spaced.Apart

def empty : Layout := ⟨[], []⟩

/-- One blank more. -/
def skip (layout : Layout) (c : Char) : Layout := ⟨layout.body, layout.trail ++ [c]⟩

/-- One token more. -/
def add (layout : Layout) (token : Token) : Layout :=
  ⟨layout.body ++ [⟨layout.trail, token⟩], []⟩

/-- A literal may come next. -/
def Ready (layout : Layout) : Prop :=
  ∀ spaced ∈ layout.body.getLast?, spaced.token.kind.isLiteral = true → layout.trail ≠ []

@[simp] theorem chars_skip (layout : Layout) (c : Char) :
    (layout.skip c).chars = layout.chars ++ [c] := by
  simp only [chars, skip, List.append_assoc]

@[simp] theorem chars_add (layout : Layout) (token : Token) :
    (layout.add token).chars = layout.chars ++ token.lexeme := by
  simp only [chars, add, List.flatMap_append, List.flatMap_cons, List.flatMap_nil,
    List.append_nil, List.append_assoc]

@[simp] theorem tokens_skip (layout : Layout) (c : Char) :
    (layout.skip c).tokens = layout.tokens := rfl

@[simp] theorem tokens_add (layout : Layout) (token : Token) :
    (layout.add token).tokens = layout.tokens ++ [token] := by
  simp only [tokens, add, List.map_append, List.map_cons, List.map_nil]

theorem ready_skip (layout : Layout) (c : Char) : (layout.skip c).Ready := by
  intro spaced _ _
  simp [skip]

theorem ready_add {token : Token} (notLiteral : token.kind.isLiteral = false) (layout : Layout) :
    (layout.add token).Ready := by
  intro spaced last literal
  rw [add, List.getLast?_concat, Option.mem_some_iff] at last
  rw [← last, notLiteral] at literal
  cases literal

theorem valid_empty : empty.Valid :=
  ⟨by simp [empty], by simp [empty], by simp [empty], List.IsChain.nil⟩

theorem Valid.skip {layout : Layout} (valid : layout.Valid) {c : Char} (blank : isBlank c = true) :
    (layout.skip c).Valid := by
  refine ⟨valid.formed, valid.blank, ?_, valid.apart⟩
  intro other member
  rcases List.mem_append.mp member with old | new
  · exact valid.trailBlank other old
  · rwa [List.mem_singleton.mp new]

theorem Valid.add {layout : Layout} (valid : layout.Valid) {token : Token}
    (formed : token.WellFormed) (ready : token.kind.isLiteral = true → layout.Ready) :
    (layout.add token).Valid := by
  refine ⟨?_, ?_, by simp [Layout.add], ?_⟩
  · intro spaced member
    rcases List.mem_append.mp member with old | new
    · exact valid.formed spaced old
    · rwa [List.mem_singleton.mp new]
  · intro spaced member
    rcases List.mem_append.mp member with old | new
    · exact valid.blank spaced old
    · rw [List.mem_singleton.mp new]
      exact valid.trailBlank
  · apply valid.apart.append (List.IsChain.singleton _)
    intro before last after first literal literalToo
    rw [List.head?_cons, Option.mem_some_iff] at first
    subst first
    exact ready literalToo before last literal

/-- Every valid layout is built up from nothing, a blank or a token at a time. -/
theorem Valid.build {motive : Layout → Prop} (empty : motive Layout.empty)
    (skip : ∀ layout c, motive layout → isBlank c = true → motive (layout.skip c))
    (add : ∀ layout token, motive layout → token.WellFormed →
      (token.kind.isLiteral = true → layout.Ready) → motive (layout.add token))
    {layout : Layout} (valid : layout.Valid) : motive layout := by
  -- A trail grows blank by blank. Each gap was the trail before its token came.
  have trailing (body : List Spaced) (trail : List Char) (start : motive ⟨body, []⟩)
      (blank : ∀ c ∈ trail, isBlank c = true) : motive ⟨body, trail⟩ := by
    induction trail using List.reverseRecOn with
    | nil => exact start
    | append_singleton trail c ih =>
        refine skip ⟨body, trail⟩ c (ih ?_) (blank c (by simp))
        intro other member
        exact blank other (List.mem_append_left _ member)
  obtain ⟨body, trail⟩ := layout
  obtain ⟨formed, blank, trailBlank, apart⟩ := valid
  apply trailing body trail _ trailBlank
  induction body using List.reverseRecOn with
  | nil => exact empty
  | append_singleton body spaced ih =>
      rw [List.isChain_append] at apart
      have shorter : motive ⟨body, []⟩ := by
        apply ih _ _ trailBlank apart.1
        · intro other member
          exact formed other (List.mem_append_left _ member)
        · intro other member
          exact blank other (List.mem_append_left _ member)
      have spacedOut : motive ⟨body, spaced.gap⟩ :=
        trailing body spaced.gap shorter (blank spaced (by simp))
      apply add ⟨body, spaced.gap⟩ spaced.token spacedOut
      · exact formed spaced (by simp)
      · intro literal before last literalBefore
        exact apart.2.2 before last spaced rfl literalBefore literal

/-- The lexemes of a layout are its characters without the blanks. -/
theorem Valid.flatMap_lexeme {layout : Layout} (valid : layout.Valid) :
    layout.tokens.flatMap Token.lexeme = layout.chars.filter (fun c => !isBlank c) := by
  apply Valid.build ?empty ?skip ?add valid
  case empty => rfl
  case skip =>
      intro layout c ih blank
      simp [ih, blank]
  case add =>
      intro layout token ih formed _
      have kept : token.lexeme.filter (fun c => !isBlank c) = token.lexeme := by
        apply List.filter_eq_self.mpr
        intro c member
        simp [Token.isBlank_of_mem_lexeme formed member]
      simp [ih, kept]

end Layout

namespace Scan

namespace Literal

theorem token_isLiteral (literal : Literal) : literal.token.kind.isLiteral = true := by
  unfold token
  split <;> rfl

theorem lexeme_token (literal : Literal) : literal.token.lexeme = literal.text.toList :=
  Token.lexeme_literal literal.token_isLiteral

theorem begin_wellFormed {c : Char} (digit : isDigit c = true) : (begin c).token.WellFormed := by
  refine ⟨by simp [begin, token], ?_⟩
  intro other member
  simp only [begin, token, String.toList_singleton, List.mem_singleton] at member
  rwa [member]

/-- A literal that goes on stays one that a source can hold. -/
theorem extend?_wellFormed {literal longer : Literal} {c : Char}
    (formed : literal.token.WellFormed) (extended : literal.extend? c = some longer) :
    longer.token.WellFormed := by
  rcases extend?_cases extended with ⟨rfl, undotted, rfl⟩ | ⟨digit, rfl⟩
  · rw [token, undotted] at formed
    exact ⟨literal.text.toList, [], by simp [token], formed.1, formed.2, by simp⟩
  · obtain ⟨text, dotted⟩ := literal
    cases dotted with
    | false =>
        refine ⟨by simp [token], ?_⟩
        intro other member
        simp only [token, String.toList_push, List.mem_append, List.mem_singleton] at member
        rcases member with old | rfl
        · exact formed.2 other old
        · exact digit
    | true =>
        obtain ⟨whole, part, spelled, nonempty, wholeDigits, partDigits⟩ := formed
        have spelled : text.toList = whole ++ '.' :: part := spelled
        refine ⟨whole, part ++ [c], by simp [token, spelled], nonempty, wholeDigits, ?_⟩
        intro other member
        rcases List.mem_append.mp member with old | new
        · exact partDigits other old
        · rwa [List.mem_singleton.mp new]

end Literal

namespace State

/-- The characters of the literal held back. -/
def heldChars (state : State) : List Char :=
  match state.literal with
  | none => []
  | some literal => literal.text.toList

/-- What was produced is laid out over the text consumed, up to the literal held back. -/
structure Settled (consumed : List Char) (state : State) (layout : Layout) : Prop where
  valid : layout.Valid
  produced : layout.tokens = state.produced.toList.map (·.token)
  covers : consumed = layout.chars ++ state.heldChars
  formed : ∀ literal, state.literal = some literal → literal.token.WellFormed
  ready : layout.Ready

theorem Settled.close {consumed : List Char} {state : State} {layout : Layout}
    (settled : Settled consumed state layout) :
    ∃ closed : Layout, closed.Valid ∧ closed.tokens = state.tokens ∧ closed.chars = consumed := by
  cases held : state.literal with
  | none =>
      refine ⟨layout, settled.valid, ?_, ?_⟩
      · rw [tokens_of_idle held, settled.produced]
      · rw [settled.covers, heldChars, held, List.append_nil]
  | some literal =>
      refine ⟨layout.add literal.token,
        settled.valid.add (settled.formed literal held) (fun _ => settled.ready), ?_, ?_⟩
      · rw [Layout.tokens_add, tokens_of_held held, settled.produced]
      · rw [Layout.chars_add, Literal.lexeme_token, settled.covers, heldChars, held]

theorem Settled.step {consumed : List Char} {state next : State} {layout : Layout} {c : Char}
    (settled : Settled consumed state layout) (stepped : state.step c = .ok next) :
    ∃ extended, Settled (consumed ++ [c]) next extended := by
  rcases step_cases stepped with
    ⟨blank, rfl⟩ | ⟨kind, mark, rfl⟩ | ⟨digit, idle, rfl⟩ | ⟨literal, longer, held, grown, rfl⟩
  -- A blank or a mark ends the literal held back, which then belongs to the layout.
  · obtain ⟨closed, valid, produced, covers⟩ := settled.close
    refine ⟨closed.skip c, valid.skip blank, produced, ?_, ?_, Layout.ready_skip closed c⟩
    · simp [heldChars, pass, covers]
    · intro literal held
      simp [pass] at held
  · obtain ⟨closed, valid, produced, covers⟩ := settled.close
    have notLiteral := Token.Kind.isLiteral_of_ofSymbol? mark
    refine ⟨closed.add (.mark kind),
      valid.add (Token.mark_wellFormed mark) (fun literal => ?_), ?_, ?_, ?_,
      Layout.ready_add notLiteral closed⟩
    · rw [show (Token.mark kind).kind.isLiteral = false from notLiteral] at literal
      cases literal
    · simp [pass, produceMark, produced, tokens]
    · simp [heldChars, pass, produceMark, covers, Token.lexeme_mark mark]
    · intro literal held
      simp [pass, produceMark] at held
  · refine ⟨layout, settled.valid, settled.produced, ?_, ?_, settled.ready⟩
    · rw [settled.covers, heldChars, idle]
      simp [heldChars, Literal.begin]
    · rintro literal ⟨⟩
      exact Literal.begin_wellFormed digit
  · refine ⟨layout, settled.valid, settled.produced, ?_, ?_, settled.ready⟩
    · rw [settled.covers, heldChars, held]
      simp [heldChars, Literal.extend?_text grown]
    · rintro _ ⟨⟩
      exact Literal.extend?_wellFormed (settled.formed literal held) grown

/-- Whatever a pass has read is laid out over the text it consumed. -/
theorem feed_settled {source : Source} {consumed : List Char} {state : State}
    (passed : (start source).feed consumed = .ok state) :
    ∃ layout, Settled consumed state layout := by
  apply feed_invariant _ _ passed
  · refine ⟨.empty, Layout.valid_empty, rfl, rfl, ?_, ?_⟩
    · rintro literal ⟨⟩
    · rintro spaced ⟨⟩
  · rintro consumed state c next ⟨layout, settled⟩ stepped
    exact settled.step stepped

theorem feed_digits (state : State) {literal : Literal} (held : state.literal = some literal)
    {digits : List Char} (all : ∀ c ∈ digits, isDigit c = true) :
    ∃ next, state.feed digits = .ok next ∧ next.produced = state.produced ∧
      next.literal = some ⟨String.ofList (literal.text.toList ++ digits), literal.dotted⟩ := by
  induction digits generalizing state literal with
  | nil => exact ⟨state, rfl, rfl, by simp [held]⟩
  | cons c rest ih =>
      have grown := Literal.extend?_digit (all c (by simp)) literal
      obtain ⟨next, passed, produced, longer⟩ :=
        ih { state.pass c with literal := some ⟨literal.text.push c, literal.dotted⟩ } rfl
          (fun other member => all other (List.mem_cons_of_mem c member))
      refine ⟨next, ?_, produced, ?_⟩
      · rw [feed_cons, step_extend held grown]
        exact passed
      · simpa using longer

theorem feed_whole {state : State} (idle : state.literal = none) {digits : List Char}
    (nonempty : digits ≠ []) (all : ∀ c ∈ digits, isDigit c = true) :
    ∃ next, state.feed digits = .ok next ∧ next.produced = state.produced ∧
      next.literal = some ⟨String.ofList digits, false⟩ := by
  obtain ⟨c, rest, rfl⟩ := List.exists_cons_of_ne_nil nonempty
  obtain ⟨next, passed, produced, longer⟩ :=
    feed_digits { state.pass c with literal := some (.begin c) } rfl
      (fun other member => all other (List.mem_cons_of_mem c member))
  refine ⟨next, ?_, produced, ?_⟩
  · rw [feed_cons, step_begin (all c (by simp)) idle]
    exact passed
  · simpa [Literal.begin] using longer

/-- Outside literals, the text of a literal is held back as just that literal. -/
theorem feed_literal {state : State} (idle : state.literal = none) {token : Token}
    (formed : token.WellFormed) (literal : token.kind.isLiteral = true) :
    ∃ next held, state.feed token.text.toList = .ok next ∧ next.produced = state.produced ∧
      next.literal = some held ∧ held.token = token := by
  obtain ⟨kind, text⟩ := token
  cases kind with
  | int =>
      obtain ⟨next, passed, produced, held⟩ := feed_whole idle formed.1 formed.2
      exact ⟨next, _, passed, produced, held, by simp [Literal.token]⟩
  | float =>
      obtain ⟨whole, part, spelled, nonempty, wholeDigits, partDigits⟩ := formed
      have spelled : text.toList = whole ++ '.' :: part := spelled
      obtain ⟨middle, begun, producedMiddle, heldMiddle⟩ := feed_whole idle nonempty wholeDigits
      have grown : (⟨String.ofList whole, false⟩ : Literal).extend? '.' =
          some ⟨(String.ofList whole).push '.', true⟩ := Literal.extend?_point rfl
      obtain ⟨next, passed, produced, held⟩ := feed_digits
        { middle.pass '.' with literal := some ⟨(String.ofList whole).push '.', true⟩ }
        rfl partDigits
      refine ⟨next, _, ?_, produced.trans producedMiddle, held, ?_⟩
      · change state.feed text.toList = _
        rw [spelled, feed_append, begun]
        change middle.feed ('.' :: part) = _
        rw [feed_cons, step_extend heldMiddle grown]
        exact passed
      · simp [Literal.token, ← spelled]
  | _ => cases literal

/-- A pass over a layout reads its tokens, and holds no literal back where one may come next. -/
theorem feed_layout (source : Source) {layout : Layout} (valid : layout.Valid) :
    ∃ state, (start source).feed layout.chars = .ok state ∧ state.tokens = layout.tokens ∧
      (layout.Ready → state.literal = none) := by
  apply Layout.Valid.build ?empty ?skip ?add valid
  case empty => exact ⟨start source, rfl, rfl, fun _ => rfl⟩
  case skip =>
      rintro layout c ⟨state, passed, same, _⟩ blank
      refine ⟨state.close.pass c, ?_, ?_, fun _ => close_literal state⟩
      · rw [Layout.chars_skip, feed_concat passed, step_blank blank]
      · rw [tokens_pass, tokens_close, same, Layout.tokens_skip]
  case add =>
      rintro layout token ⟨state, passed, same, idle⟩ formed ready
      cases literal : token.kind.isLiteral with
      | false =>
          obtain ⟨c, mark, spelled⟩ := Token.exists_symbol literal
          refine ⟨(state.close.produceMark token.kind).pass c, ?_, ?_, fun _ => close_literal state⟩
          · rw [Layout.chars_add, spelled, feed_concat passed, step_mark mark]
          · rw [tokens_pass, tokens_close_produceMark, same, Layout.tokens_add,
              ← Token.eq_mark_of_wellFormed formed literal]
      | true =>
          obtain ⟨next, held, continued, produced, holds, isToken⟩ :=
            feed_literal (idle (ready literal)) formed literal
          refine ⟨next, ?_, ?_, ?_⟩
          · rw [Layout.chars_add, Token.lexeme_literal literal, feed_append, passed]
            exact continued
          · rw [tokens_of_held holds, produced, isToken, Layout.tokens_add, ← same,
              tokens_of_idle (idle (ready literal))]
          · intro nowReady
            exact absurd rfl (nowReady ⟨layout.trail, token⟩ (by simp [Layout.add]) literal)

end State

/-- A scan loses nothing, doubles nothing and keeps the order: its tokens lie over its text with
only blanks between them, and none of them touches another where both are literals. -/
theorem tokens_laid_out {name text : String} {read : List Token}
    (scanned : tokens ⟨name, text⟩ = .ok read) :
    (∃ layout : Layout, layout.Valid ∧ layout.tokens = read ∧ layout.text = text) ∧
      read.flatMap Token.lexeme = text.toList.filter (fun c => !isBlank c) := by
  obtain ⟨state, passed, rfl⟩ := feed_ok_of_tokens scanned
  obtain ⟨before, settled⟩ := State.feed_settled passed
  obtain ⟨layout, valid, same, covers⟩ := settled.close
  refine ⟨⟨layout, valid, same, ?_⟩, ?_⟩
  · rw [Layout.text, covers, String.ofList_toList]
  · rw [← same, valid.flatMap_lexeme, covers]

theorem tokens_laid_out_trailing_point :
    tokens ⟨"sum", "3. 12+\n4"⟩ = .ok [⟨.float, "3."⟩, ⟨.int, "12"⟩, .mark .plus, ⟨.int, "4"⟩] ∧
    (∃ layout : Layout, layout.Valid ∧
      layout.tokens = [⟨.float, "3."⟩, ⟨.int, "12"⟩, .mark .plus, ⟨.int, "4"⟩] ∧
      layout.text = "3. 12+\n4") ∧
    [⟨.float, "3."⟩, ⟨.int, "12"⟩, .mark .plus, ⟨.int, "4"⟩].flatMap Token.lexeme =
      "3. 12+\n4".toList.filter (fun c => !isBlank c) := by
  have scanned : tokens ⟨"sum", "3. 12+\n4"⟩ =
      .ok [⟨.float, "3."⟩, ⟨.int, "12"⟩, .mark .plus, ⟨.int, "4"⟩] := by decide
  exact ⟨scanned, tokens_laid_out scanned⟩

/-- A scan undoes the laying out of tokens, whatever blanks are chosen. -/
theorem tokens_of_layout (name : String) {layout : Layout} (valid : layout.Valid) :
    tokens ⟨name, layout.text⟩ = .ok layout.tokens := by
  obtain ⟨state, passed, same, _⟩ := State.feed_layout ⟨name, layout.text⟩ valid
  rw [← same]
  apply tokens_of_feed_ok
  rw [Layout.text, String.toList_ofList]
  exact passed

theorem tokens_of_layout_trailing_point :
    (⟨[⟨[], ⟨.float, "3."⟩⟩, ⟨[' '], ⟨.int, "12"⟩⟩, ⟨[], .mark .plus⟩], ['\n']⟩ : Layout).Valid ∧
    tokens ⟨"sum",
      (⟨[⟨[], ⟨.float, "3."⟩⟩, ⟨[' '], ⟨.int, "12"⟩⟩, ⟨[], .mark .plus⟩], ['\n']⟩ : Layout).text⟩ =
      .ok [⟨.float, "3."⟩, ⟨.int, "12"⟩, .mark .plus] := by
  have valid : (⟨[⟨[], ⟨.float, "3."⟩⟩, ⟨[' '], ⟨.int, "12"⟩⟩, ⟨[], .mark .plus⟩], ['\n']⟩ :
      Layout).Valid := by
    refine ⟨?_, by simp [Token.isBlank], by simp [Token.isBlank], ?_⟩
    · simp only [List.forall_mem_cons, List.not_mem_nil, false_implies, implies_true, and_true]
      refine ⟨⟨['3'], [], rfl, by simp, ?_, by simp⟩, ⟨by simp, ?_⟩, rfl⟩
      · simp [Token.isDigit, Char.isDigit]
      · simp [Token.isDigit, Char.isDigit]
    · simp [Spaced.Apart, Token.mark, Token.Kind.isLiteral]
  exact ⟨valid, tokens_of_layout "sum" valid⟩

end Scan
end ArithLex
