import ArithLex.Proofs.Scan.Admissible
import ArithLex.Proofs.Scan.Resume

set_option autoImplicit false

/-! The log of a scan, against the scan. Every token read leaves one event, in order, with an index
that points at the token in the source; what stands around these events tells how the scan ended. -/
namespace ArithLex

open Log (Event)

namespace Scan

open Token (isNumeral)

/-- The text has the token where the index noted for it says: a mark at the index, and a literal
right before it. -/
structure Production.Points (production : Production) (text : List Char) (place : Nat) : Prop where
  index : production.index = place
  inside : place ≤ text.length
  mark : ∀ c, production.token.kind.symbol? = some c → text[place]? = some c
  literal : production.token.kind.isLiteral = true →
    production.token.text.toList <:+ text.take place

namespace Production

/-- Text behind the place a production points to does not move that place. -/
theorem Points.append {production : Production} {text : List Char} {place : Nat}
    (points : production.Points text place) (more : List Char) :
    production.Points (text ++ more) place := by
  have inside := points.inside
  refine ⟨points.index, ?_, ?_, ?_⟩
  · rw [List.length_append]
    omega
  · intro c symbol
    have found := points.mark c symbol
    have before : place < text.length := (List.getElem?_eq_some_iff.mp found).1
    rw [List.getElem?_append_left before, found]
  · intro literal
    rw [List.take_append_of_le_length inside]
    exact points.literal literal

/-- A literal produced at the end of a text that it ends. -/
theorem points_literal {literal : Literal} {text : List Char}
    (ends : literal.text.toList <:+ text) {index : Int} (atEnd : index = text.length) :
    (⟨literal.token, index⟩ : Production).Points text text.length := by
  refine ⟨atEnd, Nat.le_refl _, ?_, ?_⟩
  · intro c symbol
    exfalso
    have none : literal.token.kind.symbol? = none := by
      unfold Literal.token
      split <;> rfl
    change literal.token.kind.symbol? = some c at symbol
    rw [none] at symbol
    cases symbol
  · intro _
    rw [List.take_length]
    exact ends

/-- A mark produced on its own character. -/
theorem points_mark {c : Char} {kind : Token.Kind} (named : Token.Kind.ofSymbol? c = some kind)
    {text : List Char} {index : Int} (atEnd : index = text.length) :
    (⟨.mark kind, index⟩ : Production).Points (text ++ [c]) text.length := by
  refine ⟨atEnd, by simp, ?_, ?_⟩
  · intro other symbol
    change kind.symbol? = some other at symbol
    rw [Token.Kind.symbol?_of_ofSymbol? named] at symbol
    simpa using symbol
  · intro literal
    change kind.isLiteral = true at literal
    rw [Token.Kind.isLiteral_of_ofSymbol? named] at literal
    cases literal

end Production

/-- The productions stand in the order of their indices, and each points at its token in the text. -/
structure Traced (text : List Char) (produced : List Production) : Prop where
  ordered : produced.Pairwise (fun first second => first.index ≤ second.index)
  points : ∀ production ∈ produced, ∃ place, production.Points text place

namespace Traced

theorem nil (text : List Char) : Traced text [] := by
  refine ⟨List.Pairwise.nil, ?_⟩
  intro production member
  cases member

theorem append {text : List Char} {produced : List Production} (traced : Traced text produced)
    (more : List Char) : Traced (text ++ more) produced := by
  refine ⟨traced.ordered, ?_⟩
  intro production member
  obtain ⟨place, points⟩ := traced.points production member
  exact ⟨place, points.append more⟩

/-- Whatever points behind all of the text read so far may be produced next. -/
theorem concat {text more : List Char} {produced : List Production}
    (traced : Traced text produced) {production : Production}
    (points : production.Points (text ++ more) text.length) :
    Traced (text ++ more) (produced ++ [production]) := by
  constructor
  · apply List.pairwise_append.mpr
    refine ⟨traced.ordered, List.pairwise_singleton _ _, ?_⟩
    intro earlier member later isLater
    rw [List.mem_singleton] at isLater
    obtain ⟨place, atPlace⟩ := traced.points earlier member
    have inside := atPlace.inside
    rw [isLater, atPlace.index, points.index]
    omega
  · intro other member
    rcases List.mem_append.mp member with old | new
    · exact (traced.append more).points other old
    · rw [List.mem_singleton.mp new]
      exact ⟨text.length, points⟩

end Traced

/-- The text of a literal held back is the end of the text consumed. -/
theorem Literal.suffix_of_trailing {consumed : List Char} {literal : Literal}
    (held : trailing consumed = some literal) : literal.text.toList <:+ consumed := by
  obtain ⟨_, rfl⟩ := trailing_eq_some_iff.mp held
  show (String.ofList (consumed.rtakeWhile isNumeral)).toList <:+ consumed
  rw [String.toList_ofList]
  exact List.rtakeWhile_suffix isNumeral consumed

namespace State

theorem traced_close {source : Source} {consumed : List Char} {state : State}
    (reached : state.Reached source consumed) (traced : Traced consumed state.produced.toList) :
    Traced consumed state.close.produced.toList := by
  cases held : state.literal with
  | none =>
      rw [close_of_idle held]
      exact traced
  | some literal =>
      have ends : literal.text.toList <:+ consumed :=
        Literal.suffix_of_trailing (reached.held.symm.trans held)
      have index : state.cursor.index = consumed.length := by
        rw [reached.place, Cursor.past_index]
      have points := (Production.points_literal ends index).append []
      rw [close_of_held held, Array.toList_push]
      simpa only [List.append_nil] using traced.concat points

theorem traced_step {source : Source} {consumed : List Char} {state next : State} {c : Char}
    (reached : state.Reached source consumed) (traced : Traced consumed state.produced.toList)
    (stepped : state.step c = .ok next) : Traced (consumed ++ [c]) next.produced.toList := by
  have closed := traced_close reached traced
  rcases step_cases stepped with
    ⟨_, rfl⟩ | ⟨kind, named, rfl⟩ | ⟨_, _, rfl⟩ | ⟨_, _, _, _, rfl⟩
  · exact closed.append [c]
  · have index : state.close.cursor.index = consumed.length := by
      rw [close_cursor, reached.place, Cursor.past_index]
    show Traced (consumed ++ [c]) (state.close.produced.push _).toList
    rw [Array.toList_push]
    exact closed.concat (Production.points_mark named index)
  · exact traced.append [c]
  · exact traced.append [c]

theorem feed_traced {source : Source} {consumed : List Char} {state : State}
    (passed : (start source).feed consumed = .ok state) :
    Traced consumed state.close.produced.toList := by
  have both : state.Reached source consumed ∧ Traced consumed state.produced.toList := by
    apply feed_invariant ⟨Reached.start source, Traced.nil []⟩ _ passed
    rintro consumed state c next ⟨reached, traced⟩ stepped
    exact ⟨reached.step stepped, traced_step reached traced stepped⟩
  exact traced_close both.1 both.2

end State

/-- What a pass produced, and the fault that broke it off, are told by scans: of the whole source if
there is no fault, and of the text before the fault if there is one. -/
inductive Pass.Accounts (source : Source) (pass : Pass) : Prop where
  | completed (scanned : tokens source = .ok (pass.produced.map (·.token)))
      (faultless : pass.fault = none)
  | broken (fault : Fault) (index : Nat) (failed : tokens source = .error fault)
      (faulty : pass.fault = some fault) (place : fault.start.index = index)
      (before : tokens ⟨source.name, String.ofList (source.text.toList.take index)⟩ =
        .ok (pass.produced.map (·.token)))

theorem run_accounts (source : Source) : (run source).Accounts source := by
  cases passed : (State.start source).feed source.text.toList with
  | ok reached =>
      rw [run, passed]
      exact .completed (tokens_of_feed_ok passed) rfl
  | error halt =>
      obtain ⟨consumed, c, rest, reached, cut, begun, broken⟩ := State.feed_error_split passed
      have taken : source.text.toList.take consumed.length = consumed := by
        rw [cut, List.take_left]
      have alone : (State.start source).feed (String.ofList consumed).toList = .ok reached := by
        rw [String.toList_ofList]
        exact begun
      have before : tokens ⟨source.name, String.ofList consumed⟩ = .ok reached.tokens :=
        tokens_of_feed alone
      rw [run, passed]
      apply Pass.Accounts.broken halt.fault consumed.length (tokens_of_feed_error passed) rfl
      · rw [(State.feed_reached begun).step_error broken]
        exact Cursor.past_index consumed
      · rw [taken, before, State.step_error broken]
        rfl

theorem run_traced (source : Source) : Traced source.text.toList (run source).produced := by
  cases passed : (State.start source).feed source.text.toList with
  | ok reached =>
      rw [run, passed]
      exact State.feed_traced passed
  | error halt =>
      obtain ⟨consumed, c, rest, reached, cut, begun, broken⟩ := State.feed_error_split passed
      rw [run, passed, State.step_error broken, cut]
      exact (State.feed_traced begun).append (c :: rest)

/-- The column of a fault counts from zero in the log, and from one everywhere else. -/
theorem column_of_fault {source : Source} {fault : Fault} (failed : tokens source = .error fault) :
    fault.start.column = fault.column - 1 := by
  obtain ⟨consumed, c, rest, _, _, _, rfl⟩ := tokens_error_first failed
  simp only [Fault.column, Cursor.columnNumber, Cursor.indent, Cursor.past_eq]
  omega

end Scan

/-- The log of a scan mirrors the scan. It opens with the source, has one event for every token read,
in order and with an index that points at the token, and ends with the count of the tokens or with
the character that broke the scan off. -/
theorem tokenize_events (source : Source) (style : Style) :
    ∃ (produced : List Scan.Production) (ending : List Event),
      (tokenize source style).events =
        [⟨.info, .api, "Starting scan", [("file", .name source.name)]⟩,
         ⟨.debug, .api, "Scan configuration",
           [("config", .shown style.describe), ("bytes", .number source.text.utf8ByteSize)]⟩,
         ⟨.debug, .lexer, "Starting scan",
           [("file", .shown source.name), ("chars", .number source.text.length)]⟩]
        ++ produced.map (fun production =>
          ⟨.trace, .lexer, "Produced token",
            [("token", .shown production.token.render), ("index", .number production.index)]⟩)
        ++ ending ∧
      produced.Pairwise (fun first second => first.index ≤ second.index) ∧
      (∀ production ∈ produced, ∃ place, production.Points source.text.toList place) ∧
      ((∃ listing, (tokenize source style).result = .ok listing ∧
          listing.tokens = produced.map (·.token) ∧
          ending =
            [⟨.debug, .lexer, "Scan completed", [("count", .number produced.length)]⟩,
             ⟨.info, .api, "Scan completed", [("count", .number produced.length)]⟩]) ∨
        ∃ (fault : Fault) (index : Nat), (tokenize source style).result = .error (.scan fault) ∧
          fault.start.index = index ∧
          Scan.tokens ⟨source.name, String.ofList (source.text.toList.take index)⟩ =
            .ok (produced.map (·.token)) ∧
          ending =
            [⟨.debug, .lexer, "Illegal character",
              [("ch", .shown (Text.quotedChar fault.char)), ("line", .number fault.line),
               ("column", .number (fault.column - 1))]⟩]) := by
  have traced := Scan.run_traced source
  cases Scan.run_accounts source with
  | completed scanned faultless =>
      refine ⟨(Scan.run source).produced, _, ?_, traced.ordered, traced.points,
        Or.inl ⟨_, tokenize_eq_ok_iff.mpr ⟨_, scanned, rfl⟩, rfl, rfl⟩⟩
      simp only [tokenize, faultless, Scan.Pass.events, Scan.Pass.lastEvent, List.length_map,
        List.append_assoc]
      rfl
  | broken fault index failed faulty place before =>
      refine ⟨(Scan.run source).produced, _, ?_, traced.ordered, traced.points,
        Or.inr ⟨fault, index, tokenize_eq_error_iff.mpr ⟨_, failed, rfl⟩, place, before, rfl⟩⟩
      simp only [tokenize, faulty, Scan.Pass.events, Scan.Pass.lastEvent, Scan.faultEvent,
        Scan.column_of_fault failed, List.append_assoc]
      rfl

end ArithLex
