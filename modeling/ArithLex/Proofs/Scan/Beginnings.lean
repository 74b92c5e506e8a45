import ArithLex.Proofs.Scan.Layout
import ArithLex.Proofs.Scan.Resume

set_option autoImplicit false

/-! Beginnings of a text. A fault is decided by what stands before it. A text that scans does so up
to any place, and the cut shows in the last token at most: a literal may be cut short. -/
namespace ArithLex

namespace Token

theorem Kind.isLiteral_iff (kind : Kind) : kind.isLiteral = true ↔ kind = .int ∨ kind = .float := by
  cases kind <;> simp [isLiteral]

/-- The token is the other one, or both are literals and its text is a beginning of the other's. What
is left of a literal has a point only if the whole does, so no float is left of an integer. -/
def Shortens (short long : Token) : Prop :=
  short = long ∨
    (short.kind.isLiteral = true ∧ long.kind.isLiteral = true ∧
      short.text.toList <+: long.text.toList ∧ ¬ (short.kind = .float ∧ long.kind = .int))

theorem Shortens.refl (token : Token) : token.Shortens token := Or.inl rfl

theorem Shortens.trans {short middle long : Token} (one : short.Shortens middle)
    (two : middle.Shortens long) : short.Shortens long := by
  rcases one with rfl | ⟨shortLiteral, middleLiteral, first, kept⟩
  · exact two
  · rcases two with rfl | ⟨_, longLiteral, second, keptToo⟩
    · exact Or.inr ⟨shortLiteral, middleLiteral, first, kept⟩
    · refine Or.inr ⟨shortLiteral, longLiteral, first.trans second, ?_⟩
      rintro ⟨float, int⟩
      rcases (Kind.isLiteral_iff middle.kind).mp middleLiteral with middleInt | middleFloat
      · exact kept ⟨float, middleInt⟩
      · exact keptToo ⟨middleFloat, int⟩

end Token

/-- The tokens begin as the others do, up to the last one, which may be cut short. -/
structure Truncates (short long : List Token) : Prop where
  length : short.length ≤ long.length
  front : ∀ index, index + 1 < short.length → short[index]? = long[index]?
  last : ∀ token, short.getLast? = some token →
    ∃ counterpart, long[short.length - 1]? = some counterpart ∧ token.Shortens counterpart

namespace Truncates

theorem append (read more : List Token) : Truncates read (read ++ more) := by
  refine ⟨by simp, ?_, ?_⟩
  · intro index inside
    rw [List.getElem?_append_left (by omega)]
  · intro token last
    have nonempty : 0 < read.length := List.length_pos_of_mem (List.mem_of_getLast? last)
    refine ⟨token, ?_, .refl token⟩
    rw [List.getElem?_append_left (by omega), ← List.getLast?_eq_getElem?, last]

theorem refl (read : List Token) : Truncates read read := by
  simpa only [List.append_nil] using append read []

theorem concat {short long : Token} (shortens : short.Shortens long) (read : List Token) :
    Truncates (read ++ [short]) (read ++ [long]) := by
  refine ⟨by simp, ?_, ?_⟩
  · intro index inside
    rw [List.length_append, List.length_singleton] at inside
    rw [List.getElem?_append_left (by omega), List.getElem?_append_left (by omega)]
  · intro token last
    rw [List.getLast?_concat, Option.some.injEq] at last
    subst last
    exact ⟨long, by simp, shortens⟩

theorem trans {short middle long : List Token} (one : Truncates short middle)
    (two : Truncates middle long) : Truncates short long := by
  have shorter := one.length
  refine ⟨Nat.le_trans one.length two.length, ?_, ?_⟩
  · intro index inside
    rw [one.front index inside, two.front index (by omega)]
  · intro token last
    have nonempty : 0 < short.length := List.length_pos_of_mem (List.mem_of_getLast? last)
    obtain ⟨counterpart, found, shortens⟩ := one.last token last
    by_cases same : short.length = middle.length
    -- The cut token is the last one of both, and may be cut twice.
    · have lastOfMiddle : middle.getLast? = some counterpart := by
        rw [List.getLast?_eq_getElem?, ← same, found]
      obtain ⟨whole, foundWhole, shortensToo⟩ := two.last counterpart lastOfMiddle
      exact ⟨whole, by rw [same, foundWhole], shortens.trans shortensToo⟩
    · have inFront : short.length - 1 + 1 < middle.length := by omega
      exact ⟨counterpart, by rw [← two.front _ inFront, found], shortens⟩

end Truncates

namespace Scan

/-- A literal that goes on is cut short in what it was before. -/
theorem Literal.shortens_extend? {literal longer : Literal} {c : Char}
    (extended : literal.extend? c = some longer) : literal.token.Shortens longer.token := by
  refine Or.inr ⟨literal.token_isLiteral, longer.token_isLiteral, ?_, ?_⟩
  · show literal.text.toList <+: longer.text.toList
    rw [extend?_text extended, String.toList_push]
    exact List.prefix_append literal.text.toList [c]
  · rintro ⟨float, int⟩
    have dotted : literal.dotted = true := by
      by_contra undotted
      simp [token, undotted] at float
    rcases extend?_cases extended with ⟨_, undotted, _⟩ | ⟨_, rfl⟩
    · rw [dotted] at undotted
      cases undotted
    · simp [token, dotted] at int

namespace State

/-- A step adds a token, lengthens the literal that is read last, or leaves the tokens alone. -/
theorem truncates_step {state next : State} {c : Char} (stepped : state.step c = .ok next) :
    Truncates state.tokens next.tokens := by
  rcases step_cases stepped with
    ⟨_, rfl⟩ | ⟨kind, _, rfl⟩ | ⟨_, idle, rfl⟩ | ⟨literal, longer, held, extended, rfl⟩
  · rw [tokens_pass, tokens_close]
    exact .refl state.tokens
  · rw [tokens_pass, tokens_close_produceMark]
    exact .append state.tokens [.mark kind]
  · rw [tokens_of_idle idle, tokens_of_held rfl]
    exact .append _ [(Literal.begin c).token]
  · rw [tokens_of_held held, tokens_of_held rfl]
    exact .concat (Literal.shortens_extend? extended) _

theorem truncates_feed {state reached : State} {chars : List Char}
    (passed : state.feed chars = .ok reached) : Truncates state.tokens reached.tokens := by
  induction chars generalizing state with
  | nil =>
      cases passed
      exact .refl _
  | cons c rest ih =>
      rw [feed_cons] at passed
      cases stepped : state.step c with
      | ok next =>
          rw [stepped] at passed
          exact (truncates_step stepped).trans (ih passed)
      | error halt =>
          rw [stepped] at passed
          cases passed

end State

/-- What a scan makes of the beginning of a text, against what it makes of the whole. A fault of the
beginning is the fault of the whole, in the same place. If the whole scans, the beginning scans to
the same tokens, as many as it has, with the last one perhaps cut short. -/
theorem tokens_of_beginning (name first second : String) :
    (∀ fault, tokens ⟨name, first⟩ = .error fault →
      ∃ whole, tokens ⟨name, first ++ second⟩ = .error whole ∧
        whole.summary = fault.summary ∧ whole.detail = fault.detail ∧
        whole.start = fault.start ∧ whole.stop = fault.stop) ∧
    ∀ read, tokens ⟨name, first ++ second⟩ = .ok read →
      ∃ begun, tokens ⟨name, first⟩ = .ok begun ∧ Truncates begun read := by
  constructor
  · intro fault failed
    exact ⟨_, tokens_error_append failed second, rfl, rfl, rfl, rfl⟩
  · intro read scanned
    obtain ⟨reached, passed, rfl⟩ := feed_ok_of_tokens scanned
    rw [String.toList_append] at passed
    obtain ⟨middle, begun, continued⟩ := State.feed_ok_split passed
    have alone : tokens ⟨name, first⟩ = .ok middle.tokens := tokens_of_feed begun
    exact ⟨middle.tokens, alone, State.truncates_feed continued⟩

example : tokens ⟨"sum", "2+1."⟩ = .ok [⟨.int, "2"⟩, .mark .plus, ⟨.float, "1."⟩] ∧
    tokens ⟨"sum", "2+1"⟩ = .ok [⟨.int, "2"⟩, .mark .plus, ⟨.int, "1"⟩] := by decide

end Scan
end ArithLex
