import ArithLex.Proofs.Scan.Admissible
import ArithLex.Proofs.Scan.Resume

set_option autoImplicit false

/-! Two texts in a row. If no literal can run from one into the other, they are scanned as each would
be alone: the tokens in a row, or the fault of the second at its place behind the first. -/
namespace ArithLex.Scan

open Token (isNumeral)

/-- The first text ends and the second begins with a character that literals are made of, so that a
literal may run from one into the other. -/
def Joins (first second : List Char) : Prop :=
  first.getLast?.any isNumeral = true ∧ second.head?.any isNumeral = true

instance (first second : List Char) : Decidable (Joins first second) :=
  inferInstanceAs (Decidable (_ ∧ _))

theorem Literal.getLast?_of_trailing {consumed : List Char} {literal : Literal}
    (held : trailing consumed = some literal) : consumed.getLast?.any isNumeral = true := by
  have unfinished : consumed.rtakeWhile isNumeral ≠ [] := (trailing_eq_some_iff.mp held).1
  cases consumed using List.reverseRecOn with
  | nil => exact absurd rfl unfinished
  | append_singleton consumed c =>
      rw [List.getLast?_concat, Option.any_some]
      by_contra foreign
      exact unfinished (List.rtakeWhile_concat_neg isNumeral consumed c foreign)

/-- A pass holds a literal back only behind a character of literals, so where the texts do not join
the literal is over. -/
theorem State.Reached.severed {source : Source} {first second : List Char} {state : State}
    (reached : state.Reached source first) (apart : ¬ Joins first second)
    (nonempty : second ≠ []) : state.Severed second := by
  cases held : state.literal with
  | none => exact Or.inl held
  | some literal =>
      have trailing : Literal.trailing first = some literal := reached.held ▸ held
      have numeral := Literal.getLast?_of_trailing trailing
      obtain ⟨c, later, rfl⟩ := List.exists_cons_of_ne_nil nonempty
      have foreign : ¬ isNumeral c = true := fun joins => apart ⟨numeral, joins⟩
      exact Or.inr ⟨c, later, rfl, by simpa using foreign⟩

@[simp] theorem tokens_empty (name : String) : tokens ⟨name, ""⟩ = .ok [] := rfl

section Append

variable {name first second : String} {read : List Token}

/-- Behind a text that scans and does not join the second, the pass has done with the first. -/
theorem feed_first (scanned : tokens ⟨name, first⟩ = .ok read)
    (apart : ¬ Joins first.toList second.toList) (nonempty : second.toList ≠ []) :
    ∃ reached, (State.start ⟨name, first ++ second⟩).feed first.toList = .ok reached ∧
      reached.tokens = read ∧ reached.cursor = .past first.toList ∧
      reached.Severed second.toList := by
  obtain ⟨reached, passed, same⟩ := feed_of_tokens scanned ⟨name, first ++ second⟩
  have standing := State.feed_reached passed
  exact ⟨reached, passed, same, standing.place, standing.severed apart nonempty⟩

/-- Scanning is compositional where texts do not join. Two texts that scan give their tokens in a
row. Behind a text that scans, a fault of the second text is the fault of both, with its index, line
and column counted on from the end of the first. -/
theorem tokens_append (scanned : tokens ⟨name, first⟩ = .ok read)
    (apart : ¬ Joins first.toList second.toList) :
    (∀ more, tokens ⟨name, second⟩ = .ok more →
      tokens ⟨name, first ++ second⟩ = .ok (read ++ more)) ∧
    ∀ fault, tokens ⟨name, second⟩ = .error fault →
      ∃ whole, tokens ⟨name, first ++ second⟩ = .error whole ∧
        whole.summary = fault.summary ∧ whole.detail = fault.detail ∧
        Cursor.Behind first.toList fault.start whole.start ∧
        Cursor.Behind first.toList fault.stop whole.stop := by
  by_cases empty : second.toList = []
  · have nothing : second = "" := String.toList_eq_nil_iff.mp empty
    subst nothing
    constructor
    · intro more none
      rw [tokens_empty, Except.ok.injEq] at none
      rw [← none, String.append_empty, List.append_nil]
      exact scanned
    · intro fault impossible
      cases impossible
  · obtain ⟨reached, passed, rfl, place, severed⟩ := feed_first scanned apart empty
    constructor
    · intro more behind
      exact tokens_append_ok passed severed behind
    · intro fault failed
      refine ⟨_, tokens_append_error passed severed failed, rfl, rfl, ?_, ?_⟩
      · rw [State.resumeFault, place]
        exact Cursor.behind_rebase first.toList fault.start
      · rw [State.resumeFault, place]
        exact Cursor.behind_rebase first.toList fault.stop

end Append

theorem tokens_append_trailing_point :
    tokens ⟨"sum", "2\n3."⟩ = .ok [⟨.int, "2"⟩, ⟨.float, "3."⟩] ∧
    ¬ Joins "2\n3.".toList " 4&".toList ∧
    tokens ⟨"sum", " 4&"⟩ = .error ⟨⟨"sum", " 4&"⟩, ⟨2, 0, 2⟩, ⟨3, 0, 3⟩, '&'⟩ ∧
    ∃ whole, tokens ⟨"sum", "2\n3." ++ " 4&"⟩ = .error whole ∧ whole.detail = "'&'" ∧
      whole.start.index = 6 ∧ whole.start.line = 1 ∧ whole.start.column = 4 := by
  have scanned : tokens ⟨"sum", "2\n3."⟩ = .ok [⟨.int, "2"⟩, ⟨.float, "3."⟩] := by decide
  have apart : ¬ Joins "2\n3.".toList " 4&".toList := by decide
  have failed : tokens ⟨"sum", " 4&"⟩ =
      .error ⟨⟨"sum", " 4&"⟩, ⟨2, 0, 2⟩, ⟨3, 0, 3⟩, '&'⟩ := by decide
  obtain ⟨whole, wholeFailed, _, detail, start, _⟩ := (tokens_append scanned apart).2 _ failed
  exact ⟨scanned, apart, failed, whole, wholeFailed, detail, start.index, start.line,
    start.firstColumn rfl⟩

end ArithLex.Scan
