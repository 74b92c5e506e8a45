import ArithLex.Proofs.Cursor
import ArithLex.Proofs.Scan.Step
import Mathlib.Order.Bounds.Basic

set_option autoImplicit false

/-! Which texts a scan accepts, told by looking at each index alone, and where it breaks off
otherwise. The pass keeps a literal and a flag; the law looks only at the characters before a
point. The two meet in the literal that a text ends in. -/
namespace ArithLex.Scan

open Token (isBlank isDigit isNumeral)

/-- The character may stand behind the text `before`: blanks, digits and marks anywhere, a point
behind a run of digits that no other point precedes. -/
def Admits (before : List Char) (c : Char) : Prop :=
  isBlank c = true ∨ isDigit c = true ∨ c ∈ ['+', '-', '*', '/', '(', ')'] ∨
    (c = '.' ∧ before.rtakeWhile isDigit ≠ [] ∧
      (before.rdropWhile isDigit).getLast? ≠ some '.')

instance (before : List Char) (c : Char) : Decidable (Admits before c) :=
  inferInstanceAs (Decidable (_ ∨ _ ∨ _ ∨ (_ ∧ _ ∧ _)))

/-- The index is inside the text, and its character may stand there. -/
def Admissible (text : List Char) (index : Nat) : Prop :=
  ∃ c, text[index]? = some c ∧ Admits (text.take index) c

instance (text : List Char) (index : Nat) : Decidable (Admissible text index) :=
  match found : text[index]? with
  | none => isFalse (by simp [Admissible, found])
  | some c => decidable_of_iff (Admits (text.take index) c) (by simp [Admissible, found])

/-- The literal that a text ends in: its last characters that literals are made of. -/
def Literal.trailing (consumed : List Char) : Option Literal :=
  if consumed.rtakeWhile isNumeral = [] then none
  else some ⟨String.ofList (consumed.rtakeWhile isNumeral),
    (consumed.rtakeWhile isNumeral).contains '.'⟩

namespace Literal

theorem trailing_eq_none_iff {consumed : List Char} :
    trailing consumed = none ↔ consumed.rtakeWhile isNumeral = [] := by
  by_cases short : consumed.rtakeWhile isNumeral = [] <;> simp [trailing, short]

theorem trailing_eq_some_iff {consumed : List Char} {literal : Literal} :
    trailing consumed = some literal ↔ consumed.rtakeWhile isNumeral ≠ [] ∧
      literal = ⟨String.ofList (consumed.rtakeWhile isNumeral),
        (consumed.rtakeWhile isNumeral).contains '.'⟩ := by
  by_cases short : consumed.rtakeWhile isNumeral = [] <;> simp [trailing, short, eq_comm]

theorem trailing_concat_of_not_numeral {c : Char} (foreign : isNumeral c = false)
    (consumed : List Char) : trailing (consumed ++ [c]) = none :=
  trailing_eq_none_iff.mpr (List.rtakeWhile_concat_neg isNumeral consumed c (by simp [foreign]))

theorem trailing_concat_numeral {c : Char} (numeral : isNumeral c = true) (consumed : List Char) :
    trailing (consumed ++ [c]) =
      some ⟨String.ofList (consumed.rtakeWhile isNumeral ++ [c]),
        (consumed.rtakeWhile isNumeral ++ [c]).contains '.'⟩ := by
  have grown := List.rtakeWhile_concat_pos isNumeral consumed c numeral
  rw [trailing_eq_some_iff, grown]
  exact ⟨List.concat_ne_nil c _, rfl⟩

/-- The first digit of a literal makes up all of it. -/
theorem trailing_begin {c : Char} (digit : isDigit c = true) {consumed : List Char}
    (idle : trailing consumed = none) : trailing (consumed ++ [c]) = some (.begin c) := by
  rw [trailing_concat_numeral (Token.isNumeral_of_isDigit digit), trailing_eq_none_iff.mp idle,
    List.nil_append]
  have noPoint : [c].contains '.' = false := by
    simpa using Ne.symm (Token.ne_point_of_isDigit digit)
  rw [noPoint]
  rfl

/-- A literal that goes on is the literal of the longer text. -/
theorem trailing_extend {c : Char} {consumed : List Char} {literal longer : Literal}
    (held : trailing consumed = some literal) (extended : literal.extend? c = some longer) :
    trailing (consumed ++ [c]) = some longer := by
  obtain ⟨_, rfl⟩ := trailing_eq_some_iff.mp held
  rcases extend?_cases extended with ⟨rfl, _, rfl⟩ | ⟨digit, rfl⟩
  · rw [trailing_concat_numeral rfl]
    simp [String.ext_iff]
  · rw [trailing_concat_numeral (Token.isNumeral_of_isDigit digit)]
    simp [Ne.symm (Token.ne_point_of_isDigit digit)]

end Literal

/-- Seen from its end, a text shows a point before its last digits exactly if the literal it ends in
has one. -/
theorem point_mem_trailing_iff (before : List Char) :
    '.' ∈ before.rtakeWhile isNumeral ↔ (before.rdropWhile isDigit).getLast? = some '.' := by
  induction before using List.reverseRecOn with
  | nil => simp
  | append_singleton before c ih =>
      by_cases digit : isDigit c = true
      · rw [List.rtakeWhile_concat_pos _ _ _ (Token.isNumeral_of_isDigit digit),
          List.rdropWhile_concat_pos _ _ _ digit, ← ih, List.mem_append, List.mem_singleton]
        simp only [Ne.symm (Token.ne_point_of_isDigit digit), or_false]
      · rw [List.rdropWhile_concat_neg _ _ _ digit, List.getLast?_concat, Option.some.injEq]
        by_cases point : c = '.'
        · subst point
          simp [List.rtakeWhile_concat_pos isNumeral before '.' rfl]
        · have foreign : ¬ isNumeral c = true := by simp [isNumeral, digit, point]
          simp [List.rtakeWhile_concat_neg _ _ _ foreign, point]

theorem trailing_digits_iff {before : List Char} (pointless : '.' ∉ before.rtakeWhile isNumeral) :
    before.rtakeWhile isDigit ≠ [] ↔ before.rtakeWhile isNumeral ≠ [] := by
  cases before using List.reverseRecOn with
  | nil => simp
  | append_singleton before c =>
      by_cases digit : isDigit c = true
      · simp [List.rtakeWhile_concat_pos, Token.isNumeral_of_isDigit digit, digit]
      · have foreign : ¬ isNumeral c = true := by
          intro numeral
          rw [List.rtakeWhile_concat_pos _ _ _ numeral, List.mem_append, not_or] at pointless
          have point : c = '.' := by simpa [isNumeral, digit] using numeral
          exact pointless.2 (by simp [point])
        simp [List.rtakeWhile_concat_neg, digit, foreign]

/-- A point goes into the literal before it exactly where one may stand. -/
theorem admits_point_iff (before : List Char) :
    Admits before '.' ↔ ∃ literal, Literal.trailing before = some literal ∧
      literal.dotted = false := by
  have only : Admits before '.' ↔ before.rtakeWhile isDigit ≠ [] ∧
      (before.rdropWhile isDigit).getLast? ≠ some '.' := by
    simp [Admits, isBlank, show isDigit '.' = false from rfl]
  rw [only, Ne, Ne, ← point_mem_trailing_iff]
  constructor
  · rintro ⟨digits, pointless⟩
    have long := (trailing_digits_iff pointless).mp digits
    exact ⟨_, Literal.trailing_eq_some_iff.mpr ⟨long, rfl⟩, by simpa using pointless⟩
  · rintro ⟨literal, held, undotted⟩
    obtain ⟨long, rfl⟩ := Literal.trailing_eq_some_iff.mp held
    have pointless : '.' ∉ before.rtakeWhile isNumeral := by simpa using undotted
    exact ⟨(trailing_digits_iff pointless).mpr long, pointless⟩

namespace State

/-- The pass stands behind `consumed`, with everything before it accepted. -/
structure Reached (source : Source) (consumed : List Char) (state : State) : Prop where
  origin : state.source = source
  place : state.cursor = .past consumed
  held : state.literal = Literal.trailing consumed

theorem Reached.start (source : Source) : (start source).Reached source [] := ⟨rfl, rfl, rfl⟩

theorem Reached.step {source : Source} {consumed : List Char} {state next : State} {c : Char}
    (reached : state.Reached source consumed) (stepped : state.step c = .ok next) :
    next.Reached source (consumed ++ [c]) := by
  have moved : state.cursor.advance (some c) = .past (consumed ++ [c]) := by
    rw [reached.place, Cursor.past_concat]
  rcases step_cases stepped with
    ⟨blank, rfl⟩ | ⟨kind, mark, rfl⟩ | ⟨digit, idle, rfl⟩ | ⟨literal, longer, held, extended, rfl⟩
  · refine ⟨?_, ?_, ?_⟩
    · exact (close_source state).trans reached.origin
    · simpa only [pass, close_cursor] using moved
    · rw [Literal.trailing_concat_of_not_numeral (Token.isNumeral_of_isBlank blank)]
      exact close_literal state
  · refine ⟨?_, ?_, ?_⟩
    · exact (close_source state).trans reached.origin
    · simpa only [pass, produceMark, close_cursor] using moved
    · rw [Literal.trailing_concat_of_not_numeral (Token.isNumeral_of_ofSymbol? mark)]
      exact close_literal state
  · exact ⟨reached.origin, moved, (Literal.trailing_begin digit (reached.held ▸ idle)).symm⟩
  · exact ⟨reached.origin, moved, (Literal.trailing_extend (reached.held ▸ held) extended).symm⟩

theorem feed_reached {source : Source} {consumed : List Char} {state : State}
    (passed : (State.start source).feed consumed = .ok state) : state.Reached source consumed := by
  apply feed_invariant (Reached.start source) _ passed
  intro consumed state c next reached stepped
  exact reached.step stepped

/-- A step succeeds exactly on the characters that may stand where the pass does. -/
theorem Reached.step_ok_iff {source : Source} {consumed : List Char} {state : State}
    (reached : state.Reached source consumed) (c : Char) :
    (∃ next, state.step c = .ok next) ↔ Admits consumed c := by
  constructor
  · rintro ⟨next, stepped⟩
    rcases step_cases stepped with
      ⟨blank, _⟩ | ⟨kind, mark, _⟩ | ⟨digit, _, _⟩ | ⟨literal, longer, held, extended, _⟩
    · exact Or.inl blank
    · exact Or.inr (Or.inr (Or.inl ((Token.Kind.ofSymbol?_isSome c).mp (by simp [mark]))))
    · exact Or.inr (Or.inl digit)
    · rcases Literal.extend?_cases extended with ⟨rfl, undotted, _⟩ | ⟨digit, _⟩
      · exact (admits_point_iff consumed).mpr ⟨literal, reached.held ▸ held, undotted⟩
      · exact Or.inr (Or.inl digit)
  · intro admitted
    -- Only the fate of a point depends on the literal held back.
    by_cases point : c = '.'
    · subst point
      obtain ⟨literal, trailing, undotted⟩ := (admits_point_iff consumed).mp admitted
      exact ⟨_, step_extend (reached.held.trans trailing) (Literal.extend?_point undotted)⟩
    · rcases admitted with blank | digit | mark | ⟨isPoint, _⟩
      · exact ⟨_, step_blank blank state⟩
      · cases held : state.literal with
        | none => exact ⟨_, step_begin digit held⟩
        | some literal => exact ⟨_, step_extend held (Literal.extend?_digit digit literal)⟩
      · obtain ⟨kind, named⟩ := Option.isSome_iff_exists.mp
          ((Token.Kind.ofSymbol?_isSome c).mpr mark)
        exact ⟨_, step_mark named state⟩
      · exact absurd isPoint point

/-- The fault of a pass is at the character behind everything consumed. -/
theorem Reached.step_error {source : Source} {consumed : List Char} {state : State} {c : Char}
    {halt : Halt} (reached : state.Reached source consumed) (failed : state.step c = .error halt) :
    halt.fault = ⟨source, .past consumed, .past (consumed ++ [c]), c⟩ := by
  rw [State.step_error failed, Cursor.past_concat]
  simp only [State.halt, close_source, close_cursor, reached.origin, reached.place]

theorem feed_admissible {source : Source} {consumed : List Char} {state : State}
    (passed : (State.start source).feed consumed = .ok state) (index : Nat)
    (inside : index < consumed.length) : Admissible consumed index := by
  refine ⟨consumed[index], List.getElem?_eq_getElem inside, ?_⟩
  have cut : consumed = consumed.take index ++ (consumed[index] :: consumed.drop (index + 1)) := by
    rw [← List.drop_eq_getElem_cons inside, List.take_append_drop]
  rw [cut] at passed
  obtain ⟨middle, begun, continued⟩ := feed_ok_split passed
  rw [feed_cons] at continued
  cases stepped : middle.step consumed[index] with
  | ok next => exact ((feed_reached begun).step_ok_iff _).mp ⟨next, stepped⟩
  | error halt =>
      rw [stepped] at continued
      cases continued

end State

theorem Admissible.append {text : List Char} {index : Nat} (admissible : Admissible text index)
    (later : List Char) : Admissible (text ++ later) index := by
  obtain ⟨c, found, admitted⟩ := admissible
  have inside : index < text.length := (List.getElem?_eq_some_iff.mp found).1
  refine ⟨c, ?_, ?_⟩
  · rw [List.getElem?_append_left inside, found]
  · rwa [List.take_append_of_le_length (Nat.le_of_lt inside)]

/-- What a fault of a scan is: the first character that may not stand where it does. -/
theorem tokens_error_first {name text : String} {fault : Fault}
    (failed : tokens ⟨name, text⟩ = .error fault) :
    ∃ consumed c rest, text.toList = consumed ++ c :: rest ∧ ¬ Admits consumed c ∧
      (∀ index < consumed.length, Admissible text.toList index) ∧
      fault = ⟨⟨name, text⟩, .past consumed, .past (consumed ++ [c]), c⟩ := by
  obtain ⟨halt, passed, rfl⟩ := feed_error_of_tokens failed
  obtain ⟨consumed, c, rest, reached, cut, begun, broken⟩ := State.feed_error_split passed
  have cut : text.toList = consumed ++ c :: rest := cut
  have standing := State.feed_reached begun
  refine ⟨consumed, c, rest, cut, ?_, ?_, standing.step_error broken⟩
  · intro admitted
    obtain ⟨next, stepped⟩ := (standing.step_ok_iff c).mpr admitted
    rw [broken] at stepped
    cases stepped
  · intro index inside
    rw [cut]
    exact (State.feed_admissible begun index inside).append (c :: rest)

theorem not_admissible_cut {consumed rest : List Char} {c : Char} (refused : ¬ Admits consumed c) :
    ¬ Admissible (consumed ++ c :: rest) consumed.length := by
  rintro ⟨found, same, admitted⟩
  rw [List.getElem?_append_right (Nat.le_refl _), Nat.sub_self, List.getElem?_cons_zero,
    Option.some.injEq] at same
  rw [List.take_left, ← same] at admitted
  exact refused admitted

/-- A scan succeeds exactly if every index of its text is admissible, and else it reports the least
index that is not. -/
theorem tokens_ok_iff_admissible (name text : String) :
    ((∃ read, tokens ⟨name, text⟩ = .ok read) ↔
      ∀ index < text.length, Admissible text.toList index) ∧
    ((¬ ∀ index < text.length, Admissible text.toList index) →
      ∃ fault index c, tokens ⟨name, text⟩ = .error fault ∧
        IsLeast {place | place < text.length ∧ ¬ Admissible text.toList place} index ∧
        text.toList[index]? = some c ∧
        fault.start.index = index ∧
        fault.stop.index = fault.start.index + 1 ∧
        fault.detail = "'" ++ String.singleton c ++ "'") := by
  cases scanned : tokens ⟨name, text⟩ with
  | ok read =>
      obtain ⟨reached, passed, _⟩ := feed_ok_of_tokens scanned
      have all : ∀ index < text.length, Admissible text.toList index := by
        intro index inside
        exact State.feed_admissible passed index inside
      exact ⟨⟨fun _ => all, fun _ => ⟨read, rfl⟩⟩, fun refused => absurd all refused⟩
  | error fault =>
      obtain ⟨consumed, c, rest, cut, refused, before, rfl⟩ := tokens_error_first scanned
      have bad : ¬ Admissible text.toList consumed.length := by
        rw [cut]
        exact not_admissible_cut refused
      have inside : consumed.length < text.length := by
        rw [← String.length_toList, cut, List.length_append, List.length_cons]
        omega
      refine ⟨⟨?_, ?_⟩, fun _ => ⟨_, consumed.length, c, rfl, ⟨⟨inside, bad⟩, ?_⟩, ?_, ?_, ?_, rfl⟩⟩
      · rintro ⟨read, impossible⟩
        cases impossible
      · intro all
        exact absurd (all consumed.length inside) bad
      · rintro place ⟨_, inadmissible⟩
        by_contra earlier
        exact inadmissible (before place (by omega))
      · rw [cut, List.getElem?_append_right (Nat.le_refl _), Nat.sub_self, List.getElem?_cons_zero]
      · exact Cursor.past_index consumed
      · rw [Cursor.past_index, Cursor.past_index, List.length_append, List.length_singleton]
        rfl

example : (List.range 4).filter (fun index => ¬ Admissible "1..2".toList index) = [2] := by
  decide

end ArithLex.Scan
