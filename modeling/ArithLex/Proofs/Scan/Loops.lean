import ArithLex.Proofs.Scan.Admissible

set_option autoImplicit false

/-! The scan as two loops: one over tokens, and inside it one over the characters of a literal. Both
look at the character under a cursor that a scanner moves along. Nothing in the loops bounds the
number of their turns; that they end, and that they come to what a pass comes to, is proved from
where the scanner stands in the text. -/
namespace ArithLex

open Log (Event)

namespace Text

/-- The line that a text ends in begins at the place: at its very beginning or behind a line feed, and
no line feed follows. -/
structure LineBegins (text : List Char) (place : Nat) : Prop where
  within : place ≤ text.length
  behind : place = 0 ∨ text[place - 1]? = some '\n'
  unbroken : '\n' ∉ text.drop place

theorem length_lastLine_le (text : List Char) : (lastLine text).length ≤ text.length :=
  (List.rtakeWhile_suffix _ text).length_le

theorem lineBegins_lastLine (text : List Char) :
    LineBegins text (text.length - (lastLine text).length) := by
  induction text using List.reverseRecOn with
  | nil => exact ⟨Nat.le_refl 0, Or.inl rfl, by simp⟩
  | append_singleton text c ih =>
      by_cases ends : c = '\n'
      · subst ends
        rw [lastLine_concat_lineFeed, List.length_nil, Nat.sub_zero]
        refine ⟨Nat.le_refl _, Or.inr ?_, ?_⟩
        · rw [← List.getLast?_eq_getElem?, List.getLast?_concat]
        · rw [List.drop_length]
          exact List.not_mem_nil
      · have short := length_lastLine_le text
        have same : (text ++ [c]).length - (lastLine (text ++ [c])).length =
            text.length - (lastLine text).length := by
          rw [lastLine_concat ends, List.length_append, List.length_append, List.length_singleton]
          omega
        have within := ih.within
        rw [same]
        refine ⟨?_, ?_, ?_⟩
        · rw [List.length_append]
          omega
        · rcases ih.behind with first | feed
          · exact Or.inl first
          · have inside := (List.getElem?_eq_some_iff.mp feed).1
            rw [List.getElem?_append_left inside]
            exact Or.inr feed
        · rw [List.drop_append_of_le_length within, List.mem_append, not_or]
          exact ⟨ih.unbroken, by simpa using Ne.symm ends⟩

end Text

namespace Scan

def Literal.empty : Literal := ⟨"", false⟩

/-- The literal goes on with all of the characters, and is longer then. -/
inductive Literal.Takes : Literal → List Char → Literal → Prop where
  | nil (literal : Literal) : Takes literal [] literal
  | cons {literal next longer : Literal} {c : Char} {rest : List Char}
      (extended : literal.extend? c = some next) (later : Takes next rest longer) :
      Takes literal (c :: rest) longer

/-- The first digit of a literal is taken as any other. -/
theorem Literal.extend?_empty {c : Char} (digit : Token.isDigit c = true) :
    Literal.empty.extend? c = some (.begin c) := by
  rw [extend?_digit digit]
  rfl

/-- A source, the place in it, and the character there, which is the next to be taken; behind the
text there is none. -/
structure Scanner where
  source : Source
  cursor : Cursor
  current : Option Char
deriving DecidableEq

namespace Scanner

/-- Before the text, with no character loaded. -/
def unprimed (source : Source) : Scanner := ⟨source, .beforeStart, none⟩

/-- Moves the cursor over the current character, and loads the one that is under it then. -/
def advance (scanner : Scanner) : Scanner :=
  let moved := scanner.cursor.advance scanner.current
  { scanner with
    cursor := moved
    current := moved.index.toNat?.bind (scanner.source.text.toList[·]?) }

/-- On the first character of the text. -/
def primed (source : Source) : Scanner := (unprimed source).advance

/-- A turn of the loop over a literal: the literal goes on with the current character. Where it does
not, the loop breaks off. -/
def literalTurn (scanner : Scanner) (literal : Literal) : Option (Scanner × Literal) :=
  (scanner.current.bind literal.extend?).map fun longer => (scanner.advance, longer)

/-- The loop over a literal: turns for as long as the literal goes on, and where it has got to when it
breaks off. -/
inductive LiteralLoop : Scanner → Literal → Scanner → Literal → Prop where
  | stop {scanner : Scanner} {literal : Literal} (broken : scanner.literalTurn literal = none) :
      LiteralLoop scanner literal scanner literal
  | again {scanner next ended : Scanner} {literal longer whole : Literal}
      (taken : scanner.literalTurn literal = some (next, longer))
      (later : LiteralLoop next longer ended whole) : LiteralLoop scanner literal ended whole

/-- What a turn of the loop over tokens comes to, and what it logs: the loop is over, or it goes
on. -/
inductive Turn where
  | stop (scanner : Scanner) (pass : Pass) (logged : List Event)
  | again (scanner : Scanner) (produced : Array Production) (logged : List Event)

/-- The scanner as a turn leaves it. -/
def Turn.scanner : Turn → Scanner
  | stop scanner _ _ => scanner
  | again scanner _ _ => scanner

/-- A turn logs a token with the place of the cursor at that moment. -/
def tokenEvent (shown : String) (cursor : Cursor) : Event :=
  ⟨.trace, .lexer, "Produced token", [("token", .shown shown), ("index", .number cursor.index)]⟩

/-- A turn of the loop over tokens, by what is under the cursor. A literal is a whole run of the loop
inside, and is logged behind it; a mark is logged before the scanner moves on. -/
inductive TokenTurn (scanner : Scanner) (produced : Array Production) : Turn → Prop where
  | finished (ended : scanner.current = none) :
      TokenTurn scanner produced
        (.stop scanner ⟨produced.toList, none⟩
          [⟨.debug, .lexer, "Scan completed", [("count", .number produced.size)]⟩])
  | blank {c : Char} (found : scanner.current = some c) (blank : Token.isBlank c = true) :
      TokenTurn scanner produced (.again scanner.advance produced [])
  | literal {c : Char} {next : Scanner} {literal : Literal} (found : scanner.current = some c)
      (notBlank : Token.isBlank c = false) (digit : Token.isDigit c = true)
      (loop : LiteralLoop scanner .empty next literal) :
      TokenTurn scanner produced
        (.again next (produced.push ⟨literal.token, next.cursor.index⟩)
          [tokenEvent literal.token.render next.cursor])
  | mark {c : Char} {kind : Token.Kind} (found : scanner.current = some c)
      (notBlank : Token.isBlank c = false) (notDigit : Token.isDigit c = false)
      (named : Token.Kind.ofSymbol? c = some kind) :
      TokenTurn scanner produced
        (.again scanner.advance (produced.push ⟨.mark kind, scanner.cursor.index⟩)
          [tokenEvent kind.name scanner.cursor])
  | illegal {c : Char} (found : scanner.current = some c) (notBlank : Token.isBlank c = false)
      (notDigit : Token.isDigit c = false) (unnamed : Token.Kind.ofSymbol? c = none) :
      TokenTurn scanner produced
        (.stop scanner.advance
          ⟨produced.toList, some ⟨scanner.source, scanner.cursor, scanner.advance.cursor, c⟩⟩
          [⟨.debug, .lexer, "Illegal character",
            [("ch", .shown (Text.quotedChar c)), ("line", .number scanner.cursor.lineNumber),
             ("column", .number scanner.cursor.column)]⟩])

/-- The loop over tokens: turns until one is the last, the pass that one comes to, and what all of
them log. -/
inductive TokenLoop : Scanner → Array Production → Pass → List Event → Prop where
  | stop {scanner last : Scanner} {produced : Array Production} {pass : Pass}
      {logged : List Event} (taken : TokenTurn scanner produced (.stop last pass logged)) :
      TokenLoop scanner produced pass logged
  | again {scanner next : Scanner} {produced more : Array Production} {pass : Pass}
      {logged events : List Event} (taken : TokenTurn scanner produced (.again next more logged))
      (later : TokenLoop next more pass events) : TokenLoop scanner produced pass (logged ++ events)

/-- The scanner gets there from the first character, by turns of the two loops in any order. -/
inductive Reachable (source : Source) : Scanner → Prop where
  | primed : Reachable source (.primed source)
  | literalTurn {scanner next : Scanner} {literal longer : Literal}
      (before : Reachable source scanner)
      (taken : scanner.literalTurn literal = some (next, longer)) : Reachable source next
  | tokenTurn {scanner : Scanner} {produced : Array Production} {turn : Turn}
      (before : Reachable source scanner)
      (taken : TokenTurn scanner produced turn) : Reachable source turn.scanner

/-- How many characters are left to take. -/
def remaining (scanner : Scanner) : Int := scanner.source.text.length - scanner.cursor.index

/-- The scanner stands inside the text it was made for or right behind it, on the character that the
text has there, and its line and column are those of that place. -/
structure Sound (source : Source) (scanner : Scanner) : Prop where
  origin : scanner.source = source
  lower : 0 ≤ scanner.cursor.index
  upper : scanner.cursor.index ≤ source.text.length
  current : scanner.current = source.text.toList[scanner.cursor.index.toNat]?
  line : scanner.cursor.line = (source.text.toList.take scanner.cursor.index.toNat).count '\n'
  column : ∃ begun : Nat,
    Text.LineBegins (source.text.toList.take scanner.cursor.index.toNat) begun ∧
    scanner.cursor.column = scanner.cursor.index - begun

/-- The scanner behind the first characters of a text. -/
def behind (source : Source) (consumed : List Char) : Scanner :=
  ⟨source, .past consumed, source.text.toList[consumed.length]?⟩

section Behind

variable {source : Source} {consumed rest : List Char}

theorem primed_eq (source : Source) : primed source = behind source [] := rfl

theorem current_behind (cut : source.text.toList = consumed ++ rest) :
    (behind source consumed).current = rest.head? := by
  show source.text.toList[consumed.length]? = rest.head?
  rw [cut, List.getElem?_append_right (Nat.le_refl _), Nat.sub_self, List.head?_eq_getElem?]

theorem advance_behind {c : Char} (cut : source.text.toList = consumed ++ c :: rest) :
    (behind source consumed).advance = behind source (consumed ++ [c]) := by
  have current : (behind source consumed).current = some c := current_behind cut
  have moved : (behind source consumed).cursor.advance (behind source consumed).current =
      .past (consumed ++ [c]) := by
    rw [current]
    exact (Cursor.past_concat consumed c).symm
  have place : (Cursor.past (consumed ++ [c])).index.toNat? = some (consumed ++ [c]).length := by
    rw [Cursor.past_index]
    rfl
  simp only [advance, moved, place, Option.bind_some]
  rfl

theorem sound_behind (cut : source.text.toList = consumed ++ rest) :
    (behind source consumed).Sound source := by
  have index : (behind source consumed).cursor.index = consumed.length :=
    Cursor.past_index consumed
  have taken : source.text.toList.take consumed.length = consumed := by
    rw [cut, List.take_left]
  have size : consumed.length ≤ source.text.length := by
    rw [← String.length_toList, cut, List.length_append]
    omega
  refine ⟨rfl, ?_, ?_, ?_, ?_, ?_⟩
  · rw [index]
    omega
  · rw [index]
    omega
  · rw [index]
    rfl
  · rw [index, Int.toNat_natCast, taken]
    show (Cursor.past consumed).line = _
    rw [Cursor.past_eq]
  · have short := Text.length_lastLine_le consumed
    refine ⟨consumed.length - (Text.lastLine consumed).length, ?_, ?_⟩
    · rw [index, Int.toNat_natCast, taken]
      exact Text.lineBegins_lastLine consumed
    · rw [index]
      have column : (behind source consumed).cursor.column = (Text.lastLine consumed).length := by
        rw [behind, Cursor.past_eq]
      rw [column]
      omega

theorem remaining_behind (cut : source.text.toList = consumed ++ rest) :
    (behind source consumed).remaining = rest.length := by
  have size : (source.text.length : Int) = consumed.length + rest.length := by
    rw [← String.length_toList, cut, List.length_append]
    exact Int.natCast_add _ _
  show (source.text.length : Int) - (Cursor.past consumed).index = _
  rw [Cursor.past_index, size]
  omega

end Behind

section Turns

variable {source : Source} {consumed rest : List Char}

/-- A turn of the loop over a literal moves the scanner over one character, which the literal goes on
with. -/
theorem literalTurn_behind (cut : source.text.toList = consumed ++ rest)
    {literal longer : Literal} {next : Scanner} :
    (behind source consumed).literalTurn literal = some (next, longer) ↔
      ∃ c left, rest = c :: left ∧ literal.extend? c = some longer ∧
        next = behind source (consumed ++ [c]) := by
  rw [literalTurn, current_behind cut]
  cases rest with
  | nil => simp
  | cons c left =>
      rw [advance_behind cut]
      simp [eq_comm]

theorem literalTurn_eq_none (cut : source.text.toList = consumed ++ rest) (literal : Literal) :
    (behind source consumed).literalTurn literal = none ↔
      rest.head?.bind literal.extend? = none := by
  rw [literalTurn, current_behind cut, Option.map_eq_none_iff]

/-- The loop over a literal ends: it gets no further than the text. -/
theorem exists_literalLoop (cut : source.text.toList = consumed ++ rest) (literal : Literal) :
    ∃ ended whole, LiteralLoop (behind source consumed) literal ended whole := by
  induction rest generalizing consumed literal with
  | nil => exact ⟨_, literal, .stop ((literalTurn_eq_none cut literal).mpr rfl)⟩
  | cons c left ih =>
      cases extended : literal.extend? c with
      | none => exact ⟨_, literal, .stop ((literalTurn_eq_none cut literal).mpr extended)⟩
      | some longer =>
          have further : source.text.toList = (consumed ++ [c]) ++ left := by
            rw [cut, List.append_cons]
          have taken := (literalTurn_behind cut).mpr ⟨c, left, rfl, extended, rfl⟩
          obtain ⟨ended, whole, later⟩ := ih further longer
          exact ⟨ended, whole, .again taken later⟩

/-- The loop over a literal takes what the literal can go on with, and ends where it cannot. -/
theorem LiteralLoop.takes {scanner ended : Scanner} {literal whole : Literal}
    (loop : LiteralLoop scanner literal ended whole) {consumed rest : List Char}
    (cut : source.text.toList = consumed ++ rest) (start : scanner = behind source consumed) :
    ∃ taken left, rest = taken ++ left ∧ literal.Takes taken whole ∧
      left.head?.bind whole.extend? = none ∧ ended = behind source (consumed ++ taken) := by
  induction loop generalizing consumed rest with
  | @stop scanner literal broken =>
      subst start
      have ends := (literalTurn_eq_none cut literal).mp broken
      refine ⟨[], rest, rfl, .nil literal, ends, ?_⟩
      rw [List.append_nil]
  | again taken later ih =>
      subst start
      obtain ⟨c, left, rfl, extended, moved⟩ := (literalTurn_behind cut).mp taken
      have further : source.text.toList = (consumed ++ [c]) ++ left := by
        rw [cut, List.append_cons]
      obtain ⟨passed, behindIt, rfl, takes, ends, there⟩ := ih further moved
      refine ⟨c :: passed, behindIt, rfl, .cons extended takes, ends, ?_⟩
      rw [there, List.append_assoc, List.singleton_append]

/-- From a digit on, the loop over a literal takes at least that digit. -/
theorem LiteralLoop.takes_digit {ended : Scanner} {whole : Literal} {c : Char}
    (loop : LiteralLoop (behind source consumed) .empty ended whole)
    (digit : Token.isDigit c = true) (cut : source.text.toList = consumed ++ c :: rest) :
    ∃ taken left, rest = taken ++ left ∧ (Literal.begin c).Takes taken whole ∧
      left.head?.bind whole.extend? = none ∧ ended = behind source (consumed ++ c :: taken) := by
  obtain ⟨taken, left, split, takes, stopped, there⟩ := loop.takes cut rfl
  cases takes with
  | nil =>
      -- The literal would have stopped right before the digit, but it goes on with one.
      rw [List.nil_append] at split
      rw [← split, List.head?_cons, Option.bind_some, Literal.extend?_empty digit] at stopped
      cases stopped
  | cons extended takes =>
      rw [List.cons_append, List.cons.injEq] at split
      obtain ⟨rfl, split⟩ := split
      rw [Literal.extend?_empty digit, Option.some.injEq] at extended
      subst extended
      exact ⟨_, left, split, takes, stopped, there⟩

/-- Everything that a turn of the loop over tokens can do, told by the characters that the scanner
still has in front of it. -/
inductive Turn.Does (source : Source) (consumed : List Char) (produced : Array Production) :
    List Char → Turn → Prop where
  | finished : Does source consumed produced []
      (.stop (behind source consumed) ⟨produced.toList, none⟩
        [Pass.lastEvent ⟨produced.toList, none⟩])
  | blank {c : Char} {later : List Char} (blank : Token.isBlank c = true) :
      Does source consumed produced (c :: later)
        (.again (behind source (consumed ++ [c])) produced [])
  | literal {c : Char} {taken left : List Char} {literal : Literal}
      (digit : Token.isDigit c = true) (takes : (Literal.begin c).Takes taken literal)
      (stopped : left.head?.bind literal.extend? = none) {production : Production}
      (made : production = ⟨literal.token, (Cursor.past (consumed ++ c :: taken)).index⟩) :
      Does source consumed produced (c :: taken ++ left)
        (.again (behind source (consumed ++ c :: taken)) (produced.push production)
          [production.event])
  | mark {c : Char} {later : List Char} {kind : Token.Kind}
      (named : Token.Kind.ofSymbol? c = some kind) {production : Production}
      (made : production = ⟨.mark kind, (Cursor.past consumed).index⟩) :
      Does source consumed produced (c :: later)
        (.again (behind source (consumed ++ [c])) (produced.push production) [production.event])
  | illegal {c : Char} {later : List Char} (notBlank : Token.isBlank c = false)
      (notDigit : Token.isDigit c = false) (unnamed : Token.Kind.ofSymbol? c = none) {pass : Pass}
      (broken : pass =
        ⟨produced.toList, some ⟨source, .past consumed, .past (consumed ++ [c]), c⟩⟩) :
      Does source consumed produced (c :: later)
        (.stop (behind source (consumed ++ [c])) pass [pass.lastEvent])

/-- Every turn of the loop over tokens comes to something. -/
theorem exists_tokenTurn (cut : source.text.toList = consumed ++ rest)
    (produced : Array Production) : ∃ turn, TokenTurn (behind source consumed) produced turn := by
  cases found : (behind source consumed).current with
  | none => exact ⟨_, .finished found⟩
  | some c =>
      cases blank : Token.isBlank c with
      | true => exact ⟨_, .blank found blank⟩
      | false =>
          cases digit : Token.isDigit c with
          | true =>
              obtain ⟨ended, whole, loop⟩ := exists_literalLoop cut .empty
              exact ⟨_, .literal found blank digit loop⟩
          | false =>
              cases named : Token.Kind.ofSymbol? c with
              | some kind => exact ⟨_, .mark found blank digit named⟩
              | none => exact ⟨_, .illegal found blank digit named⟩

theorem TokenTurn.does {produced : Array Production} {turn : Turn}
    (taken : TokenTurn (behind source consumed) produced turn)
    (cut : source.text.toList = consumed ++ rest) :
    Turn.Does source consumed produced rest turn := by
  have current := current_behind cut
  have under {c : Char} (found : (behind source consumed).current = some c) :
      ∃ later, rest = c :: later := by
    rw [current] at found
    exact List.head?_eq_some_iff.mp found
  cases taken with
  | finished ended =>
      rw [current, List.head?_eq_none_iff] at ended
      subst ended
      exact .finished
  | blank found blank =>
      obtain ⟨later, rfl⟩ := under found
      rw [advance_behind cut]
      exact .blank blank
  | literal found notBlank digit loop =>
      obtain ⟨later, rfl⟩ := under found
      obtain ⟨taken, left, rfl, takes, stopped, rfl⟩ := loop.takes_digit digit cut
      exact .literal digit takes stopped rfl
  | mark found notBlank notDigit named =>
      obtain ⟨later, rfl⟩ := under found
      rw [advance_behind cut]
      exact .mark named rfl
  | illegal found notBlank notDigit unnamed =>
      obtain ⟨later, rfl⟩ := under found
      rw [advance_behind cut]
      exact .illegal notBlank notDigit unnamed rfl

/-- A turn moves the scanner along the text, and does move it unless it stands behind the text. -/
theorem Turn.Does.moves {produced : Array Production} {turn : Turn}
    (does : Turn.Does source consumed produced rest turn) :
    ∃ taken left, rest = taken ++ left ∧ turn.scanner = behind source (consumed ++ taken) ∧
      (rest ≠ [] → taken ≠ []) := by
  cases does with
  | finished =>
      refine ⟨[], [], rfl, ?_, fun nonempty => absurd rfl nonempty⟩
      rw [List.append_nil]
      rfl
  | blank _ => exact ⟨[_], _, rfl, rfl, fun _ => List.cons_ne_nil _ _⟩
  | literal _ _ _ _ => exact ⟨_ :: _, _, rfl, rfl, fun _ => List.cons_ne_nil _ _⟩
  | mark _ _ => exact ⟨[_], _, rfl, rfl, fun _ => List.cons_ne_nil _ _⟩
  | illegal _ _ _ _ => exact ⟨[_], _, rfl, rfl, fun _ => List.cons_ne_nil _ _⟩

end Turns

/-- Whatever the loops have done, the scanner stands behind the first characters of the text. -/
theorem Reachable.eq_behind {source : Source} {scanner : Scanner}
    (reachable : Reachable source scanner) :
    ∃ consumed rest, source.text.toList = consumed ++ rest ∧ scanner = behind source consumed := by
  induction reachable with
  | primed => exact ⟨[], source.text.toList, rfl, primed_eq source⟩
  | literalTurn before taken ih =>
      obtain ⟨consumed, rest, cut, rfl⟩ := ih
      obtain ⟨c, left, rfl, _, moved⟩ := (literalTurn_behind cut).mp taken
      refine ⟨consumed ++ [c], left, ?_, moved⟩
      rw [cut, List.append_cons]
  | tokenTurn before taken ih =>
      obtain ⟨consumed, rest, cut, rfl⟩ := ih
      obtain ⟨passed, left, rfl, moved, _⟩ := (taken.does cut).moves
      refine ⟨consumed ++ passed, left, ?_, moved⟩
      rw [cut, List.append_assoc]

section Remaining

variable {source : Source} {consumed rest : List Char}

theorem remaining_lt {taken left : List Char}
    (cut : source.text.toList = consumed ++ (taken ++ left)) (nonempty : taken ≠ []) :
    (behind source (consumed ++ taken)).remaining < (behind source consumed).remaining := by
  have further : source.text.toList = (consumed ++ taken) ++ left := by
    rw [cut, List.append_assoc]
  have size := List.length_pos_iff.mpr nonempty
  rw [remaining_behind cut, remaining_behind further, List.length_append]
  omega

theorem remaining_literalTurn (cut : source.text.toList = consumed ++ rest)
    {literal longer : Literal} {next : Scanner}
    (taken : (behind source consumed).literalTurn literal = some (next, longer)) :
    next.remaining < (behind source consumed).remaining := by
  obtain ⟨c, left, rfl, _, rfl⟩ := (literalTurn_behind cut).mp taken
  exact remaining_lt cut (List.cons_ne_nil c [])

theorem LiteralLoop.remaining_digit (cut : source.text.toList = consumed ++ rest) {c : Char}
    (found : (behind source consumed).current = some c) (digit : Token.isDigit c = true)
    {ended : Scanner} {whole : Literal}
    (loop : LiteralLoop (behind source consumed) .empty ended whole) :
    ended.remaining < (behind source consumed).remaining := by
  rw [current_behind cut] at found
  obtain ⟨later, rfl⟩ := List.head?_eq_some_iff.mp found
  obtain ⟨taken, left, rfl, _, _, rfl⟩ := loop.takes_digit digit cut
  exact remaining_lt cut (List.cons_ne_nil c taken)

theorem TokenTurn.remaining_scanner (cut : source.text.toList = consumed ++ rest)
    (inside : (behind source consumed).current ≠ none) {produced : Array Production} {turn : Turn}
    (taken : TokenTurn (behind source consumed) produced turn) :
    turn.scanner.remaining < (behind source consumed).remaining := by
  obtain ⟨passed, left, rfl, moved, nonempty⟩ := (taken.does cut).moves
  have someLeft : passed ++ left ≠ [] := by
    intro nothing
    rw [current_behind cut, nothing] at inside
    exact inside rfl
  rw [moved]
  exact remaining_lt cut (nonempty someLeft)

end Remaining

end Scanner

namespace State

/-- The literal held back, if there is one, does not go on with what comes next. -/
def Stopped (state : State) (rest : List Char) : Prop :=
  ∀ literal, state.literal = some literal → rest.head?.bind literal.extend? = none

theorem stopped_of_idle {state : State} (idle : state.literal = none) (rest : List Char) :
    state.Stopped rest := by
  intro literal held
  rw [idle] at held
  cases held

theorem step_of_stopped {state : State} {c : Char} {rest : List Char}
    (stopped : state.Stopped (c :: rest)) : state.step c = state.close.enter c := by
  unfold step
  cases held : state.literal with
  | none => rfl
  | some literal =>
      have ended : literal.extend? c = none := stopped literal held
      simp only [Option.bind_some, ended]

theorem feed_takes {literal longer : Literal} {chars : List Char}
    (takes : literal.Takes chars longer) {state : State} (held : state.literal = some literal) :
    ∃ next, state.feed chars = .ok next ∧ next.literal = some longer ∧
      next.produced = state.produced := by
  induction takes generalizing state with
  | nil literal => exact ⟨state, rfl, held, rfl⟩
  | @cons literal longer _ c rest extended later ih =>
      obtain ⟨next, passed, holds, produced⟩ :=
        ih (show ({ state.pass c with literal := some longer } : State).literal = some longer from rfl)
      refine ⟨next, ?_, holds, produced⟩
      rw [feed_cons, step_extend held extended]
      exact passed

/-- A pass takes a whole literal, and then holds it back. -/
theorem feed_literal_of_stopped {state : State} {c : Char} {taken left : List Char}
    {literal : Literal} (stopped : state.Stopped (c :: taken ++ left))
    (digit : Token.isDigit c = true) (takes : (Literal.begin c).Takes taken literal) :
    ∃ reached, state.feed (c :: taken) = .ok reached ∧ reached.literal = some literal ∧
      reached.produced = state.close.produced := by
  have entered : state.step c = .ok { state.close.pass c with literal := some (.begin c) } := by
    rw [step_of_stopped stopped, ← step_begin digit (close_literal state)]
    simp only [step, close_literal, Option.bind_none, close_close]
  obtain ⟨reached, passed, held, kept⟩ := feed_takes takes
    (show ({ state.close.pass c with literal := some (.begin c) } : State).literal = _ from rfl)
  refine ⟨reached, ?_, held, kept⟩
  rw [feed_cons, entered]
  exact passed

theorem step_illegal_of_stopped {state : State} {c : Char} {rest : List Char}
    (stopped : state.Stopped (c :: rest)) (notBlank : Token.isBlank c = false)
    (notDigit : Token.isDigit c = false) (unnamed : Token.Kind.ofSymbol? c = none) :
    state.step c = .error (state.close.halt c) := by
  rw [step_of_stopped stopped]
  simp only [enter, notBlank, notDigit, unnamed, Bool.false_eq_true, ↓reduceIte]

end State

/-- What is left of a pass, told by how it came out. -/
def Pass.ofResult : Except Halt State → Pass
  | .ok state => ⟨state.close.produced.toList, none⟩
  | .error halt => ⟨halt.produced.toList, some halt.fault⟩

theorem run_eq (source : Source) :
    run source = .ofResult ((State.start source).feed source.text.toList) := by
  unfold run
  cases (State.start source).feed source.text.toList <;> rfl

namespace Scanner

section Simulation

variable {source : Source} {consumed rest : List Char} {state : State}

/-- A pass that stands where the scanner does, against a turn: the turn is the last one and has what
the pass comes to, or both get on to a place where the pass holds back no literal that could go on.
What the turn logs are the tokens that the pass gets by it, and the end. -/
inductive Turn.Follows (source : Source) (consumed : List Char) (state : State)
    (rest : List Char) : Turn → Prop where
  | ended (scanner : Scanner) {pass : Pass} (whole : pass = .ofResult (state.feed rest))
      (produced : pass.produced = state.close.produced.toList) :
      Follows source consumed state rest (.stop scanner pass [pass.lastEvent])
  | moved {taken left : List Char} {reached : State} {gained : List Production}
      (nonempty : taken ≠ []) (split : rest = taken ++ left)
      (passed : state.feed taken = .ok reached) (stopped : reached.Stopped left)
      {produced : Array Production} (same : produced = reached.close.produced)
      (gains : produced.toList = state.close.produced.toList ++ gained) :
      Follows source consumed state rest
        (.again (behind source (consumed ++ taken)) produced (gained.map (·.event)))

theorem Turn.Does.follows {turn : Turn}
    (does : Turn.Does source consumed state.close.produced rest turn)
    (begun : (State.start source).feed consumed = .ok state) (stopped : state.Stopped rest) :
    Turn.Follows source consumed state rest turn := by
  have standing := State.feed_reached begun
  have place : state.close.cursor = .past consumed := by
    rw [State.close_cursor, standing.place]
  have one {c : Char} {next : State} (stepped : state.step c = .ok next) :
      state.feed [c] = .ok next := by
    rw [State.feed_cons, stepped]
    rfl
  cases does with
  | finished => exact .ended _ rfl rfl
  | @blank c later blank =>
      have idle : (state.close.pass c).literal = none := State.close_literal state
      have produced : state.close.produced = (state.close.pass c).close.produced := by
        rw [State.close_of_idle idle]
        rfl
      exact .moved (List.cons_ne_nil c []) rfl (one (State.step_blank blank state))
        (State.stopped_of_idle idle later) produced (List.append_nil _).symm
  | @literal c taken left literal digit takes stoppedThere production made =>
      obtain ⟨reached, whole, held, kept⟩ := State.feed_literal_of_stopped stopped digit takes
      have there : (State.start source).feed (consumed ++ c :: taken) = .ok reached := by
        rw [State.feed_append, begun]
        exact whole
      have produced : state.close.produced.push production = reached.close.produced := by
        rw [State.close_of_held held, kept, (State.feed_reached there).place, made]
      have stoppedHere : reached.Stopped left := by
        intro other holds
        rw [held, Option.some.injEq] at holds
        rw [← holds]
        exact stoppedThere
      have gains : (state.close.produced.push production).toList =
          state.close.produced.toList ++ [production] := Array.toList_push
      exact .moved (List.cons_ne_nil c taken) rfl whole stoppedHere produced gains
  | @mark c later kind named production made =>
      have idle : ((state.close.produceMark kind).pass c).literal = none :=
        State.close_literal state
      have produced : state.close.produced.push production =
          ((state.close.produceMark kind).pass c).close.produced := by
        rw [State.close_of_idle idle, made, ← place]
        rfl
      have gains : (state.close.produced.push production).toList =
          state.close.produced.toList ++ [production] := Array.toList_push
      exact .moved (List.cons_ne_nil c []) rfl (one (State.step_mark named state))
        (State.stopped_of_idle idle later) produced gains
  | @illegal c later notBlank notDigit unnamed pass halted =>
      have broken := State.step_illegal_of_stopped stopped notBlank notDigit unnamed
      have failed : pass = Pass.ofResult (state.feed (c :: later)) := by
        rw [State.feed_cons, broken, halted, Cursor.past_concat, ← place, ← standing.origin,
          ← State.close_source state]
        rfl
      exact .ended _ failed (by rw [halted])

/-- Where the loop over tokens ends, it has what is left of the pass, and has logged the tokens that
were not yet there and the end. -/
theorem TokenLoop.comes_to {scanner : Scanner} {produced : Array Production} {pass : Pass}
    {events : List Event} (loop : TokenLoop scanner produced pass events)
    (cut : source.text.toList = consumed ++ rest) (start : scanner = behind source consumed)
    (begun : (State.start source).feed consumed = .ok state) (stopped : state.Stopped rest)
    (same : produced = state.close.produced) :
    pass = .ofResult (state.feed rest) ∧
      produced.toList.map (·.event) ++ events = pass.produced.map (·.event) ++ [pass.lastEvent] := by
  induction loop generalizing consumed rest state with
  | stop taken =>
      subst start same
      cases (taken.does cut).follows begun stopped with
      | ended _ whole produced =>
          rw [produced]
          exact ⟨whole, rfl⟩
  | again taken _ ih =>
      subst start same
      cases (taken.does cut).follows begun stopped with
      | @moved passedOver left reached gained nonempty split passed stoppedThere _ same gains =>
          have further : source.text.toList = (consumed ++ passedOver) ++ left := by
            rw [cut, split, List.append_assoc]
          have there : (State.start source).feed (consumed ++ passedOver) = .ok reached := by
            rw [State.feed_append, begun]
            exact passed
          obtain ⟨whole, logged⟩ := ih further rfl there stoppedThere same
          rw [gains, List.map_append, List.append_assoc] at logged
          rw [split, State.feed_append, passed]
          exact ⟨whole, logged⟩

/-- From anywhere in the text on, the loop over tokens ends. -/
theorem exists_tokenLoop (cut : source.text.toList = consumed ++ rest)
    (produced : Array Production) :
    ∃ pass events, TokenLoop (behind source consumed) produced pass events := by
  -- A turn that is not the last takes a character, so the induction is on how many are left.
  induction length : rest.length using Nat.strongRecOn generalizing consumed rest produced with
  | ind size ih =>
      obtain ⟨turn, taken⟩ := exists_tokenTurn cut produced
      cases turn with
      | stop last pass logged => exact ⟨pass, logged, .stop taken⟩
      | again next more logged =>
          have does := taken.does cut
          have inside : rest ≠ [] := by
            rintro rfl
            cases does
          obtain ⟨passedOver, left, rfl, moved, nonempty⟩ := does.moves
          have further : source.text.toList = (consumed ++ passedOver) ++ left := by
            rw [cut, List.append_assoc]
          have shorter : left.length < size := by
            have positive := List.length_pos_iff.mpr (nonempty inside)
            rw [← length, List.length_append]
            omega
          obtain ⟨pass, events, later⟩ := ih left.length shorter further more rfl
          rw [← moved] at later
          exact ⟨pass, logged ++ events, .again taken later⟩

/-- The loops end on every text, with the result of a pass over it. They log what the pass accounts
for behind its start. -/
theorem tokenLoop_primed (source : Source) (pass : Pass) (events : List Event) :
    TokenLoop (primed source) #[] pass events ↔
      pass = run source ∧ startEvent source :: events = pass.events source := by
  have cut : source.text.toList = [] ++ source.text.toList := rfl
  have begun : (State.start source).feed [] = .ok (State.start source) := rfl
  have idle : (State.start source).literal = none := rfl
  have comes {pass : Pass} {events : List Event} (loop : TokenLoop (primed source) #[] pass events) :
      pass = run source ∧ events = pass.produced.map (·.event) ++ [pass.lastEvent] := by
    rw [run_eq]
    exact loop.comes_to cut (primed_eq source) begun (State.stopped_of_idle idle _) rfl
  constructor
  · intro loop
    obtain ⟨whole, logged⟩ := comes loop
    exact ⟨whole, by rw [logged]; rfl⟩
  · rintro ⟨rfl, logged⟩
    obtain ⟨other, others, loop⟩ := exists_tokenLoop cut #[]
    obtain ⟨rfl, same⟩ := comes loop
    have events_eq : events = others := by
      rw [same]
      exact List.tail_eq_of_cons_eq logged
    rw [events_eq]
    exact loop

theorem reachable_behind (cut : source.text.toList = consumed ++ rest)
    (begun : (State.start source).feed consumed = .ok state) :
    Reachable source (behind source consumed) := by
  induction consumed using List.reverseRecOn generalizing rest state with
  | nil => exact .primed
  | append_singleton consumed c ih =>
      have here : source.text.toList = consumed ++ c :: rest := by
        rw [cut, List.append_assoc, List.singleton_append]
      obtain ⟨before, passed, _⟩ := State.feed_ok_split begun
      have reachable := ih here passed
      have current : (behind source consumed).current = some c := current_behind here
      rw [State.feed_concat passed] at begun
      rcases State.step_cases begun with
        ⟨blank, _⟩ | ⟨kind, named, _⟩ | ⟨digit, _, _⟩ | ⟨literal, longer, _, extended, _⟩
      · have turn : TokenTurn (behind source consumed) #[] _ := .blank current blank
        rw [← advance_behind here]
        exact reachable.tokenTurn turn
      · have notDigit := (Token.isDigit_of_not_isNumeral (Token.isNumeral_of_ofSymbol? named)).1
        have notBlank := Token.isBlank_of_ofSymbol? named
        have turn : TokenTurn (behind source consumed) #[] _ :=
          .mark current notBlank notDigit named
        rw [← advance_behind here]
        exact reachable.tokenTurn turn
      · have turn := (literalTurn_behind here).mpr
          ⟨c, rest, rfl, Literal.extend?_empty digit, rfl⟩
        exact reachable.literalTurn turn
      · have turn := (literalTurn_behind here).mpr ⟨c, rest, rfl, extended, rfl⟩
        exact reachable.literalTurn turn

/-- Wherever a pass stands, the loops can take the scanner. -/
theorem reachable_of_feed (cut : source.text.toList = consumed ++ rest)
    (begun : (State.start source).feed consumed = .ok state) :
    Reachable source ⟨state.source, state.cursor, rest.head?⟩ := by
  have standing := State.feed_reached begun
  have same : behind source consumed = ⟨state.source, state.cursor, rest.head?⟩ := by
    rw [standing.origin, standing.place, ← current_behind cut]
    rfl
  rw [← same]
  exact reachable_behind cut begun

end Simulation

/-- Wherever the loops take it, the scanner knows its place: inside its text or right behind it, on
the character that is there, with the line and the column of that place. Every turn of either loop
leaves fewer characters to take, so both loops end on every text. They come to what a pass comes to
and log its events, and the places of a pass are places of the scanner. -/
theorem sound_and_loops_end (source : Source) :
    (∀ scanner, Reachable source scanner →
      scanner.Sound source ∧
      (∀ literal next longer, scanner.literalTurn literal = some (next, longer) →
        next.remaining < scanner.remaining) ∧
      (∀ literal, ∃ ended whole, LiteralLoop scanner literal ended whole) ∧
      (∀ c ended whole, scanner.current = some c → Token.isDigit c = true →
        LiteralLoop scanner .empty ended whole → ended.remaining < scanner.remaining) ∧
      ∀ produced, (∃ turn, TokenTurn scanner produced turn) ∧
        ∀ turn, TokenTurn scanner produced turn → scanner.current ≠ none →
          turn.scanner.remaining < scanner.remaining) ∧
    (∀ pass events, TokenLoop (primed source) #[] pass events ↔
      pass = run source ∧ startEvent source :: events = pass.events source) ∧
    ∀ consumed rest state, source.text.toList = consumed ++ rest →
      (State.start source).feed consumed = .ok state →
      Reachable source ⟨state.source, state.cursor, rest.head?⟩ := by
  refine ⟨?_, tokenLoop_primed source, ?_⟩
  · intro scanner reachable
    obtain ⟨consumed, rest, cut, rfl⟩ := reachable.eq_behind
    refine ⟨sound_behind cut, ?_, exists_literalLoop cut, ?_, ?_⟩
    · intro literal next longer taken
      exact remaining_literalTurn cut taken
    · intro c ended whole found digit loop
      exact loop.remaining_digit cut found digit
    · intro produced
      refine ⟨exists_tokenTurn cut produced, ?_⟩
      intro turn taken inside
      exact taken.remaining_scanner cut inside
  · intro consumed rest state cut begun
    exact reachable_of_feed cut begun

end Scanner
end Scan
end ArithLex
