import ArithLex.Proofs.Document.Tree
import Mathlib.Data.List.TakeWhile

set_option autoImplicit false

/-! Whatever a reader accepts, it has understood: behind blanks, it has read a spelling of a value
that means what the reader gives. -/
namespace ArithLex.Document

open Json (Gap HexDigit SpellsUnit SpellsChar SpellsChars SpellsText gap_nil)

variable {α β σ : Type} {input after : Input}

theorem gap_append {first second : List Char} (gapped : Gap first) (gappedToo : Gap second) :
    Gap (first ++ second) := by
  intro c inside
  rcases List.mem_append.mp inside with inFirst | inSecond
  · exact gapped c inFirst
  · exact gappedToo c inSecond

theorem gap_of_isBlank {chars : List Char} (blank : ∀ c ∈ chars, isBlank c = true) : Gap chars := by
  intro c inside
  have listed := blank c inside
  simpa [isBlank, or_assoc] using listed

namespace Input

theorem rest_tail (input : Input) : input.tail.rest = input.rest.tail := by
  unfold tail
  split <;> simp_all

theorem rest_drop (input : Input) (count : Nat) :
    (input.drop count).rest = input.rest.drop count := by
  induction count generalizing input with
  | zero => rfl
  | succ count ih => rw [drop, ih, rest_tail, List.drop_tail]

end Input

theorem except_bind_ok {ε : Type} {first : Except ε α} {next : α → Except ε β} {result : β}
    (read : first >>= next = .ok result) :
    ∃ value, first = .ok value ∧ next value = .ok result := by
  cases first with
  | error reason => cases read
  | ok value => exact ⟨value, rfl, read⟩

theorem bind_ok {reader : Reader α} {next : α → Reader β} {value : β}
    (read : (reader >>= next) input = .ok (value, after)) :
    ∃ first between, reader input = .ok (first, between) ∧
      next first between = .ok (value, after) := by
  obtain ⟨⟨first, between⟩, before, behind⟩ := except_bind_ok read
  exact ⟨first, between, before, behind⟩

/-- The reader accepts nothing. -/
def Rejects (reader : Reader α) : Prop := ∀ input accepted, reader input ≠ .ok accepted

namespace Rejects

theorem fail (problem : Problem) : Rejects (Reader.fail problem : Reader α) := by
  intro input accepted read
  cases read

theorem failAhead (problem : Problem) : Rejects (Reader.failAhead problem : Reader α) := by
  intro input accepted read
  cases read

theorem bind {reader : Reader α} {next : α → Reader β} (rejects : ∀ value, Rejects (next value)) :
    Rejects (reader >>= next) := by
  intro input accepted read
  obtain ⟨first, between, _, behind⟩ := bind_ok read
  exact rejects first between accepted behind

theorem mismatch (expected : String) : Rejects (Reader.mismatch expected : Reader α) := by
  unfold Reader.mismatch
  apply bind
  intro next
  split
  · exact bind fun _ => bind fun _ => fail _
  · exact bind fun _ => bind fun _ => fail _
  · exact bind fun _ => bind fun _ => fail _
  · exact bind fun _ => bind fun _ => fail _
  · exact bind fun _ => bind fun _ => fail _
  · exact fail _
  · exact fail _
  · split
    · exact bind fun _ => fail _
    · exact failAhead _
  · exact failAhead _

end Rejects

theorem skipBlanks_ok {next : Unit → Reader α} {value : α}
    (read : (Reader.skipBlanks >>= next) input = .ok (value, after)) :
    ∃ gap rest place, Gap gap ∧ input.rest = gap ++ rest ∧
      next () ⟨rest, place⟩ = .ok (value, after) := by
  obtain ⟨chars, place⟩ := input
  have parts : chars.takeWhile isBlank ++ chars.dropWhile isBlank = chars :=
    List.takeWhile_append_dropWhile
  have gapped : Gap (chars.takeWhile isBlank) :=
    gap_of_isBlank fun c inside => List.mem_takeWhile_imp inside
  have between := Input.drop_append (chars.takeWhile isBlank) (chars.dropWhile isBlank) place
  rw [parts] at between
  have behind : next () ⟨chars.dropWhile isBlank,
      (chars.takeWhile isBlank).foldl Place.past place⟩ = .ok (value, after) := by
    rw [← between]
    exact read
  exact ⟨_, _, _, gapped, parts.symm, behind⟩

/-- Behind blanks, a reader is chosen by the next character, which is still unread. -/
theorem sign_ok {next : Option Char → Reader α} {value : α}
    (read : (Reader.skipBlanks >>= fun _ => Reader.peek >>= next) input = .ok (value, after)) :
    ∃ gap rest place reader, Gap gap ∧ input.rest = gap ++ rest ∧ next rest.head? = reader ∧
      reader ⟨rest, place⟩ = .ok (value, after) := by
  obtain ⟨gap, rest, place, gapped, unread, behind⟩ := skipBlanks_ok read
  exact ⟨gap, rest, place, _, gapped, unread, rfl, behind⟩

theorem word_ok {letters : List Char} (read : Reader.word letters input = .ok ((), after)) :
    input.rest = letters ++ after.rest := by
  induction letters generalizing input with
  | nil =>
    cases read
    rfl
  | cons letter letters ih =>
    obtain ⟨rest, place⟩ := input
    cases rest with
    | nil => cases read
    | cons c rest =>
      change (if c = letter then _ else _ : Reader Unit) ⟨c :: rest, place⟩ = _ at read
      split at read
      · next same =>
        have tail : rest = letters ++ after.rest := ih read
        rw [same, tail]
        rfl
      · cases read

theorem skip_ok {next : Unit → Reader α} {c : Char} {tail : List Char} {place : Place} {value : α}
    (read : (Reader.skip >>= next) ⟨c :: tail, place⟩ = .ok (value, after)) :
    next () ⟨tail, place.past c⟩ = .ok (value, after) :=
  read

/-- The rest of a word, behind a first letter that the reader has gone by. -/
theorem word_bind_ok {letters tail : List Char} {next : Unit → Reader α} {c : Char} {place : Place}
    {value : α} (read : (Reader.skip >>= fun _ => Reader.word letters >>= next) ⟨c :: tail, place⟩ =
      .ok (value, after)) :
    ∃ rest place, tail = letters ++ rest ∧ next () ⟨rest, place⟩ = .ok (value, after) := by
  obtain ⟨_, between, word, behind⟩ := bind_ok (skip_ok read)
  exact ⟨between.rest, between.place, word_ok word, behind⟩

section Text

theorem hexDigit_of_hexValue? {digit : Char} {value : Nat} (found : hexValue? digit = some value) :
    HexDigit value digit := by
  have listed : ∀ n < 128,
      (hexValue? (Char.ofNat n)).all fun value => decide (HexDigit value (Char.ofNat n)) := by
    decide
  have small : digit.toNat < 128 := by
    by_contra large
    have beyond : ∀ limit : Char, limit.toNat < 128 → ¬ digit ≤ limit := by
      intro limit bound below
      have values : digit.toNat ≤ limit.toNat := UInt32.le_iff_toNat_le.mp below
      omega
    have digits := beyond '9' (by decide)
    have lower := beyond 'f' (by decide)
    have upper := beyond 'F' (by decide)
    simp [hexValue?, digits, lower, upper] at found
  have spelled := listed digit.toNat small
  rw [Char.ofNat_toNat, found] at spelled
  simpa using spelled

theorem toNat_ofNat {n : Nat} (valid : n.isValidChar) : (Char.ofNat n).toNat = n := by
  rw [Char.ofNat, dif_pos valid]
  rfl

theorem codeUnit_ok {unit : Nat} (read : codeUnit input = .ok (unit, after)) :
    ∃ digits, SpellsUnit unit digits ∧ input.rest = digits ++ after.rest := by
  unfold codeUnit at read
  split at read
  · next a b c d rest unread =>
    split at read
    · next first second third fourth =>
      cases read
      refine ⟨[a, b, c, d], .mk (hexDigit_of_hexValue? first) (hexDigit_of_hexValue? second)
        (hexDigit_of_hexValue? third) (hexDigit_of_hexValue? fourth), ?_⟩
      rw [Input.rest_drop, unread]
      rfl
    · cases read
  · cases read

theorem expectInPair_ok {wanted : Char} (read : expectInPair wanted input = .ok after) :
    input.rest = wanted :: after.rest := by
  unfold expectInPair at read
  split at read
  · cases read
  · next c rest unread =>
    split at read
    · next same =>
      cases read
      rw [Input.rest_tail, unread, same]
      rfl
    · cases read

theorem unit_lt {unit : Nat} {digits : List Char} (spelled : SpellsUnit unit digits) :
    unit < 0x10000 := by
  obtain ⟨⟨first, _⟩, ⟨second, _⟩, ⟨third, _⟩, ⟨fourth, _⟩⟩ := spelled
  omega

theorem numericEscape_ok {c : Char} (read : numericEscape input = .ok (c, after)) :
    ∃ chars, SpellsChar c ('\\' :: 'u' :: chars) ∧ input.rest = chars ++ after.rest := by
  unfold numericEscape at read
  obtain ⟨⟨unit, behind⟩, first, read⟩ := except_bind_ok read
  obtain ⟨digits, spelled, unread⟩ := codeUnit_ok first
  have bound := unit_lt spelled
  dsimp only at read
  split at read
  · cases read
  · next notTrailing =>
    split at read
    · next leading =>
      obtain ⟨slashed, slash, read⟩ := except_bind_ok read
      obtain ⟨lettered, letter, read⟩ := except_bind_ok read
      obtain ⟨⟨second, last⟩, unitRead, read⟩ := except_bind_ok read
      obtain ⟨others, spelledToo, unreadToo⟩ := codeUnit_ok unitRead
      dsimp only at read
      split at read
      · next trailing =>
        simp only [Except.ok.injEq, Prod.mk.injEq] at read
        obtain ⟨rfl, rfl⟩ := read
        have lead : 0xD800 ≤ unit ∧ unit ≤ 0xDBFF := by simpa [isLeading] using leading
        have trail : 0xDC00 ≤ second ∧ second ≤ 0xDFFF := by simpa [isTrailing] using trailing
        refine ⟨digits ++ '\\' :: 'u' :: others,
          .pair spelled spelledToo lead.1 lead.2 trail.1 trail.2 ?_, ?_⟩
        · exact toNat_ofNat (Or.inr ⟨by omega, by omega⟩)
        · rw [unread, expectInPair_ok slash, expectInPair_ok letter, unreadToo]
          simp
      · cases read
    · next notLeading =>
      cases read
      refine ⟨digits, .unit ?_, unread⟩
      have valid : unit.isValidChar := by
        simp only [isLeading, isTrailing, Bool.and_eq_true, decide_eq_true_eq, not_and,
          Nat.not_le] at notLeading notTrailing
        by_cases low : unit < 0xD800
        · exact Or.inl low
        · exact Or.inr ⟨by omega, by omega⟩
      rw [toNat_ofNat valid]
      exact spelled

theorem shortEscape_of_escaped? {letter c : Char} (found : escaped? letter = some c) :
    (letter, c) ∈ Json.shortEscapes := by
  unfold escaped? at found
  split at found <;> cases found <;> decide

theorem escapeTail_ok {c : Char} (read : escapeTail input = .ok (c, after)) :
    ∃ chars, SpellsChar c ('\\' :: chars) ∧ input.rest = chars ++ after.rest := by
  unfold escapeTail at read
  split at read
  · cases read
  · next letter rest unread =>
    split at read
    · next isUnit =>
      obtain ⟨chars, spelled, behind⟩ := numericEscape_ok read
      refine ⟨'u' :: chars, spelled, ?_⟩
      rw [Input.rest_tail, unread, List.tail_cons] at behind
      rw [unread, isUnit, behind]
      rfl
    · split at read
      · next plain found =>
        cases read
        refine ⟨[letter], .short (shortEscape_of_escaped? found), ?_⟩
        rw [Input.rest_tail, unread]
        rfl
      · cases read

/-- A step of a string reads the quote at its end, or the spelling of one character. -/
theorem textStep_ok {next : Option Char} (read : textStep input = .ok (next, after)) :
    (next = none ∧ input.rest = '"' :: after.rest) ∨
      ∃ c chars, next = some c ∧ SpellsChar c chars ∧ input.rest = chars ++ after.rest := by
  unfold textStep at read
  split at read
  · cases read
  · next c rest unread =>
    split at read
    · next isQuote =>
      cases read
      refine Or.inl ⟨rfl, ?_⟩
      rw [Input.rest_tail, unread, isQuote]
      rfl
    · next notQuote =>
      split at read
      · next isBackslash =>
        cases escape : escapeTail input.tail with
        | error rejection => simp [escape, Except.map] at read
        | ok pair =>
          obtain ⟨plain, behind⟩ := pair
          simp only [escape, Except.map, Except.ok.injEq, Prod.mk.injEq] at read
          obtain ⟨rfl, rfl⟩ := read
          obtain ⟨chars, spelled, unreadToo⟩ := escapeTail_ok escape
          refine Or.inr ⟨plain, '\\' :: chars, rfl, spelled, ?_⟩
          rw [Input.rest_tail, unread, List.tail_cons] at unreadToo
          rw [unread, isBackslash, unreadToo]
          rfl
      · next notBackslash =>
        split at read
        · cases read
        · next visible =>
          cases read
          refine Or.inr ⟨c, [c], rfl, .plain notQuote notBackslash (Nat.le_of_not_lt visible), ?_⟩
          rw [Input.rest_tail, unread]
          rfl

theorem textTail_ok {chars : List Char} (read : textTail input = .ok (chars, after)) :
    ∃ body, SpellsChars chars body ∧ input.rest = body ++ '"' :: after.rest := by
  fun_induction textTail input generalizing chars after with
  | case1 input rejection step => cases read
  | case2 input behind step =>
    cases read
    rcases textStep_ok step with ⟨_, unread⟩ | ⟨c, _, given, _, _⟩
    · exact ⟨[], .nil, unread⟩
    · cases given
  | case3 input c between step rejection tail => cases read
  | case4 input c between step more last tail ih =>
    cases read
    rcases textStep_ok step with ⟨given, _⟩ | ⟨d, first, given, spelled, unread⟩
    · cases given
    · cases given
      obtain ⟨body, others, unreadToo⟩ := ih tail
      refine ⟨first ++ body, .cons spelled others, ?_⟩
      rw [unread, unreadToo, List.append_assoc]

theorem textBody_ok {text : String} (read : Reader.textBody input = .ok (text, after)) :
    ∃ quoted, SpellsText text ('"' :: quoted) ∧ input.rest = quoted ++ after.rest := by
  unfold Reader.textBody at read
  cases tail : textTail input with
  | error rejection => simp [tail, Except.map] at read
  | ok pair =>
    obtain ⟨chars, behind⟩ := pair
    simp only [tail, Except.map, Except.ok.injEq, Prod.mk.injEq] at read
    obtain ⟨rfl, rfl⟩ := read
    obtain ⟨body, spelled, unread⟩ := textTail_ok tail
    rw [← String.toList_ofList (l := chars)] at spelled
    refine ⟨body ++ ['"'], .mk spelled, ?_⟩
    simpa using unread

end Text

/-- Whatever the reader accepts is, behind blanks, a spelling of a value that means what the reader
gives. -/
def Understands (reader : Reader α) (means : Json → α → Prop) : Prop :=
  ∀ {input after : Input} {value : α}, reader input = .ok (value, after) →
    ∃ json gap chars, means json value ∧ Gap gap ∧ Tree.Spells json.tree chars ∧
      input.rest = gap ++ (chars ++ after.rest)

theorem understands_text : Understands Reader.text fun json text => json = .str text := by
  intro input after text read
  obtain ⟨gap, rest, place, reader, gapped, unread, chosen, read⟩ := sign_ok read
  split at chosen <;> subst chosen
  · next opens =>
    obtain ⟨tail, rfl⟩ := List.head?_eq_some_iff.mp opens
    obtain ⟨quoted, spelled, behind⟩ := textBody_ok (skip_ok read)
    refine ⟨.str text, gap, '"' :: quoted, rfl, gapped, .text spelled, ?_⟩
    rw [unread]
    exact congrArg (gap ++ '"' :: ·) behind
  · exact absurd read (Rejects.mismatch _ _ _)

theorem understands_boolean : Understands Reader.boolean fun json value => json = .bool value := by
  intro input after value read
  obtain ⟨gap, rest, place, reader, gapped, unread, chosen, read⟩ := sign_ok read
  split at chosen <;> subst chosen
  · next opens =>
    obtain ⟨tail, rfl⟩ := List.head?_eq_some_iff.mp opens
    obtain ⟨rest, place, rfl, accepted⟩ := word_bind_ok read
    cases accepted
    exact ⟨.bool true, gap, _, rfl, gapped, .yes, unread⟩
  · next opens =>
    obtain ⟨tail, rfl⟩ := List.head?_eq_some_iff.mp opens
    obtain ⟨rest, place, rfl, accepted⟩ := word_bind_ok read
    cases accepted
    exact ⟨.bool false, gap, _, rfl, gapped, .no, unread⟩
  · exact absurd read (Rejects.mismatch _ _ _)

theorem understands_unit : Understands Reader.unit fun json _ => json = .null := by
  intro input after value read
  obtain ⟨gap, rest, place, reader, gapped, unread, chosen, read⟩ := sign_ok read
  split at chosen <;> subst chosen
  · next opens =>
    obtain ⟨tail, rfl⟩ := List.head?_eq_some_iff.mp opens
    have word : tail = ['u', 'l', 'l'] ++ after.rest := word_ok read
    refine ⟨.null, gap, ['n', 'u', 'l', 'l'], rfl, gapped, .null, ?_⟩
    rw [unread, word]
    rfl
  · exact absurd read (Rejects.mismatch _ _ _)

theorem colon_ok (read : Reader.colon input = .ok ((), after)) :
    ∃ gap, Gap gap ∧ input.rest = gap ++ ':' :: after.rest := by
  obtain ⟨gap, rest, place, reader, gapped, unread, chosen, read⟩ := sign_ok read
  split at chosen <;> subst chosen
  · next opens =>
    obtain ⟨tail, rfl⟩ := List.head?_eq_some_iff.mp opens
    cases read
    exact ⟨gap, gapped, unread⟩
  · cases read
  · cases read

section Variant

variable {choices : List (String × α)} {keyword : α → String}

theorem choiceBody_ok {choice : α} (listed : ∀ entry ∈ choices, entry.1 = keyword entry.2)
    (read : Reader.choiceBody choices input = .ok (choice, after)) :
    ∃ quoted, SpellsText (keyword choice) ('"' :: quoted) ∧ input.rest = quoted ++ after.rest := by
  obtain ⟨name, between, body, read⟩ := bind_ok read
  obtain ⟨quoted, spelled, unread⟩ := textBody_ok body
  cases found : choices.find? (·.1 == name) with
  | none =>
    rw [found] at read
    cases read
  | some entry =>
    rw [found] at read
    cases read
    have named : entry.1 = name := by simpa using List.find?_some found
    rw [← named, listed entry (List.mem_of_find?_eq_some found)] at spelled
    exact ⟨quoted, spelled, unread⟩

theorem understands_variant (listed : ∀ entry ∈ choices, entry.1 = keyword entry.2) :
    Understands (Reader.variant choices) (Names keyword) := by
  intro input after choice read
  obtain ⟨gap, rest, place, reader, gapped, unread, chosen, read⟩ := sign_ok read
  split at chosen <;> subst chosen
  · next opens =>
    obtain ⟨tail, rfl⟩ := List.head?_eq_some_iff.mp opens
    obtain ⟨quoted, spelled, behind⟩ := choiceBody_ok listed (skip_ok read)
    refine ⟨.str (keyword choice), gap, '"' :: quoted, .text choice, gapped, .text spelled, ?_⟩
    rw [unread]
    exact congrArg (gap ++ '"' :: ·) behind
  · next opens =>
    obtain ⟨tail, rfl⟩ := List.head?_eq_some_iff.mp opens
    obtain ⟨before, rest, place, reader, gappedBefore, unreadName, chosen, read⟩ :=
      sign_ok (skip_ok read)
    dsimp only at chosen
    split at chosen <;> subst chosen
    · next opens =>
      obtain ⟨tail, rfl⟩ := List.head?_eq_some_iff.mp opens
      obtain ⟨choice, behindName, named, read⟩ := bind_ok (skip_ok read)
      obtain ⟨quoted, spelled, unreadColon⟩ := choiceBody_ok listed named
      obtain ⟨_, behindColon, marked, read⟩ := bind_ok read
      obtain ⟨between, gappedBetween, unreadValue⟩ := colon_ok marked
      obtain ⟨_, behindValue, valued, read⟩ := bind_ok read
      obtain ⟨_, behind, word, rfl, gappedBehind, nothing, unreadEnd⟩ := understands_unit valued
      obtain ⟨last, rest, place, reader, gappedLast, unreadBrace, chosen, read⟩ := sign_ok read
      split at chosen <;> subst chosen
      · next opens =>
        obtain ⟨tail, rfl⟩ := List.head?_eq_some_iff.mp opens
        cases skip_ok read
        have sequence : Tree.Sequence (Tree.Member Tree.Spells) '\x7d' true _ _ :=
          .next .first gappedBefore (.mk spelled gappedBetween gappedBehind nothing)
            (.done gappedLast)
        refine ⟨_, gap, _, .object choice, gapped, .object sequence, ?_⟩
        dsimp only at unreadName unreadColon
        rw [unread, unreadName, unreadColon, unreadValue, unreadEnd, unreadBrace]
        simp
      · cases read
      · cases read
    · cases read
    · cases read
    · cases read
  · cases read
  · cases read

theorem understands_optional (listed : ∀ entry ∈ choices, entry.1 = keyword entry.2) :
    Understands (Reader.optional (Reader.variant choices)) (NamesOrNull keyword) := by
  intro input after chosen read
  obtain ⟨gap, rest, place, reader, gapped, unread, chosen, read⟩ := sign_ok read
  split at chosen <;> subst chosen
  · next opens =>
    obtain ⟨tail, rfl⟩ := List.head?_eq_some_iff.mp opens
    obtain ⟨rest, place, rfl, accepted⟩ := word_bind_ok read
    cases accepted
    exact ⟨.null, gap, _, .null, gapped, .null, unread⟩
  · obtain ⟨choice, between, named, accepted⟩ := bind_ok read
    cases accepted
    obtain ⟨json, gapToo, chars, means, gappedToo, spelled, behind⟩ :=
      understands_variant listed named
    refine ⟨json, gap ++ gapToo, chars, .named means, gap_append gapped gappedToo, spelled, ?_⟩
    rw [unread, List.append_assoc]
    exact congrArg (gap ++ ·) behind

end Variant

end ArithLex.Document
