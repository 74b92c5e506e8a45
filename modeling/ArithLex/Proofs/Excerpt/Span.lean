import ArithLex.Proofs.Excerpt.Places
import ArithLex.Proofs.Excerpt.Rows

set_option autoImplicit false

/-! The carets of an excerpt against the characters of its span. A span is a range of indices, the
carets are laid out by lines and columns, and every column that shows is under a caret exactly if
its index is in the range; a span that has nothing on its last line gets one caret there all the
same. -/
namespace ArithLex.Excerpt

theorem carets_getElem?_iff (left right column : Nat) :
    (carets left right)[column]? = some '^' ↔
      left ≤ column ∧ column < left + max (right - left) 1 := by
  by_cases before : column < left
  · have blank : (carets left right)[column]? = some ' ' := by
      rw [carets, List.getElem?_append_left (by simpa using before), List.getElem?_replicate,
        if_pos before]
    rw [blank]
    constructor
    · intro impossible
      cases impossible
    · intro
      omega
  · have behind : (List.replicate left ' ').length ≤ column := by
      rw [List.length_replicate]
      omega
    rw [carets, List.getElem?_append_right behind, List.length_replicate, List.getElem?_replicate]
    by_cases marked : column - left < max (right - left) 1
    · rw [if_pos marked]
      constructor
      · intro
        omega
      · intro
        rfl
    · rw [if_neg marked]
      constructor
      · intro impossible
        cases impossible
      · intro
        omega

/-- A part of a text, from one of its places up to another one. -/
structure Span (text : List Char) where
  firstLine : Nat
  firstColumn : Nat
  lastLine : Nat
  lastColumn : Nat
  starts : HasPlace text firstLine firstColumn
  stops : HasPlace text lastLine lastColumn
  ordered : firstLine < lastLine ∨ firstLine = lastLine ∧ firstColumn ≤ lastColumn

namespace Span

variable {text : List Char} (span : Span text)

def low : Nat := indexAt text span.firstLine span.firstColumn

def high : Nat := indexAt text span.lastLine span.lastColumn

def start : Cursor := ⟨span.low, span.firstLine, span.firstColumn⟩

def stop : Cursor := ⟨span.high, span.lastLine, span.lastColumn⟩

/-- Every range of indices is a span, between the cursors that have come to its ends. -/
theorem exists_span {low high : Nat} (ordered : low ≤ high) (within : high ≤ text.length) :
    ∃ span : Span text, span.low = low ∧ span.high = high ∧
      Cursor.past (text.take low) = span.start ∧ Cursor.past (text.take high) = span.stop := by
  obtain ⟨firstLine, firstColumn, starts, rfl⟩ := exists_place (Nat.le_trans ordered within)
  obtain ⟨lastLine, lastColumn, stops, rfl⟩ := exists_place within
  have before := indexAt_lt_iff stops starts
  refine ⟨⟨firstLine, firstColumn, lastLine, lastColumn, starts, stops, ?_⟩, rfl, rfl,
    past_indexAt starts, past_indexAt stops⟩
  omega

/-- The range of a span, by lines and columns. -/
theorem covers_iff {number column : Nat} (place : HasPlace text number column) :
    (span.low ≤ indexAt text number column ∧ indexAt text number column < span.high) ↔
      (span.firstLine < number ∨ span.firstLine = number ∧ span.firstColumn ≤ column) ∧
        (number < span.lastLine ∨ number = span.lastLine ∧ column < span.lastColumn) := by
  have lower := indexAt_lt_iff place span.starts
  have upper := indexAt_lt_iff place span.stops
  rw [low, high]
  omega

/-- A span has nothing on its last line if it is empty, or if it stops where that line begins. -/
theorem misses_last_iff :
    (∀ index, span.low ≤ index → index < span.high →
      (Cursor.past (text.take index)).line ≠ span.lastLine) ↔
    (span.firstLine = span.lastLine → span.lastColumn ≤ span.firstColumn) ∧
      (span.firstLine < span.lastLine → span.lastColumn = 0) := by
  constructor
  · intro misses
    constructor
    · intro same
      by_contra longer
      have nonempty : span.low < span.high :=
        (indexAt_lt_iff span.starts span.stops).mpr (Or.inr ⟨same, by omega⟩)
      apply misses span.low (Nat.le_refl _) nonempty
      rw [low, past_indexAt span.starts]
      exact same
    · intro above
      by_contra longer
      obtain ⟨line, found, -⟩ := span.stops
      have begins : HasPlace text span.lastLine 0 := ⟨line, found, Nat.zero_le _⟩
      have covered := (span.covers_iff begins).mpr ⟨Or.inl above, Or.inr ⟨rfl, by omega⟩⟩
      apply misses _ covered.1 covered.2
      rw [past_indexAt begins]
  · rintro ⟨empty, stopsAtStart⟩ index lower upper onLast
    have within : index ≤ text.length :=
      Nat.le_trans (Nat.le_of_lt upper) span.stops.indexAt_le
    obtain ⟨number, column, place, rfl⟩ := exists_place within
    rw [past_indexAt place] at onLast
    have line : number = span.lastLine := onLast
    have covered := (span.covers_iff place).mp ⟨lower, upper⟩
    have order := span.ordered
    omega

/-- Under a column that shows stands a caret exactly if its character is in the span, or if the span
has nothing on its last line and this is the column it has there. -/
theorem marks_iff {number column : Nat} {line : List Char}
    (found : (lines text)[number]? = some line) (lower : span.firstLine ≤ number)
    (upper : number ≤ span.lastLine) (shows : column < (display line).length) :
    (marks span.start span.stop number line)[column]? = some '^' ↔
      (span.low ≤ indexAt text number column ∧ indexAt text number column < span.high) ∨
        (number = span.lastLine ∧
          (∀ index, span.low ≤ index → index < span.high →
            (Cursor.past (text.take index)).line ≠ number) ∧
          (column : Int) = if span.firstLine = number then (span.firstColumn : Int) else 0) := by
  have inside := length_display_le line
  have place : HasPlace text number column := ⟨line, found, by omega⟩
  have order := span.ordered
  have total : max span.lastLine span.firstLine = span.lastLine := by omega
  have marked : marks span.start span.stop number line =
      carets (if number = span.firstLine then span.firstColumn else 0)
        (if number = max span.lastLine span.firstLine then span.lastColumn
          else (display line).length) := rfl
  rw [total] at marked
  rw [marked, carets_getElem?_iff, span.covers_iff place]
  by_cases last : number = span.lastLine
  · rw [if_pos last, last, span.misses_last_iff]
    by_cases first : span.lastLine = span.firstLine
    · rw [if_pos first, if_pos first.symm]
      omega
    · rw [if_neg first, if_neg (Ne.symm first)]
      omega
  · rw [if_neg last]
    by_cases first : number = span.firstLine
    · rw [if_pos first]
      omega
    · rw [if_neg first]
      omega

end Span

/-- The carets of an excerpt cover exactly its span. Between the cursors at two indices of a text,
an excerpt shows every line from the one to the other, without carriage returns at its end and with
spaces for tabs, over a row of carets. A column that shows is marked exactly if the index of its
character is in the range. Only where the range has nothing on its last line, one caret stands there
by itself, where the range starts or else in the first column. -/
theorem carets_cover_span (text : String) {low high : Nat} (ordered : low ≤ high)
    (within : high ≤ text.length) :
    let chars := text.toList
    let start := Cursor.past (chars.take low)
    let stop := Cursor.past (chars.take high)
    let printed := (render text start stop).toList.splitOn '\n'
    printed.length = 2 * (stop.line - start.line + 1) ∧
    ∀ number, start.line ≤ number → number ≤ stop.line →
      ∃ line shown marked, (chars.splitOn '\n')[number]? = some line ∧
        shown = (line.rdropWhile (· == '\r')).map (fun c => if c = '\t' then ' ' else c) ∧
        printed[2 * (number - start.line)]? = some shown ∧
        printed[2 * (number - start.line) + 1]? = some marked ∧ IsCaretRow marked ∧
        ∀ column < shown.length,
          Cursor.past (chars.take (indexAt chars number column)) =
            ⟨indexAt chars number column, number, column⟩ ∧
          (marked[column]? = some '^' ↔
            (low ≤ indexAt chars number column ∧ indexAt chars number column < high) ∨
              (number = stop.line ∧
                (∀ index, low ≤ index → index < high →
                  (Cursor.past (chars.take index)).line ≠ number) ∧
                (column : Int) = if start.line = number then start.column else 0)) := by
  intro chars start stop printed
  obtain ⟨span, rfl, rfl, starts, stops⟩ : ∃ span : Span chars, span.low = low ∧ span.high = high ∧
      start = span.start ∧ stop = span.stop :=
    Span.exists_span ordered (by rwa [String.length_toList])
  have begun : start.line < (lines chars).length := by
    rw [starts]
    exact span.starts.lt
  have taken : printed = Excerpt.printed chars start stop := splitOn_render begun
  rw [taken, starts, stops]
  rw [starts] at begun
  have ends := span.stops.lt
  have order := span.ordered
  constructor
  · rw [length_printed begun]
    simp only [Span.start, Span.stop] at *
    omega
  intro number lower upper
  have onText : number < (lines chars).length := Nat.lt_of_le_of_lt upper ends
  have found : (lines chars)[number]? = some (lines chars)[number] :=
    List.getElem?_eq_getElem onText
  obtain ⟨shown, marked⟩ := printed_getElem? lower (Nat.le_trans upper (Nat.le_max_right _ _)) found
  refine ⟨(lines chars)[number], display (lines chars)[number], marks _ _ number _, ?_,
    display_eq _, shown, marked, isCaretRow_carets _ _, ?_⟩
  · rw [← lines]
    exact found
  intro column shows
  have inside := length_display_le (lines chars)[number]
  refine ⟨past_indexAt ⟨_, found, by omega⟩, ?_⟩
  exact span.marks_iff found lower upper shows

theorem carets_cover_span_to_line_start :
    1 ≤ 5 ∧ 5 ≤ "12\r\n\n34".length ∧
      ∃ marked,
        ((render "12\r\n\n34" (.past ['1']) (.past ['1', '2', '\r', '\n', '\n'])).toList.splitOn
          '\n')[5]? = some marked ∧
        marked[0]? = some '^' ∧ marked[1]? ≠ some '^' := by
  obtain ⟨-, each⟩ := carets_cover_span "12\r\n\n34" (by decide : 1 ≤ 5) (by decide)
  obtain ⟨line, shown, marked, found, same, -, below, -, covered⟩ := each 2 (by decide) (by decide)
  obtain rfl : ['3', '4'] = line := Option.some.inj found
  have wide : shown.length = 2 := by
    rw [same]
    rfl
  refine ⟨by decide, by decide, marked, below, ?_, ?_⟩
  · refine (covered 0 (by omega)).2.mpr (Or.inr ⟨rfl, ?_, rfl⟩)
    intro index lower upper
    obtain rfl | rfl | rfl | rfl : index = 1 ∨ index = 2 ∨ index = 3 ∨ index = 4 := by omega
    all_goals decide
  · intro caret
    rcases (covered 1 (by omega)).2.mp caret with ⟨-, inside⟩ | ⟨-, -, first⟩
    · exact absurd inside (by decide)
    · exact absurd first (by decide)

end ArithLex.Excerpt
