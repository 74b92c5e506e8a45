import ArithLex.Proofs.Excerpt
import ArithLex.Proofs.Text.Lines
import Mathlib.Data.Prod.Lex

set_option autoImplicit false

/-! The places of a text, by their index and by their line and column. The cursor past the first
characters of a text counts both; here the index is found from the lines of the text alone, and both
ways to name a place agree and are in the same order. -/
namespace ArithLex.Excerpt

/-- The index of a column of a line: all lines above it come first, each with its line feed. -/
def indexAt (text : List Char) (number column : Nat) : Nat :=
  (((lines text).take number).flatMap (· ++ ['\n'])).length + column

/-- The text has the line, and the column is on it or right behind it. -/
def HasPlace (text : List Char) (number column : Nat) : Prop :=
  ∃ line, (lines text)[number]? = some line ∧ column ≤ line.length

@[simp] theorem indexAt_zero (text : List Char) (column : Nat) :
    indexAt text 0 column = column := by
  simp [indexAt]

theorem indexAt_next {first : List Char} (inside : '\n' ∉ first) (rest : List Char)
    (number column : Nat) :
    indexAt (first ++ '\n' :: rest) (number + 1) column =
      first.length + 1 + indexAt rest number column := by
  simp only [indexAt, lines_next inside, List.take_succ_cons, List.flatMap_cons, List.length_append,
    List.length_singleton]
  omega

theorem HasPlace.lt {text : List Char} {number column : Nat} (place : HasPlace text number column) :
    number < (lines text).length := by
  obtain ⟨line, found, -⟩ := place
  exact (List.getElem?_eq_some_iff.mp found).1

theorem hasPlace_last {line : List Char} (inside : '\n' ∉ line) {number column : Nat} :
    HasPlace line number column ↔ number = 0 ∧ column ≤ line.length := by
  cases number <;> simp [HasPlace, lines_last inside]

theorem hasPlace_first {first : List Char} (inside : '\n' ∉ first) {rest : List Char}
    {column : Nat} : HasPlace (first ++ '\n' :: rest) 0 column ↔ column ≤ first.length := by
  simp [HasPlace, lines_next inside]

theorem hasPlace_next {first : List Char} (inside : '\n' ∉ first) {rest : List Char}
    {number column : Nat} :
    HasPlace (first ++ '\n' :: rest) (number + 1) column ↔ HasPlace rest number column := by
  simp [HasPlace, lines_next inside]

/-- Every index of a text, and the one behind it, is that of a place. -/
theorem exists_place {text : List Char} {index : Nat} (within : index ≤ text.length) :
    ∃ number column, HasPlace text number column ∧ index = indexAt text number column := by
  induction text using Text.splitInduction generalizing index with
  | last line inside => exact ⟨0, index, (hasPlace_last inside).mpr ⟨rfl, within⟩, by simp⟩
  | next first rest inside ih =>
      by_cases above : index ≤ first.length
      · exact ⟨0, index, (hasPlace_first inside).mpr above, by simp⟩
      · have lower : index - (first.length + 1) ≤ rest.length := by
          rw [List.length_append, List.length_cons] at within
          omega
        obtain ⟨number, column, place, same⟩ := ih lower
        refine ⟨number + 1, column, (hasPlace_next inside).mpr place, ?_⟩
        rw [indexAt_next inside, ← same]
        omega

theorem past_first_line {first : List Char} (inside : '\n' ∉ first) {column : Nat}
    (within : column ≤ first.length) : Cursor.past (first.take column) = ⟨column, 0, column⟩ := by
  have unbroken : '\n' ∉ first.take column := fun member => inside (List.mem_of_mem_take member)
  rw [Cursor.past_of_no_lineFeed unbroken, List.length_take_of_le within]

/-- The cursor that has come to the index of a place has counted its line and column. -/
theorem past_indexAt {text : List Char} {number column : Nat}
    (place : HasPlace text number column) :
    Cursor.past (text.take (indexAt text number column)) =
      ⟨indexAt text number column, number, column⟩ := by
  induction text using Text.splitInduction generalizing number with
  | last line inside =>
      obtain ⟨rfl, within⟩ := (hasPlace_last inside).mp place
      rw [indexAt_zero]
      exact past_first_line inside within
  | next first rest inside ih =>
      cases number with
      | zero =>
          have within := (hasPlace_first inside).mp place
          rw [indexAt_zero, List.take_append_of_le_length within]
          exact past_first_line inside within
      | succ number =>
          have below := ih ((hasPlace_next inside).mp place)
          have above : Cursor.past (first ++ ['\n']) = ⟨first.length + 1, 1, 0⟩ := by
            rw [Cursor.past_concat, Cursor.past_of_no_lineFeed inside, Cursor.advance_lineFeed]
          have taken :
              (first ++ '\n' :: rest).take (first.length + 1 + indexAt rest number column) =
                first ++ ['\n'] ++ rest.take (indexAt rest number column) := by
            rw [List.append_cons, ← List.take_length_add_append, List.length_append,
              List.length_singleton]
          rw [indexAt_next inside, taken, Cursor.past_append, above, below]
          simp [Cursor.rebase, Nat.add_comm]

theorem HasPlace.indexAt_le {text : List Char} {number column : Nat}
    (place : HasPlace text number column) : indexAt text number column ≤ text.length := by
  have counted : ((text.take (indexAt text number column)).length : Int) =
      indexAt text number column := by
    rw [← Cursor.past_index, past_indexAt place]
  rw [List.length_take] at counted
  omega

/-- Indices are in the order of lines, and on a line in the order of columns. -/
theorem indexAt_lt_iff {text : List Char} {number column otherNumber otherColumn : Nat}
    (place : HasPlace text number column) (other : HasPlace text otherNumber otherColumn) :
    indexAt text number column < indexAt text otherNumber otherColumn ↔
      number < otherNumber ∨ number = otherNumber ∧ column < otherColumn := by
  induction text using Text.splitInduction generalizing number otherNumber with
  | last line inside =>
      obtain ⟨rfl, -⟩ := (hasPlace_last inside).mp place
      obtain ⟨rfl, -⟩ := (hasPlace_last inside).mp other
      simp
  | next first rest inside ih =>
      cases number with
      | zero =>
          have within := (hasPlace_first inside).mp place
          cases otherNumber with
          | zero => simp
          | succ otherNumber =>
              rw [indexAt_zero, indexAt_next inside]
              omega
      | succ number =>
          cases otherNumber with
          | zero =>
              have within := (hasPlace_first inside).mp other
              rw [indexAt_zero, indexAt_next inside]
              omega
          | succ otherNumber =>
              have below := ih ((hasPlace_next inside).mp place) ((hasPlace_next inside).mp other)
              rw [indexAt_next inside, indexAt_next inside]
              omega

/-- The first line begins as the text does, unless the text begins with the end of that line. -/
theorem head?_of_lines_eq {text first : List Char} {later : List (List Char)}
    (cut : lines text = first :: later) : first.head? = text.head?.filter (· != '\n') := by
  cases text with
  | nil =>
      cases cut
      rfl
  | cons c rest =>
      by_cases ends : c = '\n'
      · subst ends
        cases cut
        rfl
      · obtain ⟨line, below, behind⟩ := List.exists_cons_of_ne_nil (lines_ne_nil rest)
        rw [lines_cons ends behind] at cut
        cases cut
        simp [Option.filter_some, ends]

/-- The line of the cursor at an index is what it has passed of that line, and behind this the rest,
which begins with the character at the index unless the line ends there. -/
theorem line_at (text : List Char) (index : Nat) :
    ∃ rest, (lines text)[(Cursor.past (text.take index)).line]? =
        some (Text.lastLine (text.take index) ++ rest) ∧
      rest.head? = text[index]?.filter (· != '\n') := by
  obtain ⟨rest, later, cut⟩ := List.exists_cons_of_ne_nil (lines_ne_nil (text.drop index))
  have found := drop_lines (text.take index) cut
  rw [List.take_append_drop] at found
  refine ⟨rest, ?_, ?_⟩
  · rw [Cursor.past_eq, ← List.head?_drop, found, List.head?_cons]
  · rw [head?_of_lines_eq cut, List.head?_drop]

/-- Indices and cursors order a text in the same way, cursors by their lines and on a line by their
columns. The line and column of a cursor are those of its character among the lines of the text; on
a line feed or behind the text they are those of the end of a line. -/
theorem past_places (text : String) :
    let chars := text.toList
    let place (index : Nat) : Cursor := .past (chars.take index)
    (∀ index other, index ≤ text.length → other ≤ text.length →
      (index < other ↔ toLex ((place index).line, (place index).column) <
        toLex ((place other).line, (place other).column))) ∧
    ∀ index ≤ text.length, (place index).index = index ∧
      ∃ (ownLine : List Char) (column : Nat),
        (chars.splitOn '\n')[(place index).line]? = some ownLine ∧
        (place index).column = column ∧
        (∀ c, chars[index]? = some c → c ≠ '\n' → ownLine[column]? = some c) ∧
        (index = text.length ∨ chars[index]? = some '\n' → column = ownLine.length) := by
  intro chars place
  have size : chars.length = text.length := String.length_toList
  constructor
  · intro index other within withinToo
    rw [← size] at within withinToo
    obtain ⟨number, column, here, rfl⟩ := exists_place within
    obtain ⟨otherNumber, otherColumn, there, rfl⟩ := exists_place withinToo
    have first : place (indexAt chars number column) = _ := past_indexAt here
    have second : place (indexAt chars otherNumber otherColumn) = _ := past_indexAt there
    rw [indexAt_lt_iff here there, first, second, Prod.Lex.toLex_lt_toLex, Int.ofNat_lt]
  · intro index within
    obtain ⟨rest, found, head⟩ := line_at chars index
    have place_eq : place index = _ := Cursor.past_eq (chars.take index)
    refine ⟨?_, Text.lastLine (chars.take index) ++ rest, (Text.lastLine (chars.take index)).length,
      ?_, ?_, ?_, ?_⟩
    · rw [place_eq, List.length_take_of_le (by omega)]
    · rw [← lines]
      exact found
    · rw [place_eq]
    · intro c here inside
      have begins : rest.head? = some c := by
        rw [head, here, Option.filter_some, if_pos (by simpa using inside)]
      rw [List.getElem?_append_right (Nat.le_refl _), Nat.sub_self, ← List.head?_eq_getElem?,
        begins]
    · intro ends
      have nothing : rest.head? = none := by
        rw [head]
        rcases ends with behind | lineFeed
        · rw [List.getElem?_eq_none (by omega)]
          rfl
        · rw [lineFeed]
          rfl
      rw [List.head?_eq_none_iff.mp nothing, List.append_nil]

theorem past_places_behind_empty_line :
    2 ≤ "1\n\n+".length ∧ 3 ≤ "1\n\n+".length ∧
      toLex ((Cursor.past ['1', '\n']).line, (Cursor.past ['1', '\n']).column) <
        toLex ((Cursor.past ['1', '\n', '\n']).line, (Cursor.past ['1', '\n', '\n']).column) ∧
      (∃ ownLine column, ("1\n\n+".toList.splitOn '\n')[1]? = some ownLine ∧
        (Cursor.past ['1', '\n']).column = (column : Nat) ∧ column = ownLine.length) ∧
      ∃ ownLine column, ("1\n\n+".toList.splitOn '\n')[2]? = some ownLine ∧
        (Cursor.past ['1', '\n', '\n']).column = (column : Nat) ∧ ownLine[column]? = some '+' := by
  obtain ⟨ordered, standing⟩ := past_places "1\n\n+"
  obtain ⟨-, empty, column, found, counted, -, ends⟩ := standing 2 (by decide)
  obtain ⟨-, last, lastColumn, foundLast, countedLast, stands, -⟩ := standing 3 (by decide)
  exact ⟨by decide, by decide, (ordered 2 3 (by decide) (by decide)).mp (by decide),
    ⟨empty, column, found, counted, ends (Or.inr rfl)⟩,
    ⟨last, lastColumn, foundLast, countedLast, stands '+' rfl (by decide)⟩⟩

end ArithLex.Excerpt
