import ArithLex.Source
import Mathlib.Data.List.DropRight
import Mathlib.Data.List.Induction

set_option autoImplicit false

/-! Cursors past a text, and past one text behind another. -/
namespace ArithLex

namespace Text

/-- What stands behind the last line feed of a text: all of it if there is none. -/
def lastLine (text : List Char) : List Char := text.rtakeWhile (· != '\n')

@[simp] theorem lastLine_nil : lastLine [] = [] := rfl

@[simp] theorem lastLine_concat_lineFeed (text : List Char) : lastLine (text ++ ['\n']) = [] :=
  List.rtakeWhile_concat_neg _ _ _ (by decide)

theorem lastLine_concat {c : Char} (inside : c ≠ '\n') (text : List Char) :
    lastLine (text ++ [c]) = lastLine text ++ [c] :=
  List.rtakeWhile_concat_pos _ _ _ (by simpa using inside)

theorem lastLine_of_no_lineFeed {text : List Char} (inside : '\n' ∉ text) :
    lastLine text = text := by
  rw [lastLine, List.rtakeWhile_eq_self_iff]
  intro c member
  have other : c ≠ '\n' := by
    rintro rfl
    exact inside member
  simpa using other

end Text

namespace Cursor

@[simp] theorem advance_index (cursor : Cursor) (consumed : Option Char) :
    (cursor.advance consumed).index = cursor.index + 1 := by
  unfold advance
  split <;> rfl

theorem advance_of_ne {c : Char} (inside : c ≠ '\n') (cursor : Cursor) :
    cursor.advance (some c) = ⟨cursor.index + 1, cursor.line, cursor.column + 1⟩ := by
  simp only [advance, Option.some.injEq, inside, ↓reduceIte]

@[simp] theorem advance_lineFeed (cursor : Cursor) :
    cursor.advance (some '\n') = ⟨cursor.index + 1, cursor.line + 1, 0⟩ := rfl

/-- The index counts the characters passed, the line counts the line feeds among them, and the
column counts the characters behind the last of those. -/
theorem past_eq (consumed : List Char) :
    past consumed =
      ⟨consumed.length, consumed.count '\n', (Text.lastLine consumed).length⟩ := by
  induction consumed using List.reverseRecOn with
  | nil => rfl
  | append_singleton consumed c ih =>
      rw [past_concat, ih]
      by_cases ends : c = '\n'
      · subst ends
        simp
      · rw [advance_of_ne ends, Text.lastLine_concat ends]
        simp [List.count_append, ends]

@[simp] theorem past_index (consumed : List Char) : (past consumed).index = consumed.length := by
  rw [past_eq]

/-- A cursor of a text of its own, as it stands where that text begins at `base`. Columns count on
from `base` as long as the line does not end. -/
def rebase (base cursor : Cursor) : Cursor :=
  ⟨base.index + cursor.index, base.line + cursor.line,
    if cursor.line = 0 then base.column + cursor.column else cursor.column⟩

@[simp] theorem rebase_index (base cursor : Cursor) :
    (base.rebase cursor).index = base.index + cursor.index := rfl

@[simp] theorem rebase_line (base cursor : Cursor) :
    (base.rebase cursor).line = base.line + cursor.line := rfl

@[simp] theorem rebase_start (base : Cursor) : base.rebase start = base := by
  change (⟨base.index + 0, base.line + 0, base.column + 0⟩ : Cursor) = base
  simp only [Int.add_zero, Nat.add_zero]

@[simp] theorem start_rebase (cursor : Cursor) : start.rebase cursor = cursor := by
  change (⟨0 + cursor.index, 0 + cursor.line,
    if cursor.line = 0 then 0 + cursor.column else cursor.column⟩ : Cursor) = cursor
  simp only [Int.zero_add, Nat.zero_add, ite_self]

/-- Behind a line feed, columns are those of the text itself. -/
theorem rebase_column_of_zero {base : Cursor} (fresh : base.column = 0) (cursor : Cursor) :
    (base.rebase cursor).column = cursor.column := by
  simp only [rebase, fresh, Int.zero_add, ite_self]

theorem rebase_advance (base cursor : Cursor) (c : Char) :
    (base.rebase cursor).advance (some c) = base.rebase (cursor.advance (some c)) := by
  by_cases ends : c = '\n'
  · subst ends
    simp only [advance_lineFeed, rebase, Nat.add_eq_zero_iff, Nat.one_ne_zero, and_false,
      ↓reduceIte, Nat.add_assoc, Int.add_assoc]
  · rw [advance_of_ne ends, advance_of_ne ends]
    by_cases first : cursor.line = 0 <;>
      simp only [rebase, first, ↓reduceIte, Int.add_assoc]

/-- Past two texts in a row is past the second, counted from the end of the first. -/
theorem past_append (first second : List Char) :
    past (first ++ second) = (past first).rebase (past second) := by
  induction second using List.reverseRecOn with
  | nil => rw [List.append_nil, past_nil, rebase_start]
  | append_singleton second c ih =>
      rw [← List.append_assoc, past_concat, past_concat, ih, rebase_advance]

/-- Without line feeds, a text stays on its first line and its columns are its indices. -/
theorem past_of_no_lineFeed {consumed : List Char} (inside : '\n' ∉ consumed) :
    past consumed = ⟨consumed.length, 0, consumed.length⟩ := by
  rw [past_eq, List.count_eq_zero_of_not_mem inside, Text.lastLine_of_no_lineFeed inside]

/-- The place `whole` is the place `alone` of a text, once the text `before` stands in front of it.
Only on the first line do columns count on from the last line of `before`. -/
structure Behind (before : List Char) (alone whole : Cursor) : Prop where
  index : whole.index = before.length + alone.index
  line : whole.line = before.count '\n' + alone.line
  laterColumn : 0 < alone.line → whole.column = alone.column
  firstColumn : alone.line = 0 → whole.column = alone.column + (Text.lastLine before).length

theorem behind_rebase (before : List Char) (cursor : Cursor) :
    Behind before cursor ((past before).rebase cursor) := by
  rw [past_eq]
  refine ⟨rfl, rfl, ?_, ?_⟩
  · intro later
    have notFirst : cursor.line ≠ 0 := by omega
    simp only [rebase, notFirst, ↓reduceIte]
  · intro first
    simp only [rebase, first, ↓reduceIte]
    omega

end Cursor
end ArithLex
