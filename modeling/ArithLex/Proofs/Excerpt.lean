import ArithLex.Excerpt
import ArithLex.Proofs.Cursor

set_option autoImplicit false

/-! The lines of a text and how they are shown, and excerpts of a text that other text surrounds:
what is above the span or behind its last line does not show. -/
namespace ArithLex.Excerpt

@[simp] theorem lines_lineFeed (rest : List Char) : lines ('\n' :: rest) = [] :: lines rest := rfl

theorem lines_cons {c : Char} (inside : c ≠ '\n') {rest first : List Char}
    {later : List (List Char)} (behind : lines rest = first :: later) :
    lines (c :: rest) = (c :: first) :: later := by
  unfold lines at behind ⊢
  rw [List.splitOn_cons_eq_if_modifyHead, if_neg (by simpa using inside), behind,
    List.modifyHead_cons]

theorem lines_append {line tail first : List Char} {later : List (List Char)}
    (inside : '\n' ∉ line) (behind : lines tail = first :: later) :
    lines (line ++ tail) = (line ++ first) :: later := by
  induction line with
  | nil => exact behind
  | cons c line ih =>
      rw [List.mem_cons, not_or] at inside
      exact lines_cons (Ne.symm inside.1) (ih inside.2)

theorem lines_next {line : List Char} (inside : '\n' ∉ line) (rest : List Char) :
    lines (line ++ '\n' :: rest) = line :: lines rest :=
  List.splitOn_append_cons_self_of_not_mem inside rest

theorem lines_last {line : List Char} (inside : '\n' ∉ line) : lines line = [line] :=
  List.splitOn_eq_singleton inside

theorem lines_ne_nil (text : List Char) : lines text ≠ [] := List.splitOn_ne_nil '\n' text

/-- Behind the line feeds of `before`, the last line of `before` goes on with the first line of
what follows. -/
theorem drop_lines (before : List Char) {tail first : List Char} {later : List (List Char)}
    (behind : lines tail = first :: later) :
    (lines (before ++ tail)).drop (before.count '\n') =
      (Text.lastLine before ++ first) :: later := by
  induction before using List.reverseRecOn generalizing tail first later with
  | nil => exact behind
  | append_singleton before c ih =>
      rw [List.append_assoc, List.singleton_append, List.count_append]
      by_cases ends : c = '\n'
      · subst ends
        have above := ih (lines_lineFeed tail)
        rw [List.count_singleton_self, ← List.drop_drop, above, Text.lastLine_concat_lineFeed,
          behind]
        rfl
      · have above := ih (lines_cons ends behind)
        rw [List.count_singleton, if_neg (by simpa using ends), Nat.add_zero, above,
          Text.lastLine_concat ends, List.append_assoc, List.singleton_append]

theorem display_eq (line : List Char) :
    display line = (line.rdropWhile (· == '\r')).map fun c => if c = '\t' then ' ' else c := by
  simp only [display, List.rdropWhile, beq_iff_eq]

/-- A character that is neither a carriage return nor a tab shows in its own column. -/
theorem display_getElem? {c : Char} (notReturn : c ≠ '\r') (notTab : c ≠ '\t')
    (front back : List Char) : (display (front ++ c :: back))[front.length]? = some c := by
  have kept : (front ++ c :: back).rdropWhile (· == '\r') =
      front ++ c :: back.rdropWhile (· == '\r') := by
    induction back using List.reverseRecOn with
    | nil => exact List.rdropWhile_concat_neg _ _ _ (by simpa using notReturn)
    | append_singleton back d ih =>
        rw [← List.cons_append, ← List.append_assoc]
        by_cases ends : d = '\r'
        · rw [List.rdropWhile_concat_pos _ _ _ (by simpa using ends), ih,
            List.rdropWhile_concat_pos _ _ _ (by simpa using ends)]
        · rw [List.rdropWhile_concat_neg _ _ _ (by simpa using ends),
            List.rdropWhile_concat_neg _ _ _ (by simpa using ends)]
          simp
  rw [display_eq, kept]
  simp [notTab]

theorem display_append_returns {returns : List Char} (blank : ∀ c ∈ returns, c = '\r')
    (line : List Char) : display (line ++ returns) = display line := by
  have dropped : (returns.reverse ++ line.reverse).dropWhile (· == '\r') =
      line.reverse.dropWhile (· == '\r') := by
    apply List.dropWhile_append_of_pos
    intro c member
    simp [blank c (List.mem_reverse.mp member)]
  rw [display, display, List.reverse_append, dropped]

/-- A span within a line shows that line alone. -/
theorem rows_single {text line : List Char} {later : List (List Char)} {start stop : Cursor}
    (found : (lines text).drop start.line = line :: later) (together : stop.line = start.line) :
    rows text start stop = [row start stop start.line line] := by
  simp [rows, found, together]

theorem rows_first {text first : List Char} {later : List (List Char)} {start stop : Cursor}
    (cut : lines text = first :: later) (startFirst : start.line = 0) (stopFirst : stop.line = 0) :
    rows text start stop = [row start stop 0 first] := by
  have found : (lines text).drop start.line = first :: later := by
    rw [startFirst, List.drop_zero, cut]
  rw [rows_single found (stopFirst.trans startFirst.symm), startFirst]

/-- A span of one character has one caret, under that character. -/
theorem row_single {start stop : Cursor} (together : stop.line = start.line)
    (next : stop.indent = start.indent + 1) (line : List Char) :
    row start stop start.line line =
      display line ++ '\n' :: (List.replicate start.indent ' ' ++ ['^']) := by
  simp [row, together, next, carets]

/-- The line of a character is what stands before it on the line, the character, and more. -/
theorem line_of_char {c : Char} (inside : c ≠ '\n') (before rest : List Char) :
    ∃ back later, (lines (before ++ c :: rest)).drop (before.count '\n') =
      (Text.lastLine before ++ c :: back) :: later := by
  obtain ⟨back, later, behind⟩ := List.exists_cons_of_ne_nil (lines_ne_nil rest)
  exact ⟨back, later, drop_lines before (lines_cons inside behind)⟩

/-- The excerpt of one character is its line, over a caret in its column. -/
theorem rows_char {text before line : List Char} {later : List (List Char)} {c : Char}
    (inside : c ≠ '\n') (found : (lines text).drop (before.count '\n') = line :: later) :
    rows text (.past before) (.past (before ++ [c])) =
      [display line ++ '\n' :: (List.replicate (Text.lastLine before).length ' ' ++ ['^'])] := by
  have start := Cursor.past_eq before
  have stop := Cursor.past_concat before c
  rw [Cursor.advance_of_ne inside, start] at stop
  have place : (lines text).drop (Cursor.past before).line = line :: later := by
    rw [start]
    exact found
  have together : (Cursor.past (before ++ [c])).line = (Cursor.past before).line := by
    rw [start, stop]
  have next : (Cursor.past (before ++ [c])).indent = (Cursor.past before).indent + 1 := by
    rw [start, stop]
    simp only [Cursor.indent]
    omega
  have column : (Cursor.past before).indent = (Text.lastLine before).length := by
    rw [start]
    rfl
  rw [rows_single place together, row_single together next, column]

theorem row_congr {start stop : Cursor} {number : Nat} {line other : List Char}
    (same : display line = display other) :
    row start stop number line = row start stop number other := by
  simp only [row, same]

/-- On a first line, carriage returns and all that follows them in the text do not show. -/
theorem rows_surrounded {line tail : List Char} {returns : List Char} {later : List (List Char)}
    (inside : '\n' ∉ line) (behind : lines tail = returns :: later)
    (blank : ∀ c ∈ returns, c = '\r') {start stop : Cursor} (startFirst : start.line = 0)
    (stopFirst : stop.line = 0) : rows (line ++ tail) start stop = rows line start stop := by
  rw [rows_first (lines_append inside behind) startFirst stopFirst,
    rows_first (lines_last inside) startFirst stopFirst,
    row_congr (display_append_returns blank line)]

/-- A line put above the text moves the span down and shows nothing of itself. -/
theorem rows_next {line : List Char} (inside : '\n' ∉ line) (rest : List Char)
    {start stop lowerStart lowerStop : Cursor}
    (startLine : lowerStart.line = start.line + 1) (startColumn : lowerStart.column = start.column)
    (stopLine : lowerStop.line = stop.line + 1) (stopColumn : lowerStop.column = stop.column) :
    rows (line ++ '\n' :: rest) lowerStart lowerStop = rows rest start stop := by
  have moved (number : Nat) (shown : List Char) :
      row lowerStart lowerStop (number + 1) shown = row start stop number shown := by
    simp only [row, Cursor.indent, startLine, stopLine, startColumn, stopColumn,
      Nat.add_max_add_right, Nat.add_right_cancel_iff]
  simp only [rows, lines_next inside, startLine, stopLine, List.drop_succ_cons,
    Nat.add_max_add_right, Nat.add_sub_add_right, List.zipIdx_succ, List.map_map]
  apply List.map_congr_left
  rintro ⟨shown, number⟩ _
  exact moved number shown

end ArithLex.Excerpt
