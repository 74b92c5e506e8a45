import ArithLex.Proofs.Excerpt
import ArithLex.Proofs.Text.Lines

set_option autoImplicit false

/-! An excerpt taken apart at its line feeds: under every line of the span that the text has stands
a row of carets, and nothing else is there. This holds of any two cursors, whatever text they are
from, and the loop that makes an excerpt line by line ends with the text. -/
namespace ArithLex.Excerpt

theorem lineFeed_not_mem_of_mem_lines {text line : List Char} (member : line ∈ lines text) :
    '\n' ∉ line := by
  induction text using Text.splitInduction with
  | last only inside =>
      rw [lines_last inside, List.mem_singleton] at member
      rw [member]
      exact inside
  | next first rest inside ih =>
      rw [lines_next inside, List.mem_cons] at member
      rcases member with rfl | below
      · exact inside
      · exact ih below

theorem lineFeed_not_mem_display {line : List Char} (inside : '\n' ∉ line) :
    '\n' ∉ display line := by
  rw [display_eq, List.mem_map]
  rintro ⟨c, member, shown⟩
  split at shown
  · cases shown
  · subst shown
    exact inside ((List.rdropWhile_prefix _ line).subset member)

theorem length_display_le (line : List Char) : (display line).length ≤ line.length := by
  rw [display_eq, List.length_map]
  exact (List.rdropWhile_prefix _ line).length_le

theorem lineFeed_not_mem_carets (left right : Nat) : '\n' ∉ carets left right := by
  simp [carets, List.mem_replicate]

/-- Some spaces, or none, and behind them at least one caret. -/
def IsCaretRow (row : List Char) : Prop :=
  ∃ spaces width, 0 < width ∧ row = List.replicate spaces ' ' ++ List.replicate width '^'

theorem isCaretRow_carets (left right : Nat) : IsCaretRow (carets left right) :=
  ⟨left, max (right - left) 1, by omega, rfl⟩

/-- The carets under a line of the span. -/
def marks (start stop : Cursor) (number : Nat) (line : List Char) : List Char :=
  carets (if number = start.line then start.indent else 0)
    (if number = max stop.line start.line then stop.indent else (display line).length)

theorem row_eq (start stop : Cursor) (number : Nat) (line : List Char) :
    row start stop number line = display line ++ '\n' :: marks start stop number line := rfl

/-- Above the last line of the span, the carets reach the end of the line. -/
theorem length_display_le_marks {start stop : Cursor} {number : Nat}
    (above : number < max stop.line start.line) (line : List Char) :
    (display line).length ≤ (marks start stop number line).length := by
  have notLast : number ≠ max stop.line start.line := Nat.ne_of_lt above
  simp only [marks, notLast, ↓reduceIte, carets, List.length_append, List.length_replicate]
  omega

section Pairs

variable {α : Type}

/-- Of two rows for every item of a list, the first stands at twice the index of the item. -/
theorem getElem?_flatMap_pair {β : Type} (items : List α) (first second : α → β) (index : Nat) :
    (items.flatMap fun item => [first item, second item])[2 * index]? =
        items[index]?.map first ∧
      (items.flatMap fun item => [first item, second item])[2 * index + 1]? =
        items[index]?.map second := by
  induction items generalizing index with
  | nil => simp
  | cons item rest ih =>
      cases index with
      | zero => simp
      | succ index => simpa [Nat.mul_add] using ih index

theorem intercalate_pair (mark : Char) (items : List α) (above below : α → List Char) :
    List.intercalate [mark] (items.map fun item => above item ++ mark :: below item) =
      List.intercalate [mark] (items.flatMap fun item => [above item, below item]) := by
  induction items with
  | nil => rfl
  | cons item rest ih =>
      cases rest with
      | nil => simp [List.intercalate_cons_cons]
      | cons next later =>
          simp only [List.map_cons, List.flatMap_cons, List.cons_append, List.nil_append,
            List.intercalate_cons_cons] at ih ⊢
          rw [ih]
          simp

end Pairs

section Spanned

variable (text : List Char) (start stop : Cursor)

/-- The lines of the span from a number on, as far as the text has them, with their numbers. -/
def numbered (number : Nat) : List (List Char × Nat) :=
  (((lines text).drop number).take (max stop.line start.line - number + 1)).zipIdx number

/-- The lines of the excerpt: each line of the span over its carets. -/
def printed : List (List Char) :=
  (numbered text start stop start.line).flatMap fun (line, number) =>
    [display line, marks start stop number line]

theorem rows_eq : rows text start stop =
    (numbered text start stop start.line).map fun (line, number) => row start stop number line :=
  rfl

variable {text start stop}

theorem numbered_nil {number : Nat} (absent : (lines text)[number]? = none) :
    numbered text start stop number = [] := by
  simp [numbered, List.drop_eq_nil_of_le (List.getElem?_eq_none_iff.mp absent)]

theorem numbered_last {line : List Char}
    (found : (lines text)[max stop.line start.line]? = some line) :
    numbered text start stop (max stop.line start.line) = [(line, max stop.line start.line)] := by
  obtain ⟨inside, same⟩ := List.getElem?_eq_some_iff.mp found
  rw [numbered, Nat.sub_self, List.drop_eq_getElem_cons inside, same]
  rfl

theorem numbered_cons {number : Nat} {line : List Char} (found : (lines text)[number]? = some line)
    (above : number < max stop.line start.line) :
    numbered text start stop number = (line, number) :: numbered text start stop (number + 1) := by
  obtain ⟨inside, same⟩ := List.getElem?_eq_some_iff.mp found
  have left : max stop.line start.line - number = max stop.line start.line - (number + 1) + 1 := by
    omega
  rw [numbered, numbered, List.drop_eq_getElem_cons inside, same, left]
  rfl

theorem length_numbered (begun : start.line < (lines text).length) :
    (numbered text start stop start.line).length =
      min (max start.line stop.line) ((lines text).length - 1) - start.line + 1 := by
  rw [numbered, List.length_zipIdx, List.length_take, List.length_drop]
  omega

theorem numbered_getElem? {number : Nat} {line : List Char} (lower : start.line ≤ number)
    (upper : number ≤ max start.line stop.line) (found : (lines text)[number]? = some line) :
    (numbered text start stop start.line)[number - start.line]? = some (line, number) := by
  have within : number - start.line < max stop.line start.line - start.line + 1 := by omega
  have again : start.line + (number - start.line) = number := by omega
  rw [numbered, List.getElem?_zipIdx, List.getElem?_take, if_pos within, List.getElem?_drop, again,
    found, Option.map_some]

theorem printed_getElem? {number : Nat} {line : List Char} (lower : start.line ≤ number)
    (upper : number ≤ max start.line stop.line) (found : (lines text)[number]? = some line) :
    (printed text start stop)[2 * (number - start.line)]? = some (display line) ∧
      (printed text start stop)[2 * (number - start.line) + 1]? =
        some (marks start stop number line) := by
  obtain ⟨shown, marked⟩ := getElem?_flatMap_pair (numbered text start stop start.line)
    (fun entry => display entry.1) (fun entry => marks start stop entry.2 entry.1)
    (number - start.line)
  rw [numbered_getElem? lower upper found] at shown marked
  exact ⟨shown, marked⟩

theorem length_printed (begun : start.line < (lines text).length) :
    (printed text start stop).length =
      2 * (min (max start.line stop.line) ((lines text).length - 1) - start.line + 1) := by
  have pairs : (printed text start stop).length =
      2 * (numbered text start stop start.line).length := by
    rw [printed, List.length_flatMap]
    simp [Nat.mul_comm]
  rw [pairs, length_numbered begun]

theorem lineFeed_not_mem_printed : ∀ row ∈ printed text start stop, '\n' ∉ row := by
  intro row member
  obtain ⟨⟨line, number⟩, spanned, place⟩ := List.mem_flatMap.mp member
  have onText : line ∈ lines text :=
    List.mem_of_mem_drop (List.mem_of_mem_take (List.fst_mem_of_mem_zipIdx spanned))
  rcases List.mem_pair.mp place with rfl | rfl
  · exact lineFeed_not_mem_display (lineFeed_not_mem_of_mem_lines onText)
  · exact lineFeed_not_mem_carets _ _

/-- Taken apart at its line feeds, an excerpt is the lines of the span and their carets. -/
theorem splitOn_render {source : String} (begun : start.line < (lines source.toList).length) :
    (render source start stop).toList.splitOn '\n' = printed source.toList start stop := by
  have some : printed source.toList start stop ≠ [] := by
    apply List.ne_nil_of_length_pos
    rw [length_printed begun]
    omega
  have joined := intercalate_pair '\n' (numbered source.toList start stop start.line)
    (fun entry => display entry.1) (fun entry => marks start stop entry.2 entry.1)
  calc (render source start stop).toList.splitOn '\n'
      = (List.intercalate ['\n'] (printed source.toList start stop)).splitOn '\n' := by
        rw [render, String.toList_ofList, rows_eq]
        simp only [row_eq]
        exact congrArg _ joined
    _ = printed source.toList start stop :=
        List.splitOn_intercalate '\n' lineFeed_not_mem_printed some

theorem rows_of_below (below : (lines text).length ≤ start.line) : rows text start stop = [] := by
  rw [rows_eq, numbered_nil (List.getElem?_eq_none below)]
  rfl

end Spanned

section Turns

variable (text : List Char) (start stop : Cursor)

/-- The loop that makes an excerpt, from a line number on, with the rows it makes and the number of
its turns. A turn that finds no line is the last one. Otherwise it makes the row of its line, and
the loop goes on with the next number unless this was the last number of the span. Nothing but that
number bounds the loop. -/
inductive Loop : Nat → List (List Char) → Nat → Prop where
  | missing {number : Nat} (absent : (lines text)[number]? = none) : Loop number [] 1
  | last {number : Nat} {line : List Char} (found : (lines text)[number]? = some line)
      (last : number = max stop.line start.line) : Loop number [row start stop number line] 1
  | again {number turns : Nat} {line : List Char} {later : List (List Char)}
      (found : (lines text)[number]? = some line) (above : number < max stop.line start.line)
      (next : Loop (number + 1) later turns) :
      Loop number (row start stop number line :: later) (turns + 1)

variable {text start stop}

/-- The loop takes a turn for every line that it shows, and one more if the text ends above the last
line of the span. -/
theorem Loop.result {number turns : Nat} {made : List (List Char)}
    (loop : Loop text start stop number made turns) :
    made =
        (numbered text start stop number).map (fun (line, number) => row start stop number line) ∧
      turns = min (max stop.line start.line) (lines text).length - number + 1 := by
  induction loop with
  | missing absent =>
      have behind := List.getElem?_eq_none_iff.mp absent
      rw [numbered_nil absent]
      exact ⟨rfl, by omega⟩
  | last found last =>
      have inside := (List.getElem?_eq_some_iff.mp found).1
      subst last
      rw [numbered_last found]
      exact ⟨rfl, by omega⟩
  | again found above _ ih =>
      have inside := (List.getElem?_eq_some_iff.mp found).1
      rw [numbered_cons found above, ih.1]
      exact ⟨rfl, by omega⟩

theorem exists_loop {number : Nat} (within : number ≤ max stop.line start.line) :
    ∃ made turns, Loop text start stop number made turns := by
  -- the text has fewer lines left with every turn
  induction left : (lines text).length - number using Nat.strongRecOn generalizing number with
  | ind left ih =>
      cases found : (lines text)[number]? with
      | none => exact ⟨[], 1, .missing found⟩
      | some line =>
          have inside := (List.getElem?_eq_some_iff.mp found).1
          by_cases last : number = max stop.line start.line
          · exact ⟨_, 1, .last found last⟩
          · have above : number < max stop.line start.line := by omega
            obtain ⟨later, turns, next⟩ :=
              ih ((lines text).length - (number + 1)) (by omega) above rfl
            exact ⟨_, _, .again found above next⟩

/-- The loop over a span makes the rows of its excerpt, and it has no other way to go. -/
theorem loop_iff (text : List Char) (start stop : Cursor) (made : List (List Char)) (turns : Nat) :
    Loop text start stop start.line made turns ↔
      made = rows text start stop ∧
        turns = min (max stop.line start.line) (lines text).length - start.line + 1 := by
  constructor
  · intro loop
    exact loop.result
  · rintro ⟨rfl, rfl⟩
    have spans : start.line ≤ max stop.line start.line := Nat.le_max_right _ _
    obtain ⟨made, turns, loop⟩ : ∃ made turns, Loop text start stop start.line made turns :=
      exists_loop spans
    obtain ⟨rfl, rfl⟩ := loop.result
    exact loop

end Turns

/-- An excerpt for any two cursors, of which the second may be above the first and each may be far
behind the text. A span that starts behind the last line shows nothing. Any other shows its lines
from the first to the last, as far as the text has them, each over a row of carets; if the text ends
above the last line of the span, the carets reach the end of every line. The loop over the line
numbers ends at the latest in the turn behind the last line of the text, however large the last
number is. -/
theorem render_any_cursors (text : String) (start stop : Cursor) :
    let lines := text.toList.splitOn '\n'
    let printed := (render text start stop).toList.splitOn '\n'
    let last := max start.line stop.line
    (lines.length ≤ start.line → render text start stop = "") ∧
    (start.line < lines.length →
      printed.length = 2 * (min last (lines.length - 1) - start.line + 1) ∧
      ∀ number line, start.line ≤ number → number ≤ last → lines[number]? = some line →
        ∃ shown marked,
          shown = (line.rdropWhile (· == '\r')).map (fun c => if c = '\t' then ' ' else c) ∧
          printed[2 * (number - start.line)]? = some shown ∧
          printed[2 * (number - start.line) + 1]? = some marked ∧ IsCaretRow marked ∧
          (lines.length ≤ last → shown.length ≤ marked.length)) ∧
    ∃ turns ≤ lines.length - start.line + 1, ∀ made count,
      Loop text.toList start stop start.line made count ↔
        made = rows text.toList start stop ∧ count = turns := by
  intro lines printed last
  have cut : lines = Excerpt.lines text.toList := rfl
  refine ⟨?_, ?_, ?_⟩
  · intro below
    rw [cut] at below
    rw [render, rows_of_below below]
    rfl
  · intro begun
    rw [cut] at begun
    have taken : printed = Excerpt.printed text.toList start stop := splitOn_render begun
    rw [taken, cut]
    refine ⟨length_printed begun, ?_⟩
    intro number line lower upper found
    obtain ⟨shown, marked⟩ := printed_getElem? lower upper found
    refine ⟨display line, marks start stop number line, display_eq line, shown, marked,
      isCaretRow_carets _ _, ?_⟩
    intro ends
    have inside := (List.getElem?_eq_some_iff.mp found).1
    apply length_display_le_marks
    omega
  · refine ⟨_, ?_, loop_iff text.toList start stop⟩
    rw [cut]
    omega

/-- A span down to the largest line number of a machine word, in a text of one line. -/
theorem render_any_cursors_last_word :
    ∃ turns ≤ 2, ∀ made count,
      Loop ['1'] ⟨0, 0, -1⟩ ⟨0, 18446744073709551615, -1⟩ 0 made count ↔
        made = [['1', '\n', '^']] ∧ count = turns :=
  (render_any_cursors "1" ⟨0, 0, -1⟩ ⟨0, 18446744073709551615, -1⟩).2.2

end ArithLex.Excerpt
