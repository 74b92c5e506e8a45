import ArithLex.Proofs.Excerpt
import ArithLex.Proofs.Scan.Admissible

set_option autoImplicit false

/-! The excerpt of a fault. Its place is counted while the text is scanned, and its excerpt is cut
out of the text by line feeds afterwards; the two meet under the caret. -/
namespace ArithLex.Scan

open Token (isBlank)

theorem isBlank_of_not_admits {before : List Char} {c : Char} (refused : ¬ Admits before c) :
    isBlank c = false := by
  by_contra blank
  exact refused (Or.inl (by simpa using blank))

/-- The excerpt of a fault is the line it is on, without carriage returns at its end and with spaces
for tabs, over a single caret. The caret is in the column of the fault, and above it stands the
character that the text has at the index of the fault. -/
theorem context_of_fault {name text : String} {fault : Fault}
    (failed : tokens ⟨name, text⟩ = .error fault) :
    ∃ (column : Nat) (line shown : List Char),
      fault.start.column = column ∧
      (text.toList.splitOn '\n')[fault.start.line]? = some line ∧
      shown = (line.rdropWhile (· == '\r')).map (fun c => if c = '\t' then ' ' else c) ∧
      fault.context = String.ofList (shown ++ '\n' :: (List.replicate column ' ' ++ ['^'])) ∧
      column < shown.length ∧ shown[column]? = some fault.char ∧
      (∃ index : Nat, fault.start.index = index ∧ text.toList[index]? = some fault.char) ∧
      fault.detail = "'" ++ String.singleton fault.char ++ "'" := by
  obtain ⟨before, c, rest, cut, refused, _, rfl⟩ := tokens_error_first failed
  have other (blank : Char) (isBlank : Token.isBlank blank = true) : c ≠ blank := by
    intro same
    rw [← same, isBlank_of_not_admits refused] at isBlank
    cases isBlank
  have notFeed := other '\n' rfl
  obtain ⟨back, later, found⟩ := Excerpt.line_of_char notFeed before rest
  rw [← cut] at found
  have above := Excerpt.display_getElem? (other '\r' rfl) (other '\t' rfl)
    (Text.lastLine before) back
  refine ⟨(Text.lastLine before).length, Text.lastLine before ++ c :: back,
    Excerpt.display (Text.lastLine before ++ c :: back), ?_, ?_, Excerpt.display_eq _, ?_,
    (List.getElem?_eq_some_iff.mp above).1, above, ⟨before.length, ?_, ?_⟩, rfl⟩
  · rw [Cursor.past_eq]
  · rw [← Excerpt.lines, Cursor.past_eq, ← List.head?_drop, found, List.head?_cons]
  · rw [Fault.context, Excerpt.render, Excerpt.rows_char notFeed found,
      List.intercalate_singleton]
  · exact Cursor.past_index before
  · rw [cut, List.getElem?_append_right (Nat.le_refl _), Nat.sub_self, List.getElem?_cons_zero]

theorem context_of_fault_between_tab_and_return :
    tokens ⟨"sum", "1\n\t2 &3\r\n"⟩ =
      .error ⟨⟨"sum", "1\n\t2 &3\r\n"⟩, ⟨5, 1, 3⟩, ⟨6, 1, 4⟩, '&'⟩ ∧
    (⟨⟨"sum", "1\n\t2 &3\r\n"⟩, ⟨5, 1, 3⟩, ⟨6, 1, 4⟩, '&'⟩ : Fault).context = " 2 &3\n   ^" := by
  have failed : tokens ⟨"sum", "1\n\t2 &3\r\n"⟩ =
      .error ⟨⟨"sum", "1\n\t2 &3\r\n"⟩, ⟨5, 1, 3⟩, ⟨6, 1, 4⟩, '&'⟩ := by decide
  obtain ⟨column, line, shown, atColumn, onLine, rfl, context, _⟩ := context_of_fault failed
  have third : column = 3 := by
    change (3 : Int) = column at atColumn
    omega
  have second : ['\t', '2', ' ', '&', '3', '\r'] = line := Option.some.inj onLine
  refine ⟨failed, ?_⟩
  rw [context, third, ← second]
  rfl

end ArithLex.Scan
