import ArithLex.Proofs.Excerpt.Rows
import ArithLex.Proofs.Report
import ArithLex.Proofs.Scan.Context

set_option autoImplicit false

/-! A failed scan as text, as a report and as JSON. The line, the column and the character are
worked out again for each of them, and each of them gives the same. -/
namespace ArithLex

namespace Text

/-- The end of a text behind the last occurrence of a mark: behind any other there is more. -/
def BehindLast (mark text rest : List Char) : Prop :=
  mark ++ rest <:+ text ∧ ∀ other, mark ++ other <:+ text → rest.length ≤ other.length

/-- A mark is the last one of its kind if the character that begins it does not occur again. -/
theorem behindLast_append {c : Char} {mark rest : List Char} (once : c ∉ mark) (absent : c ∉ rest)
    (front : List Char) : BehindLast (c :: mark) (front ++ (c :: mark ++ rest)) rest := by
  refine ⟨List.suffix_append _ _, ?_⟩
  intro other occurs
  by_contra shorter
  have behind : mark ++ rest <:+ front ++ (c :: mark ++ rest) :=
    (List.suffix_cons c (mark ++ rest)).trans (List.suffix_append _ _)
  have inside : c :: mark ++ other <:+ mark ++ rest := by
    apply List.suffix_of_suffix_length_le occurs behind
    simp only [List.cons_append, List.length_cons, List.length_append]
    omega
  have again : c ∈ mark ++ rest := inside.subset List.mem_cons_self
  rcases List.mem_append.mp again with member | member
  · exact once member
  · exact absent member

end Text

namespace Fault

/-- The last number of a message is the line, whatever the name of the file is. -/
theorem message_behindLast (fault : Fault) :
    Text.BehindLast "line ".toList fault.message.toList (toString fault.line).toList := by
  have digits : 'l' ∉ (toString fault.line).toList := by
    rw [Nat.toString_eq_repr, Nat.repr_eq_ofList_toDigits, String.toList_ofList]
    intro member
    have digit := Nat.isDigit_of_mem_toDigits (by decide) (by decide) member
    exact absurd digit (by decide)
  have cut : fault.message.toList =
      (fault.summary ++ "\nFile " ++ fault.source.name ++ ", ").toList ++
        ("line ".toList ++ (toString fault.line).toList) := by
    simp [message, String.toList_append]
  rw [cut]
  exact Text.behindLast_append (by decide) digits _

theorem lineFeed_not_mem_summary {fault : Fault} (inside : fault.char ≠ '\n') :
    '\n' ∉ fault.summary.toList := by
  simp [summary, title, detail, String.toList_append, Ne.symm inside]

/-- The first line of a message is its summary. -/
theorem takeWhile_message {fault : Fault} (inside : fault.char ≠ '\n') :
    fault.message.toList.takeWhile (· != '\n') = fault.summary.toList := by
  have unbroken : ∀ c ∈ fault.summary.toList, (c != '\n') = true := by
    intro c member
    have other : c ≠ '\n' := by
      rintro rfl
      exact lineFeed_not_mem_summary inside member
    simpa using other
  have cut : fault.message.toList = fault.summary.toList ++
      '\n' :: ("File " ++ fault.source.name ++ ", line " ++ toString fault.line).toList := by
    simp [message, String.toList_append]
  rw [cut, List.takeWhile_append_of_pos unbroken]
  simp

end Fault

namespace Scan

/-- The excerpt of a fault is two lines: the line of the source, and a caret behind as many spaces
as there are characters to the left of the fault. -/
theorem splitOn_context {name text : String} {fault : Fault}
    (failed : tokens ⟨name, text⟩ = .error fault) :
    fault.source = ⟨name, text⟩ ∧ fault.char ≠ '\n' ∧
      ∃ shown, fault.context.toList.splitOn '\n' =
        [shown, List.replicate fault.start.indent ' ' ++ ['^']] := by
  obtain ⟨before, c, rest, cut, refused, _, rfl⟩ := tokens_error_first failed
  have notFeed : c ≠ '\n' := by
    rintro rfl
    exact absurd (isBlank_of_not_admits refused) (by decide)
  refine ⟨rfl, notFeed, ?_⟩
  obtain ⟨back, later, found⟩ := Excerpt.line_of_char notFeed before rest
  rw [← cut] at found
  have member : Text.lastLine before ++ c :: back ∈ Excerpt.lines text.toList := by
    apply List.mem_of_mem_drop
    rw [found]
    exact List.mem_cons_self
  have unbroken := Excerpt.lineFeed_not_mem_display
    (Excerpt.lineFeed_not_mem_of_mem_lines member)
  have column : (Cursor.past before).indent = (Text.lastLine before).length := by
    rw [Cursor.past_eq]
    rfl
  have below : '\n' ∉ List.replicate (Text.lastLine before).length ' ' ++ ['^'] := by
    simp [List.mem_replicate]
  refine ⟨Excerpt.display (Text.lastLine before ++ c :: back), ?_⟩
  rw [Fault.context, Excerpt.render, Excerpt.rows_char notFeed found, List.intercalate_singleton,
    String.toList_ofList, ← Excerpt.lines, Excerpt.lines_next unbroken,
    Excerpt.lines_last below, column]

end Scan

namespace Style

theorem renderFailure_json (arrows : Bool) (failure : Failure) :
    renderFailure ⟨arrows, .json⟩ failure = (failure.report arrows).json.compact := by
  cases failure <;> rfl

theorem renderFailure_text (arrows : Bool) (fault : Fault) :
    renderFailure ⟨arrows, .text⟩ (.scan fault) =
      if arrows then fault.message ++ "\n\n" ++ fault.context else fault.message := rfl

end Style

namespace Failure

/-- A scan that failed is described in the same way everywhere. There are a line, a column, a
summary and an excerpt such that the message ends in the line and begins with a first line that is
the summary; the caret of the excerpt is in the column; the report holds all of them under the name
of the file, and only its context depends on whether arrows are shown; as text there is the message,
and with arrows the excerpt below it; and in JSON there is the report, member by member. -/
theorem renderings_agree {name text : String} {style : Style} {failure : Failure}
    (failed : (tokenize ⟨name, text⟩ style).result = .error failure) :
    ∃ (line column : Nat) (summary excerpt : String),
      failure.line? = some line ∧ failure.column? = some column ∧
      Text.BehindLast "line ".toList failure.message.toList (toString line).toList ∧
      failure.message.toList.takeWhile (· != '\n') = summary.toList ∧
      (∃ shown spaces, column = spaces + 1 ∧
        excerpt.toList.splitOn '\n' = [shown, List.replicate spaces ' ' ++ ['^']]) ∧
      (∀ arrows, failure.report arrows =
        { phase := "lexer"
          file := some name
          line := some line
          column := some column
          kind := "IllegalCharacter"
          message := summary
          context := if arrows then some excerpt else none }) ∧
      Style.renderFailure ⟨true, .text⟩ failure = failure.message ++ "\n" ++ "\n" ++ excerpt ∧
      Style.renderFailure ⟨false, .text⟩ failure = failure.message ∧
      ∀ arrows (tree : Document.Tree),
        tree.StandsIn (Style.renderFailure ⟨arrows, .json⟩ failure) ↔
          tree = .obj (
            [("phase", .str "lexer"),
             ("file", .str name),
             ("line", .number (Nat.toDigits 10 line)),
             ("column", .number (Nat.toDigits 10 column)),
             ("error_kind", .str "IllegalCharacter"),
             ("message", .str summary)]
            ++ if arrows then [("context", .str excerpt)] else []) := by
  obtain ⟨fault, scanned, rfl⟩ := tokenize_eq_error_iff.mp failed
  obtain ⟨source, inside, shown, excerpt⟩ := Scan.splitOn_context scanned
  have file : fault.source.name = name := by rw [source]
  have reported : ∀ arrows, (Failure.scan fault).report arrows =
      { phase := "lexer"
        file := some name
        line := some fault.line
        column := some fault.column
        kind := "IllegalCharacter"
        message := fault.summary
        context := if arrows then some fault.context else none } := by
    intro arrows
    rw [report, file]
    rfl
  refine ⟨fault.line, fault.column, fault.summary, fault.context, rfl, rfl,
    fault.message_behindLast, Fault.takeWhile_message inside,
    ⟨shown, fault.start.indent, rfl, excerpt⟩, reported, ?_,
    Style.renderFailure_text false fault, ?_⟩
  · have gap : fault.message ++ "\n" ++ "\n" = fault.message ++ "\n\n" := String.append_assoc
    rw [Style.renderFailure_text, if_pos rfl, ← gap]
    rfl
  · intro arrows tree
    rw [Style.renderFailure_json, reported, Json.compact,
      Json.standsIn_write_iff Json.Layout.compact_blank, Report.tree_json]
    cases arrows <;> rfl

/-- The file is called as if it had a line number. -/
theorem renderings_agree_numbered_name :
    (tokenize ⟨"line 9", "1\n\t2 ?"⟩ {}).result =
        .error (.scan ⟨⟨"line 9", "1\n\t2 ?"⟩, ⟨5, 1, 3⟩, ⟨6, 1, 4⟩, '?'⟩) ∧
      Text.BehindLast "line ".toList "Illegal Character: '?'\nFile line 9, line 2".toList
        ['2'] := by
  have failed : (tokenize ⟨"line 9", "1\n\t2 ?"⟩ {}).result =
      .error (.scan ⟨⟨"line 9", "1\n\t2 ?"⟩, ⟨5, 1, 3⟩, ⟨6, 1, 4⟩, '?'⟩) := by decide +kernel
  obtain ⟨line, column, _, _, atLine, _, behind, _⟩ := renderings_agree failed
  obtain rfl : 2 = line := Option.some.inj atLine
  exact ⟨failed, behind⟩

end Failure
end ArithLex
