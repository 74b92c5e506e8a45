import ArithLex.Proofs.Excerpt
import ArithLex.Proofs.Scan.Admissible
import ArithLex.Proofs.Scan.Resume
import ArithLex.Proofs.Text.Lines

set_option autoImplicit false

/-! A text scanned as a whole, against its lines trimmed and scanned one by one. Both find the same
tokens, and both show the same first fault. -/
namespace ArithLex

namespace Fault

/-- The faults name the same character in the same column and show the same excerpt. -/
structure Alike (fault other : Fault) : Prop where
  detail : fault.detail = other.detail
  column : fault.column = other.column
  context : fault.context = other.context

theorem Alike.symm {fault other : Fault} (alike : fault.Alike other) : other.Alike fault :=
  ⟨alike.detail.symm, alike.column.symm, alike.context.symm⟩

theorem Alike.trans {first second third : Fault} (one : first.Alike second)
    (two : second.Alike third) : first.Alike third :=
  ⟨one.detail.trans two.detail, one.column.trans two.column, one.context.trans two.context⟩

end Fault

namespace Scan

open Token (isBlank)

/-- What the shell makes of a line. -/
def scanLine (name : String) (line : List Char) : Except Fault (List Token) :=
  tokens ⟨name, Shell.trim (String.ofList line)⟩

theorem scanLine_lineFeed (name : String) (line : List Char) :
    scanLine name (line ++ ['\n']) = scanLine name line := by
  rw [scanLine, scanLine, Shell.trim_lineFeed]

theorem isBlank_of_returns {returns : List Char} (blank : ∀ c ∈ returns, c = '\r') :
    ∀ c ∈ returns, isBlank c = true := by
  intro c member
  rw [blank c member]
  rfl

/-- A fault of a text without line feeds is on its first line. -/
theorem fault_of_line {name line : String} {fault : Fault}
    (failed : tokens ⟨name, line⟩ = .error fault) (inside : '\n' ∉ line.toList) :
    fault.source = ⟨name, line⟩ ∧ fault.start.line = 0 ∧ fault.stop.line = 0 := by
  obtain ⟨consumed, c, rest, cut, _, _, rfl⟩ := tokens_error_first failed
  rw [cut, List.append_cons, List.mem_append, not_or] at inside
  refine ⟨rfl, ?_, ?_⟩
  · have before : '\n' ∉ consumed := fun member => inside.1 (List.mem_append_left _ member)
    rw [Cursor.past_of_no_lineFeed before]
  · rw [Cursor.past_of_no_lineFeed inside.1]

/-- A fault of a line is a fault of every text that begins with the line, and looks the same
there as long as only carriage returns come between the line and its end. -/
theorem tokens_error_of_line {name line tail : String} {fault : Fault} {returns : List Char}
    {later : List (List Char)} (failed : tokens ⟨name, line⟩ = .error fault)
    (inside : '\n' ∉ line.toList) (behind : Excerpt.lines tail.toList = returns :: later)
    (blank : ∀ c ∈ returns, c = '\r') :
    ∃ whole, tokens ⟨name, line ++ tail⟩ = .error whole ∧ whole.Alike fault ∧ whole.line = 1 := by
  obtain ⟨origin, startFirst, stopFirst⟩ := fault_of_line failed inside
  refine ⟨_, tokens_error_append failed tail, ⟨rfl, rfl, ?_⟩, ?_⟩
  · simp only [Fault.context, Excerpt.render, origin, String.toList_append,
      Excerpt.rows_surrounded inside behind blank startFirst stopFirst]
  · simp only [Fault.line, Cursor.lineNumber, startFirst]

/-- A line that scans is read the same at the beginning of any text, blanks behind it included. -/
theorem feed_line {name line : String} {read : List Token}
    (scanned : tokens ⟨name, line⟩ = .ok read) (source : Source) {blanks : List Char}
    (blank : ∀ c ∈ blanks, isBlank c = true) :
    ∃ reached, (State.start source).feed (line.toList ++ blanks) = .ok reached ∧
      reached.tokens = read ∧ (blanks ≠ [] → reached.literal = none) := by
  obtain ⟨state, passed, rfl⟩ := feed_of_tokens scanned source
  obtain ⟨reached, skipped, same, idle⟩ := State.feed_blanks blank state
  refine ⟨reached, ?_, same, idle⟩
  rw [State.feed_append, passed]
  exact skipped

theorem tokens_ok_of_line {name line : String} {read : List Token}
    (scanned : tokens ⟨name, line⟩ = .ok read) {returns : List Char}
    (blank : ∀ c ∈ returns, c = '\r') :
    tokens ⟨name, line ++ String.ofList returns⟩ = .ok read := by
  obtain ⟨reached, passed, rfl, _⟩ :=
    feed_line scanned ⟨name, line ++ String.ofList returns⟩ (isBlank_of_returns blank)
  apply tokens_of_feed_ok
  rw [String.toList_append, String.toList_ofList]
  exact passed

theorem ofList_next (line rest : List Char) :
    String.ofList (line ++ '\n' :: rest) =
      String.ofList (line ++ ['\n']) ++ String.ofList rest := by
  rw [← String.ofList_append, List.append_assoc, List.singleton_append]

section Next

variable {name : String} {line : List Char} {read : List Token} {rest : List Char}

/-- Behind a line that scans, the pass stands at the beginning of the next one. -/
theorem feed_next (inside : '\n' ∉ line)
    (scanned : scanLine name line = .ok read) (source : Source) :
    ∃ reached, (State.start source).feed (String.ofList (line ++ ['\n'])).toList = .ok reached ∧
      reached.tokens = read ∧ reached.literal = none ∧ reached.source = source ∧
      reached.cursor = ⟨line.length + 1, 1, 0⟩ := by
  obtain ⟨returns, cut, blank⟩ := Shell.trim_append_returns inside
  have blanks : ∀ c ∈ returns ++ ['\n'], isBlank c = true := by
    intro c member
    rcases List.mem_append.mp member with old | new
    · exact isBlank_of_returns blank c old
    · rw [List.mem_singleton.mp new]
      rfl
  obtain ⟨reached, passed, same, idle⟩ := feed_line scanned source blanks
  rw [← List.append_assoc, ← cut] at passed
  have standing := State.feed_reached passed
  refine ⟨reached, ?_, same, idle (by simp), standing.origin, ?_⟩
  · rw [String.toList_ofList]
    exact passed
  · rw [standing.place, Cursor.past_concat, Cursor.past_of_no_lineFeed inside,
      Cursor.advance_lineFeed]

theorem tokens_ok_next (inside : '\n' ∉ line)
    (scanned : scanLine name line = .ok read) {more : List Token}
    (below : tokens ⟨name, String.ofList rest⟩ = .ok more) :
    tokens ⟨name, String.ofList (line ++ '\n' :: rest)⟩ = .ok (read ++ more) := by
  rw [ofList_next]
  obtain ⟨reached, passed, rfl, idle, _⟩ := feed_next inside scanned
    ⟨name, String.ofList (line ++ ['\n']) ++ String.ofList rest⟩
  exact tokens_append_ok passed (Or.inl idle) below

/-- A fault below a line that scans, seen from the text above it and from its own. -/
theorem tokens_error_next (inside : '\n' ∉ line)
    (scanned : scanLine name line = .ok read) {fault : Fault}
    (failed : tokens ⟨name, String.ofList rest⟩ = .error fault) :
    ∃ whole, tokens ⟨name, String.ofList (line ++ '\n' :: rest)⟩ = .error whole ∧
      whole.Alike fault ∧ whole.line = fault.line + 1 := by
  have origin : fault.source = ⟨name, String.ofList rest⟩ := by
    obtain ⟨consumed, c, later, _, _, _, rfl⟩ := tokens_error_first failed
    rfl
  obtain ⟨reached, passed, _, idle, source, place⟩ := feed_next inside scanned
    ⟨name, String.ofList (line ++ ['\n']) ++ String.ofList rest⟩
  -- The pass stands in the first column, so the columns below are those of the rest alone.
  have freshColumn : reached.cursor.column = 0 := by rw [place]
  have lineBelow (cursor : Cursor) : (reached.cursor.rebase cursor).line = cursor.line + 1 := by
    rw [Cursor.rebase_line, place, Nat.add_comm]
  have sameColumn (cursor : Cursor) : (reached.cursor.rebase cursor).column = cursor.column :=
    Cursor.rebase_column_of_zero freshColumn cursor
  rw [ofList_next]
  refine ⟨_, tokens_append_error passed (Or.inl idle) failed, ⟨rfl, ?_, ?_⟩, ?_⟩
  · simp only [Fault.column, Cursor.columnNumber, Cursor.indent, State.resumeFault, sameColumn]
  · simp only [Fault.context, Excerpt.render, State.resumeFault, source, origin, ← ofList_next,
      String.toList_ofList]
    rw [Excerpt.rows_next inside rest (lineBelow _) (sameColumn _) (lineBelow _) (sameColumn _)]
  · simp only [Fault.line, Cursor.lineNumber, State.resumeFault, lineBelow]

end Next

/-- A fault of the first line, seen from the whole text. -/
theorem tokens_error_first_line {name : String} {line : List Char} (inside : '\n' ∉ line)
    {fault : Fault} (failed : scanLine name line = .error fault)
    {tail : List Char} {later : List (List Char)} (behind : Excerpt.lines tail = [] :: later) :
    ∃ whole, tokens ⟨name, String.ofList (line ++ tail)⟩ = .error whole ∧ whole.Alike fault ∧
      whole.line = 1 := by
  obtain ⟨returns, cut, blank⟩ := Shell.trim_append_returns inside
  have kept := Shell.lineFeed_not_mem_trim inside
  have noFeed : '\n' ∉ returns := by
    intro member
    exact inside (cut ▸ List.mem_append_right _ member)
  have shown : Excerpt.lines (String.ofList (returns ++ tail)).toList = returns :: later := by
    rw [String.toList_ofList, Excerpt.lines_append noFeed behind, List.append_nil]
  rw [Shell.ofList_append_trim cut]
  exact tokens_error_of_line failed kept shown blank

/-- If every line scans, the whole text does, to the tokens of the lines in a row. -/
theorem tokens_of_lines (name : String) (text : List Char) (reads : List (List Token))
    (scanned : (Text.cutBehind '\n' text).map (scanLine name) = reads.map .ok) :
    tokens ⟨name, String.ofList text⟩ = .ok reads.flatten := by
  induction text using Text.lineInduction generalizing reads with
  | empty =>
      rw [Text.cutBehind_nil, List.map_nil] at scanned
      rw [List.map_eq_nil_iff.mp scanned.symm]
      rfl
  | last line inside nonempty =>
      rw [Text.cutBehind_last inside nonempty, List.map_singleton] at scanned
      obtain ⟨read, rfl, same⟩ := List.map_eq_singleton_iff.mp scanned.symm
      obtain ⟨returns, cut, blank⟩ := Shell.trim_append_returns inside
      have whole := Shell.ofList_append_trim cut []
      rw [List.append_nil, List.append_nil] at whole
      rw [whole, tokens_ok_of_line same.symm blank, List.flatten_singleton]
  | next line rest inside ih =>
      rw [Text.cutBehind_next inside, List.map_cons, scanLine_lineFeed] at scanned
      obtain ⟨read, more, rfl, first, others⟩ := List.map_eq_cons_iff.mp scanned.symm
      rw [List.flatten_cons]
      exact tokens_ok_next inside first.symm (ih more others.symm)

/-- If a line does not scan, the first such line gives the fault of the whole text. -/
theorem tokens_error_of_lines (name : String) (text : List Char) (number : Nat) (line : List Char)
    (fault : Fault) (found : (Text.cutBehind '\n' text)[number]? = some line)
    (earlier : ∀ above ∈ (Text.cutBehind '\n' text).take number,
      ∃ read, scanLine name above = .ok read)
    (failed : scanLine name line = .error fault) :
    ∃ whole, tokens ⟨name, String.ofList text⟩ = .error whole ∧ whole.Alike fault ∧
      whole.line = number + 1 := by
  induction text using Text.lineInduction generalizing number with
  | empty => cases found
  | last last inside nonempty =>
      rw [Text.cutBehind_last inside nonempty] at found
      obtain ⟨rfl, rfl⟩ : number = 0 ∧ last = line := by
        simpa [List.getElem?_singleton] using found
      have nothingBehind : Excerpt.lines [] = [[]] := rfl
      simpa only [List.append_nil] using tokens_error_first_line inside failed nothingBehind
  | next first rest inside ih =>
      rw [Text.cutBehind_next inside] at found earlier
      cases number with
      | zero =>
          rw [List.getElem?_cons_zero, Option.some.injEq] at found
          rw [← found, scanLine_lineFeed] at failed
          exact tokens_error_first_line inside failed (Excerpt.lines_lineFeed rest)
      | succ number =>
          rw [List.getElem?_cons_succ] at found
          rw [List.take_succ_cons, List.forall_mem_cons, scanLine_lineFeed] at earlier
          obtain ⟨⟨read, scanned⟩, others⟩ := earlier
          obtain ⟨below, belowFailed, alike, numbered⟩ := ih number found others
          obtain ⟨whole, wholeFailed, same, moved⟩ := tokens_error_next inside scanned belowFailed
          refine ⟨whole, wholeFailed, same.trans alike, ?_⟩
          rw [moved, numbered]

/-- Either every item gives a result, or there is a first one that gives an error. -/
theorem all_ok_or_first_error {α ε β : Type} (scan : α → Except ε β) (items : List α) :
    (∃ reads : List β, items.map scan = reads.map .ok) ∨
    ∃ number item fault, items[number]? = some item ∧
      (∀ above ∈ items.take number, ∃ read, scan above = .ok read) ∧ scan item = .error fault := by
  induction items with
  | nil => exact Or.inl ⟨[], rfl⟩
  | cons item rest ih =>
      cases scanned : scan item with
      | error fault =>
          exact Or.inr ⟨0, item, fault, rfl, by simp, scanned⟩
      | ok read =>
          rcases ih with ⟨reads, all⟩ | ⟨number, bad, fault, found, above, failed⟩
          · exact Or.inl ⟨read :: reads, by rw [List.map_cons, List.map_cons, scanned, all]⟩
          · refine Or.inr ⟨number + 1, bad, fault, found, ?_, failed⟩
            rw [List.take_succ_cons, List.forall_mem_cons]
            exact ⟨⟨read, scanned⟩, above⟩

/-- Trimmed, a line of a text holds no line feed. -/
theorem lineFeed_not_mem_trim_line {text line : List Char}
    (member : line ∈ Text.cutBehind '\n' text) :
    '\n' ∉ (Shell.trim (String.ofList line)).toList := by
  induction text using Text.lineInduction with
  | empty => cases member
  | last last inside nonempty =>
      rw [Text.cutBehind_last inside nonempty, List.mem_singleton] at member
      exact member ▸ Shell.lineFeed_not_mem_trim inside
  | next first rest inside ih =>
      rw [Text.cutBehind_next inside, List.mem_cons] at member
      rcases member with rfl | later
      · rw [Shell.trim_lineFeed]
        exact Shell.lineFeed_not_mem_trim inside
      · exact ih later

/-- A text scans exactly if each of its lines does. -/
theorem tokens_ok_iff_lines (name : String) (text : List Char) :
    (∃ read, tokens ⟨name, String.ofList text⟩ = .ok read) ↔
      ∀ line ∈ Text.cutBehind '\n' text, ∃ read, scanLine name line = .ok read := by
  rcases all_ok_or_first_error (scanLine name) (Text.cutBehind '\n' text) with
    ⟨reads, all⟩ | ⟨number, bad, fault, found, above, failed⟩
  · refine ⟨fun _ => ?_, fun _ => ⟨_, tokens_of_lines name text reads all⟩⟩
    intro line member
    have scanned : scanLine name line ∈ reads.map Except.ok :=
      all ▸ List.mem_map_of_mem member
    obtain ⟨read, _, same⟩ := List.mem_map.mp scanned
    exact ⟨read, same.symm⟩
  · obtain ⟨whole, wholeFailed, _⟩ :=
      tokens_error_of_lines name text number bad fault found above failed
    constructor
    · rintro ⟨read, scanned⟩
      rw [wholeFailed] at scanned
      cases scanned
    · intro all
      obtain ⟨read, scanned⟩ := all bad (List.mem_of_getElem? found)
      rw [failed] at scanned
      cases scanned

theorem scanLine_of_listings {name : String} {style : Style} {lines : List (List Char)}
    {listings : List Listing}
    (all : lines.map (fun line => (tokenize ⟨name, Shell.trim (String.ofList line)⟩ style).result) =
      listings.map .ok) :
    lines.map (scanLine name) = (listings.map (·.tokens)).map .ok := by
  induction lines generalizing listings with
  | nil =>
      rw [List.map_eq_nil_iff.mp all.symm]
      rfl
  | cons line rest ih =>
      obtain ⟨listing, others, rfl, first, more⟩ := List.map_eq_cons_iff.mp all.symm
      obtain ⟨read, scanned, rfl⟩ := tokenize_eq_ok_iff.mp first.symm
      rw [List.map_cons, scanLine, scanned, ih more.symm]
      rfl

end Scan

namespace Shell

/-- A text scanned as a whole and its lines scanned one by one, as the shell reads and trims them,
agree: on success, on the tokens, and on how the first fault looks. -/
theorem tokenize_line_by_line (name text : String) (style : Style) :
    ∃ lines : List String,
      (Shell.lines (Text.encode text)).map Text.decode? = lines.map some ∧
      ((∃ listing, (tokenize ⟨name, text⟩ style).result = .ok listing) ↔
        ∀ line ∈ lines, ∃ listing, (tokenize ⟨name, trim line⟩ style).result = .ok listing) ∧
      (∀ listings : List Listing,
        lines.map (fun line => (tokenize ⟨name, trim line⟩ style).result) = listings.map .ok →
        (tokenize ⟨name, text⟩ style).result = .ok ⟨name, listings.flatMap (·.tokens)⟩) ∧
      (∀ number line failure, lines[number]? = some line →
        (∀ above ∈ lines.take number,
          ∃ listing, (tokenize ⟨name, trim above⟩ style).result = .ok listing) →
        (tokenize ⟨name, trim line⟩ style).result = .error failure →
        ∃ fault whole, failure = .scan fault ∧
          (tokenize ⟨name, text⟩ style).result = .error (.scan whole) ∧
          whole.detail = fault.detail ∧ whole.column = fault.column ∧
          whole.context = fault.context ∧ whole.line = number + 1) ∧
      ∀ line ∈ lines, ∀ fault,
        (tokenize ⟨name, trim line⟩ style).result = .error (.scan fault) → fault.line = 1 := by
  refine ⟨(Text.cutBehind '\n' text.toList).map String.ofList, ?_, ?_, ?_, ?_, ?_⟩
  · rw [Text.shell_lines_encode, List.map_map, List.map_map]
    apply List.map_congr_left
    intro line _
    exact Text.decode?_encode (String.ofList line)
  · have agree := Scan.tokens_ok_iff_lines name text.toList
    rw [String.ofList_toList] at agree
    simpa only [tokenize_isOk_iff, List.forall_mem_map, Scan.scanLine] using agree
  · intro listings all
    rw [List.map_map] at all
    have whole := Scan.tokens_of_lines name text.toList _ (Scan.scanLine_of_listings all)
    rw [String.ofList_toList, ← List.flatMap_def] at whole
    exact tokenize_eq_ok_iff.mpr ⟨_, whole, rfl⟩
  · intro number line failure found above failed
    rw [List.getElem?_map, Option.map_eq_some_iff] at found
    obtain ⟨chars, found, rfl⟩ := found
    rw [← List.map_take, List.forall_mem_map] at above
    obtain ⟨fault, lineFailed, rfl⟩ := tokenize_eq_error_iff.mp failed
    obtain ⟨whole, wholeFailed, alike, numbered⟩ :=
      Scan.tokens_error_of_lines name text.toList number chars fault found
        (fun earlier member => tokenize_isOk_iff.mp (above earlier member)) lineFailed
    rw [String.ofList_toList] at wholeFailed
    exact ⟨fault, whole, rfl, tokenize_eq_error_iff.mpr ⟨whole, wholeFailed, rfl⟩, alike.detail,
      alike.column, alike.context, numbered⟩
  · intro line member fault failed
    obtain ⟨chars, cut, rfl⟩ := List.mem_map.mp member
    obtain ⟨same, lineFailed, sameFault⟩ := tokenize_eq_error_iff.mp failed
    cases sameFault
    have first := (Scan.fault_of_line lineFailed (Scan.lineFeed_not_mem_trim_line cut)).2.1
    rw [Fault.line, Cursor.lineNumber, first]

end Shell
end ArithLex
