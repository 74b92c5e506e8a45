import ArithLex.Proofs.Shell.LineByLine

set_option autoImplicit false

/-! Line endings and tabs. A carriage return before a line feed is trimmed with it, so it changes no
line that is scanned or shown. A tab is a blank of one column, and is shown as the space that may
stand for it. -/
namespace ArithLex

namespace Text

/-- The text with a carriage return before every line feed. -/
def withReturns (text : List Char) : List Char :=
  text.flatMap fun c => if c = '\n' then ['\r', '\n'] else [c]

def untab (c : Char) : Char := if c = '\t' then ' ' else c

/-- The text with a space for every tab. -/
def withoutTabs (text : List Char) : List Char := text.map untab

theorem withReturns_append (first second : List Char) :
    withReturns (first ++ second) = withReturns first ++ withReturns second :=
  List.flatMap_append

theorem withReturns_of_no_lineFeed {line : List Char} (inside : '\n' ∉ line) :
    withReturns line = line := by
  have alone (c : Char) (member : c ∈ line) :
      (if c = '\n' then ['\r', '\n'] else [c]) = [c] := by
    have other : c ≠ '\n' := by
      rintro rfl
      exact inside member
    rw [if_neg other]
  rw [withReturns, List.flatMap_congr alone, List.flatMap_singleton']

theorem withReturns_next {line : List Char} (inside : '\n' ∉ line) (rest : List Char) :
    withReturns (line ++ '\n' :: rest) = (line ++ ['\r']) ++ '\n' :: withReturns rest := by
  rw [withReturns_append, withReturns_of_no_lineFeed inside, List.append_assoc]
  rfl

theorem untab_of_ne {c : Char} (other : c ≠ '\t') : untab c = c := if_neg other

theorem untab_eq_iff {c mark : Char} (notTab : mark ≠ '\t') (notSpace : mark ≠ ' ') :
    untab c = mark ↔ c = mark := by
  by_cases tab : c = '\t'
  · subst tab
    exact iff_of_false (Ne.symm notSpace) (Ne.symm notTab)
  · rw [untab_of_ne tab]

theorem untab_untab (c : Char) : untab (untab c) = untab c := by
  by_cases tab : c = '\t'
  · subst tab
    rfl
  · rw [untab_of_ne tab, untab_of_ne tab]

end Text

namespace Shell

/-- A carriage return at its end makes no difference to a line. -/
theorem trim_return (line : List Char) :
    trim (String.ofList (line ++ ['\r'])) = trim (String.ofList line) := by
  rw [← String.toList_inj, trim_toList, trim_toList, String.toList_ofList, String.toList_ofList,
    List.rdropWhile_concat_pos _ _ _ rfl]

end Shell

namespace Excerpt

theorem lines_withoutTabs (text : List Char) :
    lines (Text.withoutTabs text) = (lines text).map Text.withoutTabs := by
  induction text with
  | nil => rfl
  | cons c rest ih =>
      show lines (Text.untab c :: Text.withoutTabs rest) = _
      by_cases ends : c = '\n'
      · subst ends
        show [] :: lines (Text.withoutTabs rest) = _
        rw [ih, lines_lineFeed, List.map_cons]
        rfl
      · have stays : Text.untab c ≠ '\n' := by
          intro same
          exact ends ((Text.untab_eq_iff (by decide) (by decide)).mp same)
        obtain ⟨first, later, behind⟩ := List.exists_cons_of_ne_nil (lines_ne_nil rest)
        have mapped : lines (Text.withoutTabs rest) =
            Text.withoutTabs first :: later.map Text.withoutTabs := by
          rw [ih, behind, List.map_cons]
        rw [lines_cons stays mapped, lines_cons ends behind, List.map_cons]
        rfl

/-- A line is shown with spaces for its tabs anyway. -/
theorem display_withoutTabs (line : List Char) : display (Text.withoutTabs line) = display line := by
  have returns : ((· == '\r') : Char → Bool) ∘ Text.untab = (· == '\r') := by
    funext c
    rw [Function.comp_apply, Bool.eq_iff_iff, beq_iff_eq, beq_iff_eq]
    exact Text.untab_eq_iff (by decide) (by decide)
  have shown (shownLine : List Char) : display shownLine =
      (shownLine.reverse.dropWhile (· == '\r')).reverse.map Text.untab :=
    display_eq shownLine
  rw [shown, shown, Text.withoutTabs, ← List.map_reverse, List.dropWhile_map, returns,
    ← List.map_reverse, List.map_map]
  apply List.map_congr_left
  intro c _
  exact Text.untab_untab c

theorem rows_withoutTabs (text : List Char) (start stop : Cursor) :
    rows (Text.withoutTabs text) start stop = rows text start stop := by
  simp only [rows, lines_withoutTabs, ← List.map_drop, ← List.map_take, List.zipIdx_map,
    List.map_map]
  apply List.map_congr_left
  rintro ⟨line, number⟩ _
  exact row_congr (display_withoutTabs line)

end Excerpt

namespace Fault

/-- The faults read the same: in their parts, in their message and in their excerpt. -/
structure Indistinct (fault other : Fault) : Prop extends Alike fault other where
  line : fault.line = other.line
  message : fault.message = other.message

/-- Faults on the same line of sources of the same name have the same message. -/
theorem Alike.indistinct {fault other : Fault} (alike : fault.Alike other)
    (line : fault.line = other.line) (name : fault.source.name = other.source.name) :
    fault.Indistinct other := by
  refine ⟨alike, line, ?_⟩
  rw [message, message, summary, summary, alike.detail, line, name]

end Fault

namespace Scan

theorem source_of_fault {source : Source} {fault : Fault} (failed : tokens source = .error fault) :
    fault.source = source := by
  obtain ⟨consumed, c, rest, _, _, _, rfl⟩ := tokens_error_first failed
  rfl

section Lines

variable {name : String} {text other : List Char}

/-- The results of the lines of a text, as the shell would have them. -/
def lineResults (name : String) (text : List Char) : List (Except Fault (List Token)) :=
  (Text.cutBehind '\n' text).map (scanLine name)

/-- The first fault among the results of the lines is how the whole text fails. -/
theorem tokens_error_of_lineResults {number : Nat} {fault : Fault}
    (found : (lineResults name text)[number]? = some (.error fault))
    (earlier : ∀ above ∈ (lineResults name text).take number, ∃ read, above = .ok read) :
    ∃ whole, tokens ⟨name, String.ofList text⟩ = .error whole ∧ whole.Alike fault ∧
      whole.line = number + 1 := by
  rw [lineResults, List.getElem?_map, Option.map_eq_some_iff] at found
  obtain ⟨line, atLine, failed⟩ := found
  rw [lineResults, ← List.map_take, List.forall_mem_map] at earlier
  exact tokens_error_of_lines name text number line fault atLine earlier failed

/-- The scan of a text is decided by the results of its lines. -/
theorem tokens_of_lineResults_eq (same : lineResults name other = lineResults name text) :
    (∀ read, tokens ⟨name, String.ofList other⟩ = .ok read ↔
      tokens ⟨name, String.ofList text⟩ = .ok read) ∧
    ∀ fault, tokens ⟨name, String.ofList text⟩ = .error fault →
      ∃ otherFault, tokens ⟨name, String.ofList other⟩ = .error otherFault ∧
        otherFault.Indistinct fault := by
  rcases all_ok_or_first_error id (lineResults name text) with
    ⟨reads, all⟩ | ⟨number, item, lineFault, found, above, failed⟩
  · rw [List.map_id] at all
    have scanned := tokens_of_lines name text reads all
    have otherScanned := tokens_of_lines name other reads (same.trans all)
    rw [scanned, otherScanned]
    refine ⟨fun read => Iff.rfl, ?_⟩
    intro fault impossible
    cases impossible
  · rw [id_eq] at failed
    subst failed
    obtain ⟨whole, wholeFailed, alike, numbered⟩ := tokens_error_of_lineResults found above
    rw [← same] at found above
    obtain ⟨otherWhole, otherFailed, otherAlike, otherNumbered⟩ :=
      tokens_error_of_lineResults found above
    rw [wholeFailed, otherFailed]
    refine ⟨fun read => ?_, ?_⟩
    · constructor <;> intro impossible <;> cases impossible
    · rintro fault ⟨⟩
      have together : otherWhole.Alike whole := otherAlike.trans alike.symm
      have sameLine : otherWhole.line = whole.line := otherNumbered.trans numbered.symm
      have sameName : otherWhole.source.name = whole.source.name := by
        rw [source_of_fault otherFailed, source_of_fault wholeFailed]
      exact ⟨otherWhole, rfl, together.indistinct sameLine sameName⟩

/-- Carriage returns before line feeds change the result of no line. -/
theorem lineResults_withReturns (name : String) (text : List Char) :
    lineResults name (Text.withReturns text) = lineResults name text := by
  unfold lineResults
  induction text using Text.lineInduction with
  | empty => rfl
  | last line inside nonempty => rw [Text.withReturns_of_no_lineFeed inside]
  | next line rest inside ih =>
      have returned : '\n' ∉ line ++ ['\r'] := by simpa using inside
      have trimmed : scanLine name (line ++ ['\r']) = scanLine name line := by
        rw [scanLine, scanLine, Shell.trim_return]
      rw [Text.withReturns_next inside, Text.cutBehind_next returned, Text.cutBehind_next inside,
        List.map_cons, List.map_cons, ih, scanLine_lineFeed, scanLine_lineFeed, trimmed]

end Lines

namespace State

/-- A step takes a space as it takes a tab. -/
theorem step_untab (state : State) (c : Char) : state.step (Text.untab c) = state.step c := by
  by_cases tab : c = '\t'
  · subst tab
    have space : state.step ' ' = .ok (state.close.pass ' ') := step_blank rfl state
    show state.step ' ' = _
    rw [space, step_blank rfl]
    rfl
  · rw [Text.untab_of_ne tab]

theorem feed_withoutTabs (state : State) (chars : List Char) :
    state.feed (Text.withoutTabs chars) = state.feed chars := by
  induction chars generalizing state with
  | nil => rfl
  | cons c rest ih =>
      show state.feed (Text.untab c :: Text.withoutTabs rest) = _
      rw [feed_cons, feed_cons, step_untab]
      cases state.step c with
      | ok next => exact ih next
      | error halt => rfl

end State

/-- A source without tabs is scanned to the same tokens or to the same fault, which then names that
source. -/
theorem tokens_withoutTabs (name text : String) :
    tokens ⟨name, String.ofList (Text.withoutTabs text.toList)⟩ =
      (tokens ⟨name, text⟩).mapError fun fault =>
        { fault with source := ⟨name, String.ofList (Text.withoutTabs text.toList)⟩ } := by
  rw [tokens_eq, tokens_eq, String.toList_ofList, State.feed_withoutTabs,
    State.feed_start _ ⟨name, text⟩]
  cases (State.start ⟨name, text⟩).feed text.toList with
  | ok reached =>
      show Except.ok (State.resume _ reached).tokens = Except.ok reached.tokens
      rw [State.tokens_resume rfl, State.tokens_start, List.nil_append]
  | error halt =>
      show Except.error (State.resumeFault _ halt.fault) = Except.error _
      simp only [State.resumeFault, State.start, Cursor.start_rebase]

/-- Line endings and tabs leave a scan and its diagnostics as they are. With carriage returns before
its line feeds or with spaces for its tabs, a text has the same tokens, or a fault that reads the
same. Spaces for tabs do not move the fault either. -/
theorem tokens_of_normalized (name text : String) :
    (∀ read,
      (tokens ⟨name, String.ofList (Text.withReturns text.toList)⟩ = .ok read ↔
        tokens ⟨name, text⟩ = .ok read) ∧
      (tokens ⟨name, String.ofList (Text.withoutTabs text.toList)⟩ = .ok read ↔
        tokens ⟨name, text⟩ = .ok read)) ∧
    ∀ fault, tokens ⟨name, text⟩ = .error fault →
      (∃ returned,
        tokens ⟨name, String.ofList (Text.withReturns text.toList)⟩ = .error returned ∧
        returned.Indistinct fault) ∧
      ∃ untabbed,
        tokens ⟨name, String.ofList (Text.withoutTabs text.toList)⟩ = .error untabbed ∧
        untabbed.Indistinct fault ∧ untabbed.start = fault.start ∧ untabbed.stop = fault.stop := by
  have returns := tokens_of_lineResults_eq (lineResults_withReturns name text.toList)
  rw [String.ofList_toList] at returns
  have tabs := tokens_withoutTabs name text
  refine ⟨fun read => ⟨returns.1 read, ?_⟩, fun fault failed => ⟨returns.2 fault failed, ?_⟩⟩
  · rw [tabs]
    cases tokens ⟨name, text⟩ with
    | ok other => exact Iff.rfl
    | error fault => constructor <;> intro impossible <;> cases impossible
  · rw [failed] at tabs
    have source := source_of_fault failed
    have excerpt : Excerpt.rows (Text.withoutTabs text.toList) fault.start fault.stop =
        Excerpt.rows text.toList fault.start fault.stop :=
      Excerpt.rows_withoutTabs text.toList fault.start fault.stop
    refine ⟨_, tabs, Fault.Alike.indistinct ⟨rfl, rfl, ?_⟩ rfl ?_, rfl, rfl⟩
    · simp only [Fault.context, Excerpt.render, String.toList_ofList, excerpt, source]
    · rw [source]

end Scan
end ArithLex
