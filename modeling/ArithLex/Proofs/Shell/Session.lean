import ArithLex.Proofs.Text.Lines

set_option autoImplicit false

/-! Whole sessions of the shell over arbitrary bytes: what is written, line by line, and where a
session breaks off. -/
namespace ArithLex.Shell

open Text (Valid encode)

variable (shell : Settings.Shell) (style : Style)

/-- What there is to say about a line: the tokens of the line without the carriage returns and line
feeds at its end, or why it has none. -/
def reply (line : String) : String :=
  match (tokenize ⟨shell.fileName,
      String.ofList (line.toList.rdropWhile fun c => c == '\n' || c == '\r')⟩ style).result with
  | .ok listing => style.renderListing listing
  | .error failure => style.renderFailure failure

/-- What stands in the output for a line: the prompt, the reply, and a line feed. -/
def exchange (line : String) : String := shell.prompt ++ reply shell style line ++ "\n"

/-- A session that goes on as `later` does once it has read the lines. -/
def Session.after (later : Session) (lines : List String) : Session :=
  { output := String.join (lines.map (exchange shell style)) ++ later.output
    events := lines.flatMap (fun line => (tokenize ⟨shell.fileName, trim line⟩ style).events) ++
      later.events
    completed := later.completed }

theorem reply_eq (line : String) :
    reply shell style line =
      style.render (tokenize ⟨shell.fileName, trim line⟩ style).result := by
  have trimmed : trim line =
      String.ofList (line.toList.rdropWhile fun c => c == '\n' || c == '\r') := by
    rw [← trim_toList, String.ofList_toList]
  rw [reply, ← trimmed]
  cases (tokenize ⟨shell.fileName, trim line⟩ style).result <;> rfl

theorem answer?_encode (line : String) :
    answer? shell style (encode line) =
      some ⟨reply shell style line ++ "\n",
        (tokenize ⟨shell.fileName, trim line⟩ style).events⟩ := by
  rw [answer?, Text.decode?_encode, Option.map_some, reply_eq]

theorem session_cons (line : String) (rest : List (List UInt8)) :
    session shell style (encode line :: rest) =
      (session shell style rest).after shell style [line] := by
  simp only [session, answer?_encode, Session.after, exchange, List.map_cons, List.map_nil,
    String.join_cons, String.join_nil, String.append_empty, String.append_assoc,
    List.flatMap_cons, List.flatMap_nil, List.append_nil]

/-- A session answers the lines that are texts one after the other. -/
theorem session_lines (lines : List String) (rest : List (List UInt8)) :
    session shell style (lines.map encode ++ rest) =
      (session shell style rest).after shell style lines := by
  induction lines with
  | nil => simp [Session.after]
  | cons line lines ih =>
      rw [List.map_cons, List.cons_append, session_cons, ih]
      simp [Session.after, String.append_assoc]

/-- A line that is no text ends the session, whatever comes behind it. -/
theorem session_invalid {line : List UInt8} (invalid : ¬ Valid line) (rest : List (List UInt8)) :
    session shell style (line :: rest) = ⟨shell.prompt, [], false⟩ := by
  simp only [session, answer?, Text.decode?_of_invalid invalid, Option.map_none]

/-- Lines are all texts, or there is a first one that is none. -/
theorem texts_or_first_invalid (pieces : List (List UInt8)) :
    (∃ lines : List String, pieces = lines.map encode) ∨
    ∃ (lines : List String) (bad : List UInt8) (later : List (List UInt8)),
      pieces = lines.map encode ++ bad :: later ∧ ¬ Valid bad := by
  induction pieces with
  | nil => exact Or.inl ⟨[], rfl⟩
  | cons piece rest ih =>
      by_cases valid : Valid piece
      · obtain ⟨line, rfl⟩ := Text.valid_iff.mp valid
        rcases ih with ⟨lines, rfl⟩ | ⟨lines, bad, later, rfl, invalid⟩
        · exact Or.inl ⟨line :: lines, rfl⟩
        · exact Or.inr ⟨line :: lines, bad, later, rfl, invalid⟩
      · exact Or.inr ⟨[], piece, rest, rfl, valid⟩

theorem valid_of_mem_texts {lines : List String} {piece : List UInt8}
    (member : piece ∈ lines.map encode) : Valid piece := by
  obtain ⟨line, _, rfl⟩ := List.mem_map.mp member
  exact Text.valid_iff.mpr ⟨line, rfl⟩

section Run

variable {input : List UInt8} {texts : List String}

theorem run_of_texts (cut : lines input = texts.map encode) :
    run shell style input =
      Session.after shell style ⟨shell.prompt ++ "\n", [endEvent], true⟩ texts := by
  have all := session_lines shell style texts []
  rw [List.append_nil] at all
  rw [run, cut, all]
  rfl

theorem run_of_invalid {bad : List UInt8} {later : List (List UInt8)}
    (cut : lines input = texts.map encode ++ bad :: later) (invalid : ¬ Valid bad) :
    run shell style input = Session.after shell style ⟨shell.prompt, [], false⟩ texts := by
  rw [run, cut, session_lines, session_invalid shell style invalid]

/-- The bytes behind the line that ends a session make no difference. -/
theorem run_of_invalid_append {bad : List UInt8} {later : List (List UInt8)}
    (cut : lines input = texts.map encode ++ bad :: later) (invalid : ¬ Valid bad)
    (ended : bad.getLast? = some 10) (others : List UInt8) :
    run shell style ((texts.map encode ++ [bad]).flatten ++ others) = run shell style input := by
  have pieces := Text.cut_cutBehind 10 input
  rw [← lines, cut] at pieces
  have cutAgain := pieces.cutBehind_append ended others
  rw [← lines] at cutAgain
  rw [run_of_invalid shell style cutAgain invalid, run_of_invalid shell style cut invalid]

/-- A session reads its whole input exactly if that is a text. -/
theorem completed_iff_valid (input : List UInt8) :
    (run shell style input).completed = true ↔ Valid input := by
  rw [← Text.valid_lines_iff]
  rcases texts_or_first_invalid (lines input) with
    ⟨texts, cut⟩ | ⟨texts, bad, later, cut, invalid⟩
  · rw [run_of_texts shell style cut, cut]
    exact ⟨fun _ _ member => valid_of_mem_texts member, fun _ => rfl⟩
  · rw [run_of_invalid shell style cut invalid, cut]
    constructor
    · intro impossible
      cases impossible
    · intro valid
      exact absurd (valid bad (by simp)) invalid

end Run

/-- The law of a session. Its input is cut behind every line feed. If all pieces are texts, every
one of them is answered, and the session ends well behind one more prompt. Else the pieces before
the first that is no text are answered, and the session fails behind the prompt for that piece
without looking at later bytes. The pieces are all texts exactly if the input as a whole is one. -/
theorem run_answers_lines (input : List UInt8) :
    ∃ pieces, Text.Cut 10 input pieces ∧
      ((∀ piece ∈ pieces, Valid piece) →
        ∃ texts : List String, pieces = texts.map encode ∧
          (run shell style input).result = .ok () ∧
          (run shell style input).output =
            String.join (texts.map (exchange shell style)) ++ (shell.prompt ++ "\n")) ∧
      ((¬ ∀ piece ∈ pieces, Valid piece) →
        ∃ (texts : List String) (bad : List UInt8) (later : List (List UInt8)),
          pieces = texts.map encode ++ bad :: later ∧ ¬ Valid bad ∧
          (∃ cause, (run shell style input).result = .error cause ∧ cause.kind = "InvalidData") ∧
          (run shell style input).output =
            String.join (texts.map (exchange shell style)) ++ shell.prompt ∧
          (bad.getLast? = some 10 → ∀ others,
            run shell style ((texts.map encode ++ [bad]).flatten ++ others) =
              run shell style input)) ∧
      ((∀ piece ∈ pieces, Valid piece) ↔ Valid input) ∧
      ((run shell style input).result = .ok () ↔ Valid input) := by
  have whole := Text.valid_lines_iff input
  refine ⟨lines input, ?_, ?_⟩
  · exact Text.cut_cutBehind 10 input
  rcases texts_or_first_invalid (lines input) with
    ⟨texts, cut⟩ | ⟨texts, bad, later, cut, invalid⟩
  · have valid : ∀ piece ∈ lines input, Valid piece := by
      intro piece member
      rw [cut] at member
      exact valid_of_mem_texts member
    have ran := run_of_texts shell style cut
    refine ⟨fun _ => ⟨texts, cut, ?_, ?_⟩, fun refused => absurd valid refused, whole, ?_⟩
    · rw [ran]
      rfl
    · rw [ran]
      rfl
    · rw [ran]
      exact ⟨fun _ => whole.mp valid, fun _ => rfl⟩
  · have refused : ¬ ∀ piece ∈ lines input, Valid piece := by
      intro valid
      exact invalid (valid bad (by simp [cut]))
    have ran := run_of_invalid shell style cut invalid
    refine ⟨fun valid => absurd valid refused,
      fun _ => ⟨texts, bad, later, cut, invalid, ⟨.notText, ?_, rfl⟩, ?_, ?_⟩, whole, ?_⟩
    · rw [ran]
      rfl
    · rw [ran]
      rfl
    · intro ended others
      exact run_of_invalid_append shell style cut invalid ended others
    · rw [ran]
      constructor
      · intro impossible
        cases impossible
      · intro valid
        exact absurd (whole.mpr valid) refused

end ArithLex.Shell
