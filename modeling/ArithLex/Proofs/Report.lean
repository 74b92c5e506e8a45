import ArithLex.Proofs.Document.Unambiguous
import ArithLex.Report

set_option autoImplicit false

/-! Reports in JSON. A report is one line whatever its texts hold, and can be read back from it. -/
namespace ArithLex

namespace Json

/-- No control character, and so no end of a line either. -/
def Plain (chars : List Char) : Prop := ∀ c ∈ chars, 0x20 ≤ c.toNat

instance (chars : List Char) : Decidable (Plain chars) :=
  List.decidableBAll (fun c : Char => 0x20 ≤ c.toNat) chars

@[simp] theorem plain_nil : Plain [] := by simp [Plain]

@[simp] theorem plain_cons (c : Char) (chars : List Char) :
    Plain (c :: chars) ↔ 0x20 ≤ c.toNat ∧ Plain chars := by
  simp [Plain]

@[simp] theorem plain_append (chars others : List Char) :
    Plain (chars ++ others) ↔ Plain chars ∧ Plain others := by
  simp only [Plain, List.forall_mem_append]

theorem plain_hexDigit {value : Nat} (small : value < 16) : 0x20 ≤ (hexDigit value).toNat := by
  have all : ∀ value < 16, 0x20 ≤ (hexDigit value).toNat := by decide
  exact all value small

theorem plain_escape (c : Char) : Plain (escape c) := by
  unfold escape
  split_ifs with quote backslash backspace formFeed lineFeed carriage tab control
  · decide
  · decide
  · decide
  · decide
  · decide
  · decide
  · decide
  · have first := plain_hexDigit (show c.toNat / 16 < 16 by omega)
    have second := plain_hexDigit (show c.toNat % 16 < 16 by omega)
    simp [first, second]
  · simpa using control

theorem plain_quote (text : String) : Plain (quote text) := by
  have body : Plain (text.toList.flatMap escape) := by
    intro c inside
    obtain ⟨d, _, escaped⟩ := List.mem_flatMap.mp inside
    exact plain_escape d c escaped
  simp [quote, body]

theorem plain_int (value : Int) : Plain (toString value).toList := by
  have digits : Plain (Nat.toDigits 10 value.natAbs) := by
    intro c inside
    have digit := Nat.isDigit_of_mem_toDigits (by decide) (by decide) inside
    have range := Char.isDigit_iff_toNat.mp digit
    have zero : '0'.toNat = 48 := rfl
    omega
  rw [Document.toList_toString_int, plain_append]
  refine ⟨?_, digits⟩
  split <;> decide

/-- A layout that keeps a value on one line. -/
structure Layout.OneLine (layout : Layout) : Prop where
  gap : ∀ depth, Plain (layout.gap depth)
  colon : Plain layout.colon

theorem Layout.compact_oneLine : Layout.compact.OneLine :=
  ⟨fun _ => plain_nil, by decide⟩

variable {layout : Layout}

mutual

/-- In such a layout a value has no control character. -/
theorem plain_write (oneLine : layout.OneLine) (depth : Nat) :
    (value : Json) → Plain (value.write layout depth)
  | .null => by simp [write]
  | .bool true => by simp [write]
  | .bool false => by simp [write]
  | .int value => plain_int value
  | .str value => plain_quote value
  | .arr [] => by simp [write]
  | .arr (item :: rest) => by
    have first := plain_write oneLine (depth + 1) item
    have others := plain_writeItems oneLine depth rest
    simp [write, oneLine.gap, first, others]
  | .obj [] => by simp [write]
  | .obj ((name, value) :: rest) => by
    have first := plain_write oneLine (depth + 1) value
    have others := plain_writeMembers oneLine depth rest
    simp [write, oneLine.gap, oneLine.colon, plain_quote, first, others]

theorem plain_writeItems (oneLine : layout.OneLine) (depth : Nat) :
    (rest : List Json) → Plain (writeItems layout depth rest)
  | [] => by simp [writeItems, oneLine.gap]
  | item :: rest => by
    have first := plain_write oneLine (depth + 1) item
    have others := plain_writeItems oneLine depth rest
    simp [writeItems, oneLine.gap, first, others]

theorem plain_writeMembers (oneLine : layout.OneLine) (depth : Nat) :
    (rest : List (String × Json)) → Plain (writeMembers layout depth rest)
  | [] => by simp [writeMembers, oneLine.gap]
  | (name, value) :: rest => by
    have first := plain_write oneLine (depth + 1) value
    have others := plain_writeMembers oneLine depth rest
    simp [writeMembers, oneLine.gap, oneLine.colon, plain_quote, first, others]

end

theorem ofText?_injective {first second : Option String} (same : ofText? first = ofText? second) :
    first = second := by
  cases first <;> cases second <;> simp_all [ofText?]

theorem ofNat?_injective {first second : Option Nat} (same : ofNat? first = ofNat? second) :
    first = second := by
  cases first with
  | none => cases second <;> simp_all [ofNat?]
  | some n =>
    cases second with
    | none => simp [ofNat?] at same
    | some m =>
      have values : (n : Int) = m := Json.int.inj same
      have numbers : n = m := by omega
      rw [numbers]

theorem ofText?_tree (text : Option String) : (ofText? text).tree = text.elim .null .str := by
  cases text <;> rfl

theorem ofNat?_tree (number : Option Nat) :
    (ofNat? number).tree = number.elim .null fun n => .number (Nat.toDigits 10 n) := by
  cases number with
  | none => rfl
  | some n =>
    show Document.Tree.number (toString (n : Int)).toList = .number (Nat.toDigits 10 n)
    rw [Document.toList_toString_int]
    simp

end Json

namespace Report

theorem json_injective {first second : Report} (same : first.json = second.json) :
    first = second := by
  obtain ⟨phase, file, line, column, kind, message, context⟩ := first
  obtain ⟨otherPhase, otherFile, otherLine, otherColumn, otherKind, otherMessage, otherContext⟩ :=
    second
  simp only [json, Json.obj.injEq, List.cons_append, List.nil_append, List.cons.injEq,
    Prod.mk.injEq, Json.str.injEq, true_and] at same
  obtain ⟨phases, files, lines, columns, kinds, messages, contexts⟩ := same
  have sameContext : context = otherContext := by
    cases context <;> cases otherContext <;> simp_all
  rw [phases, Json.ofText?_injective files, Json.ofNat?_injective lines,
    Json.ofNat?_injective columns, kinds, messages, sameContext]

theorem memberTrees_context (context : Option String) :
    Json.memberTrees (context.map fun text => ("context", Json.str text)).toList =
      (context.map fun text => ("context", .str text)).toList := by
  cases context <;> rfl

theorem tree_json (report : Report) :
    report.json.tree = .obj (
      [("phase", .str report.phase),
       ("file", report.file.elim .null .str),
       ("line", report.line.elim .null fun n => .number (Nat.toDigits 10 n)),
       ("column", report.column.elim .null fun n => .number (Nat.toDigits 10 n)),
       ("error_kind", .str report.kind),
       ("message", .str report.message)]
      ++ (report.context.map fun text => ("context", .str text)).toList) := by
  simp only [json, Json.tree, List.cons_append, List.nil_append, Json.memberTrees,
    Json.ofText?_tree, Json.ofNat?_tree, memberTrees_context]

/-- A report in JSON has no control character, and so it is one line. It is a document of exactly
one tree, which has every part of the report under its name: what is unknown is null, and a context
that is not there has no member. Reports that differ are written differently. -/
theorem compact_lossless (report : Report) :
    (∀ c ∈ report.json.compact.toList, 0x20 ≤ c.toNat) ∧
      (∀ tree : Document.Tree, tree.StandsIn report.json.compact ↔
        tree = .obj (
          [("phase", .str report.phase),
           ("file", report.file.elim .null .str),
           ("line", report.line.elim .null fun n => .number (Nat.toDigits 10 n)),
           ("column", report.column.elim .null fun n => .number (Nat.toDigits 10 n)),
           ("error_kind", .str report.kind),
           ("message", .str report.message)]
          ++ (report.context.map fun text => ("context", .str text)).toList)) ∧
      ∀ other : Report, other.json.compact = report.json.compact → other = report := by
  refine ⟨?_, ?_, ?_⟩
  · rw [Json.compact, String.toList_ofList]
    exact Json.plain_write Json.Layout.compact_oneLine 0 report.json
  · intro tree
    rw [Json.compact, Json.standsIn_write_iff Json.Layout.compact_blank, tree_json]
  · intro other same
    exact json_injective (Json.write_injective Json.Layout.compact_blank same)

end Report
end ArithLex
