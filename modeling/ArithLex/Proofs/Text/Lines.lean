import ArithLex.Excerpt
import ArithLex.Shell
import Mathlib.Data.List.DropRight
import Mathlib.Data.List.Induction

set_option autoImplicit false

/-! A text line by line: as the shell reads it from bytes, and as excerpts cut it. In UTF-8 the byte
of a line feed stands for nothing else, so bytes and characters are cut in the same places. -/
namespace ArithLex

namespace Text

section Cut

variable {α β : Type}

/-- The pieces of a list that is cut behind every mark. Only the last piece may lack its mark, and
then it is not empty. -/
inductive Cut (mark : α) : List α → List (List α) → Prop where
  | nil : Cut mark [] []
  | last {line : List α} : mark ∉ line → line ≠ [] → Cut mark line [line]
  | next {line rest : List α} {pieces : List (List α)} : mark ∉ line → Cut mark rest pieces →
      Cut mark (line ++ mark :: rest) ((line ++ [mark]) :: pieces)

theorem Cut.flatten {mark : α} {items : List α} {pieces : List (List α)}
    (cut : Cut mark items pieces) : pieces.flatten = items := by
  induction cut with
  | nil => rfl
  | last inside nonempty => exact List.flatten_singleton
  | next inside _ ih => rw [List.flatten_cons, ih, List.append_assoc, List.singleton_append]

variable [DecidableEq α] [DecidableEq β]

/-- Every list is empty, a piece without marks, or such a piece, a mark and a list. -/
theorem cutInduction (mark : α) {motive : List α → Prop} (empty : motive [])
    (last : ∀ line, mark ∉ line → line ≠ [] → motive line)
    (next : ∀ line rest, mark ∉ line → motive rest → motive (line ++ mark :: rest))
    (items : List α) : motive items := by
  induction size : items.length using Nat.strongRecOn generalizing items with
  | ind size ih =>
      by_cases ends : mark ∈ items
      · obtain ⟨line, rest, rfl, inside⟩ := List.eq_append_cons_of_mem ends
        refine next line rest inside (ih rest.length ?_ rest rfl)
        rw [← size, List.length_append, List.length_cons]
        omega
      · by_cases nothing : items = []
        · rw [nothing]
          exact empty
        · exact last items ends nothing

/-- Every text is empty, a line without line feeds, or such a line, a line feed and a text. -/
theorem lineInduction {motive : List Char → Prop} (empty : motive [])
    (last : ∀ line, '\n' ∉ line → line ≠ [] → motive line)
    (next : ∀ line rest, '\n' ∉ line → motive rest → motive (line ++ '\n' :: rest))
    (text : List Char) : motive text :=
  cutInduction '\n' empty last next text

/-- The same for texts whose last line may be empty. -/
theorem splitInduction {motive : List Char → Prop} (last : ∀ line, '\n' ∉ line → motive line)
    (next : ∀ line rest, '\n' ∉ line → motive rest → motive (line ++ '\n' :: rest))
    (text : List Char) : motive text :=
  lineInduction (last [] List.not_mem_nil) (fun line inside _ => last line inside) next text

@[simp] theorem cutBehind_nil (mark : α) : cutBehind mark [] = [] := rfl

@[simp] theorem cutBehind_mark (mark : α) (rest : List α) :
    cutBehind mark (mark :: rest) = [mark] :: cutBehind mark rest := by
  simp only [cutBehind, List.foldr_cons, ↓reduceIte]

theorem cutBehind_append {mark : α} {line tail first : List α} {later : List (List α)}
    (inside : mark ∉ line) (behind : cutBehind mark tail = first :: later) :
    cutBehind mark (line ++ tail) = (line ++ first) :: later := by
  induction line with
  | nil => exact behind
  | cons item line ih =>
      rw [List.mem_cons, not_or] at inside
      have shorter := ih inside.2
      unfold cutBehind at shorter ⊢
      rw [List.cons_append, List.foldr_cons, shorter]
      simp only [Ne.symm inside.1, ↓reduceIte, List.cons_append]

theorem cutBehind_next {mark : α} {line : List α} (inside : mark ∉ line) (rest : List α) :
    cutBehind mark (line ++ mark :: rest) = (line ++ [mark]) :: cutBehind mark rest :=
  cutBehind_append inside (cutBehind_mark mark rest)

theorem cutBehind_last {mark : α} {line : List α} (inside : mark ∉ line) (nonempty : line ≠ []) :
    cutBehind mark line = [line] := by
  cases line using List.reverseRecOn with
  | nil => exact absurd rfl nonempty
  | append_singleton front item =>
      rw [List.mem_append, List.mem_singleton, not_or] at inside
      apply cutBehind_append inside.1
      simp only [cutBehind, List.foldr_cons, List.foldr_nil, Ne.symm inside.2, ↓reduceIte]

theorem cutBehind_eq_nil {mark : α} {items : List α} (none : cutBehind mark items = []) :
    items = [] := by
  cases items with
  | nil => rfl
  | cons item rest =>
      unfold cutBehind at none
      rw [List.foldr_cons] at none
      split at none
      · cases none
      · split at none <;> cases none

theorem cut_cutBehind (mark : α) (items : List α) : Cut mark items (cutBehind mark items) := by
  induction items using cutInduction mark with
  | empty => exact .nil
  | last line inside nonempty =>
      rw [cutBehind_last inside nonempty]
      exact .last inside nonempty
  | next line rest inside ih =>
      rw [cutBehind_next inside]
      exact .next inside ih

/-- What comes behind a piece with its mark changes nothing about the pieces up to it. -/
theorem Cut.cutBehind_append {mark : α} {items piece : List α} {before after : List (List α)}
    (cut : Cut mark items (before ++ piece :: after)) (ended : piece.getLast? = some mark)
    (others : List α) :
    cutBehind mark ((before ++ [piece]).flatten ++ others) =
      before ++ piece :: cutBehind mark others := by
  induction before generalizing items with
  | nil =>
      cases cut with
      | last inside nonempty => exact absurd (List.mem_of_getLast? ended) inside
      | next inside later => simp [cutBehind_next inside]
  | cons first before ih =>
      rw [List.cons_append] at cut
      generalize same : before ++ piece :: after = pieces at cut
      cases cut with
      | last inside nonempty => simp at same
      | next inside later =>
          rw [List.cons_append, List.flatten_cons, List.append_assoc, List.append_assoc,
            List.singleton_append, cutBehind_next inside, ih (same ▸ later), List.cons_append]

/-- Spelling every item out keeps the cuts, if no other item is spelled with the mark. -/
theorem cutBehind_flatMap {mark : α} {sign : β} {spell : α → List β} (marked : spell mark = [sign])
    (unmarked : ∀ item, item ≠ mark → sign ∉ spell item) (spelled : ∀ item, spell item ≠ [])
    (items : List α) :
    cutBehind sign (items.flatMap spell) = (cutBehind mark items).map (·.flatMap spell) := by
  induction items with
  | nil => rfl
  | cons item rest ih =>
      rw [List.flatMap_cons]
      by_cases ends : item = mark
      · subst ends
        simp [marked, ih]
      -- The item joins the first line behind it, if there is one.
      · have inside : mark ∉ [item] := by simpa using Ne.symm ends
        cases behind : cutBehind mark rest with
        | nil =>
            rw [cutBehind_eq_nil behind, cutBehind_last inside (by simp)]
            simp [cutBehind_last (unmarked item ends) (spelled item)]
        | cons line later =>
            rw [behind, List.map_cons] at ih
            have cut := cutBehind_append inside behind
            rw [List.singleton_append] at cut
            rw [cutBehind_append (unmarked item ends) ih, cut]
            simp

end Cut

/-- No other character has the byte of a line feed among its own. -/
theorem lineFeed_not_mem_utf8 {c : Char} (inside : c ≠ '\n') : 10 ∉ String.utf8EncodeChar c := by
  have code : c.val.toNat ≠ 10 := by
    intro same
    exact inside (Char.ext (UInt32.toNat_inj.mp same))
  have byte (value : Nat) (small : value < 256) (other : value ≠ 10) :
      (10 : UInt8) ≠ UInt8.ofNat value := by
    intro same
    have values := congrArg UInt8.toNat same
    rw [UInt8.toNat_ofNat_of_lt' small] at values
    exact other values.symm
  unfold String.utf8EncodeChar
  dsimp only
  split
  · simpa using byte _ (by omega) code
  · split
    · simp only [List.mem_cons, List.not_mem_nil, or_false, not_or]
      exact ⟨byte _ (by omega) (by omega), byte _ (by omega) (by omega)⟩
    · split
      · simp only [List.mem_cons, List.not_mem_nil, or_false, not_or]
        exact ⟨byte _ (by omega) (by omega), byte _ (by omega) (by omega),
          byte _ (by omega) (by omega)⟩
      · simp only [List.mem_cons, List.not_mem_nil, or_false, not_or]
        exact ⟨byte _ (by omega) (by omega), byte _ (by omega) (by omega),
          byte _ (by omega) (by omega), byte _ (by omega) (by omega)⟩

theorem utf8_ne_nil (c : Char) : String.utf8EncodeChar c ≠ [] := by
  intro empty
  have size := String.length_utf8EncodeChar c
  rw [empty] at size
  exact absurd size.symm (Nat.ne_of_gt c.utf8Size_pos)

private theorem bytes_loop (bytes : ByteArray) (index : Nat) (read : List UInt8) :
    ByteArray.toList.loop bytes index read = read.reverse ++ bytes.data.toList.drop index := by
  by_cases more : index < bytes.size
  · have inside : index < bytes.data.toList.length := by simpa using more
    rw [ByteArray.toList.loop, if_pos more, bytes_loop bytes (index + 1),
      List.drop_eq_getElem_cons inside]
    simp [ByteArray.get!, more]
  · have done : bytes.data.toList.length ≤ index := by simpa using more
    rw [ByteArray.toList.loop, if_neg more, List.drop_eq_nil_of_le done, List.append_nil]
termination_by bytes.size - index

private theorem bytes_toList (bytes : ByteArray) : bytes.toList = bytes.data.toList := by
  simpa [ByteArray.toList] using bytes_loop bytes 0 []

theorem encode_eq (text : String) : encode text = text.toList.flatMap String.utf8EncodeChar := by
  have bytes : text.toUTF8 = (text.toList.flatMap String.utf8EncodeChar).toByteArray := by
    rw [String.toUTF8_eq_toByteArray]
    conv_lhs => rw [← String.ofList_toList (s := text), String.toByteArray_ofList]
    rfl
  rw [encode, bytes, bytes_toList, List.toList_data_toByteArray]

theorem encode_append (first second : String) :
    encode (first ++ second) = encode first ++ encode second := by
  rw [encode_eq, encode_eq, encode_eq, String.toList_append, List.flatMap_append]

private theorem toArray_encode (text : String) :
    (⟨(encode text).toArray⟩ : ByteArray) = text.toByteArray := by
  rw [encode, bytes_toList, Array.toArray_toList, String.toUTF8_eq_toByteArray]

theorem decode?_encode (text : String) : decode? (encode text) = some text := by
  rw [decode?, toArray_encode, String.fromUTF8?, dif_pos text.isValidUTF8]
  rfl

/-- The bytes are a text in UTF-8. -/
def Valid (bytes : List UInt8) : Prop := ByteArray.IsValidUTF8 ⟨bytes.toArray⟩

theorem valid_iff {bytes : List UInt8} : Valid bytes ↔ ∃ text, bytes = encode text := by
  constructor
  · rintro ⟨chars, spelled⟩
    refine ⟨String.ofList chars, ?_⟩
    have data := congrArg (fun array : ByteArray => array.data.toList) spelled
    rw [encode_eq, String.toList_ofList]
    simpa only [List.utf8Encode, List.toList_data_toByteArray] using data
  · rintro ⟨text, rfl⟩
    rw [Valid, toArray_encode]
    exact text.isValidUTF8

theorem decode?_of_invalid {bytes : List UInt8} (invalid : ¬ Valid bytes) :
    decode? bytes = none := by
  unfold Valid at invalid
  rw [decode?, String.fromUTF8?, dif_neg invalid]

theorem decode?_eq_some_iff {bytes : List UInt8} {text : String} :
    decode? bytes = some text ↔ bytes = encode text := by
  constructor
  · intro decoded
    by_cases valid : Valid bytes
    · obtain ⟨spelled, rfl⟩ := valid_iff.mp valid
      rw [decode?_encode, Option.some.injEq] at decoded
      rw [decoded]
    · rw [decode?_of_invalid valid] at decoded
      cases decoded
  · rintro rfl
    exact decode?_encode text

theorem valid_flatten {pieces : List (List UInt8)} (valid : ∀ piece ∈ pieces, Valid piece) :
    Valid pieces.flatten := by
  induction pieces with
  | nil => exact ⟨[], rfl⟩
  | cons piece rest ih =>
      rw [List.forall_mem_cons] at valid
      obtain ⟨text, spelled⟩ := valid_iff.mp valid.1
      obtain ⟨later, spelledLater⟩ := valid_iff.mp (ih valid.2)
      rw [List.flatten_cons]
      exact valid_iff.mpr ⟨text ++ later, by rw [encode_append, spelled, spelledLater]⟩

/-- A text as bytes is cut where the text is. -/
theorem shell_lines_encode (text : String) :
    Shell.lines (encode text) =
      (cutBehind '\n' text.toList).map (fun line => encode (String.ofList line)) := by
  have feed : String.utf8EncodeChar '\n' = [10] := rfl
  rw [Shell.lines, encode_eq, cutBehind_flatMap feed
    (fun _ inside => lineFeed_not_mem_utf8 inside) utf8_ne_nil]
  apply List.map_congr_left
  intro line _
  rw [encode_eq, String.toList_ofList]

/-- No cut behind a line feed runs through a character, so bytes are a text exactly if each of their
lines is one. -/
theorem valid_lines_iff (input : List UInt8) :
    (∀ line ∈ Shell.lines input, Valid line) ↔ Valid input := by
  constructor
  · intro valid
    rw [← (cut_cutBehind 10 input).flatten]
    exact valid_flatten valid
  · intro valid line member
    obtain ⟨text, rfl⟩ := valid_iff.mp valid
    rw [shell_lines_encode] at member
    obtain ⟨chars, _, rfl⟩ := List.mem_map.mp member
    exact valid_iff.mpr ⟨String.ofList chars, rfl⟩

end Text

namespace Shell

theorem trim_toList (line : String) :
    (trim line).toList = line.toList.rdropWhile (fun c => c == '\n' || c == '\r') := by
  rw [trim, String.toList_ofList]
  rfl

/-- The line feed at its end makes no difference to a line. -/
theorem trim_lineFeed (line : List Char) :
    trim (String.ofList (line ++ ['\n'])) = trim (String.ofList line) := by
  rw [← String.toList_inj, trim_toList, trim_toList, String.toList_ofList, String.toList_ofList,
    List.rdropWhile_concat_pos _ _ _ rfl]

/-- What is trimmed off a line are carriage returns. -/
theorem trim_append_returns {line : List Char} (inside : '\n' ∉ line) :
    ∃ returns, line = (trim (String.ofList line)).toList ++ returns ∧
      (∀ c ∈ returns, c = '\r') := by
  refine ⟨line.rtakeWhile (fun c => c == '\n' || c == '\r'), ?_, ?_⟩
  · rw [trim_toList, String.toList_ofList, List.rdropWhile_append_rtakeWhile]
  · intro c member
    have ends := List.mem_rtakeWhile_imp member
    have other : c ≠ '\n' := by
      rintro rfl
      exact inside ((List.rtakeWhile_suffix _ line).subset member)
    simpa [other] using ends

theorem lineFeed_not_mem_trim {line : List Char} (inside : '\n' ∉ line) :
    '\n' ∉ (trim (String.ofList line)).toList := by
  obtain ⟨returns, cut, _⟩ := trim_append_returns inside
  intro member
  exact inside (cut ▸ List.mem_append_left returns member)

theorem ofList_append_trim {line returns : List Char}
    (cut : line = (trim (String.ofList line)).toList ++ returns) (tail : List Char) :
    String.ofList (line ++ tail) =
      trim (String.ofList line) ++ String.ofList (returns ++ tail) := by
  rw [← String.toList_inj, String.toList_append, String.toList_ofList, String.toList_ofList,
    ← List.append_assoc, ← cut]

end Shell

end ArithLex
