import ArithLex.Proofs.Document.Tree

set_option autoImplicit false

/-! No text is a document of two trees. Where two spellings begin a text, they spell the same tree
and end at the same place. -/
namespace ArithLex.Document

open Json (Gap SpellsText gap_nil)

variable {α : Type} {rest more : List Char}

/-- A text has at most one beginning of this class that the class does not reach beyond. -/
theorem beginning_unique {inside : Char → Bool} {first second : List Char}
    (all : ∀ c ∈ first, inside c = true) (allToo : ∀ c ∈ second, inside c = true)
    (stops : ∀ c ∈ rest.head?, inside c = false) (stopsToo : ∀ c ∈ more.head?, inside c = false)
    (same : first ++ rest = second ++ more) : first = second ∧ rest = more := by
  have taken : ∀ {front back : List Char}, (∀ c ∈ front, inside c = true) →
      (∀ c ∈ back.head?, inside c = false) → (front ++ back).takeWhile inside = front := by
    intro front back all stops
    rw [List.takeWhile_append_of_pos all]
    cases back with
    | nil => simp
    | cons c back => simp [stops c (by simp)]
  have fronts : first = second := by
    rw [← taken all stops, same, taken allToo stopsToo]
  refine ⟨fronts, ?_⟩
  rw [fronts] at same
  exact List.append_cancel_left same

/-- Behind blanks, the rest of a text begins with the next character that is none. -/
theorem rest_of_gap {gap other : List Char} {c d : Char} (gapped : Gap gap) (gappedToo : Gap other)
    (visible : isBlank c = false) (visibleToo : isBlank d = false)
    (same : gap ++ c :: rest = other ++ d :: more) : c :: rest = d :: more := by
  have stops : ∀ e ∈ (c :: rest).head?, isBlank e = false := by
    intro e head
    cases head
    exact visible
  have stopsToo : ∀ e ∈ (d :: more).head?, isBlank e = false := by
    intro e head
    cases head
    exact visibleToo
  exact (beginning_unique (isBlank_of_gap gapped) (isBlank_of_gap gappedToo) stops stopsToo same).2

/-- A reader cannot take two different beginnings of a text. -/
theorem Takes.unique {reader : Reader α} {chars others : List Char} {value other : α}
    (taken : Takes reader chars value) (takenToo : Takes reader others other)
    (same : chars ++ rest = others ++ more) : value = other ∧ rest = more := by
  obtain ⟨after, read⟩ := taken rest .start
  obtain ⟨afterToo, readToo⟩ := takenToo more .start
  rw [same, readToo] at read
  cases read
  exact ⟨rfl, rfl⟩

theorem text_unique {text other : String} {quoted others : List Char}
    (spelled : SpellsText text quoted) (spelledToo : SpellsText other others)
    (same : quoted ++ rest = others ++ more) : text = other ∧ rest = more := by
  obtain ⟨body⟩ := spelled
  obtain ⟨bodyToo⟩ := spelledToo
  apply (takes_textBody body).unique (takes_textBody bodyToo)
  simpa using same

section Numeral

/-- The characters of number literals. -/
def isNumeric (c : Char) : Bool :=
  c.isDigit || c == '-' || c == '+' || c == '.' || c == 'e' || c == 'E'

/-- No number goes on here. -/
def Ends (chars : List Char) : Prop := ∀ c ∈ chars.head?, isNumeric c = false

theorem ends_nil : Ends [] := by simp [Ends]

theorem ends_cons {c : Char} (other : isNumeric c = false) : Ends (c :: rest) := by
  intro d head
  cases head
  exact other

theorem ends_gap {gap : List Char} (gapped : Gap gap) (ends : Ends rest) : Ends (gap ++ rest) := by
  cases gap with
  | nil => exact ends
  | cons c gap =>
    apply ends_cons
    rcases gapped c (by simp) with rfl | rfl | rfl | rfl <;> rfl

theorem Digits.numeric {digits : List Char} (all : Digits digits) :
    ∀ c ∈ digits, isNumeric c = true := by
  intro c inside
  simp [isNumeric, all.2 c inside]

theorem Numeral.numeric {literal : List Char} (numeral : Numeral literal) :
    ∀ c ∈ literal, isNumeric c = true := by
  obtain ⟨signed, whole, fraction, exponent⟩ := numeral
  intro c inside
  simp only [List.mem_append] at inside
  rcases inside with inSign | inWhole | inFraction | inExponent
  · simp only [List.mem_cons, List.not_mem_nil, or_false] at signed
    rcases signed with rfl | rfl
    · cases inSign
    · cases List.mem_singleton.mp inSign
      rfl
  · exact whole.1.numeric c inWhole
  · cases fraction with
    | absent => cases inFraction
    | present digits =>
      rcases List.mem_cons.mp inFraction with rfl | inDigits
      · rfl
      · exact digits.numeric c inDigits
  · cases exponent with
    | absent => cases inExponent
    | @present letter sign digits isLetter signed all =>
      have letters : ['e', 'E'].all isNumeric = true := rfl
      have signs : [[], ['+'], ['-']].all (·.all isNumeric) = true := rfl
      simp only [List.mem_cons, List.mem_append] at inExponent
      rcases inExponent with rfl | inSign | inDigits
      · exact List.all_eq_true.mp letters c isLetter
      · exact List.all_eq_true.mp (List.all_eq_true.mp signs sign signed) c inSign
      · exact all.numeric c inDigits

theorem Numeral.head {literal : List Char} (numeral : Numeral literal) :
    ∃ c tail, literal = c :: tail ∧ (c = '-' ∨ c.isDigit = true) := by
  obtain ⟨signed, whole, _, _⟩ := numeral
  simp only [List.mem_cons, List.not_mem_nil, or_false] at signed
  rcases signed with rfl | rfl
  · obtain ⟨c, tail, digits⟩ := List.exists_cons_of_ne_nil whole.1.1
    subst digits
    exact ⟨c, _, rfl, Or.inr (whole.1.2 c (by simp))⟩
  · exact ⟨'-', _, rfl, Or.inl rfl⟩

end Numeral

namespace Tree

/-- A character that stands for all those that a value of this kind begins with. -/
def kind : Tree → Char
  | .null => 'n'
  | .bool true => 't'
  | .bool false => 'f'
  | .number _ => '0'
  | .str _ => '"'
  | .arr _ => '['
  | .obj _ => '\x7b'

/-- The kind that a value is of if it begins with this character. -/
def kindOf (c : Char) : Char := if c = '-' ∨ c.isDigit = true then '0' else c

theorem Spells.head {tree : Tree} {chars : List Char} (spelled : Spells tree chars) :
    ∃ c tail, chars = c :: tail ∧ kindOf c = tree.kind := by
  cases spelled with
  | number numeral =>
    obtain ⟨c, tail, literal, numeric⟩ := numeral.head
    exact ⟨c, tail, literal, by simp only [kindOf, numeric, ↓reduceIte, kind]⟩
  | text quoted =>
    obtain ⟨body⟩ := quoted
    exact ⟨_, _, rfl, rfl⟩
  | null => exact ⟨_, _, rfl, rfl⟩
  | yes => exact ⟨_, _, rfl, rfl⟩
  | no => exact ⟨_, _, rfl, rfl⟩
  | list items => exact ⟨_, _, rfl, rfl⟩
  | object members => exact ⟨_, _, rfl, rfl⟩

theorem kind_mem (tree : Tree) : tree.kind ∈ ['n', 't', 'f', '0', '"', '[', '\x7b'] := by
  rcases tree with _ | ⟨_ | _⟩ | _ | _ | _ | _ <;> simp [kind]

/-- A value begins with no blank and with no mark of a list or an object around it. -/
theorem kindOf_ne_of_mem (tree : Tree) {c d : Char} (opens : kindOf c = tree.kind)
    (mark : d ∈ [' ', '\n', '\t', '\r', ',', ':', ']', '\x7d']) : c ≠ d := by
  rintro rfl
  have apart : [' ', '\n', '\t', '\r', ',', ':', ']', '\x7d'].all
      (fun mark => kindOf mark ∉ ['n', 't', 'f', '0', '"', '[', '\x7b']) = true := rfl
  have other := List.all_eq_true.mp apart c mark
  rw [opens] at other
  exact of_decide_eq_true other tree.kind_mem

theorem visible_of_kindOf (tree : Tree) {c : Char} (opens : kindOf c = tree.kind) :
    isBlank c = false := by
  have space := kindOf_ne_of_mem tree opens (d := ' ') (by decide)
  have lineFeed := kindOf_ne_of_mem tree opens (d := '\n') (by decide)
  have tab := kindOf_ne_of_mem tree opens (d := '\t') (by decide)
  have carriage := kindOf_ne_of_mem tree opens (d := '\r') (by decide)
  simp [isBlank, space, lineFeed, tab, carriage]

/-- Behind blanks, two spellings begin at the same place. -/
theorem Spells.behind_gap {first second : Tree} {gap other chars others : List Char}
    (spelled : Spells first chars) (spelledToo : Spells second others) (gapped : Gap gap)
    (gappedToo : Gap other) (same : gap ++ (chars ++ rest) = other ++ (others ++ more)) :
    chars ++ rest = others ++ more := by
  obtain ⟨c, tail, rfl, opens⟩ := spelled.head
  obtain ⟨d, tailToo, rfl, opensToo⟩ := spelledToo.head
  exact rest_of_gap gapped gappedToo (visible_of_kindOf first opens)
    (visible_of_kindOf second opensToo) same

theorem kind_unique {first second : Tree} {chars others : List Char} (spelled : Spells first chars)
    (spelledToo : Spells second others) (same : chars ++ rest = others ++ more) :
    first.kind = second.kind := by
  obtain ⟨c, tail, rfl, opens⟩ := spelled.head
  obtain ⟨d, tailToo, rfl, opensToo⟩ := spelledToo.head
  have heads : c = d := (List.cons.inj same).1
  rw [← opens, ← opensToo, heads]

/-- Two spellings at the beginning of a text, of which this is one, are of the same thing and end at
the same place. A number must not go on behind them. -/
def Unique (part : α → List Char → Prop) (first : α) : Prop :=
  ∀ {second : α} {chars others rest more : List Char}, part first chars → part second others →
    Ends rest → Ends more → chars ++ rest = others ++ more → first = second ∧ rest = more

section Sequence

variable {part : α → List Char → Prop} {bracket : Char} {isFirst : Bool} {lead other : List Char}

theorem lead_unique (leads : Lead isFirst lead) (leadsToo : Lead isFirst other)
    (same : lead ++ rest = other ++ more) : rest = more := by
  cases leads with
  | first =>
    cases leadsToo
    exact same
  | later gapped =>
    cases leadsToo with
    | later gappedToo =>
      simp only [List.append_assoc, List.singleton_append] at same
      exact (List.cons.inj (rest_of_gap gapped gappedToo rfl rfl same)).2

/-- The parts of a sequence begin with a character that is neither a blank nor its bracket. -/
def Opens (part : α → List Char → Prop) (bracket : Char) : Prop :=
  ∀ first chars, part first chars →
    ∃ c tail, chars = c :: tail ∧ isBlank c = false ∧ c ≠ bracket

/-- The brackets that close a list or an object. -/
def Closing (bracket : Char) : Prop := bracket = ']' ∨ bracket = '\x7d'

theorem Closing.visible (closing : Closing bracket) : isBlank bracket = false := by
  rcases closing with rfl | rfl <;> rfl

theorem Sequence.ends (closing : Closing bracket) {items : List α} {chars : List Char}
    (spelled : Sequence part bracket false items chars) : Ends (chars ++ rest) := by
  cases spelled with
  | done gapped =>
    rw [List.append_assoc]
    apply ends_gap gapped
    apply ends_cons
    rcases closing with rfl | rfl <;> rfl
  | next leads =>
    cases leads with
    | later gapped =>
      simp only [List.append_assoc]
      exact ends_gap gapped (ends_cons rfl)

/-- A bracket that closes the sequence is not taken for one more part. -/
theorem bracket_or_part (closing : Closing bracket) (opens : Opens part bracket)
    {gap before chars : List Char} {first : α} (gapped : Gap gap) (leads : Lead isFirst lead)
    (gappedToo : Gap before) (spelled : part first chars) :
    gap ++ bracket :: rest ≠ lead ++ (before ++ (chars ++ more)) := by
  intro same
  obtain ⟨c, tail, rfl, visible, different⟩ := opens first _ spelled
  cases leads with
  | first =>
    have heads := rest_of_gap gapped gappedToo closing.visible visible same
    exact different (List.cons.inj heads).1.symm
  | later separated =>
    simp only [List.append_assoc, List.singleton_append] at same
    have heads := rest_of_gap gapped separated closing.visible rfl same
    rcases closing with rfl | rfl <;> cases heads

theorem Sequence.unique (closing : Closing bracket) (opens : Opens part bracket)
    {first second : List α} {chars others : List Char} (parts : ∀ item ∈ first, Unique part item)
    (spelled : Sequence part bracket isFirst first chars)
    (spelledToo : Sequence part bracket isFirst second others)
    (same : chars ++ rest = others ++ more) : first = second ∧ rest = more := by
  induction spelled generalizing second others with
  | done gapped =>
    cases spelledToo with
    | done gappedToo =>
      simp only [List.append_assoc, List.singleton_append] at same
      have heads := rest_of_gap gapped gappedToo closing.visible closing.visible same
      exact ⟨rfl, (List.cons.inj heads).2⟩
    | next leads before part _ =>
      simp only [List.append_assoc, List.singleton_append] at same
      exact absurd same (bracket_or_part closing opens gapped leads before part)
  | next leads before part later ih =>
    cases spelledToo with
    | done gapped =>
      simp only [List.append_assoc, List.singleton_append] at same
      exact absurd same.symm (bracket_or_part closing opens gapped leads before part)
    | next leadsToo beforeToo partToo laterToo =>
      simp only [List.append_assoc] at same
      have behind := lead_unique leads leadsToo same
      obtain ⟨c, tail, rfl, visible, _⟩ := opens _ _ part
      obtain ⟨d, tailToo, rfl, visibleToo, _⟩ := opens _ _ partToo
      have values := rest_of_gap before beforeToo visible visibleToo behind
      obtain ⟨items, tails⟩ := parts _ (by simp) part partToo (later.ends closing)
        (laterToo.ends closing) values
      obtain ⟨others, ends⟩ := ih (fun item inside => parts item (by simp [inside])) laterToo tails
      exact ⟨by rw [items, others], ends⟩

end Sequence

theorem opens_spells : Opens Spells ']' := by
  intro tree chars spelled
  obtain ⟨c, tail, shape, opens⟩ := spelled.head
  exact ⟨c, tail, shape, visible_of_kindOf tree opens, kindOf_ne_of_mem tree opens (by decide)⟩

theorem opens_member : Opens (Member Spells) '\x7d' := by
  intro entry chars member
  obtain ⟨quoted, _, _, _⟩ := member
  obtain ⟨_⟩ := quoted
  exact ⟨'"', _, rfl, rfl, by decide⟩

theorem Member.unique {tree : Tree} (value : Unique Spells tree) (name : String) :
    Unique (Member Spells) (name, tree) := by
  intro second chars others rest more member memberToo ends endsToo same
  cases member with
  | mk quoted between behind spelled =>
    cases memberToo with
    | mk quotedToo betweenToo behindToo spelledToo =>
      simp only [List.append_assoc, List.cons_append] at same
      obtain ⟨names, colons⟩ := text_unique quoted quotedToo same
      have values := (List.cons.inj (rest_of_gap between betweenToo rfl rfl colons)).2
      have trees := spelled.behind_gap spelledToo behind behindToo values
      obtain ⟨same, tails⟩ := value spelled spelledToo ends endsToo trees
      exact ⟨by rw [names, same], tails⟩

theorem unique_null : Unique Spells .null := by
  intro second chars others rest more spelled spelledToo _ _ same
  have kinds := kind_unique spelled spelledToo same
  cases spelled
  cases spelledToo with
  | null => exact ⟨rfl, List.append_cancel_left same⟩
  | _ => simp [kind] at kinds

theorem unique_bool (value : Bool) : Unique Spells (.bool value) := by
  intro second chars others rest more spelled spelledToo _ _ same
  have kinds := kind_unique spelled spelledToo same
  cases spelled with
  | yes =>
    cases spelledToo with
    | yes => exact ⟨rfl, List.append_cancel_left same⟩
    | _ => simp [kind] at kinds
  | no =>
    cases spelledToo with
    | no => exact ⟨rfl, List.append_cancel_left same⟩
    | _ => simp [kind] at kinds

theorem unique_number (literal : List Char) : Unique Spells (.number literal) := by
  intro second chars others rest more spelled spelledToo ends endsToo same
  have kinds := kind_unique spelled spelledToo same
  cases spelled with
  | number numeral =>
    cases spelledToo with
    | number numeralToo =>
      obtain ⟨literals, tails⟩ :=
        beginning_unique numeral.numeric numeralToo.numeric ends endsToo same
      exact ⟨by rw [literals], tails⟩
    | _ => simp [kind] at kinds

theorem unique_str (text : String) : Unique Spells (.str text) := by
  intro second chars others rest more spelled spelledToo _ _ same
  have kinds := kind_unique spelled spelledToo same
  cases spelled with
  | text quoted =>
    cases spelledToo with
    | text quotedToo =>
      obtain ⟨texts, tails⟩ := text_unique quoted quotedToo same
      exact ⟨by rw [texts], tails⟩
    | _ => simp [kind] at kinds

section Bracketed

variable {second : Tree} {chars others : List Char}

/-- A list ends with its bracket, whatever goes on behind it. -/
theorem arr_unique {items : List Tree} (parts : ∀ item ∈ items, Unique Spells item)
    (spelled : Spells (.arr items) chars) (spelledToo : Spells second others)
    (same : chars ++ rest = others ++ more) : .arr items = second ∧ rest = more := by
  have kinds := kind_unique spelled spelledToo same
  cases spelled with
  | list sequence =>
    cases spelledToo with
    | list sequenceToo =>
      obtain ⟨lists, tails⟩ := sequence.unique (Or.inl rfl) opens_spells parts sequenceToo
        (List.cons.inj same).2
      exact ⟨by rw [lists], tails⟩
    | _ => simp [kind] at kinds

/-- An object ends with its bracket, whatever goes on behind it. -/
theorem obj_unique {members : List (String × Tree)}
    (parts : ∀ entry ∈ members, Unique Spells entry.2) (spelled : Spells (.obj members) chars)
    (spelledToo : Spells second others) (same : chars ++ rest = others ++ more) :
    .obj members = second ∧ rest = more := by
  have kinds := kind_unique spelled spelledToo same
  cases spelled with
  | object sequence =>
    cases spelledToo with
    | object sequenceToo =>
      obtain ⟨lists, tails⟩ := sequence.unique (Or.inr rfl) opens_member
        (fun entry inside => Member.unique (parts entry inside) entry.1) sequenceToo
        (List.cons.inj same).2
      exact ⟨by rw [lists], tails⟩
    | _ => simp [kind] at kinds

end Bracketed

/-- No text begins with two spellings, and none is a part of another unless a number goes on. -/
theorem unique : (tree : Tree) → Unique Spells tree
  | .null => unique_null
  | .bool value => unique_bool value
  | .number literal => unique_number literal
  | .str text => unique_str text
  | .arr items => fun spelled spelledToo _ _ =>
    arr_unique (fun item _inside => unique item) spelled spelledToo
  | .obj members => fun spelled spelledToo _ _ =>
    obj_unique (fun entry _inside => unique entry.2) spelled spelledToo
termination_by tree => sizeOf tree
decreasing_by
  · have smaller := List.sizeOf_lt_of_mem _inside
    simp only [Tree.arr.sizeOf_spec]
    omega
  · have smaller := List.sizeOf_lt_of_mem _inside
    obtain ⟨name, tree⟩ := entry
    simp only [Prod.mk.sizeOf_spec] at smaller
    simp only [Tree.obj.sizeOf_spec]
    omega

/-- A text is a document of one tree at most. -/
theorem StandsIn.unique {tree other : Tree} {text : String} (stands : tree.StandsIn text)
    (standsToo : other.StandsIn text) : tree = other := by
  obtain ⟨before, spelled, after⟩ := stands
  generalize written : String.ofList _ = text at standsToo
  obtain ⟨beforeToo, spelledToo, afterToo⟩ := standsToo
  have values := spelled.behind_gap spelledToo before beforeToo (String.ofList_injective written)
  have ends : ∀ {gap : List Char}, Gap gap → Ends gap := by
    intro gap gapped
    rw [← List.append_nil gap]
    exact ends_gap gapped ends_nil
  exact (tree.unique spelled spelledToo (ends after) (ends afterToo) values).1

theorem StandsIn.iff_eq {other : Tree} {text : String} (stands : other.StandsIn text)
    (tree : Tree) : tree.StandsIn text ↔ tree = other := by
  constructor
  · intro standsToo
    exact standsToo.unique stands
  · intro same
    exact same ▸ stands

/-- Where a list or an object stands in a text, nothing but blanks is behind a value that begins the
text. -/
theorem StandsIn.gap_behind {tree other : Tree} {before chars : List Char}
    (bracketed : tree.kind = '[' ∨ tree.kind = '\x7b')
    (stands : tree.StandsIn (.ofList (before ++ (chars ++ rest)))) (gapped : Gap before)
    (spelled : Spells other chars) : Gap rest := by
  generalize written : String.ofList _ = text at stands
  obtain ⟨gappedToo, spelledToo, after⟩ := stands
  have values := spelledToo.behind_gap spelled gappedToo gapped
    (String.ofList_injective written).symm
  cases tree with
  | arr items =>
    obtain ⟨_, tails⟩ := arr_unique (fun item _ => item.unique) spelledToo spelled values
    exact tails ▸ after
  | obj members =>
    obtain ⟨_, tails⟩ := obj_unique (fun entry _ => entry.2.unique) spelledToo spelled values
    exact tails ▸ after
  | bool value => cases value <;> simp [kind] at bracketed
  | _ => simp [kind] at bracketed

end Tree
end ArithLex.Document

namespace ArithLex.Json

open Document (Tree)

theorem toDigits_injective {first second : Nat}
    (same : Nat.toDigits 10 first = Nat.toDigits 10 second) : first = second := by
  calc
    first = Nat.ofDigitChars 10 (Nat.toDigits 10 first) 0 := Nat.ofDigitChars_ten_toDigits.symm
    _ = Nat.ofDigitChars 10 (Nat.toDigits 10 second) 0 := by rw [same]
    _ = second := Nat.ofDigitChars_ten_toDigits

theorem sign_not_mem_toDigits (n : Nat) : '-' ∉ Nat.toDigits 10 n := by
  intro inside
  have digit := Nat.isDigit_of_mem_toDigits (by decide) (by decide) inside
  exact absurd digit (by decide)

theorem toString_injective {first second : Int}
    (same : (toString first).toList = (toString second).toList) : first = second := by
  rw [Document.toList_toString_int, Document.toList_toString_int] at same
  by_cases positive : 0 ≤ first
  · by_cases positiveToo : 0 ≤ second
    · rw [if_pos positive, if_pos positiveToo] at same
      have sizes := toDigits_injective same
      omega
    · rw [if_pos positive, if_neg positiveToo, List.nil_append] at same
      have signed : '-' ∈ Nat.toDigits 10 first.natAbs := same ▸ List.mem_cons_self
      exact absurd signed (sign_not_mem_toDigits _)
  · by_cases positiveToo : 0 ≤ second
    · rw [if_neg positive, if_pos positiveToo, List.nil_append] at same
      have signed : '-' ∈ Nat.toDigits 10 second.natAbs := same ▸ List.mem_cons_self
      exact absurd signed (sign_not_mem_toDigits _)
    · rw [if_neg positive, if_neg positiveToo] at same
      have sizes := toDigits_injective (List.cons.inj same).2
      omega

mutual

/-- A tree is of one value at most. -/
theorem tree_injective : (first : Json) → {second : Json} → first.tree = second.tree →
    first = second
  | .null, second, same => by cases second <;> simp_all [tree]
  | .bool _, second, same => by cases second <;> simp_all [tree]
  | .int _, second, same => by
    cases second with
    | int value => rw [toString_injective (Tree.number.inj same)]
    | _ => simp [tree] at same
  | .str _, second, same => by cases second <;> simp_all [tree]
  | .arr items, second, same => by
    cases second with
    | arr others => rw [trees_injective items (Tree.arr.inj same)]
    | _ => simp [tree] at same
  | .obj members, second, same => by
    cases second with
    | obj others => rw [memberTrees_injective members (Tree.obj.inj same)]
    | _ => simp [tree] at same

theorem trees_injective : (first : List Json) → {second : List Json} →
    trees first = trees second → first = second
  | [], second, same => by cases second <;> simp_all [trees]
  | item :: rest, second, same => by
    cases second with
    | nil => simp [trees] at same
    | cons other others =>
      obtain ⟨heads, tails⟩ := List.cons.inj same
      rw [tree_injective item heads, trees_injective rest tails]

theorem memberTrees_injective : (first : List (String × Json)) → {second : List (String × Json)} →
    memberTrees first = memberTrees second → first = second
  | [], second, same => by cases second <;> simp_all [memberTrees]
  | (name, value) :: rest, second, same => by
    cases second with
    | nil => simp [memberTrees] at same
    | cons other others =>
      obtain ⟨heads, tails⟩ := List.cons.inj same
      obtain ⟨names, values⟩ := Prod.mk.inj heads
      rw [names, tree_injective value values, memberTrees_injective rest tails]

end

variable {layout : Layout}

/-- The text of a value, in any layout of blanks, is a document of its tree and of no other. -/
theorem standsIn_write_iff (blank : layout.Blank) (value : Json) (tree : Tree) :
    tree.StandsIn (.ofList (value.write layout 0)) ↔ tree = value.tree := by
  have stands : value.tree.StandsIn (.ofList (value.write layout 0)) := by
    have spelled := tree_spelled (spells_write blank 0 value)
    simpa using Tree.StandsIn.mk gap_nil spelled gap_nil
  exact stands.iff_eq tree

/-- No two values are written alike. -/
theorem write_injective (blank : layout.Blank) {first second : Json}
    (same : String.ofList (first.write layout 0) = .ofList (second.write layout 0)) :
    first = second := by
  have stands := (standsIn_write_iff blank first first.tree).mpr rfl
  rw [same, standsIn_write_iff blank] at stands
  exact tree_injective first stands

end ArithLex.Json
