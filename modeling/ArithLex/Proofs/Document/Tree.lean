import ArithLex.Proofs.Document.Reading
import Mathlib.Data.List.Basic

set_option autoImplicit false

/-! JSON documents in full, with numbers of every form. The values of the library are among their
trees, with the same spellings. -/
namespace ArithLex.Document

open Json (Gap SpellsText SpellsItems SpellsMembers)

/-- One decimal digit or more. -/
def Digits (chars : List Char) : Prop := chars ≠ [] ∧ ∀ c ∈ chars, c.isDigit = true

/-- The digits before a point, which begin with a zero only if there is no other digit. -/
def WholeDigits (chars : List Char) : Prop :=
  Digits chars ∧ (chars.head? = some '0' → chars = ['0'])

/-- A point with digits behind it, or nothing. -/
inductive FractionPart : List Char → Prop where
  | absent : FractionPart []
  | present {digits : List Char} : Digits digits → FractionPart ('.' :: digits)

/-- The letter of an exponent with a sign or none and digits behind it, or nothing. -/
inductive ExponentPart : List Char → Prop where
  | absent : ExponentPart []
  | present {letter : Char} {sign digits : List Char} : letter ∈ ['e', 'E'] →
      sign ∈ [[], ['+'], ['-']] → Digits digits → ExponentPart (letter :: (sign ++ digits))

/-- The literals of numbers. -/
inductive Numeral : List Char → Prop where
  | mk {sign whole fraction exponent : List Char} : sign ∈ [[], ['-']] → WholeDigits whole →
      FractionPart fraction → ExponentPart exponent →
      Numeral (sign ++ (whole ++ (fraction ++ exponent)))

/-- A value of a document. A number is its literal, and members keep their order. -/
inductive Tree where
  | null
  | bool (value : Bool)
  | number (literal : List Char)
  | str (value : String)
  | arr (items : List Tree)
  | obj (members : List (String × Tree))

namespace Tree

/-- The parts of a list or of an object, with commas between them, and the bracket behind them. -/
inductive Sequence {α : Type} (part : α → List Char → Prop) (bracket : Char) :
    Bool → List α → List Char → Prop where
  | done {isFirst : Bool} {gap : List Char} : Gap gap →
      Sequence part bracket isFirst [] (gap ++ [bracket])
  | next {isFirst : Bool} {first : α} {rest : List α} {lead before chars others : List Char} :
      Lead isFirst lead → Gap before → part first chars →
      Sequence part bracket false rest others →
      Sequence part bracket isFirst (first :: rest) (lead ++ (before ++ (chars ++ others)))

/-- A name, a colon and a value. -/
inductive Member (value : Tree → List Char → Prop) : String × Tree → List Char → Prop where
  | mk {name : String} {tree : Tree} {quoted between behind chars : List Char} :
      SpellsText name quoted → Gap between → Gap behind → value tree chars →
      Member value (name, tree) (quoted ++ (between ++ ':' :: (behind ++ chars)))

/-- The spellings of a tree, from its first character to its last. -/
inductive Spells : Tree → List Char → Prop where
  | null : Spells .null ['n', 'u', 'l', 'l']
  | yes : Spells (.bool true) ['t', 'r', 'u', 'e']
  | no : Spells (.bool false) ['f', 'a', 'l', 's', 'e']
  | number {literal : List Char} : Numeral literal → Spells (.number literal) literal
  | text {text : String} {chars : List Char} : SpellsText text chars → Spells (.str text) chars
  | list {items : List Tree} {chars : List Char} : Sequence Spells ']' true items chars →
      Spells (.arr items) ('[' :: chars)
  | object {members : List (String × Tree)} {chars : List Char} :
      Sequence (Member Spells) '\x7d' true members chars →
      Spells (.obj members) ('\x7b' :: chars)

/-- The tree stands in the text, with nothing around it but blanks. -/
inductive StandsIn (tree : Tree) : String → Prop where
  | mk {before chars after : List Char} : Gap before → Spells tree chars → Gap after →
      StandsIn tree (.ofList (before ++ (chars ++ after)))

end Tree

section Integer

theorem head?_toDigits (n : Nat) (zero : (Nat.toDigits 10 n).head? = some '0') : n = 0 := by
  induction n using Nat.strongRecOn with
  | ind n ih =>
    by_cases small : n < 10
    · rw [Nat.toDigits_of_lt_base small] at zero
      exact Nat.digitChar_eq_zero.mp (by simpa using zero)
    · have shorter : n / 10 < n := by omega
      rw [Nat.toDigits_of_base_le (by decide) (by omega),
        List.head?_append_of_ne_nil (Nat.toDigits 10 (n / 10)) Nat.toDigits_ne_nil] at zero
      have none : n / 10 = 0 := ih (n / 10) shorter zero
      omega

theorem wholeDigits_toDigits (n : Nat) : WholeDigits (Nat.toDigits 10 n) := by
  refine ⟨⟨Nat.toDigits_ne_nil, ?_⟩, ?_⟩
  · intro c inside
    exact Nat.isDigit_of_mem_toDigits (by decide) (by decide) inside
  · intro zero
    rw [head?_toDigits n zero, Nat.toDigits_zero]

/-- The digits of an integer, behind its sign if it is negative. -/
theorem toList_toString_int (value : Int) :
    (toString value).toList = (if 0 ≤ value then [] else ['-']) ++
      Nat.toDigits 10 value.natAbs := by
  rw [Int.toString_eq_repr, Int.repr_eq_if]
  split
  · next positive =>
    have same : value.toNat = value.natAbs := by omega
    rw [Nat.repr_eq_ofList_toDigits, String.toList_ofList, same, List.nil_append]
  · next negative =>
    have same : (-value).toNat = value.natAbs := by omega
    simp [String.toList_append, Nat.repr_eq_ofList_toDigits, same]

theorem numeral_int (value : Int) : Numeral (toString value).toList := by
  have numeral : Numeral ((if 0 ≤ value then [] else ['-']) ++
      (Nat.toDigits 10 value.natAbs ++ ([] ++ []))) :=
    .mk (by split <;> simp) (wholeDigits_toDigits value.natAbs) .absent .absent
  rw [toList_toString_int]
  simpa using numeral

end Integer

end ArithLex.Document

namespace ArithLex.Json

open Document (Tree Lead)

mutual

def tree : Json → Tree
  | .null => .null
  | .bool value => .bool value
  | .int value => .number (toString value).toList
  | .str value => .str value
  | .arr items => .arr (trees items)
  | .obj members => .obj (memberTrees members)

def trees : List Json → List Tree
  | [] => []
  | item :: rest => item.tree :: trees rest

def memberTrees : List (String × Json) → List (String × Tree)
  | [] => []
  | (name, value) :: rest => (name, value.tree) :: memberTrees rest

end

theorem trees_eq_map (items : List Json) : trees items = items.map tree := by
  induction items with
  | nil => rfl
  | cons item rest ih => rw [trees, ih, List.map_cons]

theorem memberTrees_eq_map (members : List (String × Json)) :
    memberTrees members = members.map (Prod.map id tree) := by
  induction members with
  | nil => rfl
  | cons entry rest ih => rw [memberTrees, ih, List.map_cons, Prod.map, id]

theorem map_fst_memberTrees (members : List (String × Json)) :
    (memberTrees members).map Prod.fst = members.map Prod.fst := by
  rw [memberTrees_eq_map, List.map_map]
  rfl

theorem list_of_tree {json : Json} {items : List Tree} (same : json.tree = .arr items) :
    ∃ values, json = .arr values ∧ trees values = items := by
  cases json with
  | arr values => exact ⟨values, rfl, Tree.arr.inj same⟩
  | _ => simp [tree] at same

theorem object_of_tree {json : Json} {members : List (String × Tree)}
    (same : json.tree = .obj members) :
    ∃ listed, json = .obj listed ∧ memberTrees listed = members := by
  cases json with
  | obj listed => exact ⟨listed, rfl, Tree.obj.inj same⟩
  | _ => simp [tree] at same

mutual

/-- Every spelling of a value spells its tree. -/
theorem tree_spelled {json : Json} {chars : List Char} :
    Spells json chars → Tree.Spells json.tree chars
  | .null => .null
  | .yes => .yes
  | .no => .no
  | .int value => .number (Document.numeral_int value)
  | .text spelled => .text spelled
  | .noItems gap => .list (.done gap)
  | .items spelled => .list (trees_spelled spelled .first)
  | .noMembers gap => .object (.done gap)
  | .members spelled => .object (memberTrees_spelled spelled .first)

theorem trees_spelled {isFirst : Bool} {items : List Json} {chars lead : List Char} :
    SpellsItems items chars → Lead isFirst lead →
      Tree.Sequence Tree.Spells ']' isFirst (trees items) (lead ++ (chars ++ [']']))
  | .last (.mk before spelled after), leads => by
    have sequence : Tree.Sequence Tree.Spells ']' isFirst _ _ :=
      .next leads before (tree_spelled spelled) (.done after)
    simpa [trees] using sequence
  | .next (.mk before spelled after) rest, leads => by
    have sequence := Tree.Sequence.next leads before (tree_spelled spelled)
      (trees_spelled rest (.later after))
    simpa [trees] using sequence

theorem memberTrees_spelled {isFirst : Bool} {members : List (String × Json)}
    {chars lead : List Char} : SpellsMembers members chars → Lead isFirst lead →
      Tree.Sequence (Tree.Member Tree.Spells) '\x7d' isFirst (memberTrees members)
        (lead ++ (chars ++ ['\x7d']))
  | .last (.mk before name between behind spelled after), leads => by
    have member := Tree.Member.mk name between behind (tree_spelled spelled)
    have sequence : Tree.Sequence (Tree.Member Tree.Spells) '\x7d' isFirst _ _ :=
      .next leads before member (.done after)
    simpa [memberTrees] using sequence
  | .next (.mk before name between behind spelled after) rest, leads => by
    have member := Tree.Member.mk name between behind (tree_spelled spelled)
    have sequence := Tree.Sequence.next leads before member
      (memberTrees_spelled rest (.later after))
    simpa [memberTrees] using sequence

end

mutual

/-- Every spelling of the tree of a value spells the value. -/
theorem spelled_of_tree : (json : Json) → {chars : List Char} → Tree.Spells json.tree chars →
    Spells json chars
  | .null, _, .null => .null
  | .bool true, _, .yes => .yes
  | .bool false, _, .no => .no
  | .int value, _, .number _ => .int value
  | .str _, _, .text spelled => .text spelled
  | .arr [], _, .list (.done gap) => .noItems gap
  | .arr (item :: rest), _, .list (.next .first before spelled others) => by
    obtain ⟨body, items, written⟩ :=
      items_of_trees rest before (spelled_of_tree item spelled) others
    rw [List.nil_append, written]
    exact .items items
  | .obj [], _, .object (.done gap) => .noMembers gap
  | .obj ((name, value) :: rest), _,
      .object (.next .first before (.mk quoted between behind spelled) others) => by
    obtain ⟨body, members, written⟩ :=
      members_of_trees rest before quoted between behind (spelled_of_tree value spelled) others
    rw [List.nil_append, written]
    exact .members members

theorem items_of_trees {item : Json} {before chars others : List Char} :
    (rest : List Json) → Gap before → Spells item chars →
    Tree.Sequence Tree.Spells ']' false (trees rest) others →
      ∃ body, SpellsItems (item :: rest) body ∧ before ++ (chars ++ others) = body ++ [']']
  | [], gap, spelled, .done after => ⟨_, .last (.mk gap spelled after), by simp⟩
  | next :: rest, gap, spelled, .next (.later after) before first others => by
    obtain ⟨body, items, written⟩ := items_of_trees rest before (spelled_of_tree next first) others
    refine ⟨_, .next (.mk gap spelled after) items, ?_⟩
    simp [written]

theorem members_of_trees {name : String} {value : Json}
    {before quoted between behind chars others : List Char} :
    (rest : List (String × Json)) → Gap before → SpellsText name quoted → Gap between →
    Gap behind → Spells value chars →
    Tree.Sequence (Tree.Member Tree.Spells) '\x7d' false (memberTrees rest) others →
      ∃ body, SpellsMembers ((name, value) :: rest) body ∧
        before ++ (quoted ++ (between ++ ':' :: (behind ++ chars)) ++ others) = body ++ ['\x7d']
  | [], gap, quoted, between, behind, spelled, .done after =>
    ⟨_, .last (.mk gap quoted between behind spelled after), by simp⟩
  | (_, next) :: rest, gap, quoted, between, behind, spelled,
      .next (.later after) before (.mk name colon space first) others => by
    obtain ⟨body, members, written⟩ :=
      members_of_trees rest before name colon space (spelled_of_tree next first) others
    refine ⟨_, .next (.mk gap quoted between behind spelled after) members, ?_⟩
    simp only [List.append_assoc, List.cons_append, List.nil_append] at written ⊢
    rw [written]

end

end ArithLex.Json
