import ArithLex.Json
import Mathlib.Tactic.SplitIfs

set_option autoImplicit false

/-! The texts that spell a JSON value, with any blanks around its parts and any spelling of the
characters in its strings. The text that the library writes for a value is one of them. -/
namespace ArithLex.Json

/-- Blanks, as they may stand around every part of a value. -/
def Gap (chars : List Char) : Prop := ∀ c ∈ chars, c = ' ' ∨ c = '\n' ∨ c = '\t' ∨ c = '\r'

theorem gap_nil : Gap [] := by simp [Gap]

/-- The digit of a number below sixteen, in either case. -/
def HexDigit (value : Nat) (digit : Char) : Prop :=
  value < 16 ∧ (digit = hexDigit value ∨ digit = (hexDigit value).toUpper)

instance (value : Nat) (digit : Char) : Decidable (HexDigit value digit) :=
  inferInstanceAs (Decidable (_ ∧ _))

/-- Four digits spell a code unit. -/
inductive SpellsUnit : Nat → List Char → Prop where
  | mk {a b c d : Char} {w x y z : Nat} : HexDigit w a → HexDigit x b → HexDigit y c →
      HexDigit z d → SpellsUnit (((w * 16 + x) * 16 + y) * 16 + z) [a, b, c, d]

/-- The letters of the short escapes, with the characters that they stand for. -/
def shortEscapes : List (Char × Char) :=
  [('"', '"'), ('\\', '\\'), ('/', '/'), ('b', '\x08'), ('f', '\x0c'), ('n', '\n'), ('r', '\r'),
    ('t', '\t')]

/-- The spellings of a character in a string: itself, a short escape, its code unit, or the two
halves of a character beyond the basic plane. -/
inductive SpellsChar : Char → List Char → Prop where
  | plain {c : Char} : c ≠ '"' → c ≠ '\\' → 0x20 ≤ c.toNat → SpellsChar c [c]
  | short {letter c : Char} : (letter, c) ∈ shortEscapes → SpellsChar c ['\\', letter]
  | unit {c : Char} {digits : List Char} : SpellsUnit c.toNat digits →
      SpellsChar c ('\\' :: 'u' :: digits)
  | pair {c : Char} {leading trailing : Nat} {first second : List Char} :
      SpellsUnit leading first → SpellsUnit trailing second →
      0xD800 ≤ leading → leading ≤ 0xDBFF → 0xDC00 ≤ trailing → trailing ≤ 0xDFFF →
      c.toNat = 0x10000 + (leading - 0xD800) * 0x400 + (trailing - 0xDC00) →
      SpellsChar c ('\\' :: 'u' :: (first ++ '\\' :: 'u' :: second))

/-- The spellings of the characters of a string, one behind the other. -/
inductive SpellsChars : List Char → List Char → Prop where
  | nil : SpellsChars [] []
  | cons {c : Char} {rest spelled others : List Char} : SpellsChar c spelled →
      SpellsChars rest others → SpellsChars (c :: rest) (spelled ++ others)

/-- The spellings of a string, in its quotes. -/
inductive SpellsText : String → List Char → Prop where
  | mk {text : String} {body : List Char} : SpellsChars text.toList body →
      SpellsText text ('"' :: (body ++ ['"']))

mutual

/-- The spellings of a value, from its first character to its last. -/
inductive Spells : Json → List Char → Prop where
  | null : Spells .null ['n', 'u', 'l', 'l']
  | yes : Spells (.bool true) ['t', 'r', 'u', 'e']
  | no : Spells (.bool false) ['f', 'a', 'l', 's', 'e']
  | int (value : Int) : Spells (.int value) (toString value).toList
  | text {text : String} {chars : List Char} : SpellsText text chars → Spells (.str text) chars
  | noItems {gap : List Char} : Gap gap → Spells (.arr []) ('[' :: (gap ++ [']']))
  | items {items : List Json} {chars : List Char} : SpellsItems items chars →
      Spells (.arr items) ('[' :: (chars ++ [']']))
  | noMembers {gap : List Char} : Gap gap → Spells (.obj []) ('\x7b' :: (gap ++ ['\x7d']))
  | members {members : List (String × Json)} {chars : List Char} : SpellsMembers members chars →
      Spells (.obj members) ('\x7b' :: (chars ++ ['\x7d']))

/-- The spellings of one item or more, with commas between them. -/
inductive SpellsItems : List Json → List Char → Prop where
  | last {item : Json} {chars : List Char} : SpellsItem item chars → SpellsItems [item] chars
  | next {item : Json} {rest : List Json} {chars others : List Char} : SpellsItem item chars →
      SpellsItems rest others → SpellsItems (item :: rest) (chars ++ ',' :: others)

/-- The spellings of an item, with the blanks around it. -/
inductive SpellsItem : Json → List Char → Prop where
  | mk {item : Json} {before chars after : List Char} : Gap before → Spells item chars →
      Gap after → SpellsItem item (before ++ (chars ++ after))

/-- The spellings of one member or more, with commas between them. -/
inductive SpellsMembers : List (String × Json) → List Char → Prop where
  | last {name : String} {value : Json} {chars : List Char} : SpellsMember name value chars →
      SpellsMembers [(name, value)] chars
  | next {name : String} {value : Json} {rest : List (String × Json)} {chars others : List Char} :
      SpellsMember name value chars → SpellsMembers rest others →
      SpellsMembers ((name, value) :: rest) (chars ++ ',' :: others)

/-- The spellings of a member: its name, a colon and its value. -/
inductive SpellsMember : String → Json → List Char → Prop where
  | mk {name : String} {value : Json} {before quoted between behind chars after : List Char} :
      Gap before → SpellsText name quoted → Gap between → Gap behind → Spells value chars →
      Gap after →
      SpellsMember name value
        (before ++ (quoted ++ (between ++ ':' :: (behind ++ (chars ++ after)))))

end

theorem hexDigit_lower {value : Nat} (small : value < 16) : HexDigit value (hexDigit value) :=
  ⟨small, Or.inl rfl⟩

theorem spells_control {c : Char} (control : c.toNat < 0x20) :
    SpellsChar c ['\\', 'u', '0', '0', hexDigit (c.toNat / 16), hexDigit (c.toNat % 16)] := by
  have unit := SpellsUnit.mk (hexDigit_lower (show 0 < 16 by decide))
    (hexDigit_lower (show 0 < 16 by decide)) (hexDigit_lower (show c.toNat / 16 < 16 by omega))
    (hexDigit_lower (show c.toNat % 16 < 16 by omega))
  have value : ((0 * 16 + 0) * 16 + c.toNat / 16) * 16 + c.toNat % 16 = c.toNat := by omega
  rw [value] at unit
  exact .unit unit

theorem spells_escape (c : Char) : SpellsChar c (escape c) := by
  unfold escape
  split_ifs with quote backslash backspace formFeed lineFeed carriage tab control
  · subst quote
    exact .short (by decide)
  · subst backslash
    exact .short (by decide)
  · subst backspace
    exact .short (by decide)
  · subst formFeed
    exact .short (by decide)
  · subst lineFeed
    exact .short (by decide)
  · subst carriage
    exact .short (by decide)
  · subst tab
    exact .short (by decide)
  · exact spells_control control
  · exact .plain quote backslash (Nat.le_of_not_lt control)

theorem spells_quote (text : String) : SpellsText text (quote text) := by
  refine .mk ?_
  induction text.toList with
  | nil => exact .nil
  | cons c rest ih => exact .cons (spells_escape c) ih

/-- A layout that sets parts apart by blanks only. -/
structure Layout.Blank (layout : Layout) : Prop where
  gap : ∀ depth, Gap (layout.gap depth)
  colon : ∃ gap, Gap gap ∧ layout.colon = ':' :: gap

theorem Layout.compact_blank : Layout.compact.Blank :=
  ⟨fun _ => gap_nil, [], gap_nil, rfl⟩

theorem Layout.pretty_blank : Layout.pretty.Blank := by
  refine ⟨?_, [' '], by simp [Gap], rfl⟩
  intro depth c inside
  rcases List.mem_cons.mp inside with rfl | indent
  · exact Or.inr (Or.inl rfl)
  · exact Or.inl (List.eq_of_mem_replicate indent)

variable {layout : Layout}

mutual

/-- The text of a value in a layout of blanks spells the value. -/
theorem spells_write (blank : layout.Blank) (depth : Nat) :
    (value : Json) → Spells value (value.write layout depth)
  | .null => .null
  | .bool true => .yes
  | .bool false => .no
  | .int value => .int value
  | .str text => .text (spells_quote text)
  | .arr [] => .noItems gap_nil
  | .arr (item :: rest) => by
    obtain ⟨body, spelled, written⟩ := spells_writeItems blank depth rest
      (blank.gap (depth + 1)) (spells_write blank (depth + 1) item)
    rw [write, written]
    exact .items spelled
  | .obj [] => .noMembers gap_nil
  | .obj ((name, value) :: rest) => by
    obtain ⟨body, spelled, written⟩ := spells_writeMembers blank depth rest
      name (spells_write blank (depth + 1) value)
    rw [write, written]
    exact .members spelled

theorem spells_writeItems (blank : layout.Blank) (depth : Nat) :
    (rest : List Json) → {item : Json} → {before chars : List Char} → Gap before →
      Spells item chars → ∃ body, SpellsItems (item :: rest) body ∧
        before ++ chars ++ writeItems layout depth rest = body ++ [']']
  | [], item, before, chars, gap, spelled => by
    refine ⟨_, .last (.mk gap spelled (blank.gap depth)), ?_⟩
    simp [writeItems]
  | next :: rest, item, before, chars, gap, spelled => by
    obtain ⟨body, others, written⟩ := spells_writeItems blank depth rest
      (blank.gap (depth + 1)) (spells_write blank (depth + 1) next)
    refine ⟨_, .next (.mk gap spelled gap_nil) others, ?_⟩
    simp [writeItems, written]

theorem spells_writeMembers (blank : layout.Blank) (depth : Nat) :
    (rest : List (String × Json)) → (name : String) → {value : Json} → {chars : List Char} →
      Spells value chars → ∃ body, SpellsMembers ((name, value) :: rest) body ∧
        layout.gap (depth + 1) ++ quote name ++ layout.colon ++ chars ++
          writeMembers layout depth rest = body ++ ['\x7d']
  | [], name, value, chars, spelled => by
    obtain ⟨gap, gapped, colon⟩ := blank.colon
    refine ⟨_, .last (.mk (blank.gap (depth + 1)) (spells_quote name) gap_nil gapped spelled
      (blank.gap depth)), ?_⟩
    simp [writeMembers, colon]
  | (later, next) :: rest, name, value, chars, spelled => by
    obtain ⟨gap, gapped, colon⟩ := blank.colon
    obtain ⟨body, others, written⟩ := spells_writeMembers blank depth rest later
      (spells_write blank (depth + 1) next)
    refine ⟨_, .next (.mk (blank.gap (depth + 1)) (spells_quote name) gap_nil gapped spelled
      gap_nil) others, ?_⟩
    rw [writeMembers, written]
    simp [colon]

end

end ArithLex.Json
