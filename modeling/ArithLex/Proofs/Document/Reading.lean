import ArithLex.Document.Value
import ArithLex.Proofs.Json.Spelling

set_option autoImplicit false

/-! Every spelling of a value is read as that value. A reader takes exactly the characters of the
value and the blanks before it, whatever stands behind them. -/
namespace ArithLex.Document

open Json (Gap SpellsUnit SpellsChar SpellsChars Spells SpellsMember SpellsMembers)

variable {α β σ : Type}

theorem isBlank_of_gap {gap : List Char} (gapped : Gap gap) : ∀ c ∈ gap, isBlank c = true := by
  intro c member
  rcases gapped c member with rfl | rfl | rfl | rfl <;> rfl

theorem Input.drop_append (chars rest : List Char) (place : Place) :
    (⟨chars ++ rest, place⟩ : Input).drop chars.length = ⟨rest, chars.foldl Place.past place⟩ := by
  induction chars generalizing place with
  | nil => rfl
  | cons c chars ih => exact ih (place.past c)

/-- Blanks are read up to the next character that is none, or up to the end. -/
theorem skipBlanks_gap {gap rest : List Char} (gapped : Gap gap)
    (stops : ∀ c ∈ rest.head?, isBlank c = false) (place : Place) :
    Reader.skipBlanks ⟨gap ++ rest, place⟩ = .ok ((), ⟨rest, gap.foldl Place.past place⟩) := by
  have blanks : (gap ++ rest).takeWhile isBlank = gap := by
    rw [List.takeWhile_append_of_pos (isBlank_of_gap gapped)]
    cases rest with
    | nil => simp
    | cons c rest => simp [stops c (by simp)]
  simp only [Reader.skipBlanks, blanks, Input.drop_append]

/-- The reader takes these characters, whatever stands behind them, and gives the value. -/
def Takes (reader : Reader α) (chars : List Char) (value : α) : Prop :=
  ∀ rest place, ∃ after, reader ⟨chars ++ rest, place⟩ = .ok (value, ⟨rest, after⟩)

namespace Takes

theorem pure (value : α) : Takes (Pure.pure value) [] value :=
  fun _ place => ⟨place, rfl⟩

theorem bind {reader : Reader α} {next : α → Reader β} {chars others : List Char} {value : α}
    {result : β} (first : Takes reader chars value) (second : Takes (next value) others result) :
    Takes (reader >>= next) (chars ++ others) result := by
  intro rest place
  obtain ⟨between, taken⟩ := first (others ++ rest) place
  obtain ⟨after, takenToo⟩ := second rest between
  refine ⟨after, ?_⟩
  rw [List.append_assoc]
  show reader ⟨chars ++ (others ++ rest), place⟩ >>= (fun read => next read.1 read.2) = _
  rw [taken]
  exact takenToo

theorem bind_pure {reader : Reader α} {chars : List Char} {value : α}
    (taken : Takes reader chars value) (change : α → β) :
    Takes (reader >>= fun read => Pure.pure (change read)) chars (change value) := by
  rw [← List.append_nil chars]
  exact taken.bind (Takes.pure (change value))

/-- Looking at the next character takes nothing. -/
theorem peek {next : Option Char → Reader α} {c : Char} {chars : List Char} {value : α}
    (taken : Takes (next (some c)) (c :: chars) value) :
    Takes (Reader.peek >>= next) (c :: chars) value :=
  taken

theorem skip {next : Unit → Reader α} (c : Char) {chars : List Char} {value : α}
    (taken : Takes (next ()) chars value) : Takes (Reader.skip >>= next) (c :: chars) value :=
  fun rest place => taken rest (place.past c)

theorem skipBlanks {next : Unit → Reader α} {gap : List Char} (gapped : Gap gap) {c : Char}
    (visible : isBlank c = false) {chars : List Char} {value : α}
    (taken : Takes (next ()) (c :: chars) value) :
    Takes (Reader.skipBlanks >>= next) (gap ++ c :: chars) value := by
  intro rest place
  have stops : ∀ d ∈ (c :: chars ++ rest).head?, isBlank d = false := by
    rintro d ⟨⟩
    exact visible
  obtain ⟨after, taken⟩ := taken rest (gap.foldl Place.past place)
  refine ⟨after, ?_⟩
  rw [List.append_assoc]
  show Reader.skipBlanks ⟨gap ++ (c :: chars ++ rest), place⟩ >>=
    (fun read => next read.1 read.2) = _
  rw [skipBlanks_gap gapped stops]
  exact taken

/-- Behind blanks, the reader that goes by the next character takes this one and goes on. -/
theorem sign {next : Option Char → Reader α} {body : Unit → Reader α} {gap : List Char}
    (gapped : Gap gap) (c : Char) {chars : List Char} {value : α}
    (taken : Takes (body ()) chars value) (visible : isBlank c = false := by rfl)
    (chosen : next (some c) = (Reader.skip >>= body) := by rfl) :
    Takes (Reader.skipBlanks >>= fun _ => Reader.peek >>= next) (gap ++ c :: chars) value := by
  apply Takes.skipBlanks gapped visible
  apply Takes.peek
  rw [chosen]
  exact Takes.skip c taken

end Takes

theorem takes_word (letters : List Char) : Takes (Reader.word letters) letters () := by
  induction letters with
  | nil => exact .pure ()
  | cons letter letters ih =>
    refine Takes.peek ?_
    simp only [↓reduceIte]
    exact Takes.skip letter ih

/-- The parts of a member, in the order in which they are read. -/
theorem parts_of_member {name : String} {value : Json} {chars : List Char}
    (spelled : SpellsMember name value chars) :
    ∃ before body between behind spelledValue after, Gap before ∧ SpellsChars name.toList body ∧
      Gap between ∧ Gap behind ∧ Spells value spelledValue ∧ Gap after ∧
      ∀ rest, chars ++ rest = before ++ '"' :: ((body ++ ['"']) ++ ((between ++ [':']) ++
        ((behind ++ spelledValue) ++ (after ++ rest)))) := by
  obtain ⟨before, quoted, between, behind, value, after⟩ := spelled
  obtain ⟨body⟩ := quoted
  refine ⟨_, _, _, _, _, _, before, body, between, behind, value, after, ?_⟩
  intro rest
  simp

section Text

theorem hexValue?_of_hexDigit {value : Nat} {digit : Char} (spelled : Json.HexDigit value digit) :
    hexValue? digit = some value := by
  have all : ∀ value < 16, hexValue? (Json.hexDigit value) = some value ∧
      hexValue? (Json.hexDigit value).toUpper = some value := by decide
  obtain ⟨small, rfl | rfl⟩ := spelled
  · exact (all value small).1
  · exact (all value small).2

theorem takes_codeUnit {unit : Nat} {digits : List Char} (spelled : SpellsUnit unit digits) :
    Takes codeUnit digits unit := by
  intro rest place
  obtain @⟨a, b, c, d, _, _, _, _, first, second, third, fourth⟩ := spelled
  refine ⟨[a, b, c, d].foldl Place.past place, ?_⟩
  simp only [codeUnit, List.cons_append, List.nil_append, hexValue?_of_hexDigit first,
    hexValue?_of_hexDigit second, hexValue?_of_hexDigit third, hexValue?_of_hexDigit fourth]
  rfl

/-- No character has the number of one half of a character. -/
theorem not_half (c : Char) : isLeading c.toNat = false ∧ isTrailing c.toNat = false := by
  have valid : c.toNat < 0xD800 ∨ 0xDFFF < c.toNat ∧ c.toNat < 0x110000 := c.valid
  simp only [isLeading, isTrailing, Bool.and_eq_false_iff, decide_eq_false_iff_not]
  omega

theorem takes_numericEscape_unit {c : Char} {digits : List Char}
    (spelled : SpellsUnit c.toNat digits) : Takes numericEscape digits c := by
  intro rest place
  obtain ⟨after, read⟩ := takes_codeUnit spelled rest place
  obtain ⟨notLeading, notTrailing⟩ := not_half c
  refine ⟨after, ?_⟩
  simp [numericEscape, read, notLeading, notTrailing, bind, Except.bind, Char.ofNat_toNat]

theorem expectInPair_self (wanted : Char) (rest : List Char) (place : Place) :
    expectInPair wanted ⟨wanted :: rest, place⟩ = .ok ⟨rest, place.past wanted⟩ := by
  simp [expectInPair, Input.tail]

theorem takes_numericEscape_pair {c : Char} {leading trailing : Nat} {first second : List Char}
    (spelledFirst : SpellsUnit leading first) (spelledSecond : SpellsUnit trailing second)
    (isFirst : 0xD800 ≤ leading ∧ leading ≤ 0xDBFF)
    (isSecond : 0xDC00 ≤ trailing ∧ trailing ≤ 0xDFFF)
    (value : c.toNat = 0x10000 + (leading - 0xD800) * 0x400 + (trailing - 0xDC00)) :
    Takes numericEscape (first ++ '\\' :: 'u' :: second) c := by
  intro rest place
  obtain ⟨between, read⟩ := takes_codeUnit spelledFirst ('\\' :: 'u' :: (second ++ rest)) place
  obtain ⟨after, readToo⟩ := takes_codeUnit spelledSecond rest ((between.past '\\').past 'u')
  have notTrailing : isTrailing leading = false := by
    simp only [isTrailing, Bool.and_eq_false_iff, decide_eq_false_iff_not]
    omega
  have isLead : isLeading leading = true := by simpa [isLeading] using isFirst
  have isTrail : isTrailing trailing = true := by simpa [isTrailing] using isSecond
  have combined : combine leading trailing = c := by
    rw [combine, ← value, Char.ofNat_toNat]
  refine ⟨after, ?_⟩
  simp [numericEscape, read, readToo, notTrailing, isLead, isTrail, expectInPair_self, combined,
    bind, Except.bind]

theorem takes_textStep_numeric {c : Char} {digits : List Char}
    (taken : Takes numericEscape digits c) : Takes textStep ('\\' :: 'u' :: digits) (some c) := by
  intro rest place
  obtain ⟨after, read⟩ := taken rest ((place.past '\\').past 'u')
  refine ⟨after, ?_⟩
  simp [textStep, escapeTail, Input.tail, read, Except.map]

theorem takes_textStep {c : Char} {chars : List Char} (spelled : SpellsChar c chars) :
    Takes textStep chars (some c) := by
  cases spelled with
  | plain quote backslash visible =>
    intro rest place
    refine ⟨place.past c, ?_⟩
    simp [textStep, quote, backslash, Nat.not_lt.mpr visible, Input.tail]
  | @short letter _ listed =>
    have all : ∀ escape ∈ Json.shortEscapes,
        escaped? escape.1 = some escape.2 ∧ escape.1 ≠ 'u' := by decide
    obtain ⟨stands, noUnit⟩ := all _ listed
    intro rest place
    refine ⟨(place.past '\\').past letter, ?_⟩
    simp [textStep, escapeTail, Input.tail, stands, noUnit, Except.map]
  | unit digits => exact takes_textStep_numeric (takes_numericEscape_unit digits)
  | pair first second lower upper lowerToo upperToo value =>
    exact takes_textStep_numeric
      (takes_numericEscape_pair first second ⟨lower, upper⟩ ⟨lowerToo, upperToo⟩ value)

theorem textTail_end {input after : Input} (step : textStep input = .ok (none, after)) :
    textTail input = .ok ([], after) := by
  rw [textTail]
  split <;> simp_all

theorem textTail_next {input between after : Input} {c : Char} {more : List Char}
    (step : textStep input = .ok (some c, between)) (tail : textTail between = .ok (more, after)) :
    textTail input = .ok (c :: more, after) := by
  rw [textTail]
  split <;> simp_all

/-- A string is read character by character, up to the quote at its end. -/
theorem takes_textTail {text body : List Char} (spelled : SpellsChars text body) :
    Takes textTail (body ++ ['"']) text := by
  induction spelled with
  | nil =>
    intro rest place
    exact ⟨place.past '"', textTail_end rfl⟩
  | @cons c _ chars others first _ ih =>
    intro rest place
    obtain ⟨between, step⟩ := takes_textStep first (others ++ ['"'] ++ rest) place
    obtain ⟨after, tail⟩ := ih rest between
    refine ⟨after, textTail_next ?_ tail⟩
    simpa only [List.append_assoc] using step

theorem takes_textBody {text : String} {body : List Char}
    (spelled : SpellsChars text.toList body) : Takes Reader.textBody (body ++ ['"']) text := by
  intro rest place
  obtain ⟨after, read⟩ := takes_textTail spelled rest place
  refine ⟨after, ?_⟩
  rw [Reader.textBody, read]
  simp [Except.map]

theorem takes_text {json : Json} {text : String} {gap chars : List Char} (meant : json = .str text)
    (gapped : Gap gap) (spelled : Spells json chars) : Takes Reader.text (gap ++ chars) text := by
  subst meant
  cases spelled with
  | text quoted =>
    obtain ⟨body⟩ := quoted
    exact Takes.sign gapped '"' (takes_textBody body)

end Text

theorem takes_boolean {json : Json} {value : Bool} {gap chars : List Char}
    (meant : json = .bool value) (gapped : Gap gap) (spelled : Spells json chars) :
    Takes Reader.boolean (gap ++ chars) value := by
  subst meant
  cases spelled with
  | yes =>
    exact Takes.sign gapped 't' ((takes_word ['r', 'u', 'e']).bind (.pure true))
  | no =>
    exact Takes.sign gapped 'f' ((takes_word ['a', 'l', 's', 'e']).bind (.pure false))

theorem takes_unit {gap chars : List Char} (gapped : Gap gap) (spelled : Spells .null chars) :
    Takes Reader.unit (gap ++ chars) () := by
  cases spelled
  exact Takes.sign gapped 'n' (takes_word ['u', 'l', 'l'])

theorem takes_colon {gap : List Char} (gapped : Gap gap) : Takes Reader.colon (gap ++ [':']) () :=
  Takes.skipBlanks gapped rfl (Takes.peek (fun _ place => ⟨place.past ':', rfl⟩))

section Variant

/-- The values that name one of several choices: the name as a text, or an object with this name
only, whose value is null. -/
inductive Names (keyword : α → String) : Json → α → Prop where
  | text (choice : α) : Names keyword (.str (keyword choice)) choice
  | object (choice : α) : Names keyword (.obj [(keyword choice, .null)]) choice

variable {choices : List (String × α)} {keyword : α → String} {choice : α}

theorem takes_choiceBody {body : List Char}
    (listed : choices.find? (·.1 == keyword choice) = some (keyword choice, choice))
    (spelled : SpellsChars (keyword choice).toList body) :
    Takes (Reader.choiceBody choices) (body ++ ['"']) choice := by
  rw [← List.append_nil (body ++ ['"'])]
  refine (takes_textBody spelled).bind ?_
  rw [listed]
  exact .pure choice

theorem takes_variant {json : Json} {gap chars : List Char}
    (listed : choices.find? (·.1 == keyword choice) = some (keyword choice, choice))
    (named : Names keyword json choice) (gapped : Gap gap) (spelled : Spells json chars) :
    Takes (Reader.variant choices) (gap ++ chars) choice := by
  cases named with
  | text =>
    cases spelled with
    | text quoted =>
      obtain ⟨body⟩ := quoted
      exact Takes.sign gapped '"' (takes_choiceBody listed body)
  | object =>
    cases spelled with
    | members spelled =>
      cases spelled with
      | next _ rest => cases rest
      | last member =>
        obtain ⟨_, _, _, _, _, _, before, body, between, behind, nothing, after, parts⟩ :=
          parts_of_member member
        rw [parts ['\x7d']]
        refine Takes.sign gapped '\x7b' ?_
        refine Takes.sign before '"' ?_
        refine (takes_choiceBody listed body).bind ?_
        refine (takes_colon between).bind ((takes_unit behind nothing).bind ?_)
        exact Takes.sign after '\x7d' (.pure choice)

/-- An optional choice is null, or the name of the choice. -/
inductive NamesOrNull (keyword : α → String) : Json → Option α → Prop where
  | null : NamesOrNull keyword .null none
  | named {json : Json} {choice : α} : Names keyword json choice →
      NamesOrNull keyword json (some choice)

theorem takes_optional {json : Json} {chosen : Option α} {gap chars : List Char}
    (listed : ∀ choice, choices.find? (·.1 == keyword choice) = some (keyword choice, choice))
    (named : NamesOrNull keyword json chosen) (gapped : Gap gap) (spelled : Spells json chars) :
    Takes (Reader.optional (Reader.variant choices)) (gap ++ chars) chosen := by
  cases named with
  | null =>
    cases spelled
    exact Takes.sign gapped 'n' ((takes_word ['u', 'l', 'l']).bind_pure fun _ => none)
  | @named _ choice named =>
    have taken := (takes_variant (listed choice) named Json.gap_nil spelled).bind_pure some
    -- a name begins with its quote or with a brace, so it is not taken for null
    cases named with
    | text =>
      cases spelled with
      | text quoted =>
        obtain ⟨_⟩ := quoted
        exact Takes.skipBlanks gapped rfl (Takes.peek taken)
    | object =>
      cases spelled with
      | members spelled => exact Takes.skipBlanks gapped rfl (Takes.peek taken)

end Variant

section Record

open Reader (Member)

/-- What stands before the name of a member and the blanks before it: nothing at the first member,
and a comma at every other one. -/
inductive Lead : Bool → List Char → Prop where
  | first : Lead true []
  | later {gap : List Char} : Gap gap → Lead false (gap ++ [','])

variable {known : List String} {missing : List (Member σ)} {isFirst : Bool} {record result : σ}
  {lead gap chars : List Char}

theorem takes_nextName {name : String} {body : List Char} (leads : Lead isFirst lead)
    (gapped : Gap gap) (spelled : SpellsChars name.toList body) :
    Takes (Reader.nextName isFirst) (lead ++ (gap ++ '"' :: (body ++ ['"']))) (some name) := by
  have named := (takes_textBody spelled).bind_pure some
  cases leads with
  | first => exact Takes.sign gapped '"' named
  | later separated =>
    rw [List.append_assoc]
    refine Takes.sign separated ',' ?_
    exact Takes.sign gapped '"' named

theorem takes_nextName_end (gapped : Gap gap) (isFirst : Bool) :
    Takes (Reader.nextName isFirst) (gap ++ ['\x7d']) none :=
  Takes.sign gapped '\x7d' (.pure none)

theorem takes_members_end (gapped : Gap gap) :
    Takes (Reader.members known missing isFirst record) (gap ++ ['\x7d']) record := by
  rw [Reader.members, ← List.append_nil (gap ++ ['\x7d'])]
  exact (takes_nextName_end gapped isFirst).bind (.pure record)

/-- Reading this value into the member settles what its name stands for, and leaves every other name
as settled as it was. -/
def Settles (settled : String → σ → Prop) (member : Member σ) (value : Json) : Prop :=
  ∀ record {gap chars : List Char}, Gap gap → Spells value chars → ∃ filled,
    Takes (member.read record) (gap ++ chars) filled ∧ settled member.name filled ∧
      ∀ other ≠ member.name, settled other record → settled other filled

/-- A member that puts what it reads into one field settles that field. -/
theorem settles_of_takes {settled : String → σ → Prop} {name : String} {json : Json}
    {reader : Reader α} {put : σ → α → σ} {value : α}
    (taken : ∀ {gap chars : List Char}, Gap gap → Spells json chars →
      Takes reader (gap ++ chars) value)
    (sets : ∀ record, settled name (put record value))
    (keeps : ∀ record, ∀ other ≠ name, settled other record → settled other (put record value)) :
    Settles settled ⟨name, fun record => reader >>= fun read => pure (put record read)⟩ json := by
  intro record gap chars gapped spelled
  exact ⟨put record value, (taken gapped spelled).bind_pure (put record), sets record, keeps record⟩

variable {settled : String → σ → Prop} {name : String} {value : Json} {member : Member σ}

theorem takes_members_next {tail : List Char} (leads : Lead isFirst lead)
    (spelled : SpellsMember name value chars)
    (found : missing.find? (·.name == name) = some member) (settles : Settles settled member value)
    (others : ∀ filled {after : List Char}, Gap after → settled name filled →
      (∀ other ≠ name, settled other record → settled other filled) →
      ∃ result, Takes (Reader.members known (missing.eraseP (·.name == name)) false filled)
        (after ++ tail) result ∧ ∀ name, settled name result) :
    ∃ result, Takes (Reader.members known missing isFirst record) (lead ++ (chars ++ tail)) result ∧
      ∀ name, settled name result := by
  have named : member.name = name := by simpa using List.find?_some found
  obtain ⟨before, body, between, behind, valueChars, after, gapBefore, spelledName, gapBetween,
    gapBehind, spelledValue, gapAfter, parts⟩ := parts_of_member spelled
  obtain ⟨filled, read, set, kept⟩ := settles record gapBehind spelledValue
  rw [named] at set kept
  obtain ⟨result, rest, all⟩ := others filled gapAfter set kept
  refine ⟨result, ?_, all⟩
  have shape : lead ++ (chars ++ tail) = (lead ++ (before ++ '"' :: (body ++ ['"']))) ++
      ((between ++ [':']) ++ ((behind ++ valueChars) ++ (after ++ tail))) := by
    rw [parts tail]
    simp
  rw [Reader.members, shape]
  refine (takes_nextName leads gapBefore spelledName).bind ?_
  dsimp only
  split
  · next absent => simp [found] at absent
  · next other present =>
    obtain rfl := Option.some.inj (present.symm.trans found)
    exact (takes_colon gapBetween).bind (read.bind rest)

theorem find?_eraseP_of_ne {first second : String} (different : second ≠ first)
    (missing : List (Member σ)) :
    (missing.eraseP (·.name == first)).find? (·.name == second) =
      missing.find? (·.name == second) := by
  induction missing with
  | nil => rfl
  | cons member missing ih => 
    by_cases named : member.name = first
    · simp [named, different.symm]
    · simp [named, List.find?_cons, ih]

/-- The members of an object are read in any order, and names that it does not give stay as they
are. -/
theorem takes_members {listed : List (String × Json)} (leads : Lead isFirst lead)
    (spelled : SpellsMembers listed chars) (once : (listed.map Prod.fst).Nodup)
    (given : ∀ name value, (name, value) ∈ listed → ∃ member,
      missing.find? (·.name == name) = some member ∧ Settles settled member value)
    (absent : ∀ name ∉ listed.map Prod.fst, settled name record) :
    ∃ result, Takes (Reader.members known missing isFirst record) (lead ++ (chars ++ ['\x7d']))
      result ∧ ∀ name, settled name result := by
  induction listed generalizing isFirst lead chars missing record with
  | nil => cases spelled
  | cons entry listed ih =>
    obtain ⟨name, value⟩ := entry
    obtain ⟨member, found, settles⟩ := given name value List.mem_cons_self
    obtain ⟨new, once⟩ := List.nodup_cons.mp once
    -- what the other members have to find is untouched by this one
    have settledToo : ∀ filled, settled name filled →
        (∀ other ≠ name, settled other record → settled other filled) →
        ∀ other ∉ listed.map Prod.fst, settled other filled := by
      intro filled set kept other unlisted
      by_cases same : other = name
      · exact same ▸ set
      · exact kept other same (absent other (by simpa [same] using unlisted))
    cases spelled with
    | last spelled =>
      refine takes_members_next leads spelled found settles ?_
      intro filled after gapped set kept
      refine ⟨filled, takes_members_end gapped, ?_⟩
      exact fun other => settledToo filled set kept other (by simp)
    | next spelled rest =>
      rw [List.append_assoc]
      refine takes_members_next leads spelled found settles ?_
      intro filled after gapped set kept
      have unread : ∀ other json, (other, json) ∈ listed → ∃ member,
          (missing.eraseP (·.name == name)).find? (·.name == other) = some member ∧
            Settles settled member json := by
        intro other json inside
        have different : other ≠ name := by
          rintro rfl
          exact new (List.mem_map.mpr ⟨_, inside, rfl⟩)
        rw [find?_eraseP_of_ne different]
        exact given other json (List.mem_cons_of_mem _ inside)
      have more := ih (Lead.later gapped) rest once unread (settledToo filled set kept)
      simpa using more

/-- An object is read as a record in which every name is settled: those that it gives by their
values, and the others from the start. -/
theorem takes_record {all : List (Member σ)} {listed : List (String × Json)} (title : String)
    (gapped : Gap gap) (spelled : Spells (.obj listed) chars) (once : (listed.map Prod.fst).Nodup)
    (given : ∀ name value, (name, value) ∈ listed → ∃ member,
      all.find? (·.name == name) = some member ∧ Settles settled member value)
    (absent : ∀ name ∉ listed.map Prod.fst, settled name record) :
    ∃ result, Takes (Reader.record title all record) (gap ++ chars) result ∧
      ∀ name, settled name result := by
  cases spelled with
  | noMembers inside =>
    refine ⟨record, ?_, fun name => absent name (by simp)⟩
    exact Takes.sign gapped '\x7b' (takes_members_end inside)
  | members spelled =>
    obtain ⟨result, taken, settled⟩ := takes_members Lead.first spelled once given absent
    refine ⟨result, ?_, settled⟩
    exact Takes.sign gapped '\x7b' taken

end Record

/-- A reader of a whole text lets blanks stand behind the value. -/
theorem whole_of_takes {reader : Reader α} {chars after : List Char} {value : α}
    (taken : Takes reader chars value) (gapped : Gap after) (place : Place) :
    ∃ last, Reader.whole reader ⟨chars ++ after, place⟩ = .ok (value, last) := by
  obtain ⟨behind, read⟩ := taken after place
  have skipped : Reader.skipBlanks ⟨after, behind⟩ =
      .ok ((), ⟨[], after.foldl Place.past behind⟩) := by
    simpa using @skipBlanks_gap after [] gapped (by simp) behind
  refine ⟨⟨[], after.foldl Place.past behind⟩, ?_⟩
  simp only [Reader.whole, bind, StateT.bind, read]
  simp only [Except.bind, skipped]
  rfl

end ArithLex.Document
