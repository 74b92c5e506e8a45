import ArithLex.Proofs.Document.Schema
import ArithLex.Proofs.Document.Unambiguous
import ArithLex.Proofs.Document.Understanding

set_option autoImplicit false

/-! Which documents a record is read from: objects that name its fields, and lists of their values
in order. -/
namespace ArithLex.Document

open Json (Gap Spells SpellsText gap_nil)

variable {α σ : Type} {input after : Input} {isFirst : Bool}

section Marks

theorem quotedName_ok {next : Option String} {tail : List Char} {place : Place}
    (read : (Reader.skip >>= fun _ => Reader.textBody >>= fun name => pure (some name))
      ⟨'"' :: tail, place⟩ = .ok (next, after)) :
    ∃ name quoted, next = some name ∧ SpellsText name quoted ∧
      '"' :: tail = quoted ++ after.rest := by
  obtain ⟨name, between, body, accepted⟩ := bind_ok (skip_ok read)
  cases accepted
  obtain ⟨quoted, spelled, unread⟩ := textBody_ok body
  exact ⟨name, '"' :: quoted, rfl, spelled, congrArg ('"' :: ·) unread⟩

/-- Either the object ends here, or a name stands behind the comma that has to be there. -/
theorem nextName_ok {next : Option String}
    (read : Reader.nextName isFirst input = .ok (next, after)) :
    (next = none ∧ ∃ gap, Gap gap ∧ input.rest = gap ++ '\x7d' :: after.rest) ∨
      ∃ name lead gap quoted, next = some name ∧ Lead isFirst lead ∧ Gap gap ∧
        SpellsText name quoted ∧ input.rest = lead ++ (gap ++ (quoted ++ after.rest)) := by
  obtain ⟨gap, rest, place, reader, gapped, unread, chosen, read⟩ := sign_ok read
  dsimp only at chosen
  split at chosen <;> subst chosen
  · cases read
  · next opens =>
    obtain ⟨tail, rfl⟩ := List.head?_eq_some_iff.mp opens
    cases skip_ok read
    exact Or.inl ⟨rfl, gap, gapped, unread⟩
  · next c _ opens =>
    obtain ⟨tail, rfl⟩ := List.head?_eq_some_iff.mp opens
    right
    cases isFirst with
    | true =>
      rw [if_pos rfl] at read
      by_cases isQuote : c = '"'
      · subst isQuote
        obtain ⟨name, quoted, named, spelled, behind⟩ := quotedName_ok read
        refine ⟨name, [], gap, quoted, named, .first, gapped, spelled, ?_⟩
        rw [unread, behind, List.nil_append]
      · rw [if_pos isQuote] at read
        cases read
    | false =>
      rw [if_neg Bool.false_ne_true] at read
      by_cases isComma : c = ','
      · subst isComma
        obtain ⟨before, rest, place, reader, gappedToo, unreadToo, chosen, read⟩ :=
          sign_ok (skip_ok read)
        dsimp only at chosen unreadToo
        split at chosen <;> subst chosen
        · next opens =>
          obtain ⟨tail, rfl⟩ := List.head?_eq_some_iff.mp opens
          obtain ⟨name, quoted, named, spelled, behind⟩ := quotedName_ok read
          refine ⟨name, gap ++ [','], before, quoted, named, .later gapped, gappedToo, spelled, ?_⟩
          rw [unread, unreadToo, behind]
          simp
        · cases read
        · cases read
        · cases read
      · rw [if_pos isComma] at read
        cases read

/-- Either there are no more items, or one stands behind the comma that has to be there. -/
theorem nextItem_ok {more : Bool} (read : Reader.nextItem isFirst input = .ok (more, after)) :
    (more = false ∧ ∃ gap, Gap gap ∧ input.rest = gap ++ after.rest) ∨
      more = true ∧ ∃ lead gap, Lead isFirst lead ∧ Gap gap ∧
        input.rest = lead ++ (gap ++ after.rest) := by
  obtain ⟨gap, rest, place, reader, gapped, unread, chosen, read⟩ := sign_ok read
  split at chosen <;> subst chosen
  · cases read
  · cases read
    exact Or.inl ⟨rfl, gap, gapped, unread⟩
  · next c _ opens =>
    obtain ⟨tail, rfl⟩ := List.head?_eq_some_iff.mp opens
    right
    cases isFirst with
    | true =>
      rw [if_pos rfl] at read
      cases read
      exact ⟨rfl, [], gap, .first, gapped, unread⟩
    | false =>
      rw [if_neg Bool.false_ne_true] at read
      by_cases isComma : c = ','
      · subst isComma
        obtain ⟨before, rest, place, reader, gappedToo, unreadToo, chosen, read⟩ :=
          sign_ok (skip_ok read)
        dsimp only at unreadToo
        split at chosen <;> subst chosen
        · cases read
        · cases read
          refine ⟨rfl, gap ++ [','], before, .later gapped, gappedToo, ?_⟩
          rw [unread, unreadToo]
          simp
        · cases read
      · rw [if_pos isComma] at read
        cases read

theorem listEnd_ok (read : Reader.listEnd input = .ok ((), after)) :
    ∃ gap, Gap gap ∧ input.rest = gap ++ ']' :: after.rest := by
  obtain ⟨gap, rest, place, reader, gapped, unread, chosen, read⟩ := sign_ok read
  split at chosen <;> subst chosen
  · next opens =>
    obtain ⟨tail, rfl⟩ := List.head?_eq_some_iff.mp opens
    cases read
    exact ⟨gap, gapped, unread⟩
  · obtain ⟨_, _, _, read⟩ := bind_ok read
    obtain ⟨_, _, _, _, _, _, rfl, read⟩ := sign_ok read
    split at read <;> cases read
  · cases read
  · cases read

theorem Rejects.failOnName (problem : Problem) :
    Rejects (Reader.failOnName problem : Reader α) := by
  unfold Reader.failOnName
  apply bind
  intro _
  apply bind
  intro _
  split
  · exact bind fun _ => fail problem
  · exact fail problem

end Marks

theorem RecordField.map_name_eraseP (fields : List (RecordField σ)) (gone : String) :
    (fields.eraseP ((·.name == gone) ∘ member)).map name = (fields.map name).erase gone := by
  rw [List.erase_eq_eraseP', List.eraseP_map]
  rfl

theorem sublist_zip (names : List String) (items : List Json) :
    ((names.zip items).map Prod.fst).Sublist names := by
  induction names generalizing items with
  | nil => simp
  | cons name names ih =>
    cases items with
    | nil => simp
    | cons item items => simpa using ih items

namespace Tidy

variable {known : List String} {name : String} {members : List (String × Json)}

/-- A name that is no longer known is not given again. -/
theorem not_mem_of_erase (once : known.Nodup) (tidy : Tidy (known.erase name) members) :
    name ∉ members.map Prod.fst := by
  intro inside
  exact (once.mem_erase_iff.mp (tidy.known name inside)).1 rfl

theorem cons (once : known.Nodup) (listed : name ∈ known)
    (tidy : Tidy (known.erase name) members) (json : Json) :
    Tidy known ((name, json) :: members) := by
  constructor
  · exact List.nodup_cons.mpr ⟨not_mem_of_erase once tidy, tidy.once⟩
  · intro other inside
    rcases List.mem_cons.mp inside with rfl | later
    · exact listed
    · exact List.mem_of_mem_erase (tidy.known other later)

/-- The values of a list stand under the first of the names. -/
theorem zip (once : known.Nodup) (items : List Json) : Tidy known (known.zip items) :=
  ⟨once.sublist (sublist_zip known items), fun _ inside => (sublist_zip known items).subset inside⟩

end Tidy

namespace Schema

variable {schema : Schema σ} {members : List (String × Json)} {record result : σ}

/-- The members turn one record into the other: a field becomes what its member says, or stays as it
is. -/
def Fills (schema : Schema σ) (members : List (String × Json)) (record result : σ) : Prop :=
  ∀ field ∈ schema.fields,
    Gives members field.name field.means (field.lens.get record) (field.lens.get result)

theorem fills_nil (schema : Schema σ) (record : σ) : schema.Fills [] record record := by
  intro field _
  exact ⟨by simp, fun _ => rfl⟩

/-- A member is read before the others, none of which has its name. -/
theorem Fills.cons {field : RecordField σ} (listed : field ∈ schema.fields) {json : Json}
    {value : field.Value} (meant : field.means json value)
    (new : field.name ∉ members.map Prod.fst)
    (fills : schema.Fills members (field.lens.put record value) result) :
    schema.Fills ((field.name, json) :: members) record result := by
  intro other otherListed
  by_cases same : other.name = field.name
  · obtain rfl := List.inj_on_of_nodup_map schema.once otherListed listed same
    have kept : other.lens.get result = value := by
      rw [(fills other otherListed).absent new, other.lens.get_put]
    constructor
    · intro found inside
      rcases List.mem_cons.mp inside with here | later
      · cases here
        rw [kept]
        exact meant
      · exact absurd (List.mem_map.mpr ⟨_, later, rfl⟩) new
    · intro unlisted
      simp at unlisted
  · constructor
    · intro found inside
      have later : (other.name, found) ∈ members := by simpa [same] using inside
      exact (fills other otherListed).given found later
    · intro unlisted
      have absent : other.name ∉ members.map Prod.fst := by
        intro inside
        exact unlisted (List.mem_cons_of_mem _ inside)
      rw [(fills other otherListed).absent absent]
      exact schema.kept field listed other otherListed same record value

theorem member_ok {field : RecordField σ} (understands : Understands field.read field.means)
    (read : field.member.read record input = .ok (result, after)) :
    ∃ json value gap chars, field.means json value ∧ Gap gap ∧ Tree.Spells json.tree chars ∧
      result = field.lens.put record value ∧ input.rest = gap ++ (chars ++ after.rest) := by
  obtain ⟨value, between, valued, accepted⟩ := bind_ok read
  cases accepted
  obtain ⟨json, gap, chars, meant, gapped, spelled, unread⟩ := understands valued
  exact ⟨json, value, gap, chars, meant, gapped, spelled, rfl, unread⟩

/-- One turn of the loop over the members: the object ends here, or a field that is missing is read
and is missing no longer. -/
theorem members_step {known : List String} {missing : List (RecordField σ)}
    (understands : ∀ field ∈ missing, Understands field.read field.means)
    (read : Reader.members known (missing.map RecordField.member) isFirst record input =
      .ok (result, after)) :
    (result = record ∧ ∃ gap, Gap gap ∧ input.rest = gap ++ '\x7d' :: after.rest) ∨
      ∃ field ∈ missing, ∃ json value lead gap chars between, field.means json value ∧
        Lead isFirst lead ∧ Gap gap ∧ Tree.Member Tree.Spells (field.name, json.tree) chars ∧
        input.rest = lead ++ (gap ++ (chars ++ between.rest)) ∧
        Reader.members known
          ((missing.eraseP ((·.name == field.name) ∘ RecordField.member)).map RecordField.member)
          false (field.lens.put record value) between = .ok (result, after) := by
  rw [Reader.members] at read
  obtain ⟨next, behindName, named, read⟩ := bind_ok read
  obtain ⟨reader, chosen, read⟩ : ∃ reader : Reader σ, _ = reader ∧
    reader behindName = .ok (result, after) := ⟨_, rfl, read⟩
  rcases nextName_ok named with ⟨rfl, gap, gapped, unread⟩ |
    ⟨name, lead, gap, quoted, rfl, leads, gapped, spelled, unread⟩
  · subst chosen
    cases read
    exact Or.inl ⟨rfl, gap, gapped, unread⟩
  · dsimp only at chosen
    split at chosen <;> subst chosen
    · exact absurd read (Rejects.failOnName _ _ _)
    · next member present =>
      rw [List.find?_map] at present
      obtain ⟨field, found, rfl⟩ := Option.map_eq_some_iff.mp present
      have inside : field ∈ missing := List.mem_of_find?_eq_some found
      have called : field.name = name := by simpa [RecordField.member] using List.find?_some found
      subst called
      rw [List.eraseP_map] at read
      obtain ⟨_, behindColon, marked, read⟩ := bind_ok read
      obtain ⟨between, gappedBetween, unreadValue⟩ := colon_ok marked
      obtain ⟨filled, behindValue, valued, read⟩ := bind_ok read
      obtain ⟨json, value, behind, chars, meant, gappedBehind, written, rfl, unreadRest⟩ :=
        member_ok (understands field inside) valued
      have member := Tree.Member.mk spelled gappedBetween gappedBehind written
      refine Or.inr ⟨field, inside, json, value, lead, gap, _, behindValue, meant, leads, gapped,
        member, ?_, read⟩
      rw [unread, unreadValue, unreadRest]
      simp

variable (understands : ∀ field ∈ schema.fields, Understands field.read field.means)
include understands

theorem members_ok {known : List String} {missing : List (RecordField σ)}
    (among : missing.Sublist schema.fields)
    (read : Reader.members known (missing.map RecordField.member) isFirst record input =
      .ok (result, after)) :
    ∃ members chars,
      Tree.Sequence (Tree.Member Tree.Spells) '\x7d' isFirst (Json.memberTrees members) chars ∧
        input.rest = chars ++ after.rest ∧ Tidy (missing.map RecordField.name) members ∧
        schema.Fills members record result := by
  -- the turns go on for as long as fields are missing
  induction size : missing.length using Nat.strongRecOn
    generalizing missing isFirst record input with
  | ind count ih =>
    rcases members_step (fun field inside => understands field (among.subset inside)) read with
      ⟨rfl, gap, gapped, unread⟩ |
      ⟨field, inside, json, value, lead, gap, chars, between, meant, leads, gapped, member, unread,
        read⟩
    · refine ⟨[], gap ++ ['\x7d'], .done gapped, by simp [unread], ⟨by simp, by simp⟩, ?_⟩
      exact schema.fills_nil result
    · have listed : field ∈ schema.fields := among.subset inside
      have once : (missing.map RecordField.name).Nodup := schema.once.sublist (among.map _)
      have fewer : (missing.eraseP ((·.name == field.name) ∘ RecordField.member)).length <
          count := by
        have erased := List.length_eraseP_of_mem inside
          (p := (·.name == field.name) ∘ RecordField.member) (by simp [RecordField.member])
        have filled := List.length_pos_of_mem inside
        omega
      obtain ⟨members, others, sequence, unreadEnd, tidy, fills⟩ :=
        ih _ fewer (List.eraseP_sublist.trans among) read rfl
      rw [RecordField.map_name_eraseP] at tidy
      refine ⟨(field.name, json) :: members, _, .next leads gapped member sequence, ?_,
        tidy.cons once (List.mem_map_of_mem inside) json,
        fills.cons listed meant (tidy.not_mem_of_erase once)⟩
      rw [unread, unreadEnd]
      simp

theorem items_ok {fields : List (RecordField σ)} (among : fields.Sublist schema.fields)
    (read : Reader.items isFirst record (fields.map RecordField.member) input =
      .ok (result, after)) :
    ∃ items chars, Tree.Sequence Tree.Spells ']' isFirst (Json.trees items) chars ∧
      input.rest = chars ++ after.rest ∧ items.length ≤ fields.length ∧
      schema.Fills ((fields.map RecordField.name).zip items) record result := by
  induction fields generalizing isFirst record input with
  | nil =>
    obtain ⟨_, behind, closed, accepted⟩ := bind_ok read
    cases accepted
    obtain ⟨gap, gapped, unread⟩ := listEnd_ok closed
    refine ⟨[], gap ++ [']'], .done gapped, by simp [unread], by simp, ?_⟩
    exact schema.fills_nil result
  | cons field fields ih =>
    have listed : field ∈ schema.fields := among.subset List.mem_cons_self
    have once : ((field :: fields).map RecordField.name).Nodup := schema.once.sublist (among.map _)
    obtain ⟨more, between, asked, read⟩ := bind_ok read
    rcases nextItem_ok asked with ⟨rfl, gap, gapped, unread⟩ |
      ⟨rfl, lead, gap, leads, gapped, unread⟩
    · obtain ⟨_, behind, closed, accepted⟩ := bind_ok read
      cases accepted
      obtain ⟨last, gappedLast, unreadLast⟩ := listEnd_ok closed
      refine ⟨[], (gap ++ last) ++ [']'], .done (gap_append gapped gappedLast), ?_, by simp, ?_⟩
      · rw [unread, unreadLast]
        simp
      · simpa using schema.fills_nil result
    · obtain ⟨filled, behind, valued, read⟩ := bind_ok read
      obtain ⟨json, value, before, chars, meant, gappedBefore, spelled, rfl, unreadRest⟩ :=
        member_ok (understands field listed) valued
      obtain ⟨items, others, sequence, unreadEnd, short, fills⟩ :=
        ih ((List.sublist_cons_self field fields).trans among) read
      have new : field.name ∉ ((fields.map RecordField.name).zip items).map Prod.fst := by
        intro inside
        exact (List.nodup_cons.mp once).1 ((sublist_zip _ items).subset inside)
      refine ⟨json :: items, _, .next leads (gap_append gapped gappedBefore) spelled sequence, ?_,
        by simpa using short, fills.cons listed meant new⟩
      rw [unread, unreadRest, unreadEnd]
      simp

end Schema

section Items

variable {lead gap chars : List Char} {value : α} {next : Bool → Reader α}

theorem takes_nextItem_end (gapped : Gap gap) (taken : Takes (next false) (']' :: chars) value) :
    Takes (Reader.nextItem isFirst >>= next) (gap ++ ']' :: chars) value := by
  simp only [Reader.nextItem, bind_assoc]
  exact Takes.skipBlanks gapped rfl (Takes.peek taken)

theorem takes_nextItem {c : Char} (leads : Lead isFirst lead) (gapped : Gap gap)
    (visible : isBlank c = false) (inside : c ≠ ']')
    (taken : Takes (next true) (c :: chars) value) :
    Takes (Reader.nextItem isFirst >>= next) (lead ++ (gap ++ c :: chars)) value := by
  simp only [Reader.nextItem, bind_assoc]
  cases leads with
  | first =>
    refine Takes.skipBlanks gapped visible (Takes.peek ?_)
    simpa only [↓reduceIte, pure_bind] using taken
  | later separated =>
    rw [List.append_assoc]
    refine Takes.skipBlanks separated rfl (Takes.peek ?_)
    change Takes ((Reader.skip >>= fun _ => Reader.skipBlanks >>= fun _ => Reader.peek >>= _) >>=
      next) _ _
    simp only [bind_assoc]
    refine Takes.skip ',' (Takes.skipBlanks gapped visible (Takes.peek ?_))
    simpa only [pure_bind] using taken

theorem takes_listEnd (gapped : Gap gap) : Takes Reader.listEnd (gap ++ [']']) () :=
  Takes.skipBlanks gapped rfl (Takes.peek (fun _ place => ⟨place.past ']', rfl⟩))

open Reader (Member) in
/-- The values of a list are read into the members in their order, and members behind the end of the
list stay as they are. -/
theorem takes_items {members : List (Member σ)} {items : List Json}
    {settled : String → σ → Prop} {record : σ}
    (spelled : Tree.Sequence Tree.Spells ']' isFirst (Json.trees items) chars)
    (short : items.length ≤ members.length)
    (given : ∀ member json, (member, json) ∈ members.zip items → Settles settled member json)
    (absent : ∀ name ∉ ((members.map (·.name)).zip items).map Prod.fst, settled name record) :
    ∃ result, Takes (Reader.items isFirst record members) chars result ∧
      ∀ name, settled name result := by
  induction members generalizing isFirst items chars record with
  | nil =>
    obtain rfl : items = [] := List.length_eq_zero_iff.mp (Nat.le_zero.mp short)
    cases spelled with
    | done gapped =>
      refine ⟨record, (takes_listEnd gapped).bind_pure fun _ => record, ?_⟩
      exact fun name => absent name (by simp)
  | cons member members ih =>
    cases items with
    | nil =>
      cases spelled with
      | done gapped =>
        refine ⟨record, takes_nextItem_end gapped ?_, fun name => absent name (by simp)⟩
        exact (takes_listEnd gap_nil).bind_pure fun _ => record
    | cons item items =>
      cases spelled with
      | next leads before first others =>
        obtain ⟨filled, taken, set, kept⟩ := given member item (by simp) record gap_nil
          (Json.spelled_of_tree item first)
        have settledToo : ∀ name ∉ ((members.map (·.name)).zip items).map Prod.fst,
            settled name filled := by
          intro name unlisted
          by_cases same : name = member.name
          · exact same ▸ set
          · exact kept name same (absent name (by simpa [same] using unlisted))
        obtain ⟨result, rest, all⟩ := ih others (Nat.le_of_succ_le_succ short)
          (fun member json inside => given member json (by simp [inside])) settledToo
        refine ⟨result, ?_, all⟩
        obtain ⟨c, tail, rfl, visible, inside⟩ := Tree.opens_spells _ _ first
        exact takes_nextItem leads before visible inside (taken.bind rest)

end Items

/-- How a record stands in a document: as an object with such members, or as a list of their values
in the order of the names. -/
inductive Record (known : List String) (fits : List (String × Json) → α → Prop) :
    Json → α → Prop where
  | object {members : List (String × Json)} {value : α} : fits members value →
      Record known fits (.obj members) value
  | list {items : List Json} {value : α} : items.length ≤ known.length →
      fits (known.zip items) value → Record known fits (.arr items) value

theorem Record.imp {known : List String} {fits fitsToo : List (String × Json) → α → Prop}
    {json : Json} {value : α} (meant : Record known fits json value)
    (stronger : ∀ members, fits members value → fitsToo members value) :
    Record known fitsToo json value := by
  cases meant with
  | object fits => exact .object (stronger _ fits)
  | list short fits => exact .list short (stronger _ fits)

/-- Where all members are objects, a record is one too. -/
theorem Gives.object {members : List (String × Json)} {known : List String}
    {fits : List (String × Json) → α → Prop} {name : String} {usual value : α}
    (gives : Gives members name (Record known fits) usual value)
    (objects : ∀ entry ∈ members, ∃ inner, entry.2 = .obj inner) :
    Gives members name (Object fits) usual value := by
  refine ⟨?_, gives.absent⟩
  intro json inside
  have meant := gives.given json inside
  obtain ⟨inner, same⟩ := objects (name, json) inside
  cases meant with
  | object fits => exact .mk fits
  | list => cases same

namespace Schema

variable {usual record : σ} {json : Json} {gap chars : List Char}

/-- The names of the fields, in their order. -/
def names (schema : Schema σ) : List String := schema.fields.map RecordField.name

theorem takes_list (schema : Schema σ) {items : List Json} (title : String)
    (short : items.length ≤ schema.names.length)
    (fits : schema.Fits usual (schema.names.zip items) record) (gapped : Gap gap)
    (spelled : Spells (.arr items) chars) :
    Takes (Reader.record title (schema.fields.map RecordField.member) usual) (gap ++ chars)
      record := by
  have given : ∀ member json, (member, json) ∈ (schema.fields.map RecordField.member).zip items →
      Settles (schema.Settled record) member json := by
    intro member json inside
    rw [List.zip_map_left] at inside
    obtain ⟨⟨field, item⟩, paired, same⟩ := List.mem_map.mp inside
    cases same
    have listed : field ∈ schema.fields := (List.of_mem_zip paired).1
    have named : (field.name, item) ∈ schema.names.zip items := by
      rw [names, List.zip_map_left]
      exact List.mem_map_of_mem paired
    exact schema.settles listed ((fits.gives field listed).given item named)
  have absent : ∀ name ∉ (((schema.fields.map RecordField.member).map (·.name)).zip items).map
      Prod.fst, schema.Settled record name usual := by
    intro name unlisted
    rw [List.map_map] at unlisted
    exact settled_of_absent fits unlisted
  cases Json.tree_spelled spelled with
  | list sequence =>
    obtain ⟨result, taken, settled⟩ :=
      takes_items sequence (by simpa [names] using short) given absent
    rw [← eq_of_settled settled]
    exact Takes.sign gapped '[' taken

/-- A record is read from every object that gives its fields and from every list that does. -/
theorem takes_record (schema : Schema σ) (title : String)
    (meant : Record schema.names (schema.Fits usual) json record) (gapped : Gap gap)
    (spelled : Spells json chars) :
    Takes (Reader.record title (schema.fields.map RecordField.member) usual) (gap ++ chars)
      record := by
  cases meant with
  | object fits => exact schema.takes title fits gapped spelled
  | list short fits => exact schema.takes_list title short fits gapped spelled

/-- A record is read from nothing else. -/
theorem understands_record (schema : Schema σ)
    (understands : ∀ field ∈ schema.fields, Understands field.read field.means) (title : String)
    (usual : σ) : Understands (Reader.record title (schema.fields.map RecordField.member) usual)
      (Record schema.names (schema.Fits usual)) := by
  intro input after record read
  obtain ⟨gap, rest, place, reader, gapped, unread, chosen, read⟩ := sign_ok read
  split at chosen <;> subst chosen
  · next opens =>
    obtain ⟨tail, rfl⟩ := List.head?_eq_some_iff.mp opens
    obtain ⟨members, chars, sequence, behind, tidy, fills⟩ :=
      members_ok understands (List.Sublist.refl _) (skip_ok read)
    refine ⟨.obj members, gap, '\x7b' :: chars, .object ⟨tidy, fills⟩, gapped, .object sequence, ?_⟩
    rw [unread]
    exact congrArg (gap ++ '\x7b' :: ·) behind
  · next opens =>
    obtain ⟨tail, rfl⟩ := List.head?_eq_some_iff.mp opens
    obtain ⟨items, chars, sequence, behind, short, fills⟩ :=
      items_ok understands (List.Sublist.refl _) (skip_ok read)
    refine ⟨.arr items, gap, '[' :: chars, ?_, gapped, .list sequence, ?_⟩
    · exact .list (by simpa [names] using short) ⟨.zip schema.once items, fills⟩
    · rw [unread]
      exact congrArg (gap ++ '[' :: ·) behind
  · exact absurd read (Rejects.mismatch _ _ _)

/-- A record as a field of another one, in either form. -/
def either (schema : Schema α) (name title : String) (usual : α)
    {fits : List (String × Json) → α → Prop}
    (fits_iff : ∀ members value, fits members value ↔ schema.Fits usual members value)
    (lens : Lens σ α) : RecordField σ where
  name := name
  lens := lens
  means := Record schema.names fits
  write := fun value => .obj (schema.write value)
  read := Reader.record title (schema.fields.map RecordField.member) usual
  means_write := fun value => .object ((fits_iff _ value).mpr (schema.write_fits usual value))
  takes := by
    intro json value gap chars meant gapped spelled
    apply schema.takes_record title _ gapped spelled
    exact meant.imp fun members => (fits_iff members value).mp

theorem understands_either (schema : Schema α)
    (understands : ∀ field ∈ schema.fields, Understands field.read field.means)
    (name title : String) (usual : α) {fits : List (String × Json) → α → Prop}
    (fits_iff : ∀ members value, fits members value ↔ schema.Fits usual members value)
    (lens : Lens σ α) :
    Understands (schema.either name title usual fits_iff lens).read
      (schema.either name title usual fits_iff lens).means := by
  intro input after value read
  obtain ⟨json, gap, chars, meant, others⟩ :=
    schema.understands_record understands title usual read
  exact ⟨json, gap, chars, meant.imp fun members => (fits_iff members value).mpr, others⟩

end Schema

/-- A whole text is read as a value if a document stands in it that means the value, and only
then. -/
theorem whole_ok_iff {reader : Reader α} {means : Json → α → Prop}
    (understands : Understands reader means)
    (takes : ∀ {json : Json} {value : α} {gap chars : List Char}, means json value → Gap gap →
      Spells json chars → Takes reader (gap ++ chars) value) (text : String) (value : α) :
    (∃ last, Reader.whole reader (.ofText text) = .ok (value, last)) ↔
      ∃ json : Json, json.tree.StandsIn text ∧ means json value := by
  constructor
  · intro ⟨last, read⟩
    obtain ⟨value, between, valued, read⟩ := bind_ok read
    obtain ⟨json, before, chars, meant, gapped, spelled, unread⟩ := understands valued
    obtain ⟨behind, rest, place, reader, gappedBehind, unreadEnd, chosen, read⟩ := sign_ok read
    split at chosen <;> subst chosen
    · next ends =>
      cases read
      obtain rfl := List.head?_eq_none_iff.mp ends
      have whole : text = .ofList (before ++ (chars ++ behind)) := by
        rw [List.append_nil] at unreadEnd
        rw [← unreadEnd, ← unread]
        exact String.ofList_toList.symm
      rw [whole]
      exact ⟨json, .mk gapped spelled gappedBehind, meant⟩
    · cases read
  · rintro ⟨json, stands, meant⟩
    obtain ⟨gapped, spelled, gappedBehind⟩ := stands
    have taken := takes meant gapped (Json.spelled_of_tree json spelled)
    rw [Input.ofText, String.toList_ofList, ← List.append_assoc]
    exact whole_of_takes taken gappedBehind .start

end ArithLex.Document
