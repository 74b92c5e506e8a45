import ArithLex.Proofs.Document.Reading
import Mathlib.Data.List.Nodup

set_option autoImplicit false

/-! Records of named fields in a document: which objects give a record, with their members in any
order and the usual values left out, and that each of them is read as the record. -/
namespace ArithLex.Document

open Json (Gap Spells)
open Reader (Member)

variable {α σ : Type} {members : List (String × Json)} {json : Json}

/-- What the members of an object say of a name: the value that the name has there, or nothing, and
then the value is the usual one. -/
structure Gives (members : List (String × Json)) (name : String) (means : Json → α → Prop)
    (usual value : α) : Prop where
  given : ∀ json, (name, json) ∈ members → means json value
  absent : name ∉ members.map Prod.fst → value = usual

/-- No name stands twice, and none is unknown. The order is free. -/
structure Tidy (known : List String) (members : List (String × Json)) : Prop where
  once : (members.map Prod.fst).Nodup
  known : ∀ name ∈ members.map Prod.fst, name ∈ known

/-- An object with such members. -/
inductive Object (fits : List (String × Json) → α → Prop) : Json → α → Prop where
  | mk {members : List (String × Json)} {value : α} : fits members value →
      Object fits (.obj members) value

theorem gives_of_mem {name : String} {means : Json → α → Prop} {value : α} (usual : α)
    (once : (members.map Prod.fst).Nodup) (inside : (name, json) ∈ members)
    (meant : means json value) : Gives members name means usual value := by
  constructor
  · intro other insideToo
    obtain ⟨_, rfl⟩ := List.inj_on_of_nodup_map once insideToo inside rfl
    exact meant
  · intro unlisted
    exact absurd (List.mem_map.mpr ⟨_, inside, rfl⟩) unlisted

/-- Where a record keeps a value. -/
structure Lens (σ α : Type) where
  get : σ → α
  put : σ → α → σ
  get_put : ∀ record value, get (put record value) = value

/-- A field of a record, and how it stands in a document: what means a value there, how the value is
written and how it is read. -/
structure RecordField (σ : Type) where
  {Value : Type}
  name : String
  lens : Lens σ Value
  means : Json → Value → Prop
  write : Value → Json
  read : Reader Value
  means_write : ∀ value, means (write value) value
  takes : ∀ {json : Json} {value : Value} {gap chars : List Char}, means json value → Gap gap →
    Spells json chars → Takes read (gap ++ chars) value

namespace RecordField

/-- The field as a member of an object. -/
def member (field : RecordField σ) : Member σ :=
  ⟨field.name, fun record => field.read >>= fun value => pure (field.lens.put record value)⟩

theorem find?_member {fields : List (RecordField σ)} (once : (fields.map name).Nodup)
    {field : RecordField σ} (listed : field ∈ fields) :
    (fields.map member).find? (·.name == field.name) = some field.member := by
  induction fields with
  | nil => cases listed
  | cons first fields ih =>
    obtain ⟨new, once⟩ := List.nodup_cons.mp once
    rcases List.mem_cons.mp listed with rfl | later
    · simp [member]
    · have different : first.name ≠ field.name := by
        intro same
        exact new (same ▸ List.mem_map_of_mem later)
      simpa [List.find?_cons, different, member] using ih once later

variable (name : String)

def text (lens : Lens σ String) : RecordField σ where
  name := name
  lens := lens
  means := fun json text => json = .str text
  write := .str
  read := Reader.text
  means_write := fun _ => rfl
  takes := takes_text

def truth (lens : Lens σ Bool) : RecordField σ where
  name := name
  lens := lens
  means := fun json value => json = .bool value
  write := .bool
  read := Reader.boolean
  means_write := fun _ => rfl
  takes := takes_boolean

variable {choices : List (String × α)} {keyword : α → String}
  (listed : ∀ choice, choices.find? (·.1 == keyword choice) = some (keyword choice, choice))

def choice (lens : Lens σ α) : RecordField σ where
  name := name
  lens := lens
  means := Names keyword
  write := fun choice => .str (keyword choice)
  read := Reader.variant choices
  means_write := .text
  takes := takes_variant (listed _)

def optional (lens : Lens σ (Option α)) : RecordField σ where
  name := name
  lens := lens
  means := NamesOrNull keyword
  write := fun chosen => chosen.elim .null fun choice => .str (keyword choice)
  read := Reader.optional (Reader.variant choices)
  means_write
    | none => .null
    | some choice => .named (.text choice)
  takes := takes_optional listed

end RecordField

/-- All fields of a record, none of which shares its name or its place with another. -/
structure Schema (σ : Type) where
  fields : List (RecordField σ)
  once : (fields.map RecordField.name).Nodup
  kept : ∀ changed ∈ fields, ∀ other ∈ fields, other.name ≠ changed.name →
    ∀ record value, other.lens.get (changed.lens.put record value) = other.lens.get record
  complete : ∀ record other, (∀ field ∈ fields, field.lens.get record = field.lens.get other) →
    record = other

namespace Schema

/-- The members give each field of the record, or leave it out where it is the usual one. -/
structure Fits (schema : Schema σ) (usual : σ) (members : List (String × Json)) (record : σ) :
    Prop extends Tidy (schema.fields.map RecordField.name) members where
  gives : ∀ field ∈ schema.fields,
    Gives members field.name field.means (field.lens.get usual) (field.lens.get record)

/-- The members fit one field after the other. For a schema that is written out this is a
conjunction. -/
theorem fits_iff_forall (schema : Schema σ) (usual : σ) (members : List (String × Json))
    (record : σ) :
    schema.Fits usual members record ↔ Tidy (schema.fields.map RecordField.name) members ∧
      schema.fields.Forall fun field =>
        Gives members field.name field.means (field.lens.get usual) (field.lens.get record) := by
  rw [List.forall_iff_forall_mem]
  exact ⟨fun fits => ⟨fits.toTidy, fits.gives⟩, fun ⟨tidy, gives⟩ => ⟨tidy, gives⟩⟩

/-- The members that give every field. -/
def write (schema : Schema σ) (record : σ) : List (String × Json) :=
  schema.fields.map fun field => (field.name, field.write (field.lens.get record))

theorem write_fits (schema : Schema σ) (usual record : σ) :
    schema.Fits usual (schema.write record) record := by
  have names : (schema.write record).map Prod.fst = schema.fields.map RecordField.name := by
    simp [write]
  have once : ((schema.write record).map Prod.fst).Nodup := names ▸ schema.once
  refine ⟨⟨once, by simp [names]⟩, ?_⟩
  intro field listed
  exact gives_of_mem _ once (List.mem_map_of_mem listed) (field.means_write _)

/-- A name is settled once the record that is filled has the wanted value there. -/
def Settled (schema : Schema σ) (record : σ) (name : String) (filled : σ) : Prop :=
  ∀ field ∈ schema.fields, field.name = name → field.lens.get filled = field.lens.get record

theorem settles (schema : Schema σ) {record : σ} {field : RecordField σ}
    (listed : field ∈ schema.fields) (meant : field.means json (field.lens.get record)) :
    Settles (schema.Settled record) field.member json := by
  apply settles_of_takes (field.takes meant)
  · intro filled other otherListed same
    obtain rfl := List.inj_on_of_nodup_map schema.once otherListed listed same
    exact other.lens.get_put filled _
  · intro filled name different settled other otherListed same
    rw [schema.kept field listed other otherListed (same ▸ different)]
    exact settled other otherListed same

theorem settled_of_absent {schema : Schema σ} {usual record : σ}
    (fits : schema.Fits usual members record) {name : String}
    (unlisted : name ∉ members.map Prod.fst) : schema.Settled record name usual := by
  intro field listed same
  exact ((fits.gives field listed).absent (same ▸ unlisted)).symm

theorem eq_of_settled {schema : Schema σ} {record result : σ}
    (settled : ∀ name, schema.Settled record name result) : result = record :=
  schema.complete result record fun field listed => settled field.name field listed rfl

theorem takes (schema : Schema σ) {usual record : σ} {gap chars : List Char} (title : String)
    (fits : schema.Fits usual members record) (gapped : Gap gap)
    (spelled : Spells (.obj members) chars) :
    Takes (Reader.record title (schema.fields.map RecordField.member) usual) (gap ++ chars)
      record := by
  have given : ∀ name json, (name, json) ∈ members → ∃ member,
      (schema.fields.map RecordField.member).find? (·.name == name) = some member ∧
        Settles (schema.Settled record) member json := by
    intro name json inside
    obtain ⟨field, listed, rfl⟩ :=
      List.mem_map.mp (fits.known name (List.mem_map.mpr ⟨_, inside, rfl⟩))
    have meant := (fits.gives field listed).given json inside
    exact ⟨field.member, RecordField.find?_member schema.once listed, schema.settles listed meant⟩
  obtain ⟨result, taken, settled⟩ := takes_record title gapped spelled fits.once given
    fun _ => settled_of_absent fits
  exact eq_of_settled settled ▸ taken

/-- A record as a field of another one. -/
def nested (schema : Schema α) (name title : String) (usual : α)
    {fits : List (String × Json) → α → Prop}
    (fits_iff : ∀ members value, fits members value ↔ schema.Fits usual members value)
    (lens : Lens σ α) : RecordField σ where
  name := name
  lens := lens
  means := Object fits
  write := fun value => .obj (schema.write value)
  read := Reader.record title (schema.fields.map RecordField.member) usual
  means_write := fun value => .mk ((fits_iff _ value).mpr (schema.write_fits usual value))
  takes := by
    rintro _ value gap chars ⟨fits⟩ gapped spelled
    exact schema.takes title ((fits_iff _ value).mp fits) gapped spelled

end Schema

end ArithLex.Document
