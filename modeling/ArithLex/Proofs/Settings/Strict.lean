import ArithLex.Proofs.Document.Records
import ArithLex.Proofs.Settings.Spelling

set_option autoImplicit false

/-! No mistake in a settings document is overlooked: whatever is read as settings describes them,
with no name that means nothing, none that stands twice, and nothing behind the document. -/
namespace ArithLex.Settings

open Document
open Json (Gap SpellsUnit SpellsChar SpellsText gap_nil spells_quote)

/-- The sections of a document, each as an object or as a list. -/
@[mk_iff describes_def]
structure Describes (members : List (String × Json)) (settings : Settings) : Prop extends
    Tidy ["logging", "repl", "output"] members where
  logging : Gives members "logging" (Record ["global", "lexer", "api"] LoggingFits) {}
    settings.logging
  shell : Gives members "repl" (Record ["prompt", "file_name"] ShellFits) {} settings.shell
  output : Gives members "output" (Record ["format", "show_arrows"] OutputFits) {} settings.output

section Sections

theorem keyword_of_mem_levelNames :
    ∀ entry ∈ levelNames, entry.1 = Log.Level.keyword entry.2 := by
  simp [levelNames]

theorem keyword_of_mem_formatNames :
    ∀ entry ∈ formatNames, entry.1 = Format.keyword entry.2 := by
  simp [formatNames]

theorem understands_logging :
    ∀ field ∈ loggingSchema.fields, Understands field.read field.means := by
  intro field listed
  simp only [loggingSchema, List.mem_cons, List.not_mem_nil, or_false] at listed
  rcases listed with rfl | rfl | rfl
  · exact understands_variant keyword_of_mem_levelNames
  · exact understands_optional keyword_of_mem_levelNames
  · exact understands_optional keyword_of_mem_levelNames

theorem understands_shell :
    ∀ field ∈ shellSchema.fields, Understands field.read field.means := by
  intro field listed
  simp only [shellSchema, List.mem_cons, List.not_mem_nil, or_false] at listed
  rcases listed with rfl | rfl
  · exact understands_text
  · exact understands_text

theorem understands_output :
    ∀ field ∈ outputSchema.fields, Understands field.read field.means := by
  intro field listed
  simp only [outputSchema, List.mem_cons, List.not_mem_nil, or_false] at listed
  rcases listed with rfl | rfl
  · exact understands_variant keyword_of_mem_formatNames
  · exact understands_boolean

/-- The sections as fields of the settings, each in either form. -/
def document : Schema Settings where
  fields :=
    [loggingSchema.either "logging" "LoggingConfig" {} loggingFits_iff loggingLens,
      shellSchema.either "repl" "ReplConfig" {} shellFits_iff shellLens,
      outputSchema.either "output" "OutputConfig" {} outputFits_iff outputLens]
  once := by simp [Schema.either]
  kept := by simp [Schema.either, loggingLens, shellLens, outputLens]
  complete := by
    rintro ⟨⟩ ⟨⟩ same
    simpa [Schema.either, loggingLens, shellLens, outputLens] using same

theorem understands_document :
    ∀ field ∈ document.fields, Understands field.read field.means := by
  intro field listed
  simp only [document, List.mem_cons, List.not_mem_nil, or_false] at listed
  rcases listed with rfl | rfl | rfl
  · exact loggingSchema.understands_either understands_logging _ _ _ _ _
  · exact shellSchema.understands_either understands_shell _ _ _ _ _
  · exact outputSchema.understands_either understands_output _ _ _ _ _

theorem describes_iff (members : List (String × Json)) (settings : Settings) :
    Describes members settings ↔ document.Fits {} members settings :=
  (describes_def members settings).trans (document.fits_iff_forall {} members settings).symm

end Sections

/-- Settings are read from exactly the texts in which a document stands that describes them. -/
theorem parse_ok_iff (text : String) (settings : Settings) :
    parse text = .ok settings ↔
      ∃ json : Json, json.tree.StandsIn text ∧
        Record ["logging", "repl", "output"] Describes json settings := by
  have records : ∀ json, Record ["logging", "repl", "output"] Describes json settings ↔
      Record document.names (document.Fits {}) json settings := by
    intro json
    constructor
    · intro meant
      exact meant.imp fun members => (describes_iff members settings).mp
    · intro meant
      exact meant.imp fun members => (describes_iff members settings).mpr
  simp only [records]
  have wholes := whole_ok_iff (document.understands_record understands_document "AbacusConfig" {})
    (document.takes_record "AbacusConfig") text settings
  rw [← wholes]
  change ((reader (.ofText text)).map (·.1) = .ok settings) ↔
    ∃ last, reader (.ofText text) = .ok (settings, last)
  cases reader (.ofText text) with
  | error rejection => simp [Except.map]
  | ok read => simp [Except.map, Prod.ext_iff]

section Mistakes

/-- The names of the sections, each with the names of its members. -/
def sectionNames : List (String × List String) :=
  [("logging", ["global", "lexer", "api"]), ("repl", ["prompt", "file_name"]),
    ("output", ["format", "show_arrows"])]

/-- The parts of a document that are read as records, each with the names that are known there: the
document itself, and its sections under their names or in their order. -/
inductive Part : Tree → List String → Tree → Prop where
  | whole (tree : Tree) : Part tree ["logging", "repl", "output"] tree
  | member {members : List (String × Tree)} {name : String} {known : List String} {tree : Tree} :
      (name, known) ∈ sectionNames → (name, tree) ∈ members → Part (.obj members) known tree
  | item {items : List Tree} {name : String} {known : List String} {tree : Tree} :
      ((name, known), tree) ∈ sectionNames.zip items → Part (.arr items) known tree

/-- Mistakes of a text: a name that stands twice, a name that means nothing, and content behind the
end of the document. -/
inductive Mistake : String → Prop where
  | repeated {text : String} {tree : Tree} {known : List String} {members : List (String × Tree)} :
      tree.StandsIn text → Part tree known (.obj members) → ¬ (members.map Prod.fst).Nodup →
      Mistake text
  | unknown {text name : String} {tree : Tree} {known : List String}
      {members : List (String × Tree)} :
      tree.StandsIn text → Part tree known (.obj members) → name ∈ members.map Prod.fst →
      name ∉ known → Mistake text
  | trailing {tree : Tree} {before chars rest : List Char} : Gap before → Tree.Spells tree chars →
      ¬ Gap rest → Mistake (.ofList (before ++ (chars ++ rest)))

/-- What is known of a text that is read as these settings. -/
structure Understood (text : String) (settings : Settings) : Prop where
  single : ∃ json : Json, (∀ tree : Tree, tree.StandsIn text ↔ tree = json.tree) ∧
    Record ["logging", "repl", "output"] Describes json settings
  tidy : ∀ tree known members, Tree.StandsIn tree text → Part tree known (.obj members) →
    (members.map Prod.fst).Nodup ∧ ∀ name ∈ members.map Prod.fst, name ∈ known
  fits : ∀ members, (Json.obj members).tree.StandsIn text →
    (∀ entry ∈ members, ∃ inner, entry.2 = .obj inner) → Fits members settings

variable {members : List (String × Json)} {settings : Settings}

/-- A section that is an object is tidy. -/
theorem Describes.tidy_section (described : Describes members settings) {name : String}
    {known : List String} {inner : List (String × Json)} (listed : (name, known) ∈ sectionNames)
    (inside : (name, .obj inner) ∈ members) : Tidy known inner := by
  simp only [sectionNames, List.mem_cons, Prod.mk.injEq, List.not_mem_nil, or_false] at listed
  rcases listed with ⟨rfl, rfl⟩ | ⟨rfl, rfl⟩ | ⟨rfl, rfl⟩
  · cases described.logging.given _ inside with
    | object fits => exact fits.toTidy
  · cases described.shell.given _ inside with
    | object fits => exact fits.toTidy
  · cases described.output.given _ inside with
    | object fits => exact fits.toTidy

/-- Every part that is read as a record, and is an object, is tidy. -/
theorem tidy_part {json : Json} {known : List String} {members : List (String × Tree)}
    (meant : Record ["logging", "repl", "output"] Describes json settings)
    (part : Part json.tree known (.obj members)) :
    ∃ listed, Json.memberTrees listed = members ∧ Tidy known listed := by
  generalize whole : json.tree = tree at part
  cases part with
  | whole =>
    obtain ⟨listed, rfl, same⟩ := Json.object_of_tree whole
    cases meant with
    | object described => exact ⟨listed, same, described.toTidy⟩
  | member named inside =>
    obtain ⟨entries, rfl, rfl⟩ := Json.object_of_tree whole
    rw [Json.memberTrees_eq_map] at inside
    obtain ⟨⟨name, value⟩, found, same⟩ := List.mem_map.mp inside
    obtain ⟨rfl, valued⟩ := Prod.mk.inj same
    obtain ⟨inner, rfl, trees⟩ := Json.object_of_tree valued
    cases meant with
    | object described => exact ⟨inner, trees, described.tidy_section named found⟩
  | @item _ name _ _ paired =>
    obtain ⟨values, rfl, rfl⟩ := Json.list_of_tree whole
    rw [Json.trees_eq_map, List.zip_map_right] at paired
    obtain ⟨⟨entry, value⟩, found, same⟩ := List.mem_map.mp paired
    obtain ⟨rfl, valued⟩ := Prod.mk.inj same
    obtain ⟨inner, rfl, trees⟩ := Json.object_of_tree valued
    have inside : (name, .obj inner) ∈ (sectionNames.map Prod.fst).zip values := by
      rw [List.zip_map_left]
      exact List.mem_map_of_mem found
    cases meant with
    | list _ described =>
      exact ⟨inner, trees, described.tidy_section (List.of_mem_zip found).1 inside⟩

/-- In a document of objects, every member is the value of its name. -/
theorem fits_of_objects (described : Describes members settings)
    (objects : ∀ entry ∈ members, ∃ inner, entry.2 = .obj inner) : Fits members settings := by
  have logging := described.logging.object objects
  have shell := described.shell.object objects
  have output := described.output.object objects
  exact ⟨described.toTidy, logging, shell, output⟩

theorem understood_of_parse {text : String} (read : parse text = .ok settings) :
    Understood text settings := by
  obtain ⟨json, stands, meant⟩ := (parse_ok_iff text settings).mp read
  constructor
  · exact ⟨json, stands.iff_eq, meant⟩
  · intro tree known members standsToo part
    rw [standsToo.unique stands] at part
    obtain ⟨listed, rfl, tidy⟩ := tidy_part meant part
    rw [Json.map_fst_memberTrees]
    exact ⟨tidy.once, tidy.known⟩
  · intro members standsToo objects
    have same : json = .obj members := Json.tree_injective json (stands.unique standsToo)
    subst same
    cases meant with
    | object described => exact fits_of_objects described objects

theorem not_mistake_of_understood {text : String} (understood : Understood text settings) :
    ¬ Mistake text := by
  intro mistake
  cases mistake with
  | repeated stands part twice => exact twice (understood.tidy _ _ _ stands part).1
  | unknown stands part inside strange =>
    exact strange ((understood.tidy _ _ _ stands part).2 _ inside)
  | trailing gapped spelled content =>
    obtain ⟨json, unique, meant⟩ := understood.single
    have bracketed : json.tree.kind = '[' ∨ json.tree.kind = '\x7b' := by
      cases meant with
      | object _ => exact Or.inr rfl
      | list _ _ => exact Or.inl rfl
    exact content (((unique json.tree).mpr rfl).gap_behind bracketed gapped spelled)

/-- A text that is read as settings says all of them and nothing else, and a text with a mistake is
rejected. -/
theorem parse_overlooks_nothing (text : String) :
    (∀ settings, parse text = .ok settings → Understood text settings) ∧
      (Mistake text → ∃ rejection, parse text = .error rejection) := by
  refine ⟨fun settings => understood_of_parse, ?_⟩
  intro mistake
  cases read : parse text with
  | error rejection => exact ⟨rejection, rfl⟩
  | ok settings => exact absurd mistake (not_mistake_of_understood (understood_of_parse read))

/-- A name that stands twice in a section, the second time in another spelling. -/
theorem parse_overlooks_nothing_escaped :
    ∃ rejection, parse ("\x7b\"output\": \x7b\"format\":\"json\"," ++
      "\"form\\u0061t\":\"json\"\x7d\x7d") = .error rejection := by
  have unit : SpellsUnit 'a'.toNat ['0', '0', '6', '1'] :=
    .mk (w := 0) (x := 0) (y := 6) (z := 1) (by decide) (by decide) (by decide) (by decide)
  have plain : ∀ c : Char, c ≠ '"' ∧ c ≠ '\\' ∧ 0x20 ≤ c.toNat → SpellsChar c [c] := by
    intro c ⟨quote, backslash, visible⟩
    exact .plain quote backslash visible
  have escaped : SpellsText (.ofList ['f', 'o', 'r', 'm', 'a', 't']) _ :=
    .mk (.cons (plain 'f' (by decide)) (.cons (plain 'o' (by decide)) (.cons (plain 'r' (by decide))
      (.cons (plain 'm' (by decide)) (.cons (.unit unit) (.cons (plain 't' (by decide)) .nil))))))
  have text : Tree.Spells (.str "json") _ := .text (spells_quote _)
  have members : Tree.Sequence (Tree.Member Tree.Spells) '\x7d' true
      [("format", .str "json"), (.ofList ['f', 'o', 'r', 'm', 'a', 't'], .str "json")] _ :=
    .next .first gap_nil (.mk (spells_quote _) gap_nil gap_nil text)
      (.next (.later gap_nil) gap_nil (.mk escaped gap_nil gap_nil text) (.done gap_nil))
  have space : Gap [' '] := by simp [Gap]
  have document : Tree.Spells (.obj [("output", .obj _)]) _ :=
    .object (.next .first gap_nil (.mk (spells_quote _) gap_nil space (.object members))
      (.done gap_nil))
  have part : ∀ tree, Part (.obj [("output", tree)]) ["format", "show_arrows"] tree :=
    fun _ => .member (by simp [sectionNames]) (.head _)
  have twice : Mistake _ := .repeated (.mk gap_nil document gap_nil) (part _) (by simp)
  exact (parse_overlooks_nothing _).2 twice

end Mistakes

end ArithLex.Settings
