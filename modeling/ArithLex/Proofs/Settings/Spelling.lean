import ArithLex.Proofs.Document.Schema
import ArithLex.Settings.Reader

set_option autoImplicit false

/-! All settings can be written down, and every text that spells them is read as them. -/
namespace ArithLex.Settings

open Document
open Json (Gap Spells SpellsUnit SpellsText gap_nil spells_quote)

/-! What a document means. Whatever it leaves out is as usual. -/

/-- The members of a logging section. -/
@[mk_iff loggingFits_def]
structure LoggingFits (members : List (String × Json)) (logging : Logging) : Prop extends
    Tidy ["global", "lexer", "api"] members where
  general : Gives members "global" (Names Log.Level.keyword) .warn logging.general
  lexer : Gives members "lexer" (NamesOrNull Log.Level.keyword) none logging.lexer
  api : Gives members "api" (NamesOrNull Log.Level.keyword) none logging.api

/-- The members of a shell section. -/
@[mk_iff shellFits_def]
structure ShellFits (members : List (String × Json)) (shell : Shell) : Prop extends
    Tidy ["prompt", "file_name"] members where
  prompt : Gives members "prompt" (fun json text => json = .str text) "basic > " shell.prompt
  fileName : Gives members "file_name" (fun json text => json = .str text) "<stdin>" shell.fileName

/-- The members of an output section. -/
@[mk_iff outputFits_def]
structure OutputFits (members : List (String × Json)) (output : Style) : Prop extends
    Tidy ["format", "show_arrows"] members where
  format : Gives members "format" (Names Format.keyword) .text output.format
  showArrows : Gives members "show_arrows" (fun json shown => json = .bool shown) true
    output.showArrows

/-- The sections of a document. -/
@[mk_iff fits_def]
structure Fits (members : List (String × Json)) (settings : Settings) : Prop extends
    Tidy ["logging", "repl", "output"] members where
  logging : Gives members "logging" (Object LoggingFits) {} settings.logging
  shell : Gives members "repl" (Object ShellFits) {} settings.shell
  output : Gives members "output" (Object OutputFits) {} settings.output

/-- The texts that spell settings, as an object of objects. -/
inductive Spelling (settings : Settings) : String → Prop where
  | mk {json : Json} {before chars after : List Char} : Object Fits json settings → Gap before →
      Spells json chars → Gap after → Spelling settings (.ofList (before ++ chars ++ after))

theorem find?_levelNames (level : Log.Level) :
    levelNames.find? (·.1 == level.keyword) = some (level.keyword, level) := by
  cases level <;> rfl

theorem find?_formatNames (format : Format) :
    formatNames.find? (·.1 == format.keyword) = some (format.keyword, format) := by
  cases format <;> rfl

section Sections

variable (members : List (String × Json))

def loggingSchema : Schema Logging where
  fields :=
    [.choice "global" find?_levelNames
        ⟨(·.general), fun logging level => { logging with general := level }, fun _ _ => rfl⟩,
      .optional "lexer" find?_levelNames
        ⟨(·.lexer), fun logging level => { logging with lexer := level }, fun _ _ => rfl⟩,
      .optional "api" find?_levelNames
        ⟨(·.api), fun logging level => { logging with api := level }, fun _ _ => rfl⟩]
  once := by simp [RecordField.choice, RecordField.optional]
  kept := by simp [RecordField.choice, RecordField.optional]
  complete := by
    rintro ⟨⟩ ⟨⟩ same
    simpa [RecordField.choice, RecordField.optional] using same

theorem loggingFits_iff (logging : Logging) :
    LoggingFits members logging ↔ loggingSchema.Fits {} members logging :=
  (loggingFits_def members logging).trans (loggingSchema.fits_iff_forall {} members logging).symm

def shellSchema : Schema Shell where
  fields :=
    [.text "prompt"
        ⟨(·.prompt), fun shell prompt => { shell with prompt := prompt }, fun _ _ => rfl⟩,
      .text "file_name"
        ⟨(·.fileName), fun shell fileName => { shell with fileName := fileName }, fun _ _ => rfl⟩]
  once := by simp [RecordField.text]
  kept := by simp [RecordField.text]
  complete := by
    rintro ⟨⟩ ⟨⟩ same
    simpa [RecordField.text] using same

theorem shellFits_iff (shell : Shell) :
    ShellFits members shell ↔ shellSchema.Fits {} members shell :=
  (shellFits_def members shell).trans (shellSchema.fits_iff_forall {} members shell).symm

def outputSchema : Schema Style where
  fields :=
    [.choice "format" find?_formatNames
        ⟨(·.format), fun output format => { output with format := format }, fun _ _ => rfl⟩,
      .truth "show_arrows"
        ⟨(·.showArrows), fun output showArrows => { output with showArrows := showArrows },
          fun _ _ => rfl⟩]
  once := by simp [RecordField.choice, RecordField.truth]
  kept := by simp [RecordField.choice, RecordField.truth]
  complete := by
    rintro ⟨⟩ ⟨⟩ same
    simpa [RecordField.choice, RecordField.truth, and_comm] using same

theorem outputFits_iff (output : Style) :
    OutputFits members output ↔ outputSchema.Fits {} members output :=
  (outputFits_def members output).trans (outputSchema.fits_iff_forall {} members output).symm

def loggingLens : Lens Settings Logging :=
  ⟨(·.logging), fun settings logging => { settings with logging := logging }, fun _ _ => rfl⟩

def shellLens : Lens Settings Shell :=
  ⟨(·.shell), fun settings shell => { settings with shell := shell }, fun _ _ => rfl⟩

def outputLens : Lens Settings Style :=
  ⟨(·.output), fun settings output => { settings with output := output }, fun _ _ => rfl⟩

/-- The sections of a document as fields of the settings. -/
def schema : Schema Settings where
  fields :=
    [loggingSchema.nested "logging" "LoggingConfig" {} loggingFits_iff loggingLens,
      shellSchema.nested "repl" "ReplConfig" {} shellFits_iff shellLens,
      outputSchema.nested "output" "OutputConfig" {} outputFits_iff outputLens]
  once := by simp [Schema.nested]
  kept := by simp [Schema.nested, loggingLens, shellLens, outputLens]
  complete := by
    rintro ⟨⟩ ⟨⟩ same
    simpa [Schema.nested, loggingLens, shellLens, outputLens] using same

theorem fits_iff (settings : Settings) :
    Fits members settings ↔ schema.Fits {} members settings :=
  (fits_def members settings).trans (schema.fits_iff_forall {} members settings).symm

end Sections

theorem exists_spelling (settings : Settings) : ∃ text, Spelling settings text := by
  have meant : Object Fits (.obj (schema.write settings)) settings :=
    .mk ((fits_iff _ settings).mpr (schema.write_fits {} settings))
  exact ⟨_, .mk meant Json.gap_nil (Json.spells_write Json.Layout.compact_blank 0 _) Json.gap_nil⟩

theorem parse_of_spelling {settings : Settings} {text : String}
    (spelled : Spelling settings text) : parse text = .ok settings := by
  obtain ⟨⟨fits⟩, gapBefore, spelled, gapAfter⟩ := spelled
  have taken := schema.takes "AbacusConfig" ((fits_iff _ settings).mp fits) gapBefore spelled
  obtain ⟨last, read⟩ := whole_of_takes taken gapAfter .start
  rw [parse, Input.ofText, String.toList_ofList]
  show (Reader.whole (Reader.record "AbacusConfig" sections {}) _).map (·.1) = _
  have same : sections = schema.fields.map RecordField.member := rfl
  rw [same, read]
  rfl

/-- All settings can be written, and are read back however they are spelled. -/
theorem parse_every_spelling (settings : Settings) :
    (∃ text, Spelling settings text) ∧
      ∀ text, Spelling settings text → parse text = .ok settings :=
  ⟨exists_spelling settings, fun _ => parse_of_spelling⟩

/-- The prompt as the two halves of a character, in a document with its sections out of order. -/
theorem parse_every_spelling_halves :
    parse ("\n\x7b \"output\" : \x7b\"format\":\"json\"\x7d,\t" ++
        "\"repl\":\x7b\"prompt\":\"\\ud83D\\uDE00\"\x7d\x7d") =
      .ok { shell := { prompt := "😀" }, output := { format := .json } } := by
  have leading : SpellsUnit 0xd83d ['d', '8', '3', 'D'] :=
    .mk (w := 13) (x := 8) (y := 3) (z := 13) (by decide) (by decide) (by decide) (by decide)
  have trailing : SpellsUnit 0xde00 ['D', 'E', '0', '0'] :=
    .mk (w := 13) (x := 14) (y := 0) (z := 0) (by decide) (by decide) (by decide) (by decide)
  have prompt : SpellsText (.ofList ['😀']) _ :=
    .mk (.cons (.pair leading trailing (by decide) (by decide) (by decide) (by decide) rfl) .nil)
  have repl : Spells (.obj [("prompt", .str (.ofList ['😀']))]) _ :=
    .members (.last (.mk gap_nil (spells_quote _) gap_nil gap_nil (.text prompt) gap_nil))
  have output : Spells (.obj [("format", .str "json")]) _ :=
    .members (.last (.mk gap_nil (spells_quote _) gap_nil gap_nil (.text (spells_quote _)) gap_nil))
  have space : Gap [' '] := by simp [Gap]
  have tab : Gap ['\t'] := by simp [Gap]
  have document : Spells (.obj [("output", _), ("repl", _)]) _ :=
    .members (.next (.mk space (spells_quote _) space space output gap_nil)
      (.last (.mk tab (spells_quote _) gap_nil gap_nil repl gap_nil)))
  have shell : ShellFits [("prompt", .str (.ofList ['😀']))] { prompt := .ofList ['😀'] } :=
    ⟨⟨by simp, by simp⟩, ⟨by simp, by simp⟩, ⟨by simp, by simp⟩⟩
  have style : OutputFits [("format", .str "json")] { format := .json } :=
    ⟨⟨by simp, by simp⟩, gives_of_mem _ (by simp) (.head _) (.text Format.json),
      ⟨by simp, by simp⟩⟩
  have fits : Fits [("output", .obj [("format", .str "json")]),
      ("repl", .obj [("prompt", .str (.ofList ['😀']))])]
      { shell := { prompt := .ofList ['😀'] }, output := { format := .json } } :=
    ⟨⟨by simp, by simp⟩, ⟨by simp, by simp⟩,
      gives_of_mem _ (by simp) (.tail _ (.head _)) (.mk shell),
      gives_of_mem _ (by simp) (.head _) (.mk style)⟩
  have lineFeed : Gap ['\n'] := by simp [Gap]
  exact (parse_every_spelling _).2 _ (.mk (.mk fits) lineFeed document gap_nil)

end ArithLex.Settings
