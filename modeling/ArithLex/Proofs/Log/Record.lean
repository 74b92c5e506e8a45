import ArithLex.Log.Record
import ArithLex.Proofs.Json.Spelling
import Mathlib.Data.List.Forall2

set_option autoImplicit false

/-! What a record says of its event, in a log file and on the console. A log file has one form for
all; the console has three, and in each of them a record has the level, the message and the fields of
its event in that order. -/
namespace ArithLex.Log

/-- A field with its value written out, each kind of value in its own way. -/
inductive FieldAs {β : Type} (number : Int → β) (name shown : String → β) :
    String × Value → String × β → Prop where
  | number (key : String) (value : Int) :
      FieldAs number name shown (key, .number value) (key, number value)
  | name (key text : String) : FieldAs number name shown (key, .name text) (key, name text)
  | shown (key text : String) : FieldAs number name shown (key, .shown text) (key, shown text)

/-- In words a number is decimal, a name is in quotes, and all else is as it is. -/
def InWords : String × Value → String × String → Prop := FieldAs toString Text.quoted id

def InJson : String × Value → String × Json → Prop := FieldAs .int .str .str

/-- The record of an event in a log file: the time, the level at the right of five columns, the
target, the message, and every field by its name. A line feed ends it. -/
inductive FiledAs (time : String) (event : Event) : String → Prop where
  | mk {margin : List Char} {fields : List (String × String)} (blank : ∀ c ∈ margin, c = ' ')
      (columns : margin.length + event.level.label.length = 5)
      (named : List.Forall₂ InWords event.fields fields) :
      FiledAs time event
        (time ++ " " ++ String.ofList margin ++ event.level.label ++ " " ++
          ("abacus::" ++ event.stage.name) ++ ": " ++ event.message ++
          String.join (fields.map fun (name, value) => " " ++ name ++ "=" ++ value) ++ "\n")

/-- The text has the parts in it, one behind the other. -/
def Carries (parts : List String) (text : String) : Prop :=
  ∃ pieces, text = String.join pieces ∧ parts.Sublist pieces

/-- The record of an event on the console: its parts in order, between whatever the layout puts
there, or a JSON object of them. A line feed ends it. -/
inductive ShownAs (time : String) (event : Event) : Layout → String → Prop where
  | text {layout : Layout} {text : String} {fields : List (String × String)}
      (textual : layout ≠ .json) (named : List.Forall₂ InWords event.fields fields)
      (carries : Carries
        (event.level.label :: event.message :: fields.flatMap fun (name, value) => [name, value])
        text) :
      ShownAs time event layout (text ++ "\n")
  | json {chars : List Char} {fields : List (String × Json)}
      (named : List.Forall₂ InJson event.fields fields)
      (spelled : Json.Spells
        (.obj
          [("timestamp", .str time), ("level", .str event.level.label),
           ("fields", .obj (("message", .str event.message) :: fields)),
           ("target", .str ("abacus::" ++ event.stage.name))])
        chars) :
      ShownAs time event .json (String.ofList chars ++ "\n")

/-- A relation that says of every item what is beside it. -/
theorem forall₂_iff_map_eq {α β : Type} {relation : α → β → Prop} {write : α → β}
    (each : ∀ item written, relation item written ↔ write item = written) {items : List α}
    {all : List β} : List.Forall₂ relation items all ↔ items.map write = all := by
  have same : relation = fun item written => write item = written := by
    funext item written
    exact propext (each item written)
  rw [same, ← List.forall₂_map_left_iff, List.forall₂_eq_eq_eq]

theorem fieldAs_iff {β : Type} (write : Value → β) (field : String × Value) (written : String × β) :
    FieldAs (write ∘ .number) (write ∘ .name) (write ∘ .shown) field written ↔
      (field.1, write field.2) = written := by
  constructor
  · rintro (_ | _ | _) <;> rfl
  · rintro rfl
    obtain ⟨key, value⟩ := field
    cases value with
    | number value => exact .number key value
    | name text => exact .name key text
    | shown text => exact .shown key text

theorem inWords_iff (field : String × Value) (text : String × String) :
    InWords field text ↔ (field.1, field.2.text) = text :=
  fieldAs_iff Value.text field text

theorem inJson_iff (field : String × Value) (member : String × Json) :
    InJson field member ↔ (field.1, field.2.json) = member :=
  fieldAs_iff Value.json field member

theorem Event.fullLine_eq (event : Event) (time : String) :
    event.fullLine time =
      time ++ " " ++ String.ofList (List.replicate (5 - event.level.label.length) ' ') ++
        event.level.label ++ " " ++ ("abacus::" ++ event.stage.name) ++ ": " ++ event.message ++
        String.join ((event.fields.map fun field => (field.1, field.2.text)).map
          fun (name, value) => " " ++ name ++ "=" ++ value) ++ "\n" := by
  simp [fullLine, body, Text.paintedIf, Text.styledIf, Level.column, Stage.target,
    Function.comp_def, String.append_assoc]

theorem filedAs_iff (time : String) (event : Event) (record : String) :
    FiledAs time event record ↔ event.fullLine time = record := by
  rw [event.fullLine_eq]
  constructor
  · intro filed
    cases filed with
    | @mk margin fields blank columns named =>
      have size : 5 - event.level.label.length = margin.length := by omega
      rw [size, ← List.eq_replicate_of_mem blank, (forall₂_iff_map_eq inWords_iff).mp named]
  · rintro rfl
    refine .mk (fun c member => List.eq_of_mem_replicate member) ?_
      ((forall₂_iff_map_eq inWords_iff).mpr rfl)
    rw [List.length_replicate]
    cases event.level <;> decide

section Carries

variable {parts others : List String} {text other : String}

theorem carries_nil (text : String) : Carries [] text :=
  ⟨[text], by simp, List.nil_sublist _⟩

theorem carries_self (text : String) : Carries [text] text :=
  ⟨[text], by simp, .refl _⟩

theorem Carries.append (carries : Carries parts text) (further : Carries others other) :
    Carries (parts ++ others) (text ++ other) := by
  obtain ⟨pieces, rfl, among⟩ := carries
  obtain ⟨more, rfl, amongMore⟩ := further
  exact ⟨pieces ++ more, by simp, among.append amongMore⟩

/-- Text in front of the parts and behind them makes no difference. -/
theorem Carries.between (carries : Carries parts text) (before after : String) :
    Carries parts (before ++ text ++ after) := by
  simpa using ((carries_nil before).append carries).append (carries_nil after)

theorem carries_join {α : Type} {items : List α} {parts : α → List String} {write : α → String}
    (each : ∀ item, Carries (parts item) (write item)) :
    Carries (items.flatMap parts) (String.join (items.map write)) := by
  induction items with
  | nil => exact carries_nil ""
  | cons item rest ih =>
    rw [List.flatMap_cons, List.map_cons, String.join_cons]
    exact (each item).append ih

end Carries

/-- The texts of the fields, under their names. -/
def Event.texts (event : Event) : List String :=
  event.fields.flatMap fun (name, value) => [name, value.text]

theorem carries_column (level : Level) : Carries [level.label] level.column := by
  simpa [Level.column] using (carries_self level.label).between _ ""

theorem carries_field (name value before between : String) :
    Carries [name, value] (before ++ name ++ between ++ value) := by
  simpa [String.append_assoc] using
    ((carries_self name).between before between).append (carries_self value)

theorem carries_paintedIf {parts : List String} {text : String} (carries : Carries parts text)
    (colored : Bool) (style : String) : Carries parts (Text.paintedIf colored style text) :=
  carries.between _ _

namespace Event

variable (event : Event) (colored : Bool) (time : String)

theorem shown_of_carries {layout : Layout} (textual : layout ≠ .json) {text : String}
    (carries : Carries (event.level.label :: event.message :: event.texts) text) :
    ShownAs time event layout (text ++ "\n") := by
  refine .text textual ((forall₂_iff_map_eq inWords_iff).mpr rfl) ?_
  rw [List.flatMap_map]
  exact carries

theorem compactLine_shown : ShownAs time event .compact (event.compactLine colored) := by
  have level := carries_paintedIf (carries_column event.level) colored event.level.color
  have fields : Carries event.texts (String.join (event.fields.map fun (name, value) =>
      " " ++ Text.paintedIf colored "3" name ++ Text.paintedIf colored "2" "=" ++ value.text)) := by
    refine carries_join ?_
    rintro ⟨name, value⟩
    simpa [Text.paintedIf, String.append_assoc] using carries_field name value.text
      (" " ++ Text.styledIf colored "3") (Text.styledIf colored "0" ++ Text.paintedIf colored "2" "=")
  have message := (carries_self event.message).between " " ""
  refine event.shown_of_carries time (by decide) ?_
  simpa [body, String.append_assoc] using level.append (message.append fields)

theorem prettyLines_shown (site? : Option Site) :
    ShownAs time event .pretty (event.prettyLines colored time site?) := by
  have level := carries_paintedIf (carries_column event.level) colored event.level.color
  have fields : Carries event.texts (String.join (event.fields.map fun (name, value) =>
      ", " ++ event.boldName colored name ++ ": " ++ value.text)) := by
    refine carries_join ?_
    rintro ⟨name, value⟩
    simpa [boldName, Text.paintedIf, String.append_assoc] using carries_field name value.text
      (", " ++ Text.styledIf colored ("1;" ++ event.level.color))
      (Text.styledIf colored "0" ++ Text.styledIf colored event.level.color ++ ": ")
  have first := level.between ("  " ++ Text.paintedIf colored "2" time ++ " ")
    (" " ++ event.boldName colored event.stage.target ++ ": " ++
      Text.styledIf colored event.level.color)
  refine event.shown_of_carries time (by decide) ?_
  simpa [String.append_assoc] using
    ((first.append (carries_self event.message)).append fields).append (carries_nil _)

theorem jsonLine_shown : ShownAs time event .json (event.jsonLine time) :=
  .json ((forall₂_iff_map_eq inJson_iff).mpr rfl) (Json.spells_write Json.Layout.compact_blank 0 _)

/-- Whatever the layout, a record on the console tells its event. -/
theorem consoleLine_shown (layout : Layout) (site? : Option Site) :
    ShownAs time event layout (event.consoleLine layout colored time site?) := by
  cases layout with
  | pretty => exact event.prettyLines_shown colored time site?
  | compact => exact event.compactLine_shown colored time
  | json => exact event.jsonLine_shown time

end Event
end ArithLex.Log
