import ArithLex.Document.Value
import ArithLex.Settings

set_option autoImplicit false

/-! Settings from a JSON document. Every section and every member may be left out, and no name that
means nothing is let through. -/
namespace ArithLex.Settings

open Document (Reader Rejection)
open Document.Reader (Member)

def levelNames : List (String × Log.Level) :=
  Log.Level.all.map fun level => (level.keyword, level)

def formatNames : List (String × Format) :=
  [Format.text, Format.json].map fun format => (format.keyword, format)

def loggingMembers : List (Member Logging) :=
  [⟨"global", fun logging => do
      let level ← Reader.variant levelNames
      pure { logging with general := level }⟩,
   ⟨"lexer", fun logging => do
      let level ← Reader.optional (Reader.variant levelNames)
      pure { logging with lexer := level }⟩,
   ⟨"api", fun logging => do
      let level ← Reader.optional (Reader.variant levelNames)
      pure { logging with api := level }⟩]

def shellMembers : List (Member Shell) :=
  [⟨"prompt", fun shell => do
      let prompt ← Reader.text
      pure { shell with prompt := prompt }⟩,
   ⟨"file_name", fun shell => do
      let fileName ← Reader.text
      pure { shell with fileName := fileName }⟩]

def outputMembers : List (Member Style) :=
  [⟨"format", fun output => do
      let format ← Reader.variant formatNames
      pure { output with format := format }⟩,
   ⟨"show_arrows", fun output => do
      let showArrows ← Reader.boolean
      pure { output with showArrows := showArrows }⟩]

def sections : List (Member Settings) :=
  [⟨"logging", fun settings => do
      let logging ← Reader.record "LoggingConfig" loggingMembers {}
      pure { settings with logging := logging }⟩,
   ⟨"repl", fun settings => do
      let shell ← Reader.record "ReplConfig" shellMembers {}
      pure { settings with shell := shell }⟩,
   ⟨"output", fun settings => do
      let output ← Reader.record "OutputConfig" outputMembers {}
      pure { settings with output := output }⟩]

/-- Reads settings; what the document leaves out is as in the empty document. -/
def reader : Reader Settings :=
  Reader.whole (Reader.record "AbacusConfig" sections {})

/-- The settings of a document, or why it is rejected. -/
def parse (text : String) : Except Rejection Settings :=
  (reader (.ofText text)).map (·.1)

end ArithLex.Settings
