import ArithLex.Failure
import ArithLex.Listing
import ArithLex.Scan
import ArithLex.Settings
import ArithLex.Text.Quoted

set_option autoImplicit false

/-! Scanning with a log, and the rendering of what comes of it. -/
namespace ArithLex

open Log (Event Logged)

namespace Scan

def Production.event (production : Production) : Event :=
  ⟨.trace, .lexer, "Produced token",
    [("token", .shown production.token.render), ("index", .number production.index)]⟩

/-- The event of an illegal character. Its line counts from one, its column from zero. -/
def faultEvent (fault : Fault) : Event :=
  ⟨.debug, .lexer, "Illegal character",
    [("ch", .shown (Text.quotedChar fault.char)),
     ("line", .number fault.line),
     ("column", .number fault.start.column)]⟩

def startEvent (source : Source) : Event :=
  ⟨.debug, .lexer, "Starting scan",
    [("file", .shown source.name), ("chars", .number source.text.length)]⟩

namespace Pass

def lastEvent (pass : Pass) : Event :=
  match pass.fault with
  | none => ⟨.debug, .lexer, "Scan completed", [("count", .number pass.produced.length)]⟩
  | some fault => faultEvent fault

/-- The events of a pass over the source: its start, every token, and its end. -/
def events (pass : Pass) (source : Source) : List Event :=
  startEvent source :: pass.produced.map (·.event) ++ [pass.lastEvent]

end Pass
end Scan

/-- Scans a source. The style changes nothing but its mention in the log. -/
def tokenize (source : Source) (style : Style) : Logged (Except Failure Listing) :=
  let pass := Scan.run source
  let opening : List Event :=
    [⟨.info, .api, "Starting scan", [("file", .name source.name)]⟩,
     ⟨.debug, .api, "Scan configuration",
       [("config", .shown style.describe), ("bytes", .number source.text.utf8ByteSize)]⟩]
  let events := opening ++ pass.events source
  match pass.fault with
  | some fault => ⟨.error (.scan fault), events⟩
  | none =>
    let tokens := pass.produced.map (·.token)
    ⟨.ok ⟨source.name, tokens⟩,
      events ++ [⟨.info, .api, "Scan completed", [("count", .number tokens.length)]⟩]⟩

namespace Style

def renderListing (style : Style) (listing : Listing) : String :=
  match style.format with
  | .text => listing.text
  | .json => listing.json.pretty

/-- A failure in the style's format, with the source excerpt if the style shows it. -/
def renderFailure (style : Style) (failure : Failure) : String :=
  match style.format, failure with
  | .json, failure => (failure.report style.showArrows).json.compact
  | .text, .scan fault =>
    if style.showArrows then fault.message ++ "\n\n" ++ fault.context else fault.message
  | .text, failure => failure.message

/-- Whatever came of a scan. -/
def render (style : Style) : Except Failure Listing → String
  | .ok listing => style.renderListing listing
  | .error failure => style.renderFailure failure

end Style
end ArithLex
