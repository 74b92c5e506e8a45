import ArithLex.Source

set_option autoImplicit false

/-! The source lines of a span, each over a row of carets that marks the span's columns. -/
namespace ArithLex.Excerpt

/-- The line feeds belong to no line. -/
def lines (text : List Char) : List (List Char) := text.splitOn '\n'

/-- A line as it is shown: no carriage returns at its end, and one space for a tab, so that every
character left takes one column. -/
def display (line : List Char) : List Char :=
  (line.reverse.dropWhile (· == '\r')).reverse.map fun c => if c == '\t' then ' ' else c

/-- Carets under the columns from `left` up to `right`, at least one. -/
def carets (left right : Nat) : List Char :=
  List.replicate left ' ' ++ List.replicate (max (right - left) 1) '^'

/-- One line of a span, shown over its carets. The span's first line is marked from its start, its
last line up to its stop, and lines between them from end to end. -/
def row (start stop : Cursor) (number : Nat) (line : List Char) : List Char :=
  let shown := display line
  let left := if number = start.line then start.indent else 0
  let right := if number = max stop.line start.line then stop.indent else shown.length
  shown ++ '\n' :: carets left right

/-- The rows of the span's lines, as far as the text has them. A span that stops above its start
covers the line it starts on. -/
def rows (text : List Char) (start stop : Cursor) : List (List Char) :=
  let spanned := ((lines text).drop start.line).take (max stop.line start.line - start.line + 1)
  (spanned.zipIdx start.line).map fun (line, number) => row start stop number line

/-- The span from `start` to `stop`, ready to print. -/
def render (text : String) (start stop : Cursor) : String :=
  String.ofList (List.intercalate ['\n'] (rows text.toList start stop))

end ArithLex.Excerpt
