import ArithLex.Main
import ArithLex.Proofs.Scan.Blanks
import ArithLex.Proofs.Scan.Compose
import ArithLex.Proofs.Scan.Context
import ArithLex.Proofs.Scan.Layout
import ArithLex.Proofs.Shell.LineByLine
import ArithLex.Proofs.Shell.Session
import ArithLex.Proofs.Scan.LineEndings
import ArithLex.Proofs.Scan.Beginnings
import ArithLex.Proofs.Scan.Events
import ArithLex.Proofs.Scan.Loops
import ArithLex.Proofs.Program.Levels
import ArithLex.Proofs.Program.Indifference
import ArithLex.Proofs.Settings.Spelling
import ArithLex.Proofs.Document.Tree
import ArithLex.Proofs.Document.Unambiguous
import ArithLex.Proofs.Slot
import ArithLex.Proofs.Listing
import ArithLex.Proofs.Listing.Line
import ArithLex.Proofs.Document.Understanding
import ArithLex.Proofs.Report
import ArithLex.Proofs.Document.Records
import ArithLex.Proofs.Settings.Strict
import ArithLex.Proofs.Excerpt.Places
import ArithLex.Proofs.Excerpt.Rows
import ArithLex.Proofs.Excerpt.Span
import ArithLex.Proofs.Failure
import ArithLex.Proofs.Program.LogFile
import ArithLex.Proofs.Log.Level
