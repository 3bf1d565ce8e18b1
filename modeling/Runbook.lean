import Runbook.Json.Reader
import Runbook.Main
import Runbook.Proofs.Command.Document
import Runbook.Proofs.Command.Exit
import Runbook.Proofs.Command.Infrastructure
import Runbook.Proofs.Command.Invalid
import Runbook.Proofs.Command.Presentation
import Runbook.Proofs.Console.Escape
import Runbook.Proofs.Console.Message
import Runbook.Proofs.Console.Report
import Runbook.Proofs.Disk.Name
import Runbook.Proofs.Document.Automaton
import Runbook.Proofs.Document.Span
import Runbook.Proofs.Document.Writing
import Runbook.Proofs.Json.RoundTrip
import Runbook.Proofs.Json.Scalar
import Runbook.Proofs.Plan.Commands
import Runbook.Proofs.Plan.Saving
import Runbook.Proofs.Plan.Unguarded
import Runbook.Proofs.Run.Alike
import Runbook.Proofs.Run.Record
import Runbook.Proofs.Schema.Record
import Runbook.Proofs.Text.Lines
import Runbook.Run.Script
import Runbook.Schema.Record
import Runbook.Proofs.Document.Appending
import Runbook.Proofs.Document.Extent
import Runbook.Proofs.Document.FrontMatter
import Runbook.Proofs.Text.Pattern
import Runbook.Proofs.Text.Words
import Runbook.Proofs.Document.Editing
import Runbook.Proofs.Document.Marker
import Runbook.Proofs.Plan.Outline
import Runbook.Proofs.Run.Transcript
import Runbook.Proofs.Command.Rehearsal
import Runbook.Proofs.Document.Comment
import Runbook.Proofs.Document.Newline
import Runbook.Proofs.Document.Numbering
import Runbook.Proofs.Schema.Reloading
import Runbook.Proofs.Config.WorkingDirectory
import Runbook.Proofs.Command.Verbatim
