import ScriptShell.Command
import ScriptShell.Command.Condition
import ScriptShell.Command.Invocation
import ScriptShell.Disk
import ScriptShell.Editor
import ScriptShell.Editor.CommandLine
import ScriptShell.Event
import ScriptShell.Failure
import ScriptShell.Interpreter
import ScriptShell.Json.Reader
import ScriptShell.Json.Value
import ScriptShell.Json.Writer
import ScriptShell.Main
import ScriptShell.Number.Binary64
import ScriptShell.Number.Decimal
import ScriptShell.Number.Literal
import ScriptShell.Number.Shortest
import ScriptShell.Options
import ScriptShell.Options.Flag
import ScriptShell.Program
import ScriptShell.Proofs.AllOrNothing
import ScriptShell.Proofs.Assignment
import ScriptShell.Proofs.Cascade
import ScriptShell.Proofs.Comparison
import ScriptShell.Proofs.Conclusion
import ScriptShell.Proofs.ConditionalForm
import ScriptShell.Proofs.Course
import ScriptShell.Proofs.Cutting
import ScriptShell.Proofs.DepthLimit
import ScriptShell.Proofs.Document
import ScriptShell.Proofs.EditMode
import ScriptShell.Proofs.EditSession
import ScriptShell.Proofs.Effect
import ScriptShell.Proofs.EmptySetting
import ScriptShell.Proofs.FailedLine
import ScriptShell.Proofs.FileNames
import ScriptShell.Proofs.History
import ScriptShell.Proofs.Moment
import ScriptShell.Proofs.Nesting
import ScriptShell.Proofs.NumberOrder
import ScriptShell.Proofs.Numeral
import ScriptShell.Proofs.Persistence
import ScriptShell.Proofs.Presentation
import ScriptShell.Proofs.Recall
import ScriptShell.Proofs.Recursion
import ScriptShell.Proofs.Reentry
import ScriptShell.Proofs.Replace
import ScriptShell.Proofs.Rewording
import ScriptShell.Proofs.RoundTrip
import ScriptShell.Proofs.ScriptRun
import ScriptShell.Proofs.ScriptText
import ScriptShell.Proofs.Spelling
import ScriptShell.Proofs.Stage
import ScriptShell.Proofs.Substance
import ScriptShell.Proofs.Termination
import ScriptShell.Proofs.Transparency
import ScriptShell.Proofs.UpperCase
import ScriptShell.Proofs.Utf8
import ScriptShell.Proofs.VariableTable
import ScriptShell.Proofs.Viewer
import ScriptShell.Proofs.Words
import ScriptShell.Refusal
import ScriptShell.Report
import ScriptShell.Script
import ScriptShell.Session
import ScriptShell.Setting
import ScriptShell.Store
import ScriptShell.Table
import ScriptShell.Text.Blank
import ScriptShell.Text.Case
import ScriptShell.Text.Case.Lower
import ScriptShell.Text.Case.Run
import ScriptShell.Text.Case.Upper
import ScriptShell.Text.Digit
import ScriptShell.Text.Newline
import ScriptShell.Text.Printable
import ScriptShell.Text.Quoted
import ScriptShell.Text.Search
import ScriptShell.Text.Span
import ScriptShell.Text.Utf8
import ScriptShell.Value
import ScriptShell.Variables
import ScriptShell.Verb
