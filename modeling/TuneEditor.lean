import TuneEditor.Main
import TuneEditor.Proofs.Synchronizer.Operations
import TuneEditor.Synchronizer.Command
import TuneEditor.View.Command
import TuneEditor.Proofs.Synchronizer.Recorder
import TuneEditor.Proofs.Synchronizer.Forwarding
import TuneEditor.Proofs.Synchronizer.Agreement
import TuneEditor.Proofs.Highlight.Lines
import TuneEditor.Proofs.Highlight.Transparency
import TuneEditor.Proofs.Notation.Lexemes
import TuneEditor.Proofs.Notation.Newlines
import TuneEditor.Proofs.Text.Lines
import TuneEditor.Proofs.Text.Bytes
import TuneEditor.Proofs.Highlight.WholeText
import TuneEditor.Proofs.Notation.Partition
import TuneEditor.Proofs.Notation.Shape
import TuneEditor.Proofs.Notation.Header
import TuneEditor.Proofs.View.Revision
import TuneEditor.Proofs.Display.Appearance
import TuneEditor.Proofs.View.Soundness
import TuneEditor.Proofs.Synchronizer.Sessions
import TuneEditor.Proofs.Synchronizer.Reconciling
import TuneEditor.Proofs.View.Queue
import TuneEditor.Proofs.Synchronizer.Schedule
import TuneEditor.Proofs.Synchronizer.Silence
import TuneEditor.Proofs.Synchronizer.Focus
import TuneEditor.Proofs.Synchronizer.Tokens
import TuneEditor.Proofs.CommandLine.Arguments
import TuneEditor.Proofs.CommandLine.Printed
import TuneEditor.Proofs.Notation.Lookahead
import TuneEditor.Proofs.Notation.LongestMatch
import TuneEditor.Proofs.View.Scrolling
import TuneEditor.Proofs.View.Following
import TuneEditor.Proofs.Document.Positions
import TuneEditor.Proofs.Document.Storage
import TuneEditor.Proofs.Display.Plain
import TuneEditor.Proofs.Display.Fitting
import TuneEditor.Proofs.Display.ModeLine
import TuneEditor.Proofs.Display.Rows
import TuneEditor.Proofs.View.Overhang
import TuneEditor.Proofs.View.Arithmetic
import TuneEditor.Proofs.Display.Columns
import TuneEditor.Proofs.Text.Words
import TuneEditor.Proofs.Text.Integer
import TuneEditor.Proofs.CommandLine.Range
import TuneEditor.Proofs.Style.Description
import TuneEditor.Proofs.Toml.Order
import TuneEditor.Proofs.Toml.Reading
import TuneEditor.Proofs.Settings
