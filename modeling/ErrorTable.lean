import ErrorTable.Batch
import ErrorTable.CommandLine.Flag
import ErrorTable.CommandLine.Parse
import ErrorTable.CommandLine.Reply
import ErrorTable.Definition
import ErrorTable.Directive
import ErrorTable.Entry
import ErrorTable.Event
import ErrorTable.Failure
import ErrorTable.FileSystem.Access
import ErrorTable.FileSystem.Basic
import ErrorTable.FileSystem.Error
import ErrorTable.FileSystem.Resolve
import ErrorTable.Fragment
import ErrorTable.Generate
import ErrorTable.Line
import ErrorTable.Log.Filter
import ErrorTable.Log.Level
import ErrorTable.Log.Record
import ErrorTable.Main
import ErrorTable.Path
import ErrorTable.Program
import ErrorTable.Proofs.Access
import ErrorTable.Proofs.Agreement
import ErrorTable.Proofs.Events
import ErrorTable.Proofs.Failures
import ErrorTable.Proofs.Filters
import ErrorTable.Proofs.Format
import ErrorTable.Proofs.Grammar
import ErrorTable.Proofs.History
import ErrorTable.Proofs.Independence
import ErrorTable.Proofs.Invocation
import ErrorTable.Proofs.Overwriting
import ErrorTable.Proofs.Parsing
import ErrorTable.Proofs.Paths
import ErrorTable.Proofs.Placement
import ErrorTable.Proofs.Printing
import ErrorTable.Proofs.Regeneration
import ErrorTable.Proofs.Rereading
import ErrorTable.Proofs.Runs
import ErrorTable.Proofs.Segments
import ErrorTable.Proofs.Staleness
import ErrorTable.Proofs.Tree
import ErrorTable.Text.Alphanumeric
import ErrorTable.Text.Blank
import ErrorTable.Text.Lines
import ErrorTable.Text.Quoted
import ErrorTable.Text.Similarity
import ErrorTable.Text.Terminal
import ErrorTable.Text.Unprintable
import ErrorTable.Tool
import ErrorTable.Proofs.FragmentLines
import ErrorTable.Proofs.Interleaving
import ErrorTable.Proofs.Logging
import ErrorTable.Proofs.Noise
import ErrorTable.Proofs.Generation
import ErrorTable.Proofs.LegacyOutput
import ErrorTable.Proofs.Captures
import ErrorTable.Proofs.Checking
import ErrorTable.Proofs.Resubmission
import ErrorTable.Proofs.Arguments
import ErrorTable.Proofs.Naming
import ErrorTable.Proofs.Reporting
import ErrorTable.Proofs.Accounting
import ErrorTable.Proofs.Components
