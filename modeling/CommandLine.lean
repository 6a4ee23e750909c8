import CommandLine.Check
import CommandLine.Cli.Arguments
import CommandLine.Cli.Run
import CommandLine.Cli.Word
import CommandLine.Description
import CommandLine.Diagnostic
import CommandLine.Json
import CommandLine.Json.Encode
import CommandLine.Main
import CommandLine.Proofs.Check.Anchored
import CommandLine.Proofs.Check.CommandComplaints
import CommandLine.Proofs.Check.Commands
import CommandLine.Proofs.Check.Conforms
import CommandLine.Proofs.Check.Distinct
import CommandLine.Proofs.Check.Listed
import CommandLine.Proofs.Check.Moved
import CommandLine.Proofs.Check.OptionComplaints
import CommandLine.Proofs.Check.Options
import CommandLine.Proofs.Check.Relaxed
import CommandLine.Proofs.Check.Reordered
import CommandLine.Proofs.Check.Repetition
import CommandLine.Proofs.Check.Respaced
import CommandLine.Proofs.Check.Sample
import CommandLine.Proofs.Check.Sorted
import CommandLine.Proofs.Check.Validity
import CommandLine.Proofs.Check.Writable
import CommandLine.Proofs.Report.Excerpt
import CommandLine.Proofs.Report.Guarded
import CommandLine.Proofs.Report.Location
import CommandLine.Proofs.Report.Rendering
import CommandLine.Proofs.Report.Snippet
import CommandLine.Proofs.Rule.Blame
import CommandLine.Proofs.Rule.Lookup
import CommandLine.Proofs.Rule.Names
import CommandLine.Proofs.Rule.Paths
import CommandLine.Proofs.Rule.Reach
import CommandLine.Proofs.Rule.Reordered
import CommandLine.Proofs.Rule.Sound
import CommandLine.Proofs.Span
import CommandLine.Proofs.Text.Guarded
import CommandLine.Proofs.Text.Lines
import CommandLine.Proofs.Text.Writer
import CommandLine.Proofs.Token.Failure
import CommandLine.Proofs.Token.Guarded
import CommandLine.Proofs.Token.Layout
import CommandLine.Proofs.Token.Listing
import CommandLine.Proofs.Token.Mapped
import CommandLine.Proofs.Token.Progress
import CommandLine.Proofs.Token.Reading
import CommandLine.Proofs.Token.Recognition
import CommandLine.Proofs.Token.Resumed
import CommandLine.Proofs.Token.Spelling
import CommandLine.Proofs.Token.Tokenize
import CommandLine.Proofs.Token.Written
import CommandLine.Proofs.Tree.Arranged
import CommandLine.Proofs.Tree.Depth
import CommandLine.Proofs.Tree.Descent
import CommandLine.Proofs.Tree.ErrorText
import CommandLine.Proofs.Tree.Extract
import CommandLine.Proofs.Tree.Fault
import CommandLine.Proofs.Tree.Flatten
import CommandLine.Proofs.Tree.Item
import CommandLine.Proofs.Tree.Joined
import CommandLine.Proofs.Tree.Located
import CommandLine.Proofs.Tree.Mapped
import CommandLine.Proofs.Tree.Moved
import CommandLine.Proofs.Tree.Offence
import CommandLine.Proofs.Tree.Outline
import CommandLine.Proofs.Tree.Parse
import CommandLine.Proofs.Tree.Printed
import CommandLine.Proofs.Tree.Ranked
import CommandLine.Proofs.Tree.Reader
import CommandLine.Proofs.Tree.Shape
import CommandLine.Proofs.Tree.Source
import CommandLine.Proofs.Tree.Tokens
import CommandLine.Proofs.Tree.Unplaced
import CommandLine.Proofs.Tree.Walk
import CommandLine.Report
import CommandLine.Rule
import CommandLine.Rule.Error
import CommandLine.Rule.Fault
import CommandLine.Rule.Grammar
import CommandLine.Rule.Quantifier
import CommandLine.Settings
import CommandLine.Span
import CommandLine.Terminal
import CommandLine.Text.Blank
import CommandLine.Text.Bytes
import CommandLine.Text.Columns
import CommandLine.Text.Ligature
import CommandLine.Text.Lines
import CommandLine.Text.Pad
import CommandLine.Text.Picture
import CommandLine.Text.Quoted
import CommandLine.Text.Ranges
import CommandLine.Text.Styled
import CommandLine.Text.Table.Emoji
import CommandLine.Text.Table.Extending
import CommandLine.Text.Table.Ignorable
import CommandLine.Text.Table.Transparent
import CommandLine.Text.Table.Unprintable
import CommandLine.Text.Table.Wide
import CommandLine.Text.Width
import CommandLine.Token
import CommandLine.Token.Error
import CommandLine.Token.Listing
import CommandLine.Token.Read
import CommandLine.Token.Scanner
import CommandLine.Tree
import CommandLine.Tree.Error
import CommandLine.Tree.Node
import CommandLine.Tree.Outline
import CommandLine.Tree.Parse
import CommandLine.Tree.Reader
import CommandLine.Validate
import CommandLine.Word
