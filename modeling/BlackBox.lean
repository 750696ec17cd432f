import BlackBox.Command
import BlackBox.CommandLine
import BlackBox.Files.Directory
import BlackBox.Files.Discovery
import BlackBox.Files.Listing
import BlackBox.Files.Path
import BlackBox.Libraries
import BlackBox.Log
import BlackBox.Main
import BlackBox.Number.Binary64
import BlackBox.Number.Digits
import BlackBox.Number.Layout
import BlackBox.Number.Shortest
import BlackBox.Outcome
import BlackBox.Pattern.Class
import BlackBox.Pattern.Escape
import BlackBox.Pattern.Flags
import BlackBox.Pattern.Parse
import BlackBox.Pattern.Regex
import BlackBox.Pattern.Search
import BlackBox.Program
import BlackBox.Report.Reporter
import BlackBox.Report.Tap
import BlackBox.Runner
import BlackBox.Summary
import BlackBox.TestCase
import BlackBox.TestFile
import BlackBox.Text.Blank
import BlackBox.Text.Lines
import BlackBox.Text.Quoted
import BlackBox.Text.Utf8
import BlackBox.Unicode.AgeTable
import BlackBox.Unicode.CategoryTable
import BlackBox.Unicode.CharSet
import BlackBox.Unicode.Fold
import BlackBox.Unicode.FoldTable
import BlackBox.Unicode.Property
import BlackBox.Unicode.PropertyTable
import BlackBox.Unicode.Ranges
import BlackBox.Unicode.ScriptExtensionTable
import BlackBox.Unicode.ScriptTable
import BlackBox.Unicode.SegmentTable
import BlackBox.Yaml.Cursor
import BlackBox.Yaml.Directive
import BlackBox.Yaml.Grammar
import BlackBox.Yaml.Node
import BlackBox.Yaml.Read
import BlackBox.Yaml.Resolve
import BlackBox.Yaml.Scalar.Block
import BlackBox.Yaml.Scalar.Plain
import BlackBox.Yaml.Scalar.Quoted
import BlackBox.Yaml.Scalar.Space
import BlackBox.Yaml.Scan
import BlackBox.Yaml.Tag
import BlackBox.Yaml.Token
import BlackBox.Yaml.Value
import BlackBox.Proofs.Pattern.Search
import BlackBox.Proofs.Running
import BlackBox.Proofs.Summary
import BlackBox.Proofs.TestFiles
import BlackBox.Proofs.Report
import BlackBox.Proofs.Command
import BlackBox.Proofs.TestCase
import BlackBox.Proofs.Text.Lines
import BlackBox.Proofs.Text.LineEnds
import BlackBox.Proofs.Tap.Points
import BlackBox.Proofs.Tap.Block
import BlackBox.Proofs.Files.Parts
import BlackBox.Proofs.Files.Tree
import BlackBox.Proofs.Files.RootPath
import BlackBox.Proofs.Files.Discovery
import BlackBox.Proofs.Yaml.BlockScalar
import BlackBox.Proofs.Tap.Diagnostics
import BlackBox.Proofs.Pattern.Core
import BlackBox.Proofs.Pattern.Pieces
import BlackBox.Proofs.Pattern.Reading
import BlackBox.Proofs.Matching
import BlackBox.Proofs.Filtering
import BlackBox.Proofs.Loading
import BlackBox.Proofs.Naming
import BlackBox.Proofs.Files.Anchor
import BlackBox.Proofs.Files.Search
import BlackBox.Proofs.Files.FullRoot
import BlackBox.Proofs.Roots
import BlackBox.Proofs.Files.Display
import BlackBox.Proofs.CommandLine
import BlackBox.Proofs.Reporting
import BlackBox.Proofs.Text.Indentation
import BlackBox.Proofs.Launch
import BlackBox.Proofs.Streams
import BlackBox.Proofs.Settings.Draft
import BlackBox.Proofs.Settings.Request
