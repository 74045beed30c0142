import Montage.Application
import Montage.ArgumentReader
import Montage.Arguments
import Montage.Builder
import Montage.Command
import Montage.Cursor
import Montage.Draft
import Montage.Failure
import Montage.Filter
import Montage.Folder
import Montage.Highlight
import Montage.Main
import Montage.Number.Binary64
import Montage.Number.Decimal
import Montage.Number.Numeral
import Montage.Number.Rounding
import Montage.Number.Text
import Montage.Operation
import Montage.Pending
import Montage.Problem
import Montage.Proofs.Application.Consent
import Montage.Proofs.Application.Course
import Montage.Proofs.Application.Log
import Montage.Proofs.Application.Quiet
import Montage.Proofs.Application.Status
import Montage.Proofs.ArgumentReader
import Montage.Proofs.ArgumentReader.Agreement
import Montage.Proofs.Arguments.CheckedPaths
import Montage.Proofs.Arguments.Failure
import Montage.Proofs.Arguments.Grammar
import Montage.Proofs.Arguments.MergedFiles
import Montage.Proofs.Arguments.Mistake
import Montage.Proofs.Arguments.Order
import Montage.Proofs.Arguments.Overlong
import Montage.Proofs.Arguments.Reading
import Montage.Proofs.Arguments.Resumption
import Montage.Proofs.Arguments.RoundTrip
import Montage.Proofs.Builder
import Montage.Proofs.Compilation
import Montage.Proofs.Cursor
import Montage.Proofs.Draft
import Montage.Proofs.Filter.Decoding
import Montage.Proofs.Filter.Wiring
import Montage.Proofs.Folder
import Montage.Proofs.Folder.Shape
import Montage.Proofs.Fragments
import Montage.Proofs.Fragments.Printable
import Montage.Proofs.Highlight.Compiled
import Montage.Proofs.Highlight.Pattern
import Montage.Proofs.Highlight.Rule
import Montage.Proofs.Highlight.Scan
import Montage.Proofs.Highlight.Spans
import Montage.Proofs.Number.Bounded
import Montage.Proofs.Number.Numeral
import Montage.Proofs.Number.Rounding
import Montage.Proofs.Operation
import Montage.Proofs.Rate
import Montage.Proofs.Rate.Monotone
import Montage.Proofs.Result
import Montage.Proofs.Session.Channels
import Montage.Proofs.Session.Confirmation
import Montage.Proofs.Session.Logging
import Montage.Proofs.Session.Logs
import Montage.Proofs.Session.Run
import Montage.Proofs.Session.Steps
import Montage.Proofs.Session.Twins
import Montage.Proofs.Settings
import Montage.Proofs.Settings.Entries
import Montage.Proofs.Settings.SpoiledFile
import Montage.Proofs.Shell.Compiled
import Montage.Proofs.Shell.Ends
import Montage.Proofs.Shell.Flags
import Montage.Proofs.Shell.Fragment
import Montage.Proofs.Shell.Pattern
import Montage.Proofs.Shell.Reading
import Montage.Proofs.Shell.Unquoted
import Montage.Proofs.Text.Fields
import Montage.Proofs.Text.Lines
import Montage.Proofs.Text.Literal
import Montage.Proofs.Text.Printable
import Montage.Rate
import Montage.Session
import Montage.Settings
import Montage.Settings.Load
import Montage.Shell
import Montage.Terminal
import Montage.Text.Blank
import Montage.Text.CharSet
import Montage.Text.Digit
import Montage.Text.Literal
import Montage.Text.Printable
import Montage.Text.Width
import Montage.Text.Word
import Montage.Yaml.Data
import Montage.Yaml.Document
import Montage.Yaml.Fault
import Montage.Yaml.Graph
import Montage.Yaml.Input
import Montage.Yaml.Layout
import Montage.Yaml.Moment
import Montage.Yaml.Scalar
import Montage.Yaml.ScalarText
import Montage.Yaml.Source
import Montage.Yaml.Tag
import Montage.Yaml.Token
import Montage.Yaml.TokenReader
import Montage.Yaml.Word
