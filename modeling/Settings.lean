import Settings.Address
import Settings.Cache
import Settings.Command.Arguments
import Settings.Command.Basic
import Settings.Command.Execution
import Settings.Command.Printing
import Settings.Document
import Settings.Document.Session
import Settings.Error
import Settings.Field
import Settings.Files.Path
import Settings.Files.Resolver
import Settings.Files.Tree
import Settings.Filter
import Settings.FrontMatter
import Settings.Group
import Settings.Json
import Settings.Loader
import Settings.Main
import Settings.Metadata
import Settings.Number.Binary64
import Settings.Number.Decimal
import Settings.Number.Integer
import Settings.Number.Layout
import Settings.Number.Shortest
import Settings.Pattern.Basic
import Settings.Pattern.Brackets
import Settings.Pattern.CharSet
import Settings.Pattern.Escape
import Settings.Pattern.Fault
import Settings.Pattern.Flags
import Settings.Pattern.Matching
import Settings.Pattern.Reader
import Settings.Proofs.Acceptance
import Settings.Proofs.Accounting
import Settings.Proofs.AddressText
import Settings.Proofs.Addressability
import Settings.Proofs.Asking
import Settings.Proofs.Assignment
import Settings.Proofs.Atomicity
import Settings.Proofs.CanonicalText
import Settings.Proofs.Coherence
import Settings.Proofs.Commutation
import Settings.Proofs.Composition
import Settings.Proofs.Congruence
import Settings.Proofs.Contents
import Settings.Proofs.Descent
import Settings.Proofs.Effect
import Settings.Proofs.Entries
import Settings.Proofs.Equality
import Settings.Proofs.Failing
import Settings.Proofs.FieldWrites
import Settings.Proofs.FilterText
import Settings.Proofs.Flags
import Settings.Proofs.Growth
import Settings.Proofs.Guard
import Settings.Proofs.History
import Settings.Proofs.IntegerText
import Settings.Proofs.Labels
import Settings.Proofs.LastAssignment
import Settings.Proofs.LoadedMetadata
import Settings.Proofs.Lookup
import Settings.Proofs.Overrides
import Settings.Proofs.PathComponents
import Settings.Proofs.Performing
import Settings.Proofs.PrintedText
import Settings.Proofs.Progress
import Settings.Proofs.ReadBack
import Settings.Proofs.Remembering
import Settings.Proofs.Repeats
import Settings.Proofs.Resolving
import Settings.Proofs.Results
import Settings.Proofs.Retention
import Settings.Proofs.Rounding
import Settings.Proofs.SegmentGrammar
import Settings.Proofs.Selection
import Settings.Proofs.Siblings
import Settings.Proofs.SortedEntries
import Settings.Proofs.SortedUnion
import Settings.Proofs.Step
import Settings.Proofs.Tags
import Settings.Proofs.Trimming
import Settings.Proofs.ValueLines
import Settings.Proofs.Walking
import Settings.Scalar
import Settings.Sorted
import Settings.Text.Blank
import Settings.Text.Case
import Settings.Text.CaseTable
import Settings.Text.Category
import Settings.Text.CategoryTable
import Settings.Text.Folding
import Settings.Text.InvisibleTable
import Settings.Text.Quoted
import Settings.Text.Split
import Settings.Text.Utf8
import Settings.Text.Visible
import Settings.Yaml.Composition
import Settings.Yaml.Cursor
import Settings.Yaml.Dialect
import Settings.Yaml.Event
import Settings.Yaml.Node
import Settings.Yaml.Resolution
import Settings.Yaml.ScalarText
import Settings.Yaml.Tag
import Settings.Yaml.Token
import Settings.Yaml.Value
