import Compendium.AccessFault
import Compendium.Action
import Compendium.Aggregate
import Compendium.Builtin
import Compendium.Charset
import Compendium.Command
import Compendium.Command.Choice
import Compendium.Command.Help
import Compendium.Command.Notice
import Compendium.Command.Settings
import Compendium.Command.Summary
import Compendium.Command.Table
import Compendium.Config
import Compendium.Config.Reader
import Compendium.Content
import Compendium.Context
import Compendium.Context.Sharing
import Compendium.Decimal.Shortest
import Compendium.Disk
import Compendium.Disk.Lookup
import Compendium.Disk.Node
import Compendium.Document
import Compendium.Document.Kind
import Compendium.Event
import Compendium.Failure
import Compendium.Glob
import Compendium.Json.Cursor
import Compendium.Json.Scalar
import Compendium.Main
import Compendium.Path
import Compendium.Pattern
import Compendium.Pattern.Segment
import Compendium.Pattern.Set
import Compendium.Proofs.Action
import Compendium.Proofs.Aggregate
import Compendium.Proofs.Command.Adding
import Compendium.Proofs.Command.Destination
import Compendium.Proofs.Command.Ending
import Compendium.Proofs.Command.Job
import Compendium.Proofs.Command.Opening
import Compendium.Proofs.Command.Overwriting
import Compendium.Proofs.Command.Prepared
import Compendium.Proofs.Command.Setup
import Compendium.Proofs.Command.Written
import Compendium.Proofs.Config.Lists
import Compendium.Proofs.Config.Meaning
import Compendium.Proofs.Config.Objects
import Compendium.Proofs.Context
import Compendium.Proofs.Context.Sharing
import Compendium.Proofs.Disk.Below
import Compendium.Proofs.Disk.Differing
import Compendium.Proofs.Disk.Kind
import Compendium.Proofs.Disk.Made
import Compendium.Proofs.Disk.Making
import Compendium.Proofs.Disk.Overwritten
import Compendium.Proofs.Disk.Room
import Compendium.Proofs.Disk.WellFormed
import Compendium.Proofs.Disk.Writing
import Compendium.Proofs.Document.Body
import Compendium.Proofs.Document.Fence
import Compendium.Proofs.Except
import Compendium.Proofs.Glob.Reading
import Compendium.Proofs.Glob.Row
import Compendium.Proofs.Json.Grammar
import Compendium.Proofs.Json.Reading
import Compendium.Proofs.Path.Entry
import Compendium.Proofs.Path.Inside
import Compendium.Proofs.Path.Parent
import Compendium.Proofs.Path.Resolved
import Compendium.Proofs.Pattern.Anywhere
import Compendium.Proofs.Pattern.Confined
import Compendium.Proofs.Pattern.Contents
import Compendium.Proofs.Pattern.Cut
import Compendium.Proofs.Pattern.Declared
import Compendium.Proofs.Pattern.Escape
import Compendium.Proofs.Pattern.Letters
import Compendium.Proofs.Pattern.Literal
import Compendium.Proofs.Pattern.Meaning
import Compendium.Proofs.Pattern.Moved
import Compendium.Proofs.Pattern.Piece
import Compendium.Proofs.Pattern.Plain
import Compendium.Proofs.Pattern.Reading
import Compendium.Proofs.Pattern.Rooted
import Compendium.Proofs.Pattern.Search
import Compendium.Proofs.Pattern.Spelling
import Compendium.Proofs.Pattern.Verdict
import Compendium.Proofs.Resolver.Failing
import Compendium.Proofs.Resolver.Local
import Compendium.Proofs.Resolver.Memory
import Compendium.Proofs.Resolver.Search
import Compendium.Proofs.Rule.Chain
import Compendium.Proofs.Rule.KeepStart
import Compendium.Proofs.Rule.Layers
import Compendium.Proofs.Rule.Ranges
import Compendium.Proofs.Rule.Run
import Compendium.Proofs.Rule.Stages
import Compendium.Proofs.Scan.Anchoring
import Compendium.Proofs.Scan.Arguments
import Compendium.Proofs.Scan.Cascade
import Compendium.Proofs.Scan.Closure
import Compendium.Proofs.Scan.Delivered
import Compendium.Proofs.Scan.Exclusion
import Compendium.Proofs.Scan.Grown
import Compendium.Proofs.Scan.Isolation
import Compendium.Proofs.Scan.Judged
import Compendium.Proofs.Scan.Limit
import Compendium.Proofs.Scan.Lockstep
import Compendium.Proofs.Scan.Marks
import Compendium.Proofs.Scan.Milder
import Compendium.Proofs.Scan.Named
import Compendium.Proofs.Scan.Order
import Compendium.Proofs.Scan.OwnFault
import Compendium.Proofs.Scan.Plan
import Compendium.Proofs.Scan.Pruning
import Compendium.Proofs.Scan.Reach
import Compendium.Proofs.Scan.Relocation
import Compendium.Proofs.Scan.Selection
import Compendium.Proofs.Scan.Slashed
import Compendium.Proofs.Scan.Twins
import Compendium.Proofs.Scan.Verbatim
import Compendium.Proofs.Scan.Walk
import Compendium.Proofs.Scope
import Compendium.Proofs.Sink
import Compendium.Proofs.Text.Encoding
import Compendium.Proofs.Text.Lines
import Compendium.Proofs.Text.Order
import Compendium.Proofs.Text.Pieces
import Compendium.Proofs.Text.Trim
import Compendium.Regex
import Compendium.Regex.Expr
import Compendium.Regex.Match
import Compendium.Regex.Meaning
import Compendium.Regex.Reader
import Compendium.Regex.Size
import Compendium.Regex.Term
import Compendium.Report
import Compendium.Resolver
import Compendium.Rule
import Compendium.Rule.Set
import Compendium.Scan
import Compendium.Scope
import Compendium.Sink
import Compendium.Text
import Compendium.Text.Quoted
import Compendium.Unicode.Age
import Compendium.Unicode.BinaryProperty
import Compendium.Unicode.CaseFold
import Compendium.Unicode.Category
import Compendium.Unicode.Property
import Compendium.Unicode.Script
import Compendium.Unicode.Width
