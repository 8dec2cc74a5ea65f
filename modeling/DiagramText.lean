import DiagramText.Classes.Basic
import DiagramText.Classes.Member
import DiagramText.Classes.Parse
import DiagramText.Classes.Relationship
import DiagramText.Classes.Statement
import DiagramText.Diagnostic
import DiagramText.Diagram
import DiagramText.Direction
import DiagramText.Dispatch
import DiagramText.Distinct
import DiagramText.Er.Basic
import DiagramText.Er.Parse
import DiagramText.Er.Statement
import DiagramText.Fault
import DiagramText.Flowchart.Arrow
import DiagramText.Flowchart.Chain
import DiagramText.Flowchart.Node
import DiagramText.Flowchart.Parse
import DiagramText.Flowchart.Statement
import DiagramText.FrontMatter
import DiagramText.Gantt.Basic
import DiagramText.Gantt.Parse
import DiagramText.Gantt.Statement
import DiagramText.Mindmap.Basic
import DiagramText.Mindmap.Parse
import DiagramText.Mindmap.Statement
import DiagramText.Number.Binary64
import DiagramText.OrderedMap
import DiagramText.Parsed
import DiagramText.Pie.Basic
import DiagramText.Pie.Parse
import DiagramText.Pie.Statement
import DiagramText.Plugin
import DiagramText.Proofs.Balance
import DiagramText.Proofs.BlockBalance
import DiagramText.Proofs.Classes.Balance
import DiagramText.Proofs.Classes.References
import DiagramText.Proofs.Classes.Renumber
import DiagramText.Proofs.Classes.Roster
import DiagramText.Proofs.Closers
import DiagramText.Proofs.Columns
import DiagramText.Proofs.Containment
import DiagramText.Proofs.DeclarationOrder
import DiagramText.Proofs.Dispatch
import DiagramText.Proofs.Er.Balance
import DiagramText.Proofs.Er.References
import DiagramText.Proofs.Er.Renumber
import DiagramText.Proofs.Er.Roster
import DiagramText.Proofs.Faults
import DiagramText.Proofs.Flowchart.Chain
import DiagramText.Proofs.Flowchart.Direction
import DiagramText.Proofs.Flowchart.Run
import DiagramText.Proofs.Growth
import DiagramText.Proofs.Layout
import DiagramText.Proofs.LineNumbers
import DiagramText.Proofs.Mindmap.Parents
import DiagramText.Proofs.Options
import DiagramText.Proofs.OrderedMap
import DiagramText.Proofs.Overwrites
import DiagramText.Proofs.PluginRegistry
import DiagramText.Proofs.References
import DiagramText.Proofs.Rejection
import DiagramText.Proofs.Renumber
import DiagramText.Proofs.Reports
import DiagramText.Proofs.Roster
import DiagramText.Proofs.Routing
import DiagramText.Proofs.ScopeGraph.Balance
import DiagramText.Proofs.ScopeGraph.Brackets
import DiagramText.Proofs.ScopeGraph.Columns
import DiagramText.Proofs.ScopeGraph.DirectiveLines
import DiagramText.Proofs.ScopeGraph.FirstDeclaration
import DiagramText.Proofs.ScopeGraph.LinkIndex
import DiagramText.Proofs.ScopeGraph.Moves
import DiagramText.Proofs.ScopeGraph.Namings
import DiagramText.Proofs.ScopeGraph.Nesting
import DiagramText.Proofs.ScopeGraph.Ownership
import DiagramText.Proofs.ScopeGraph.References
import DiagramText.Proofs.ScopeGraph.Renumber
import DiagramText.Proofs.ScopeGraph.Restyle
import DiagramText.Proofs.ScopeGraph.Roster
import DiagramText.Proofs.ScopeGraph.StyleTargets
import DiagramText.Proofs.ScopeGraph.Topology
import DiagramText.Proofs.Sequence.Balance
import DiagramText.Proofs.Sequence.NotePosition
import DiagramText.Proofs.Sequence.Order
import DiagramText.Proofs.Sequence.References
import DiagramText.Proofs.Sequence.Renumber
import DiagramText.Proofs.Sequence.Roster
import DiagramText.Proofs.Sequence.RoundTrip
import DiagramText.Proofs.Sequence.Script
import DiagramText.Proofs.Source.Layout
import DiagramText.Proofs.Source.Places
import DiagramText.Proofs.Source.Scan
import DiagramText.Proofs.Spans
import DiagramText.Proofs.StateChart.Run
import DiagramText.Proofs.Text.Lower
import DiagramText.Proofs.Text.Solid
import DiagramText.Proofs.Totality
import DiagramText.Proofs.Tree
import DiagramText.Proofs.Wording
import DiagramText.Proofs.Yaml.Nodes
import DiagramText.Proofs.Yaml.Readers
import DiagramText.Proofs.Yaml.Tokens
import DiagramText.ScopeGraph.Basic
import DiagramText.ScopeGraph.Build
import DiagramText.ScopeGraph.Directive
import DiagramText.ScopeGraph.Problem
import DiagramText.Sequence.Basic
import DiagramText.Sequence.Parse
import DiagramText.Sequence.Statement
import DiagramText.Source.Kind
import DiagramText.Source.Line
import DiagramText.StateChart.Parse
import DiagramText.StateChart.Statement
import DiagramText.Text.Base64
import DiagramText.Text.Blank
import DiagramText.Text.Cased
import DiagramText.Text.Caseless
import DiagramText.Text.Cut
import DiagramText.Text.Digit
import DiagramText.Text.Ending
import DiagramText.Text.Lines
import DiagramText.Text.Lower
import DiagramText.Text.Printable
import DiagramText.Text.Quoted
import DiagramText.Text.Ranges
import DiagramText.Text.Utf8
import DiagramText.Text.Word
import DiagramText.Tree
import DiagramText.Yaml.Cursor
import DiagramText.Yaml.Document
import DiagramText.Yaml.Key
import DiagramText.Yaml.Node
import DiagramText.Yaml.Node.Merge
import DiagramText.Yaml.Node.OfTokens
import DiagramText.Yaml.Number
import DiagramText.Yaml.Property
import DiagramText.Yaml.Scalar.Block
import DiagramText.Yaml.Scalar.Plain
import DiagramText.Yaml.Scalar.Quoted
import DiagramText.Yaml.Scalar.Typed
import DiagramText.Yaml.Tag
import DiagramText.Yaml.Timestamp
import DiagramText.Yaml.Token
import DiagramText.Yaml.Token.Stream
import DiagramText.Yaml.Value
import DiagramText.Proofs.ScopeGraph.OwnerHistory
import DiagramText.Proofs.Flowchart.SubgraphIds
import DiagramText.Proofs.Flowchart.Shapes
import DiagramText.Proofs.Flowchart.WrittenArrow
import DiagramText.Proofs.Flowchart.WrittenChain
import DiagramText.Proofs.Flowchart.ChainEdges
import DiagramText.Proofs.Source.Located
import DiagramText.Proofs.Splitting
import DiagramText.Proofs.StateChart.Stars
import DiagramText.Proofs.QuotedLabels
import DiagramText.Proofs.Mindmap.Topics
import DiagramText.Proofs.Sequence.Declarations
import DiagramText.Proofs.Sequence.Hyphens
import DiagramText.Proofs.Classes.Connectors
import DiagramText.Proofs.Classes.Identity
import DiagramText.Proofs.Classes.Spaced
import DiagramText.Proofs.Classes.Compact
import DiagramText.Proofs.Classes.Bodies
import DiagramText.Proofs.Text.Words
import DiagramText.Proofs.Classes.Members
import DiagramText.Proofs.Er.Spellings
import DiagramText.Proofs.Er.KeyTags
import DiagramText.Proofs.Gantt.Sections
import DiagramText.Proofs.Classes.Generics
import DiagramText.Proofs.ScopeGraph.Traversals
import DiagramText.Proofs.Mindmap.Outlines
import DiagramText.Proofs.Gantt.Tasks
