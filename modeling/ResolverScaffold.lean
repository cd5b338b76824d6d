import ResolverScaffold.Annotation.Lifecycle
import ResolverScaffold.Annotation.Middleware
import ResolverScaffold.Annotation.StringList
import ResolverScaffold.Autobind
import ResolverScaffold.Code.Attribute
import ResolverScaffold.Code.Expression
import ResolverScaffold.Code.Function
import ResolverScaffold.Code.Grammar
import ResolverScaffold.Code.Item
import ResolverScaffold.Code.Literal
import ResolverScaffold.Code.Node
import ResolverScaffold.Code.Parameter
import ResolverScaffold.Code.Pattern
import ResolverScaffold.Code.Token
import ResolverScaffold.Code.TypeForm
import ResolverScaffold.Code.Types
import ResolverScaffold.Command.Arguments
import ResolverScaffold.Command.Run
import ResolverScaffold.Decimal.Double
import ResolverScaffold.Decimal.Shortest
import ResolverScaffold.Dict
import ResolverScaffold.Disk
import ResolverScaffold.Generation
import ResolverScaffold.Glob.Expansion
import ResolverScaffold.Glob.Pattern
import ResolverScaffold.ListReader
import ResolverScaffold.Main
import ResolverScaffold.Markup.Content
import ResolverScaffold.Markup.Cursor
import ResolverScaffold.Markup.Document
import ResolverScaffold.Markup.Draft
import ResolverScaffold.Markup.Name
import ResolverScaffold.Markup.Node
import ResolverScaffold.Markup.Scalar
import ResolverScaffold.Markup.Scanner
import ResolverScaffold.Markup.Tag
import ResolverScaffold.Markup.Token
import ResolverScaffold.Naming
import ResolverScaffold.Package
import ResolverScaffold.Path
import ResolverScaffold.Proofs.Annotation.Middleware
import ResolverScaffold.Proofs.Annotation.StringList
import ResolverScaffold.Proofs.Autobind
import ResolverScaffold.Proofs.Autobind.FirstMatch
import ResolverScaffold.Proofs.Autobind.OwnFiles
import ResolverScaffold.Proofs.Autobind.Rounds
import ResolverScaffold.Proofs.Dict
import ResolverScaffold.Proofs.Disk
import ResolverScaffold.Proofs.Disk.Downward
import ResolverScaffold.Proofs.Generation.Calls
import ResolverScaffold.Proofs.Generation.Chains
import ResolverScaffold.Proofs.Generation.Declared
import ResolverScaffold.Proofs.Generation.Footprint
import ResolverScaffold.Proofs.Generation.Identifiers
import ResolverScaffold.Proofs.Generation.Keys
import ResolverScaffold.Proofs.Generation.Liveness
import ResolverScaffold.Proofs.Generation.Order
import ResolverScaffold.Proofs.Generation.Preservation
import ResolverScaffold.Proofs.Generation.Readable
import ResolverScaffold.Proofs.Generation.Regeneration
import ResolverScaffold.Proofs.Generation.Restoration
import ResolverScaffold.Proofs.Generation.Retention
import ResolverScaffold.Proofs.Generation.Totality
import ResolverScaffold.Proofs.Generation.Variants
import ResolverScaffold.Proofs.Naming
import ResolverScaffold.Proofs.Naming.Clashes
import ResolverScaffold.Proofs.Naming.WellFormed
import ResolverScaffold.Proofs.Outcome
import ResolverScaffold.Proofs.Path
import ResolverScaffold.Proofs.Render.Exact
import ResolverScaffold.Proofs.Render.Files
import ResolverScaffold.Proofs.Render.ModelFile
import ResolverScaffold.Proofs.Render.ResolverFile
import ResolverScaffold.Proofs.Render.Stub
import ResolverScaffold.Proofs.Render.Total
import ResolverScaffold.Proofs.Resolver.LeadingComments
import ResolverScaffold.Proofs.Resolver.Position
import ResolverScaffold.Proofs.Resolver.Recovery
import ResolverScaffold.Proofs.Resolver.RetainedBlock
import ResolverScaffold.Proofs.Resolver.Signature
import ResolverScaffold.Proofs.Resolver.SourceCache
import ResolverScaffold.Proofs.Schema.Coherence
import ResolverScaffold.Proofs.Schema.Load
import ResolverScaffold.Proofs.Schema.Merge
import ResolverScaffold.Proofs.Schema.Names
import ResolverScaffold.Proofs.Text.Lines
import ResolverScaffold.Proofs.Text.Parts
import ResolverScaffold.Proofs.Tree.Annotations
import ResolverScaffold.Proofs.Tree.Closed
import ResolverScaffold.Proofs.Tree.Descent
import ResolverScaffold.Proofs.Tree.FieldKeys
import ResolverScaffold.Proofs.Tree.Order
import ResolverScaffold.Proofs.Tree.Reachable
import ResolverScaffold.Proofs.Tree.Walk
import ResolverScaffold.Render.Dispatch
import ResolverScaffold.Render.Files
import ResolverScaffold.Render.ModelFile
import ResolverScaffold.Render.ResolverFile
import ResolverScaffold.Render.Stub
import ResolverScaffold.Render.TypeName
import ResolverScaffold.Resolver.Kind
import ResolverScaffold.Resolver.Recovery
import ResolverScaffold.Resolver.RetainedBlock
import ResolverScaffold.Resolver.Signature
import ResolverScaffold.Resolver.SourceCache
import ResolverScaffold.Resolver.Span
import ResolverScaffold.Schema.BlockString
import ResolverScaffold.Schema.Definition
import ResolverScaffold.Schema.Document
import ResolverScaffold.Schema.Prelude
import ResolverScaffold.Schema.Statement
import ResolverScaffold.Schema.Table
import ResolverScaffold.Settings
import ResolverScaffold.Settings.Read
import ResolverScaffold.Settings.SchemaFiles
import ResolverScaffold.Settings.Starter
import ResolverScaffold.Text.Blank
import ResolverScaffold.Text.Bytes
import ResolverScaffold.Text.Case
import ResolverScaffold.Text.Hidden
import ResolverScaffold.Text.Layout
import ResolverScaffold.Text.Lines
import ResolverScaffold.Text.Quoted
import ResolverScaffold.Text.Ranges
import ResolverScaffold.Text.Reader
import ResolverScaffold.Text.Word
import ResolverScaffold.Tree.Basic
import ResolverScaffold.Tree.Binding
import ResolverScaffold.Tree.Primitive
import ResolverScaffold.Tree.Walk
import ResolverScaffold.TypeRef
import ResolverScaffold.Value
