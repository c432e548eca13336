import ShaderWeave.Decimal.Shortest
import ShaderWeave.Decimal.Single
import ShaderWeave.Device.Action
import ShaderWeave.Device.Basic
import ShaderWeave.Device.Headless
import ShaderWeave.Device.Info
import ShaderWeave.Device.Native
import ShaderWeave.Device.Rationed
import ShaderWeave.Device.Version
import ShaderWeave.Digest
import ShaderWeave.Error
import ShaderWeave.Event
import ShaderWeave.Gpu.Conversion
import ShaderWeave.Gpu.Registry
import ShaderWeave.Gpu.Type
import ShaderWeave.Gpu.TypeName
import ShaderWeave.Gpu.Uniform
import ShaderWeave.Gpu.VertexLayout
import ShaderWeave.Host.Components
import ShaderWeave.Host.Shape
import ShaderWeave.Host.ShortName
import ShaderWeave.Host.Type
import ShaderWeave.Host.Value
import ShaderWeave.Layout
import ShaderWeave.Pipeline.Basic
import ShaderWeave.Pipeline.Collection
import ShaderWeave.Pipeline.Graph
import ShaderWeave.Pipeline.Resolve
import ShaderWeave.Pipeline.Store
import ShaderWeave.Program.Bind
import ShaderWeave.Program.Blueprint
import ShaderWeave.Program.Cache
import ShaderWeave.Program.Compile
import ShaderWeave.Program.Draft
import ShaderWeave.Program.Generate
import ShaderWeave.Program.Linked
import ShaderWeave.Program.Plan
import ShaderWeave.Program.Request
import ShaderWeave.Program.Source
import ShaderWeave.Program.Storage
import ShaderWeave.Proofs.Chain
import ShaderWeave.Proofs.Classes
import ShaderWeave.Proofs.Collections
import ShaderWeave.Proofs.Marks
import ShaderWeave.Proofs.Outcome
import ShaderWeave.Proofs.Placement
import ShaderWeave.Proofs.Plan
import ShaderWeave.Proofs.Schedule
import ShaderWeave.Proofs.Search
import ShaderWeave.Proofs.Simulation
import ShaderWeave.Proofs.Variables
import ShaderWeave.Property.Aliases
import ShaderWeave.Property.Basic
import ShaderWeave.Property.Indexed
import ShaderWeave.Property.NameMap
import ShaderWeave.Renderer
import ShaderWeave.Report.Basic
import ShaderWeave.Report.Error
import ShaderWeave.Report.Program
import ShaderWeave.Report.Type
import ShaderWeave.Stage
import ShaderWeave.Task.Basic
import ShaderWeave.Task.Kinds
import ShaderWeave.Task.Literal
import ShaderWeave.Text.Alphanumeric
import ShaderWeave.Text.Blank
import ShaderWeave.Text.Dedent
import ShaderWeave.Text.Hexadecimal
import ShaderWeave.Text.Printable
import ShaderWeave.Text.Quoted
import ShaderWeave.Text.Ranges
import ShaderWeave.Proofs.Requirements
import ShaderWeave.Proofs.Growth
import ShaderWeave.Proofs.AggregateLayout
import ShaderWeave.Proofs.StorageLayout
import ShaderWeave.Proofs.History
import ShaderWeave.Proofs.Beside
import ShaderWeave.Proofs.Drafts
import ShaderWeave.Proofs.Sources
import ShaderWeave.Proofs.HeadlessRuns
import ShaderWeave.Proofs.CacheTransparency
import ShaderWeave.Proofs.Effects
import ShaderWeave.Proofs.Stages
import ShaderWeave.Proofs.Resources
import ShaderWeave.Proofs.Declarations
import ShaderWeave.Proofs.Bindings
import ShaderWeave.Proofs.Delivery
import ShaderWeave.Proofs.Places
import ShaderWeave.Proofs.Interface
import ShaderWeave.Proofs.Needs
import ShaderWeave.Proofs.Tokens
import ShaderWeave.Proofs.StoredTasks
import ShaderWeave.Proofs.Failures
import ShaderWeave.Proofs.Identifiers
import ShaderWeave.Proofs.Traces
import ShaderWeave.Proofs.Cleanup
import ShaderWeave.Proofs.Ownership
import ShaderWeave.Proofs.Consistency
import ShaderWeave.Proofs.Renaming
import ShaderWeave.Proofs.Negotiation
import ShaderWeave.Proofs.BindingValues
import ShaderWeave.Proofs.TypeNames
import ShaderWeave.Proofs.TypeOrder
import ShaderWeave.Proofs.StructNames
import ShaderWeave.Proofs.Attributes
import ShaderWeave.Proofs.Suppliers
import ShaderWeave.Proofs.RecursiveTypes
import ShaderWeave.Proofs.NestedLayout
import ShaderWeave.Proofs.TypeDeclarations
import ShaderWeave.Proofs.Choices
import ShaderWeave.Proofs.Flattening
import ShaderWeave.Proofs.SharedTables
import ShaderWeave.Proofs.StampedKeys
import ShaderWeave.Proofs.Indentation
import ShaderWeave.Proofs.Locations
import ShaderWeave.Proofs.Positions
import ShaderWeave.Proofs.SplitBinding
import ShaderWeave.Proofs.Limits
import ShaderWeave.Proofs.Guards
import ShaderWeave.Proofs.Drawing
import ShaderWeave.Proofs.ShortNames
