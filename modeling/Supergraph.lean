import Supergraph.Files.Tree
import Supergraph.Main
import Supergraph.Plan.Planner
import Supergraph.Proofs.Conservation
import Supergraph.Proofs.EntityPlan
import Supergraph.Proofs.FieldClass
import Supergraph.Proofs.Files.Frame
import Supergraph.Proofs.Files.Obstacle
import Supergraph.Proofs.Files.Staging
import Supergraph.Proofs.Files.Store
import Supergraph.Proofs.Generation
import Supergraph.Proofs.PlannerHistory
import Supergraph.Proofs.Reading.Module
import Supergraph.Proofs.Reading.ServiceModule
import Supergraph.Proofs.Reading.Spelling
import Supergraph.Proofs.Reading.Value
import Supergraph.Proofs.Registered
import Supergraph.Proofs.RootFields
import Supergraph.Proofs.Routing
import Supergraph.Proofs.Table
import Supergraph.Proofs.Traced
import Supergraph.Schema.Detach
import Supergraph.Proofs.Sdl.Names
import Supergraph.Proofs.Schema.Loaded
import Supergraph.Proofs.Declarations
import Supergraph.Proofs.RootTypes
import Supergraph.Proofs.References
import Supergraph.Proofs.Reading.Evaluation
import Supergraph.Proofs.Reading.PlanModule
import Supergraph.Proofs.Denotation
import Supergraph.Proofs.Independence
import Supergraph.Proofs.Constants
import Supergraph.Proofs.Hints
import Supergraph.Proofs.Files.Clearing
import Supergraph.Proofs.Files.Looking
import Supergraph.Proofs.Reporting
import Supergraph.Proofs.ClaimOrder
import Supergraph.Proofs.Documents
import Supergraph.Proofs.PlanShown
import Supergraph.Proofs.Shapes
import Supergraph.Proofs.HintShapes
import Supergraph.Proofs.KeyTable
import Supergraph.Proofs.Registry
import Supergraph.Proofs.RootTable
import Supergraph.Proofs.TypesModule
import Supergraph.Proofs.Reading.Docstring
import Supergraph.Proofs.Reading.TypedDict
import Supergraph.Proofs.Values
import Supergraph.Proofs.Reading.Literal
import Supergraph.Proofs.Schema.Defaults
import Supergraph.Proofs.RouteTable
import Supergraph.Proofs.InertClaims
import Supergraph.Proofs.RouteOwner
import Supergraph.Proofs.Remnants
import Supergraph.Proofs.Schema.Spelled
import Supergraph.Proofs.Reading.Lines
import Supergraph.Proofs.Reading.Binder
import Supergraph.Proofs.BoundNames
import Supergraph.Proofs.Identifiers
import Supergraph.Proofs.Docstrings
import Supergraph.Proofs.Yaml.Written
import Supergraph.Proofs.Configurations
