import Dispatchers.Main
import Dispatchers.Proofs.Path.Clean
import Dispatchers.Proofs.Route.PrefixChain
import Dispatchers.Proofs.Except
import Dispatchers.Proofs.Controller.Classifying
import Dispatchers.Proofs.Disk.ImportPaths
import Dispatchers.Proofs.Disk.Components
import Dispatchers.Proofs.Resolve.Running
import Dispatchers.Proofs.Resolve.Controllers
import Dispatchers.Proofs.Resolve.ImportGraph
import Dispatchers.Proofs.Resolve.Crossings
import Dispatchers.Proofs.Resolve.Trail
import Dispatchers.Proofs.Resolve.Linking
import Dispatchers.Proofs.Resolve.Arrangement
import Dispatchers.Proofs.Resolve.Scanning
import Dispatchers.Proofs.Resolve.Outcome
import Dispatchers.Proofs.Resolve.Arena
import Dispatchers.Proofs.Resolve.Kinship
import Dispatchers.Proofs.Resolve.AncestorPaths
import Dispatchers.Proofs.Resolve.Guarantees
import Dispatchers.Proofs.Resolve.DepthFirst
import Dispatchers.Proofs.Resolve.Provenance
import Dispatchers.Proofs.Handlers.Planning
import Dispatchers.Proofs.Handlers.Faults
import Dispatchers.Proofs.Resolve.Exported
import Dispatchers.Proofs.Handlers.Imports
import Dispatchers.Proofs.Handlers.Coherence
import Dispatchers.Proofs.Resolve.OwnParents
import Dispatchers.Proofs.Handlers.Routes
import Dispatchers.Proofs.Disk.Writing
import Dispatchers.Proofs.Disk.Tree
import Dispatchers.Proofs.Output
import Dispatchers.Proofs.Delivery
import Dispatchers.Proofs.Handlers.Looks
import Dispatchers.Proofs.Handlers.Rerun
import Dispatchers.Proofs.Reader
import Dispatchers.Proofs.Go.Sessions
import Dispatchers.Proofs.Controller.Signatures
import Dispatchers.Proofs.Controller.Locality
import Dispatchers.Proofs.Resolve.Declarations
import Dispatchers.Proofs.Handlers.Hooks
import Dispatchers.Proofs.Path.Canonical
import Dispatchers.Proofs.Controller.BoundFields
import Dispatchers.Proofs.Controller.AddedImport
import Dispatchers.Proofs.Go.TagBytes
import Dispatchers.Proofs.Text.SnakeCase
import Dispatchers.Proofs.Disk.Joining
import Dispatchers.Proofs.Handlers.FileSet
import Dispatchers.Proofs.Path.JoinLaws
import Dispatchers.Proofs.Route.Extraction
import Dispatchers.Proofs.Route.Grammar
import Dispatchers.Proofs.Locator
import Dispatchers.Proofs.Disk.Absolute
import Dispatchers.Proofs.Go.LeadingComments
import Dispatchers.Proofs.Go.Literal
import Dispatchers.Proofs.Text.TestNames
import Dispatchers.Proofs.Handlers.SourceNames
import Dispatchers.Proofs.Listing
import Dispatchers.Proofs.Controller.FieldOutcomes
import Dispatchers.Proofs.Template.Shapes
import Dispatchers.Proofs.Handlers.Rendering
import Dispatchers.Proofs.Handlers.Preamble
