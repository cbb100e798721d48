import Wiring.Lookup.Table
import Wiring.Manifest.Job
import Wiring.Proofs.DependencyGraph
import Wiring.Proofs.HoistingSound
import Wiring.Proofs.ResolutionAfresh
import Wiring.Proofs.SharedSubtrees
import Wiring.Proofs.WellScoped
import Wiring.Proofs.Sharing
import Wiring.Proofs.EarlyReturns
import Wiring.Proofs.ImportsExact
import Wiring.Proofs.WellTyped
import Wiring.Proofs.ImportNames
import Wiring.Proofs.ParameterList
import Wiring.Proofs.FailureChains
import Wiring.Proofs.Termination
import Wiring.Proofs.Searches
import Wiring.Proofs.Visibility
import Wiring.Proofs.Pruning
import Wiring.Proofs.DeclarationOrder
import Wiring.Proofs.PackageClause
import Wiring.Proofs.AliasForwarding
import Wiring.Proofs.ManifestForms
import Wiring.Proofs.SearchOrder
import Wiring.Proofs.EmittedNames
import Wiring.Proofs.ErrorSlot
import Wiring.Proofs.TypeTexts
import Wiring.Proofs.Renaming
import Wiring.Proofs.CamelCase
import Wiring.Proofs.AssumedNames
import Wiring.Proofs.BodyText
