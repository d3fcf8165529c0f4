import CallGuard.Decoration
import CallGuard.Main
import CallGuard.Proofs.Checker.Interval
import CallGuard.Proofs.Checker.Decision
import CallGuard.Proofs.Checker.Lookup
import CallGuard.Proofs.Checker.Associativity
import CallGuard.Proofs.Result
import CallGuard.Proofs.Spec.Denotation
import CallGuard.Proofs.Spec.Compilation
import CallGuard.Proofs.Spec.Families
import CallGuard.Proofs.Binding.Offers
import CallGuard.Proofs.Binding.Coverage
import CallGuard.Proofs.Binding.Precedence
import CallGuard.Proofs.Checker.Labelling
import CallGuard.Proofs.Binding.Labelling
import CallGuard.Proofs.Binding.Merging
import CallGuard.Proofs.Binding.Ordinary
import CallGuard.Proofs.Checker.Fluent
import CallGuard.Proofs.Binding.Relevance
import CallGuard.Proofs.Binding.Arrival
import CallGuard.Proofs.Checker.Components
import CallGuard.Proofs.Spec.Components
import CallGuard.Proofs.Spec.Culprit
import CallGuard.Proofs.Value.StoredOrder
import CallGuard.Proofs.Value.Twins
import CallGuard.Proofs.Checker.Membership
import CallGuard.Proofs.Checker.Endpoints
import CallGuard.Proofs.Binding.Stacking
import CallGuard.Proofs.Binding.Rearrangement
import CallGuard.Proofs.Number.Double
import CallGuard.Proofs.Value.Preorder
import CallGuard.Number.Mixed
import CallGuard.Proofs.Number.Mixed
import CallGuard.Proofs.Value.Inside
import CallGuard.Proofs.Value.Reading
import CallGuard.Proofs.Spec.Arity
import CallGuard.Proofs.Spec.Reading
import CallGuard.Proofs.Value.Collapsing
import CallGuard.Proofs.Value.Agreement
import CallGuard.Proofs.Checker.Singleton
import CallGuard.Proofs.Checker.Classification
import CallGuard.Proofs.Checker.Variants
import CallGuard.Proofs.Checker.Listing
import CallGuard.Proofs.Command.Loading
import CallGuard.Proofs.Command.Stopping
import CallGuard.Proofs.Fixture.Verdict
import CallGuard.Proofs.Value.Elements
import CallGuard.Proofs.Checker.Elements
import CallGuard.Proofs.Binding.Positions
