import RoutePattern.Catalogue
import RoutePattern.Table
import RoutePattern.Proofs.Acceptance
import RoutePattern.Proofs.Lookup
import RoutePattern.Proofs.Recovery
import RoutePattern.Proofs.Substitution
import RoutePattern.Proofs.Anchoring
import RoutePattern.Proofs.History
import RoutePattern.Proofs.Slashes
import RoutePattern.Proofs.NormalForm
import RoutePattern.Proofs.OptionalSlashes
import RoutePattern.Proofs.SegmentValues
import RoutePattern.Proofs.Conditions
import RoutePattern.Proofs.Trials
import RoutePattern.Proofs.Registration
import RoutePattern.Proofs.Classification
import RoutePattern.Proofs.Coverage
import RoutePattern.Proofs.Escape
import RoutePattern.Proofs.BasePattern
import RoutePattern.Proofs.ReferenceSearch
