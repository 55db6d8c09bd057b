import Conformance.Proofs.Builder.NumberChains
import Conformance.Proofs.Builder.Steps
import Conformance.Proofs.Descriptor.Annotations
import Conformance.Proofs.Descriptor.ComingBack
import Conformance.Proofs.Descriptor.Counts
import Conformance.Proofs.Descriptor.Decoded
import Conformance.Proofs.Descriptor.Documents
import Conformance.Proofs.Descriptor.Faults
import Conformance.Proofs.Descriptor.Hindering
import Conformance.Proofs.Descriptor.LiteralNames
import Conformance.Proofs.Descriptor.Members
import Conformance.Proofs.Descriptor.ObjectHindering
import Conformance.Proofs.Descriptor.ObjectNodes
import Conformance.Proofs.Descriptor.Objects
import Conformance.Proofs.Descriptor.Reading
import Conformance.Proofs.Descriptor.Recovering
import Conformance.Proofs.Descriptor.Rewriting
import Conformance.Proofs.Descriptor.RoundTrip
import Conformance.Proofs.Descriptor.SingleName
import Conformance.Proofs.Descriptor.StringRule
import Conformance.Proofs.Descriptor.StringSources
import Conformance.Proofs.Descriptor.Writing
import Conformance.Proofs.Except
import Conformance.Proofs.Json.Reading
import Conformance.Proofs.Key
import Conformance.Proofs.Key.Grammar
import Conformance.Proofs.Mismatch
import Conformance.Proofs.Number.Divisibility
import Conformance.Proofs.Number.Order
import Conformance.Proofs.Number.Rounding
import Conformance.Proofs.Pattern.AbsenceForm
import Conformance.Proofs.Pattern.Adoption
import Conformance.Proofs.Pattern.Flagless
import Conformance.Proofs.Pattern.Grammar
import Conformance.Proofs.Pattern.Library
import Conformance.Proofs.Pattern.Portable
import Conformance.Proofs.Pattern.Reading
import Conformance.Proofs.Pattern.Recoverable
import Conformance.Proofs.Pattern.Release
import Conformance.Proofs.Pattern.Structure
import Conformance.Proofs.Regex.Endings
import Conformance.Proofs.Regex.Escapes
import Conformance.Proofs.Regex.Grammar
import Conformance.Proofs.Regex.GroupFree
import Conformance.Proofs.Regex.LiteralName
import Conformance.Proofs.Regex.SideBySide
import Conformance.Proofs.Session.AbsenceForm
import Conformance.Proofs.Session.Annotations
import Conformance.Proofs.Session.Decoding
import Conformance.Proofs.Session.Disjunction
import Conformance.Proofs.Session.Flagless
import Conformance.Proofs.Session.Fragments
import Conformance.Proofs.Session.Grammar
import Conformance.Proofs.Session.Image
import Conformance.Proofs.Session.KeyOrder
import Conformance.Proofs.Session.Keys
import Conformance.Proofs.Session.LiteralNames
import Conformance.Proofs.Session.ObjectDescriptors
import Conformance.Proofs.Session.Obstacles
import Conformance.Proofs.Session.Reading
import Conformance.Proofs.Session.Rebinding
import Conformance.Proofs.Session.Recoding
import Conformance.Proofs.Session.Reencoding
import Conformance.Proofs.Session.RoundTrip
import Conformance.Proofs.Session.Runs
import Conformance.Proofs.Session.Scopes
import Conformance.Proofs.Session.SingleName
import Conformance.Proofs.Session.Store
import Conformance.Proofs.Session.StringBuilders
import Conformance.Proofs.Session.StringSources
import Conformance.Proofs.Session.Termination
import Conformance.Proofs.Session.Unfolding
import Conformance.Proofs.Validator.Absence
import Conformance.Proofs.Validator.AbsenceForm
import Conformance.Proofs.Validator.Adoption
import Conformance.Proofs.Validator.AgreeingChecks
import Conformance.Proofs.Validator.Agreement
import Conformance.Proofs.Validator.Attempts
import Conformance.Proofs.Validator.Collecting
import Conformance.Proofs.Validator.ComingBack
import Conformance.Proofs.Validator.Conforming
import Conformance.Proofs.Validator.Decision
import Conformance.Proofs.Validator.Describing
import Conformance.Proofs.Validator.Findings
import Conformance.Proofs.Validator.Flagless
import Conformance.Proofs.Validator.Groups
import Conformance.Proofs.Validator.Guarded
import Conformance.Proofs.Validator.HostFunctions
import Conformance.Proofs.Validator.KeyOrder
import Conformance.Proofs.Validator.Library
import Conformance.Proofs.Validator.Lifting
import Conformance.Proofs.Validator.LiveChains
import Conformance.Proofs.Validator.Mirroring
import Conformance.Proofs.Validator.Modes
import Conformance.Proofs.Validator.Places
import Conformance.Proofs.Validator.Rebinding
import Conformance.Proofs.Validator.Recoverable
import Conformance.Proofs.Validator.References
import Conformance.Proofs.Validator.Release
import Conformance.Proofs.Validator.Settled
import Conformance.Proofs.Validator.Settling
import Conformance.Proofs.Validator.Structure
import Conformance.Proofs.Validator.Termination
import Conformance.Proofs.Validator.Unfolding
import Conformance.Proofs.Validator.Widening
import Conformance.Proofs.Value.Equality
import Conformance.Proofs.Value.Equivalence
import Conformance.Proofs.Value.Keys
import Conformance.Proofs.Value.Kinds
import Conformance.Proofs.Value.Ordering
import Conformance.Proofs.Walk.Agreement
import Conformance.Proofs.Walk.Decision
import Conformance.Proofs.Walk.Lifting
import Conformance.Session.Schema
