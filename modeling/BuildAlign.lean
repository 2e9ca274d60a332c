import BuildAlign.CommandLine.Run
import BuildAlign.Main
import BuildAlign.Proofs.Alignment.Effective
import BuildAlign.Proofs.Alignment.Prevailing
import BuildAlign.Proofs.Module.Declarations
import BuildAlign.Proofs.Module.Addresses
import BuildAlign.Proofs.Version.RoundTrip
import BuildAlign.Proofs.Versioning.FixedSuffix
import BuildAlign.Proofs.Versioning.SuffixLabel
import BuildAlign.Proofs.Versioning.ModuleOrder
import BuildAlign.Proofs.Versioning.Unpublished
import BuildAlign.Proofs.Reactor.Frame
import BuildAlign.Proofs.Satisfies
import BuildAlign.Proofs.Reactor.NamesRead
import BuildAlign.Proofs.Alignment.Effect
import BuildAlign.Proofs.Reactor.Order
import BuildAlign.Proofs.Alignment.Parent
import BuildAlign.Proofs.Alignment.Traced
import BuildAlign.Proofs.Alignment.Walk
import BuildAlign.Proofs.Alignment.ForcedVersion
import BuildAlign.Proofs.Alignment.Outcome
import BuildAlign.Proofs.Alignment.OwnVersion
import BuildAlign.Proofs.Reactor.Simple
import BuildAlign.Proofs.Alignment.StrictCheck
import BuildAlign.Proofs.Alignment.OwnRebuild
import BuildAlign.Proofs.Override.Entries
import BuildAlign.Proofs.Override.Layers
import BuildAlign.Proofs.Alignment.CheckedWrites
import BuildAlign.Proofs.Alignment.StrictStage
import BuildAlign.Proofs.Escalation
import BuildAlign.Proofs.Alignment.FatalSwitch
import BuildAlign.Proofs.Pass.Severity
import BuildAlign.Proofs.Reactor.View
import BuildAlign.Proofs.Alignment.Request
import BuildAlign.Proofs.Alignment.Exact
import BuildAlign.Proofs.Alignment.Result
import BuildAlign.Proofs.Alignment.Reported
import BuildAlign.Proofs.Alignment.Addressed
import BuildAlign.Proofs.Alignment.LiteralVersions
import BuildAlign.Proofs.Alignment.Sourced
import BuildAlign.Proofs.Alignment.Entitled
import BuildAlign.Proofs.Alignment.Provenance
import BuildAlign.Proofs.Alignment.NonBlank
import BuildAlign.Proofs.Alignment.Idempotence
import BuildAlign.Proofs.Pass.Completeness
import BuildAlign.Proofs.Versioning.Cycles
import BuildAlign.Proofs.Versioning.Followed
import BuildAlign.Proofs.Versioning.Substitution
import BuildAlign.Proofs.Pass.Tree
import BuildAlign.Proofs.Reactor.Snapshot
import BuildAlign.Proofs.Service.Agreement
import BuildAlign.Proofs.Stage.ProjectVersion
import BuildAlign.Proofs.Versioning.Counting
import BuildAlign.Proofs.Alignment.SelfReplacement
import BuildAlign.Proofs.Alignment.Comparand
import BuildAlign.Proofs.Alignment.LedgerRun
import BuildAlign.Proofs.Alignment.DemandedBy
import BuildAlign.Proofs.Alignment.SingleDemand
import BuildAlign.Proofs.Alignment.FlushedSlots
import BuildAlign.Proofs.Alignment.LeadingReference
import BuildAlign.Proofs.Alignment.Additions
import BuildAlign.Proofs.Override.Specificity
import BuildAlign.Proofs.Override.History
import BuildAlign.Proofs.Version.OsgiNormal
import BuildAlign.Proofs.Coordinate.WrittenForm
import BuildAlign.Proofs.Reactor.WellFounded
import BuildAlign.Proofs.Module.Slots
import BuildAlign.Proofs.Reactor.OwnVersionAlias
import BuildAlign.Proofs.Reactor.ParentsFirst
import BuildAlign.Proofs.Template.Clean
import BuildAlign.Proofs.Reactor.FullSubstitution
import BuildAlign.Proofs.Stage.Removal
import BuildAlign.Proofs.Pass.Aborted
import BuildAlign.Proofs.Version.OsgiWritten
