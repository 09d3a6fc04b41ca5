import Bildr.Table
import Bildr.Column
import Bildr.SortedSet
import Bildr.Trace
import Bildr.Lockstep
import Bildr.Calls
import Bildr.Keyed
import Bildr.Supersession
import Bildr.Dfs
import Bildr.Stamped
import Bildr.Json
import Bildr.Texts
import Bildr.Glob
import Bildr.Store
import Bildr.Lease
import Bildr.LeaseExclusion
import Bildr.Approval
import Bildr.ApprovalDecision
import Bildr.ApprovalLifecycle
import Bildr.Plan
import Bildr.PlanApproval
import Bildr.RunLifecycle
import Bildr.RunAudit
import Bildr.FailureLedger
import Bildr.FailureStore
import Bildr.FailureRefinement
import Bildr.Outcome
import Bildr.Improvement
import Bildr.ImprovementLedger
import Bildr.Authoritative
import Bildr.OutcomeSupersession
import Bildr.OutcomeCurrency
import Bildr.Champion
import Bildr.EvalWire
import Bildr.Evaluation
import Bildr.EvaluationCalls
import Bildr.EvaluationHistory
import Bildr.EvaluationValidity
import Bildr.Session
import Bildr.TurnStart
import Bildr.TurnStartProtocol
import Bildr.Usage
import Bildr.Projection
import Bildr.ProjectionLate
import Bildr.ProjectionReplay
import Bildr.UsageRebuild
import Bildr.UsageLedger
import Bildr.UsageHistory
import Bildr.PlanContract
import Bildr.PlanGraph
import Bildr.PlanStorage
import Bildr.PlanCustody
import Bildr.PlanLeases
import Bildr.DiffCustody
import Bildr.Governor
import Bildr.GovernorLedger
import Bildr.ControlWire
import Bildr.Correlation
import Bildr.CorrelationGraph
import Bildr.Liveness
import Bildr.Reconciliation
import Bildr.ControlTables
import Bildr.LivenessCalls
import Bildr.LivenessSteps
import Bildr.ReconciliationCalls
import Bildr.FreshAttempt
import Bildr.ReconciliationSteps
import Bildr.ControlPlane
import Bildr.EpisodeLedger
import Bildr.LivenessRecovery
import Bildr.LinkLedger
import Bildr.ObservationAdmission
import Bildr.FactAdmission
import Bildr.Interventions
import Bildr.ReplacementLedger
import Bildr.Progress
import Bildr.ProgressProjection
import Bildr.Attention
import Bildr.Conditions
import Bildr.Investigations
import Bildr.Notifications
import Bildr.Snapshots
import Bildr.SnapshotSources
import Bildr.SnapshotFreshness
import Bildr.ReturnViews
import Bildr.ReturnViewLedger
import Bildr.NotificationMirror
import Bildr.Supervision
import Bildr.DecisionFreshness
import Bildr.Windows
import Bildr.SupervisorObservation
import Bildr.ObservationCoverage
import Bildr.ExpertCustody
import Bildr.Topology
import Bildr.RunGraph
import Bildr.GraphFreshness
import Bildr.InvestigationCompletion
import Bildr.CompletionLedger
import Bildr.Image
import Bildr.AttentionRows
import Bildr.AttentionSteps
import Bildr.AttentionLedger
import Bildr.ConditionLedger
import Bildr.FailureMethods
import Bildr.FailureHistory
import Bildr.Word
import Bildr.FailureWire
import Bildr.CanonicalJson
import Bildr.Contracts
import Bildr.Experiment
import Bildr.Exposure
import Bildr.Rollback
import Bildr.SortBy
import Bildr.TraceReceipts
import Bildr.Kahn
import Bildr.TraceEdges
import Bildr.TraceBranches
import Bildr.TraceProject
import Bildr.TraceIntake
import Bildr.TraceCustody
import Bildr.TraceOrder
import Bildr.Alike
import Bildr.TraceIngress
import Bildr.TraceValidate
import Bildr.TraceAgreement
import Bildr.Knowledge
import Bildr.KnowledgeReview
import Bildr.KnowledgeOutcome
import Bildr.ContextSources
import Bildr.ContextScope
import Bildr.ChildQuarantine
import Bildr.ChildContainment
import Bildr.UsageJournal
import Bildr.UsageDeliveries
import Bildr.UsageMalformed
import Bildr.GovernorRepair
import Bildr.TraceRelations
import Bildr.TraceLeaves
import Bildr.Consecutive
import Bildr.TraceRepresentatives
import Bildr.TraceChains
import Bildr.CausalRecords
import Bildr.Rounding
import Bildr.UsageCost
import Bildr.CostRange
import Bildr.CostExact
import Bildr.UsageAggregate
import Bildr.Avo
import Bildr.AvoLineage
import Bildr.SignedWord
import Bildr.PairedComparison
import Bildr.PairedVerdict
import Bildr.PairedOrder
import Bildr.ConditionTime
import Bildr.AttentionShared
import Bildr.AttentionAcknowledgement
import Bildr.AttentionReopening
import Bildr.Keyset
import Bildr.AttentionPages
import Bildr.PlanBudget
import Bildr.Lossy
import Bildr.Decimal
import Bildr.Probe
import Bildr.Framing
import Bildr.Fingerprint
import Bildr.Offsets
import Bildr.ArchitectureText
import Bildr.ContextBudget
import Bildr.SecretPaths
import Bildr.FirstOf
import Bildr.FailureCost
import Bildr.Suggestions
import Bildr.Quoted
import Bildr.Words
import Bildr.PlanReview
import Bildr.FailureProjection
import Bildr.FailureReplay
import Bildr.FailureStall
import Bildr.Onset
import Bildr.AppServer
import Bildr.AppServerCalls
import Bildr.AppServerReplies
import Bildr.TaskTransitions
import Bildr.EvidenceBundle
import Bildr.Latest
import Bildr.TakeReady
import Bildr.IntegrationOrder
