import Raft.Foundation.InsertionMap
import Raft.Foundation.Run
import Raft.Foundation.JsValue
import Raft.Lifecycle.Liveness
import Raft.RaftEventBuffer.Order
import Raft.SeenPolicy.Evidence
import Raft.SeenPolicy.Mirror
import Raft.AgentLedger.Refinement
import Raft.Sync.PrefixExactness
import Raft.Sync.Coverage
import Raft.Sync.EpochIsolation
import Raft.Sync.HonestProducer
import Raft.Sync.Repair
import Raft.Sync.ScopeIndependence
import Raft.Sync.ReadState
import Raft.Activity.Merge
import Raft.Activity.AcceptedFact
import Raft.ActivityServer.Responses
import Raft.ActivityServer.History
import Raft.ActivityServer.VersionAuthority
import Raft.ActivityPanel.NoLostUpdate
import Raft.AgentOps.SaveRaces
import Raft.AgentOps.InboxDrain
import Raft.VisibleDelivery.FreshnessHold
import Raft.Outbox.ValidFile
import Raft.WakeBreaker.Bound
import Raft.WakeBreaker.Owners
import Raft.ThreadReplies.SyncDomain
import Raft.TerminalBreaker.Manual
import Raft.TerminalBreaker.Circuit
import Raft.TerminalBreaker.Rollback
import Raft.TerminalBreaker.OutcomeDelivery
import Raft.TerminalBreaker.CatchupRuns
import Raft.DurableTasks.Fencing
import Raft.ReadLedger.Supersession
import Raft.Referral.Counters
import Raft.Referral.Confluence
import Raft.AgentActivityEvents.Kinds
import Raft.AgentActivityEvents.Logs
import Raft.AgentActivityEvents.Reducer
import Raft.AgentActivityEvents.Register
import Raft.Activity.ReadState
import Raft.RaftEventBuffer.Pacing
import Raft.RaftEventBuffer.Drains
import Raft.SeenPolicy.Aliases
import Raft.SeenPolicy.Batches
import Raft.SeenPolicy.ExactBatches
import Raft.Foundation.ScopedRegister
import Raft.SeenPolicy.FrontierWrites
import Raft.SeenPolicy.FrontierRestores
import Raft.AgentStarts.Coordinator
import Raft.AgentStarts.Runs
import Raft.AgentStarts.PendingDelivery
import Raft.VisibleDelivery.ForwardedSeen
import Raft.WakeBreaker.Withdrawal
import Raft.Foundation.OptimisticStore
import Raft.WakeBreaker.Mutations
import Raft.FeatureFlags.Evaluation
import Raft.RaftRefs.RoundTrip
import Raft.RaftRefs.CodeSpans
import Raft.ReactionReadModels.ViewerOverlay
import Raft.ReactionReadModels.ActorCache
import Raft.ReadReceipts.Summary
import Raft.RapTimer.Runs
import Raft.Foundation.DependencyOrder
import Raft.RuntimeForm.Fields
import Raft.RuntimeForm.State
import Raft.RuntimeForm.Cascade
import Raft.WakeRecycle.Markers
import Raft.WakeRecycle.Scan
import Raft.InboxEvents.Invariants
import Raft.CanonicalMessage.SoleApply
import Raft.SlackBridgeDelivery.Runs
import Raft.SkillFrontmatter.Documents
import Raft.AgentActivityEvents.Trajectory
import Raft.Concurrency.InboxRouteBackpressure
import Raft.Concurrency.BackpressureRuns
import Raft.Concurrency.ConcurrencyLimiter
import Raft.Concurrency.MapWithConcurrency
import Raft.Drain.Coordinator
