import Raft.AgentActivityEvents.Logs
import Raft.Foundation.InsertionMap

/-!
# The agent activity reducer

Socket activity, appended trajectory entries and hydrated trajectory logs all
write the current activity of an agent.  The server sequence number adjudicates:
an older event is dropped, a newer one is written, and events of the current
number are compared with what is shown.
-/

namespace Raft.AgentActivityEvents

open Raft.Foundation

structure AgentActivityTraceJoin where
  clientEventId : Option JsString
  arrivedAtMs : Option Int

structure AgentActivityDomainState where
  agentActivities : InsertionMap JsString AgentActivityState
  agentActivityTraceJoins : InsertionMap JsString AgentActivityTraceJoin
  agentActivityObservedAt : InsertionMap JsString Int
  agentActivityVersions : InsertionMap JsString Int
  agentActivitySeq : InsertionMap JsString Int
  agentActivityLaunchId : InsertionMap JsString JsString
  activityLogs : InsertionMap JsString (List ActivityLogEntry)
  trajectoryLogs : InsertionMap JsString (List TrajectoryLogEntry)

structure SocketActivity where
  agentId : JsString
  activity : Option JsString
  activityDetail : JsString
  serverSeq : Option Int
  timestamp : Int
  joinKeys : Option AgentActivityJoinKeys
  traceJoin : Option AgentActivityTraceJoin
  activityKind : Option JsString
  detailKind : Option JsString
  isHeartbeat : Option Bool
  isRefreshOnly : Option Bool
  deliveryConsumption : Option JsValue
  wakeCrashLoop : Option JsValue
  spawnFailure : Option JsValue

structure TrajectoryAppend where
  agentId : JsString
  entries : List TrajectoryEntry
  timestamp : Int
  serverSeq : Option Int
  joinKeys : Option AgentActivityJoinKeys
  traceJoin : Option AgentActivityTraceJoin

structure TrajectoryHydrate where
  agentId : JsString
  entries : List TrajectoryLogEntry

inductive AgentActivityEvent where
  | socketActivity (event : SocketActivity)
  | trajectoryAppend (event : TrajectoryAppend)
  | trajectoryHydrate (event : TrajectoryHydrate)
  | resetSeq

inductive AgentActivityEventKind where
  | patchSocketActivity
  | patchTrajectoryAppend
  | hydrateTrajectoryLog
  | resetSeq
  deriving DecidableEq

inductive AgentActivityOutcome where
  | applied
  | staleServerSeq
  | producerSeqConflict
  | invalidActivity
  | logged
  | noOp
  deriving DecidableEq

structure AgentActivityViolationBasis where
  sameActivity : Bool
  sameDetailKind : Bool
  sameDetailPresence : Bool
  sameDetailBucket : Bool
  currentActivity : AgentActivity
  projectedActivity : AgentActivity
  currentDetailKind : AgentActivityDetailKind
  projectedDetailKind : AgentActivityDetailKind

structure AgentActivityTransition where
  event : AgentActivityEventKind
  touched : Bool := false
  currentTouched : Bool := false
  logTouched : Bool := false
  reconcileSuggested : Bool := false
  outcome : AgentActivityOutcome := .noOp
  agentId : Option JsString := none
  previousActivity : Option AgentActivity := none
  nextActivity : Option AgentActivity := none
  serverSeq : Option Int := none
  timestamp : Option Int := none
  violationBasis : Option AgentActivityViolationBasis := none

structure AgentActivityApplyResult where
  state : AgentActivityDomainState
  transition : AgentActivityTransition

/-! ## Comparing two statements of one fact -/

structure AgentActivitySemanticProjection where
  activity : AgentActivity
  detailKind : AgentActivityDetailKind
  detailPresent : Bool
  detailBucket : AgentActivityDetailBucket
  deriving DecidableEq

def activityDetailBucket (detailKind : AgentActivityDetailKind) (detailPresent : Bool) :
    AgentActivityDetailBucket :=
  if !detailPresent || detailKind = .none || detailKind = .idle then .none
  else detailKind.bucket

def semanticActivityProjection (state : AgentActivityState) : AgentActivitySemanticProjection :=
  let detailPresent := !(trim state.activityDetail).isEmpty
  { activity := state.activity
    detailKind := state.detailKind
    detailPresent := detailPresent
    detailBucket := activityDetailBucket state.detailKind detailPresent }

def isFallbackDetailKindProjection
    (authoritativeProjection fallbackProjection : AgentActivitySemanticProjection) : Bool :=
  authoritativeProjection.activity = fallbackProjection.activity &&
    authoritativeProjection.detailPresent = fallbackProjection.detailPresent &&
    authoritativeProjection.detailKind ≠ .other &&
    fallbackProjection.detailKind = .other

/-- Nothing when the two statements agree; a trajectory projection may be asked
for less than the detail kind. -/
def producerSeqConflictBasis (current : Option AgentActivityState)
    (projected : AgentActivityState)
    (trajectoryProjectionMayUseFallbackDetailKind : Bool) :
    Option AgentActivityViolationBasis :=
  match current with
  | none => none
  | some current =>
      let currentProjection := semanticActivityProjection current
      let projectedProjection := semanticActivityProjection projected
      if trajectoryProjectionMayUseFallbackDetailKind &&
          isFallbackDetailKindProjection currentProjection projectedProjection then none
      else
        let basis : AgentActivityViolationBasis :=
          { sameActivity := currentProjection.activity = projectedProjection.activity
            sameDetailKind := currentProjection.detailKind = projectedProjection.detailKind
            sameDetailPresence :=
              currentProjection.detailPresent = projectedProjection.detailPresent
            sameDetailBucket := currentProjection.detailBucket = projectedProjection.detailBucket
            currentActivity := currentProjection.activity
            projectedActivity := projectedProjection.activity
            currentDetailKind := currentProjection.detailKind
            projectedDetailKind := projectedProjection.detailKind }
        if basis.sameActivity && basis.sameDetailKind && basis.sameDetailPresence &&
            basis.sameDetailBucket then none
        else some basis

def shouldApplySocketDetailKindAuthority (current : Option AgentActivityState)
    (next : AgentActivityState) : Bool :=
  match current with
  | none => false
  | some current =>
      isFallbackDetailKindProjection (semanticActivityProjection next)
        (semanticActivityProjection current)

def activityStateEqual (first : Option AgentActivityState) (second : AgentActivityState) : Bool :=
  first.any fun first =>
    first.activity = second.activity && first.activityDetail = second.activityDetail &&
      first.detailKind = second.detailKind

/-! ## Writing the current activity -/

def writeTraceJoin (current : InsertionMap JsString AgentActivityTraceJoin) (agentId : JsString)
    (traceJoin : Option AgentActivityTraceJoin) :
    InsertionMap JsString AgentActivityTraceJoin :=
  match traceJoin.bind AgentActivityTraceJoin.clientEventId with
  | some (unit :: units) =>
      if (current.get agentId).bind AgentActivityTraceJoin.clientEventId = some (unit :: units)
      then current
      else current.set agentId ⟨some (unit :: units), none⟩
  | _ => current.delete agentId

def nextActivityVersion (state : AgentActivityDomainState) (agentId : JsString) : Int :=
  (state.agentActivityVersions.get agentId).getD 0 + 1

structure CurrentActivity where
  event : AgentActivityEventKind
  agentId : JsString
  state : AgentActivityState
  timestamp : Int
  serverSeq : Option Int
  launchId : Option JsString
  traceJoin : Option AgentActivityTraceJoin
  activityLogs : Option (List ActivityLogEntry)
  trajectoryLogs : Option (List TrajectoryLogEntry)
  previousActivity : Option AgentActivity

def setWhen {α : Type} (condition : Bool) (map : InsertionMap JsString α) (agentId : JsString)
    (value : α) : InsertionMap JsString α :=
  if condition then map.set agentId value else map

/-- `{ ...map, [agentId]: value }` when there is a value. -/
def setSome {α : Type} (map : InsertionMap JsString α) (agentId : JsString) (value : Option α) :
    InsertionMap JsString α :=
  value.elim map (map.set agentId)

def applyCurrentActivity (state : AgentActivityDomainState) (args : CurrentActivity) :
    AgentActivityApplyResult :=
  let logTouched := args.activityLogs.isSome || args.trajectoryLogs.isSome
  let currentTouched := !activityStateEqual (state.agentActivities.get args.agentId) args.state
  let sameSeq := args.serverSeq.isNone || state.agentActivitySeq.get args.agentId = args.serverSeq
  let sameLaunch :=
    args.launchId.isNone || state.agentActivityLaunchId.get args.agentId = args.launchId
  let touched := currentTouched || logTouched || !sameSeq || !sameLaunch
  let transition : AgentActivityTransition :=
    { event := args.event
      agentId := some args.agentId
      previousActivity := args.previousActivity
      nextActivity := some args.state.activity
      serverSeq := args.serverSeq
      timestamp := some args.timestamp }
  if !touched then ⟨state, transition⟩
  else
    { state :=
        { agentActivities := setWhen currentTouched state.agentActivities args.agentId args.state
          agentActivityTraceJoins :=
            if currentTouched then
              writeTraceJoin state.agentActivityTraceJoins args.agentId args.traceJoin
            else state.agentActivityTraceJoins
          agentActivityObservedAt :=
            state.agentActivityObservedAt.set args.agentId args.timestamp
          agentActivityVersions :=
            setWhen currentTouched state.agentActivityVersions args.agentId
              (nextActivityVersion state args.agentId)
          agentActivitySeq := setSome state.agentActivitySeq args.agentId args.serverSeq
          agentActivityLaunchId :=
            setSome state.agentActivityLaunchId args.agentId args.launchId
          activityLogs := setSome state.activityLogs args.agentId args.activityLogs
          trajectoryLogs := setSome state.trajectoryLogs args.agentId args.trajectoryLogs }
      transition :=
        { transition with
          touched := true
          currentTouched := currentTouched
          logTouched := logTouched
          outcome := .applied } }

/-! ## Socket activity -/

def socketActivityState (event : SocketActivity) (normalized : AgentActivity) :
    AgentActivityState :=
  let detailKind := normalizeActivityDetailKind event.detailKind
  { activity := normalized
    activityDetail := event.activityDetail
    detailKind := detailKind
    deliveryConsumption :=
      if detailKind = .deliveryUnconsumed then event.deliveryConsumption else none
    wakeCrashLoop := if detailKind = .wakeCrashLoopBlocked then event.wakeCrashLoop else none
    spawnFailure := if detailKind = .runtimeUnavailable then event.spawnFailure else none }

/-- Whether a numbered socket event is not newer than the current activity and
does not refine its detail kind. -/
def socketActivityIsStale (state : AgentActivityDomainState) (agentId : JsString)
    (serverSeq : Option Int) (nextActivity : AgentActivityState) : Bool :=
  match serverSeq, state.agentActivitySeq.get agentId with
  | some serverSeq, some lastSeq =>
      let shouldUpgradeFallbackCurrent := serverSeq = lastSeq &&
        shouldApplySocketDetailKindAuthority (state.agentActivities.get agentId) nextActivity
      serverSeq ≤ lastSeq && !shouldUpgradeFallbackCurrent
  | _, _ => false

def applySocketActivity (state : AgentActivityDomainState) (event : SocketActivity) :
    AgentActivityApplyResult :=
  let previousActivity := (state.agentActivities.get event.agentId).map
    AgentActivityState.activity
  let transition : AgentActivityTransition :=
    { event := .patchSocketActivity
      agentId := some event.agentId
      serverSeq := event.serverSeq
      timestamp := some event.timestamp
      previousActivity := previousActivity }
  match parsePushedActivity (event.activityKind <|> event.activity) with
  | none => ⟨state, { transition with outcome := .invalidActivity }⟩
  | some normalized =>
      let nextActivity := socketActivityState event normalized
      if socketActivityIsStale state event.agentId event.serverSeq nextActivity then
        let violationBasis :=
          if state.agentActivitySeq.get event.agentId = event.serverSeq then
            producerSeqConflictBasis (state.agentActivities.get event.agentId) nextActivity false
          else none
        let isSameSeqConflict := violationBasis.isSome
        { state := state
          transition :=
            { transition with
              outcome := if isSameSeqConflict then .producerSeqConflict else .staleServerSeq
              reconcileSuggested := isSameSeqConflict
              violationBasis := violationBasis } }
      else
        let existingLog := (state.activityLogs.get event.agentId).getD []
        let isRefreshOnly := event.isRefreshOnly = some true || event.isHeartbeat = some true
        let entry : ActivityLogEntry :=
          { assignSeqAndJoinKeys event.serverSeq event.joinKeys with
            timestamp := event.timestamp
            activity := normalized
            detail := event.activityDetail
            detailKind := nextActivity.detailKind }
        applyCurrentActivity state
          { event := .patchSocketActivity
            agentId := event.agentId
            state := nextActivity
            timestamp := event.timestamp
            serverSeq := event.serverSeq
            launchId := event.joinKeys.bind AgentActivityJoinKeys.launchId
            traceJoin := event.traceJoin
            activityLogs := if isRefreshOnly then none else appendActivityLog existingLog entry
            trajectoryLogs := none
            previousActivity := previousActivity }

/-! ## Trajectory entries -/

structure ComparableActivity where
  state : AgentActivityState
  timestamp : Int
  serverSeq : Int

structure ComparableConflict where
  serverSeq : Int
  timestamp : Int
  violationBasis : AgentActivityViolationBasis

structure ComparableSelection where
  best : Option ComparableActivity
  conflict : Option ComparableConflict
  seenBySeq : InsertionMap Int AgentActivityState

def selectEntry (texts : EntryTexts) (lastSeq : Option Int) (current : Option AgentActivityState)
    (selection : ComparableSelection) (entry : TrajectoryLogEntry) : ComparableSelection :=
  match entry.serverSeq, deriveActivityFromTrajectoryEntry texts entry.entry with
  | some serverSeq, some projected =>
      if lastSeq.any fun lastSeq => serverSeq < lastSeq then selection
      else if lastSeq = some serverSeq then
        let conflict := (producerSeqConflictBasis current projected true).map
          (ComparableConflict.mk serverSeq entry.timestamp)
        { selection with conflict := selection.conflict <|> conflict }
      else
        let seen := selection.seenBySeq.get serverSeq
        match producerSeqConflictBasis seen projected false with
        | some violationBasis =>
            { selection with
              conflict :=
                selection.conflict <|> some ⟨serverSeq, entry.timestamp, violationBasis⟩ }
        | none =>
            { selection with
              best :=
                if selection.best.any fun best => serverSeq ≤ best.serverSeq then selection.best
                else some ⟨projected, entry.timestamp, serverSeq⟩
              seenBySeq :=
                if seen.isSome then selection.seenBySeq
                else selection.seenBySeq.set serverSeq projected }
  | _, _ => selection

/-- The loop of `selectComparableTrajectoryActivity`; its best is dropped on a conflict. -/
def selectComparableTrajectoryActivity (texts : EntryTexts) (entries : List TrajectoryLogEntry)
    (lastSeq : Option Int) (current : Option AgentActivityState) : ComparableSelection :=
  entries.foldl (selectEntry texts lastSeq current) ⟨none, none, .empty⟩

def isStatus : TrajectoryContent → Bool
  | .status .. => true
  | _ => false

def hasNonComparableActivity (entries : List TrajectoryLogEntry) : Bool :=
  entries.any fun entry => entry.serverSeq.isNone && isStatus entry.entry.content

def writeTrajectoryLog (state : AgentActivityDomainState) (agentId : JsString)
    (combined : Option (List TrajectoryLogEntry)) : AgentActivityDomainState :=
  { state with trajectoryLogs := setSome state.trajectoryLogs agentId combined }

def applyTrajectoryEntries (texts : EntryTexts) (state : AgentActivityDomainState)
    (event : AgentActivityEventKind) (agentId : JsString) (entries : List TrajectoryLogEntry)
    (eventServerSeq timestamp : Option Int) (traceJoin : Option AgentActivityTraceJoin) :
    AgentActivityApplyResult :=
  let existing := (state.trajectoryLogs.get agentId).getD []
  let combined := mergeTrajectoryLogs texts existing entries
  let logTouched := combined.isSome
  let selection := selectComparableTrajectoryActivity texts entries
    (state.agentActivitySeq.get agentId) (state.agentActivities.get agentId)
  let previousActivity := (state.agentActivities.get agentId).map AgentActivityState.activity
  let transition : AgentActivityTransition :=
    { event := event
      agentId := some agentId
      touched := logTouched
      logTouched := logTouched
      previousActivity := previousActivity }
  match selection.conflict, selection.best with
  | some conflict, _ =>
      { state := writeTrajectoryLog state agentId combined
        transition :=
          { transition with
            outcome := .producerSeqConflict
            reconcileSuggested := true
            serverSeq := some conflict.serverSeq
            timestamp := some conflict.timestamp
            violationBasis := some conflict.violationBasis } }
  | none, none =>
      { state := writeTrajectoryLog state agentId combined
        transition :=
          { transition with
            outcome := if logTouched then .logged else .noOp
            reconcileSuggested := hasNonComparableActivity entries
            serverSeq := eventServerSeq
            timestamp := timestamp } }
  | none, some best =>
      applyCurrentActivity state
        { event := event
          agentId := agentId
          state := best.state
          timestamp := best.timestamp
          serverSeq := some best.serverSeq
          launchId := none
          traceJoin := traceJoin
          activityLogs := none
          trajectoryLogs := combined
          previousActivity := previousActivity }

def appendedEntries (event : TrajectoryAppend) : List TrajectoryLogEntry :=
  event.entries.map fun entry =>
    { assignSeqAndJoinKeys event.serverSeq event.joinKeys with
      timestamp := event.timestamp
      entry := entry }

def applyAgentActivityEvent (texts : EntryTexts) (state : AgentActivityDomainState) :
    AgentActivityEvent → AgentActivityApplyResult
  | .socketActivity event => applySocketActivity state event
  | .trajectoryAppend event =>
      applyTrajectoryEntries texts state .patchTrajectoryAppend event.agentId
        (appendedEntries event) event.serverSeq (some event.timestamp) event.traceJoin
  | .trajectoryHydrate event =>
      applyTrajectoryEntries texts state .hydrateTrajectoryLog event.agentId event.entries
        none none none
  | .resetSeq =>
      if state.agentActivitySeq.keys = [] ∧ state.agentActivityLaunchId.keys = [] ∧
          state.agentActivityTraceJoins.keys = [] then
        ⟨state, { event := .resetSeq }⟩
      else
        { state :=
            { state with
              agentActivitySeq := .empty
              agentActivityLaunchId := .empty
              agentActivityTraceJoins := .empty }
          transition := { event := .resetSeq, touched := true, outcome := .applied } }

end Raft.AgentActivityEvents
