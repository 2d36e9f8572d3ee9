import Raft.Foundation.InsertionMap
import Raft.Sync.Violations
import Mathlib.Data.List.Sort

/-!
# The deterministic sync core

Each ingest call reads the entry of one scope, decides, and then writes that
entry, edits the keyed request map and possibly records one violation.  The
decisions (`frameWrite`, `snapshotWrite`, `differenceWrite`) list those writes
as data in the order the source performs them; `commit` carries them out.
-/

namespace Raft.Sync

open Raft.Foundation

variable {S E P : Type}

structure ScopeEntry (S : Type) where
  appliedSeq : Option Int
  acceptedFingerprint : Option JsString
  epoch : Option SyncEpoch
  repairPending : Bool
  state : S

structure SyncCore (S E P : Type) where
  domains : InsertionMap SyncDomainName (SyncDomainConfig S E P)
  scopes : SyncDomainName → SyncScopeId → Option (ScopeEntry S)
  violations : SyncViolationBuffer
  pending : InsertionMap JsString SyncRequestDescription
  registered : ∀ name domain, domains.get name = some domain → domain.name = name

structure CreateSyncCoreOptions (S E P : Type) where
  domains : List (SyncDomainConfig S E P)
  violationBufferCapacity : Option Int := none

def registerDomains (domains : List (SyncDomainConfig S E P)) :
    InsertionMap SyncDomainName (SyncDomainConfig S E P) :=
  domains.foldl (fun map domain => map.set domain.name domain) InsertionMap.empty

theorem registerDomains_name (domains : List (SyncDomainConfig S E P)) :
    ∀ name domain, (registerDomains domains).get name = some domain → domain.name = name := by
  have hfold : ∀ map : InsertionMap SyncDomainName (SyncDomainConfig S E P),
      (∀ name domain, map.get name = some domain → domain.name = name) →
      ∀ name domain,
        (domains.foldl (fun map domain => map.set domain.name domain) map).get name =
          some domain → domain.name = name := by
    induction domains with
    | nil => exact fun map hmap => hmap
    | cons first rest ih =>
        intro map hmap
        apply ih
        intro name domain hget
        rw [InsertionMap.get_set] at hget
        split at hget
        · cases hget
          exact Eq.symm ‹name = _›
        · exact hmap name domain hget
  exact hfold InsertionMap.empty (by simp)

/-- Every violation buffer of the model is the core's own; the default capacity is 256. -/
def createSyncCore (config : CreateSyncCoreOptions S E P) : Except JsString (SyncCore S E P) := do
  let violations ← createSyncViolationBuffer (some (config.violationBufferCapacity.getD 256))
  return {
    domains := registerDomains config.domains
    scopes := fun _ _ => none
    violations := violations
    pending := InsertionMap.empty
    registered := registerDomains_name config.domains }

/-! ## Requests -/

def joinKey (kind : JsString) (domain : SyncDomainName) (scopeId : SyncScopeId) : JsString :=
  kind ++ js ":" ++ domain ++ js ":" ++ scopeId

def requestKind : SyncRequestDescription → JsString
  | .difference _ _ _ _ => js "difference"
  | .snapshot _ _ _ => js "snapshot"

def requestKey (request : SyncRequestDescription) : JsString :=
  joinKey (requestKind request) request.domain request.scopeId

inductive RequestWrite where
  | requestSnapshot (reason : SnapshotReason)
  | requestDifference (sinceSeq : Int) (epoch : Option SyncEpoch)
  | clearScopeRequests

def writeRequest (domainName : SyncDomainName) (scopeId : SyncScopeId)
    (pending : InsertionMap JsString SyncRequestDescription) :
    RequestWrite → InsertionMap JsString SyncRequestDescription
  | .requestSnapshot reason =>
      let request := .snapshot domainName scopeId reason
      pending.set (requestKey request) request
  | .requestDifference sinceSeq epoch =>
      let request := .difference domainName scopeId sinceSeq epoch
      pending.set (requestKey request) request
  | .clearScopeRequests =>
      (pending.delete (joinKey (js "difference") domainName scopeId)).delete
        (joinKey (js "snapshot") domainName scopeId)

structure IngestWrite (S : Type) where
  outcome : SyncIngestOutcome
  entry : ScopeEntry S
  requests : List RequestWrite := []
  violation : Option SyncViolationDraft := none

/-! ## The decisions -/

def epochMismatch (entry : ScopeEntry S) (incoming : Option SyncEpoch) : Bool :=
  entry.epoch ≠ none && incoming ≠ none && incoming ≠ entry.epoch

def acceptEvent (domain : SyncDomainConfig S E P) (scopeId : SyncScopeId) (entry : ScopeEntry S)
    (seq : Int) (event : E) : ScopeEntry S :=
  { entry with
    state := domain.fold entry.state event ⟨scopeId, seq⟩
    appliedSeq := some seq
    acceptedFingerprint := domain.eventFingerprint.map fun fingerprint => fingerprint event }

def frameWrite (domain : SyncDomainConfig S E P) (entry : ScopeEntry S) (frame : SyncFrame E) :
    IngestWrite S :=
  let draft (kind : SyncViolationKind) : SyncViolationDraft :=
    ⟨kind, domain.name, frame.scopeId, some frame.seq, frame.epoch⟩
  let accepted := acceptEvent domain frame.scopeId entry frame.seq frame.event
  if epochMismatch entry frame.epoch then
    { outcome := .epochRebaselineRequested frame.scopeId
      entry := { entry with repairPending := true }
      requests := [.requestSnapshot .epochMismatch]
      violation := some (draft .crossEpochArrival) }
  else
    match entry.appliedSeq with
    -- No baseline yet: a lone contiguous frame cannot be ordered, a sparse one is adopted.
    | none =>
        match domain.density with
        | .contiguous =>
            { outcome := .gapRepairRequested frame.scopeId 0 frame.seq
              entry := { entry with repairPending := true }
              requests := [.requestSnapshot .initial] }
        | .sparse =>
            { outcome := .maxAdvanced frame.scopeId frame.seq
              entry :=
                { accepted with epoch := if entry.epoch = none then frame.epoch else entry.epoch } }
    | some appliedSeq =>
        if frame.seq < appliedSeq then
          { outcome := .duplicateDropped frame.scopeId frame.seq
            entry := entry
            violation := domain.eventFingerprint.map fun _ => draft .versionRegression }
        else if frame.seq = appliedSeq then
          match domain.eventFingerprint with
          | none => { outcome := .duplicateDropped frame.scopeId frame.seq, entry := entry }
          | some fingerprint =>
              if entry.acceptedFingerprint = some (fingerprint frame.event) then
                { outcome := .duplicateDropped frame.scopeId frame.seq, entry := entry }
              else
                { outcome := .violation frame.scopeId .producerVersionConflict
                  entry := { entry with repairPending := true }
                  requests := [.requestSnapshot
                    (if domain.density = .sparse then .sparseRepull else .snapshotRequired)]
                  violation := some (draft .producerVersionConflict) }
        else
          match domain.density with
          | .sparse => { outcome := .maxAdvanced frame.scopeId frame.seq, entry := accepted }
          | .contiguous =>
              if frame.seq = appliedSeq + 1 then
                { outcome := .applied frame.scopeId frame.seq, entry := accepted }
              -- Gap: the frame is not applied, the difference redelivers it in order.
              else
                { outcome := .gapRepairRequested frame.scopeId (appliedSeq + 1) (frame.seq - 1)
                  entry := { entry with repairPending := true }
                  requests := [.requestDifference appliedSeq entry.epoch] }

def sameEpoch (entry : ScopeEntry S) (epoch : Option SyncEpoch) : Bool :=
  entry.epoch = none || epoch = none || epoch = entry.epoch

def acceptsSameWatermark (domain : SyncDomainConfig S E P) (entry : ScopeEntry S)
    (snapshot : SyncSnapshot P) : Bool :=
  match domain.acceptSameWatermarkSnapshot with
  | none => false
  | some accept => accept entry.state snapshot

def staleSnapshot (domain : SyncDomainConfig S E P) (entry : ScopeEntry S)
    (snapshot : SyncSnapshot P) : Bool :=
  match entry.appliedSeq with
  | none => false
  | some appliedSeq =>
      sameEpoch entry snapshot.epoch &&
        (snapshot.watermark < appliedSeq ||
          (snapshot.watermark = appliedSeq && !acceptsSameWatermark domain entry snapshot))

def snapshotWrite (domain : SyncDomainConfig S E P) (entry : ScopeEntry S)
    (snapshot : SyncSnapshot P) : IngestWrite S :=
  if staleSnapshot domain entry snapshot then
    { outcome := .duplicateDropped snapshot.scopeId snapshot.watermark
      entry := entry
      violation := some ⟨.versionRegression, domain.name, snapshot.scopeId,
        some snapshot.watermark, snapshot.epoch⟩ }
  else
    { outcome := .applied snapshot.scopeId snapshot.watermark
      entry :=
        { state := domain.fromSnapshot snapshot
          appliedSeq := some snapshot.watermark
          acceptedFingerprint := none
          epoch := snapshot.epoch
          repairPending := false }
      requests := [.clearScopeRequests] }

def sortBySeq (events : List (SyncDifferenceItem E)) : List (SyncDifferenceItem E) :=
  events.insertionSort fun first second => first.seq ≤ second.seq

def applyDifferenceItem (domain : SyncDomainConfig S E P) (scopeId : SyncScopeId)
    (entry : ScopeEntry S) (item : SyncDifferenceItem E) : ScopeEntry S :=
  match entry.appliedSeq with
  | none => acceptEvent domain scopeId entry item.seq item.event
  | some appliedSeq =>
      if item.seq ≤ appliedSeq then entry
      else acceptEvent domain scopeId entry item.seq item.event

def jumpToSeq (entry : ScopeEntry S) (toSeq : Int) : Int × ScopeEntry S :=
  match entry.appliedSeq with
  | none => (toSeq, { entry with appliedSeq := some toSeq, acceptedFingerprint := none })
  | some appliedSeq =>
      if appliedSeq < toSeq then
        (toSeq, { entry with appliedSeq := some toSeq, acceptedFingerprint := none })
      else (appliedSeq, entry)

def applyDifference (domain : SyncDomainConfig S E P) (entry : ScopeEntry S)
    (response : SyncDifferenceResponse E) : Int × ScopeEntry S :=
  jumpToSeq
    ((sortBySeq response.events).foldl (applyDifferenceItem domain response.scopeId) entry)
    response.toSeq

def differenceWrite (domain : SyncDomainConfig S E P) (entry : ScopeEntry S)
    (response : SyncDifferenceResponse E) : IngestWrite S :=
  if epochMismatch entry response.epoch then
    { outcome := .epochRebaselineRequested response.scopeId
      entry := entry
      requests := [.requestSnapshot .epochMismatch]
      violation := some ⟨.crossEpochArrival, domain.name, response.scopeId, none, response.epoch⟩ }
  else if response.snapshotRequired then
    { outcome := .epochRebaselineRequested response.scopeId
      entry := { entry with repairPending := true }
      requests := [.clearScopeRequests, .requestSnapshot .snapshotRequired] }
  else
    let (appliedSeq, folded) := applyDifference domain entry response
    if response.partialPage then
      { outcome := .gapRepairRequested response.scopeId (appliedSeq + 1) response.toSeq
        entry := folded
        requests := [.clearScopeRequests, .requestDifference appliedSeq folded.epoch] }
    else
      { outcome := .applied response.scopeId appliedSeq
        entry := { folded with repairPending := false }
        requests := [.clearScopeRequests] }

/-! ## The operations -/

namespace SyncCore

def domainOf (core : SyncCore S E P) (name : SyncDomainName) :
    Except JsString (SyncDomainConfig S E P) :=
  match core.domains.get name with
  | none => .error (js "sync-core: unregistered domain \"" ++ name ++ js "\"")
  | some domain => .ok domain

def initialEntry (domain : SyncDomainConfig S E P) : ScopeEntry S where
  appliedSeq := none
  acceptedFingerprint := none
  epoch := none
  repairPending := false
  state := domain.initialState

def scopeEntry (core : SyncCore S E P) (domain : SyncDomainConfig S E P) (scopeId : SyncScopeId) :
    ScopeEntry S :=
  (core.scopes domain.name scopeId).getD (initialEntry domain)

def commit (core : SyncCore S E P) (domainName : SyncDomainName) (scopeId : SyncScopeId)
    (write : IngestWrite S) : SyncCore S E P :=
  { core with
    scopes := fun name scope =>
      if name = domainName ∧ scope = scopeId then some write.entry else core.scopes name scope
    violations :=
      match write.violation with
      | none => core.violations
      | some draft => core.violations.push draft
    pending := write.requests.foldl (writeRequest domainName scopeId) core.pending }

/-- An unregistered domain throws before anything is written. -/
def ingestWith (core : SyncCore S E P) (domainName : SyncDomainName) (scopeId : SyncScopeId)
    (decide : SyncDomainConfig S E P → ScopeEntry S → IngestWrite S) :
    Except JsString (SyncIngestOutcome × SyncCore S E P) := do
  let domain ← core.domainOf domainName
  let write := decide domain (core.scopeEntry domain scopeId)
  return (write.outcome, core.commit domainName scopeId write)

def ingestFrame (core : SyncCore S E P) (domainName : SyncDomainName) (frame : SyncFrame E) :
    Except JsString (SyncIngestOutcome × SyncCore S E P) :=
  core.ingestWith domainName frame.scopeId fun domain entry => frameWrite domain entry frame

def ingestSnapshot (core : SyncCore S E P) (domainName : SyncDomainName)
    (snapshot : SyncSnapshot P) : Except JsString (SyncIngestOutcome × SyncCore S E P) :=
  core.ingestWith domainName snapshot.scopeId fun domain entry =>
    snapshotWrite domain entry snapshot

def ingestDifference (core : SyncCore S E P) (domainName : SyncDomainName)
    (response : SyncDifferenceResponse E) :
    Except JsString (SyncIngestOutcome × SyncCore S E P) :=
  core.ingestWith domainName response.scopeId fun domain entry =>
    differenceWrite domain entry response

def pendingRequests (core : SyncCore S E P) : List SyncRequestDescription :=
  core.pending.values

def state (core : SyncCore S E P) (domainName : SyncDomainName) (scopeId : SyncScopeId) :
    Option S :=
  (core.scopes domainName scopeId).map (·.state)

def scopeSyncState (core : SyncCore S E P) (domainName : SyncDomainName)
    (scopeId : SyncScopeId) : Option SyncScopeState :=
  (core.scopes domainName scopeId).map fun entry =>
    ⟨entry.appliedSeq.getD 0, entry.epoch, entry.repairPending⟩

end SyncCore

end Raft.Sync
