import Raft.Foundation.JsString

/-!
# Sync core: the type seam

Frames, snapshots and difference responses go in; domain state and declarative
request descriptions come out.  Sequence positions are `bigint`, so they are
integers here.  The state, event and snapshot payload types of a core are the
parameters `S`, `E` and `P`, which stand for the `unknown` of the source.
-/

namespace Raft.Sync

open Raft.Foundation

abbrev SyncScopeId := JsString

abbrev SyncDomainName := JsString

/-- An opaque equality token; a scope with no epoch yet holds `none`. -/
abbrev SyncEpoch := JsString

inductive SyncDensity where
  | contiguous
  | sparse
  deriving DecidableEq, Repr

structure SyncFrame (E : Type) where
  scopeId : SyncScopeId
  seq : Int
  epoch : Option SyncEpoch
  event : E

structure SyncSnapshot (P : Type) where
  scopeId : SyncScopeId
  watermark : Int
  epoch : Option SyncEpoch
  state : P

structure SyncDifferenceItem (E : Type) where
  seq : Int
  event : E

structure SyncDifferenceResponse (E : Type) where
  scopeId : SyncScopeId
  epoch : Option SyncEpoch
  fromSeq : Int
  toSeq : Int
  events : List (SyncDifferenceItem E)
  partialPage : Bool := false
  snapshotRequired : Bool := false

structure SyncScopeState where
  appliedSeq : Int
  epoch : Option SyncEpoch
  repairPending : Bool
  deriving DecidableEq

inductive SnapshotReason where
  | epochMismatch
  | snapshotRequired
  | initial
  | sparseRepull
  deriving DecidableEq, Repr

/-- The hash and threshold hints of the source are never set by the core. -/
inductive SyncRequestDescription where
  | difference (domain : SyncDomainName) (scopeId : SyncScopeId) (sinceSeq : Int)
      (epoch : Option SyncEpoch)
  | snapshot (domain : SyncDomainName) (scopeId : SyncScopeId) (reason : SnapshotReason)
  deriving DecidableEq

namespace SyncRequestDescription

def domain : SyncRequestDescription → SyncDomainName
  | .difference domain _ _ _ | .snapshot domain _ _ => domain

def scopeId : SyncRequestDescription → SyncScopeId
  | .difference _ scopeId _ _ | .snapshot _ scopeId _ => scopeId

def isSnapshot : SyncRequestDescription → Bool
  | .difference _ _ _ _ => false
  | .snapshot _ _ _ => true

end SyncRequestDescription

inductive SyncViolationKind where
  | producerSeqConflict
  | crossEpochArrival
  | staleFlood
  | versionRegression
  | producerVersionConflict
  deriving DecidableEq, Repr

/-- A violation before the buffer assigns its index; `seq` is absent on difference arrivals. -/
structure SyncViolationDraft where
  kind : SyncViolationKind
  domain : SyncDomainName
  scopeId : SyncScopeId
  seq : Option Int
  epoch : Option SyncEpoch
  deriving DecidableEq

structure SyncViolationRecord extends SyncViolationDraft where
  index : Nat
  deriving DecidableEq

structure FoldFrame where
  scopeId : SyncScopeId
  seq : Int

structure SyncDomainConfig (S E P : Type) where
  name : SyncDomainName
  density : SyncDensity
  initialState : S
  eventFingerprint : Option (E → JsString)
  fold : S → E → FoldFrame → S
  fromSnapshot : SyncSnapshot P → S
  acceptSameWatermarkSnapshot : Option (S → SyncSnapshot P → Bool)

inductive SyncIngestOutcome where
  | applied (scopeId : SyncScopeId) (seq : Int)
  | duplicateDropped (scopeId : SyncScopeId) (seq : Int)
  | gapRepairRequested (scopeId : SyncScopeId) (fromSeq toSeq : Int)
  | maxAdvanced (scopeId : SyncScopeId) (seq : Int)
  | epochRebaselineRequested (scopeId : SyncScopeId)
  | violation (scopeId : SyncScopeId) (violation : SyncViolationKind)
  deriving DecidableEq

end Raft.Sync
