import Raft.Activity.Contract
import Raft.Sync.Types

/-!
# The Activity panel's ingress

Raw bodies are validated against the contract and translated into inputs of the
sync core.  A difference body is one aggregate delta, so it becomes a single
frame event stamped at the end of the range it delivers.
-/

namespace Raft.ActivityPanel

open Raft.Foundation Raft.Activity Raft.Sync

/-- What the two translators throw; the detail texts of the validator are left out. -/
inductive IngressError where
  | activityIngress (message : JsString)
  | snapshotRequired (scopeId epoch : JsString) (watermark : Nat) (requestId : JsString)
  deriving DecidableEq

abbrev Ingress := Except IngressError

def ingressError {α : Type} (message : JsString) : Ingress α := .error (.activityIngress message)

def validate (schemaId : String) (schema : JsonSchema) (raw : JsValue) : Ingress Unit :=
  if schema raw then pure () else ingressError (js "payload does not satisfy " ++ js schemaId)

def exactUint64 (value : JsValue) (field : String) : Ingress Nat :=
  match asUInt64String value with
  | some text => pure text.value
  | none => ingressError (js field ++ js " must be a canonical uint64 decimal string")

def epochOf (body : JsValue) : Ingress JsString :=
  match body.read (js "epoch") with
  | .string epoch => pure epoch
  | _ => ingressError (js "epoch must be a string")

def requestIdOf (body : JsValue) : Ingress JsString :=
  if isNonEmptyString (body.read (js "requestId")) then pure (body.read (js "requestId")).text
  else ingressError (js "requestId must be a non-empty string")

def encodeActivityScopeId (scope : JsValue) : SyncScopeId :=
  jsonArray [jsonQuote (scope.read (js "serverId")).text,
    jsonQuote (scope.read (js "principalId")).text, jsonQuote (scope.read (js "filter")).text,
    jsonQuote (scope.read (js "windowId")).text]

structure CorrelatedSnapshot extends SyncSnapshot JsValue where
  requestId : JsString

def snapshotFromResponse (raw : JsValue) : Ingress CorrelatedSnapshot := do
  validate "SnapshotIngress.json" snapshotIngress raw
  let requestId ← requestIdOf raw
  let watermark ← exactUint64 (raw.read (js "watermark")) "watermark"
  let epoch ← epochOf raw
  return {
    requestId
    scopeId := encodeActivityScopeId (raw.read (js "scope"))
    watermark
    epoch := some epoch
    state := .object [(js "window", raw.read (js "window")),
      (js "activityVersion", raw.read (js "activityVersion"))] }

inductive ActivityDifferencePlan where
  | difference (requestId : JsString) (response : SyncDifferenceResponse JsValue)
  | notModified (requestId : JsString) (scopeId : SyncScopeId) (epoch : JsString)
      (watermark : Nat) (activityVersion : JsString)

def ACTIVITY_WINDOW_FACTS : List JsString :=
  [js "nextCursor", js "hasMore", js "complete", js "totalCount", js "totalUnreadCount"]

def differenceEvent (body : JsValue) : JsValue :=
  .object ([(js "type", .string (js "frame")),
    (js "rows", body.read (js "rows")),
    (js "tombstones", body.read (js "tombstones")),
    (js "activityVersion", body.read (js "activityVersion"))] ++
    ACTIVITY_WINDOW_FACTS.map fun fact => (fact, body.read fact))

def snapshotRequiredFromBody (raw : JsValue) : Ingress ActivityDifferencePlan := do
  validate "SnapshotRequiredBody.json" snapshotRequiredBody raw
  let epoch ← epochOf raw
  let watermark ← exactUint64 (raw.read (js "watermark")) "watermark"
  let requestId ← requestIdOf raw
  throw (.snapshotRequired (encodeActivityScopeId (raw.read (js "scope"))) epoch watermark
    requestId)

def notModifiedFromBody (raw : JsValue) : Ingress ActivityDifferencePlan := do
  validate "NotModifiedIngress.json" notModifiedIngress raw
  let requestId ← requestIdOf raw
  let epoch ← epochOf raw
  let watermark ← exactUint64 (raw.read (js "watermark")) "watermark"
  return .notModified requestId (encodeActivityScopeId (raw.read (js "scope"))) epoch watermark
    (raw.read (js "activityVersion")).text

def nextFromSeqOf (body : JsValue) : Ingress (Option Nat) :=
  match body.read (js "nextFromSeq") with
  | .string next => some <$> exactUint64 (.string next) "nextFromSeq"
  | _ => pure none

def differenceFromBody (raw : JsValue) : Ingress ActivityDifferencePlan := do
  validate "DifferenceIngress.json" differenceIngress raw
  let toSeq ← exactUint64 (raw.read (js "toSeq")) "toSeq"
  let fromSeq ← exactUint64 (raw.read (js "fromSeq")) "fromSeq"
  let nextFromSeq ← nextFromSeqOf raw
  if toSeq < fromSeq then ingressError (js "difference range is inverted")
  else
    if nextFromSeq.any fun next => next < fromSeq || toSeq < next then
      ingressError (js "nextFromSeq must satisfy fromSeq <= nextFromSeq <= toSeq")
    else
      let isSlice := nextFromSeq.any fun next => next < toSeq
      let deliveredThrough := if isSlice then nextFromSeq.getD toSeq else toSeq
      let requestId ← requestIdOf raw
      let epoch ← epochOf raw
      return .difference requestId {
        scopeId := encodeActivityScopeId (raw.read (js "scope"))
        epoch := some epoch
        fromSeq
        toSeq := deliveredThrough
        partialPage := isSlice
        events := [⟨deliveredThrough, differenceEvent raw⟩] }

def differenceFromResponse (raw : JsValue) : Ingress ActivityDifferencePlan :=
  if isTrue (raw.read (js "snapshotRequired")) then snapshotRequiredFromBody raw
  else
    if (raw.read (js "type")).asString? = some (js "notModified") then notModifiedFromBody raw
    else differenceFromBody raw

/-- The events of a plan, folded in order; a poll that found nothing new folds nothing. -/
def ActivityDifferencePlan.fold (plan : ActivityDifferencePlan) (state : ActivityDomainState) :
    ActivityDomainState :=
  match plan with
  | .difference _ response =>
      response.events.foldl (fun state item => foldActivityEvent state item.event) state
  | .notModified _ _ _ _ _ => state

/-! ## Live push -/

inductive PushError where
  | ingress (error : IngressError)
  | unsupportedActivityIngressKind (kind : JsString)
  deriving DecidableEq

def pushedEvent (body : JsValue) : JsValue :=
  if (body.read (js "type")).asString? = some (js "frame") then
    .object [(js "type", .string (js "frame")),
      (js "rows", body.read (js "rows")),
      (js "tombstones", body.read (js "tombstones")),
      (js "activityVersion", body.read (js "activityVersion"))]
  else
    .object [(js "type", .string (js "readStateUpdated")),
      (js "updates", body.read (js "updates")),
      (js "activityVersion", body.read (js "activityVersion"))]

/-- The contract is checked first, so that the kind decides nothing about a malformed payload. -/
def frameFromPushEvent (raw : JsValue) : Except PushError (SyncFrame JsValue) := do
  (validate "ActivityIngress.json" activityIngress raw).mapError .ingress
  let type := (raw.read (js "type")).text
  if type ≠ js "frame" ∧ type ≠ js "readStateUpdated" then
    throw (.unsupportedActivityIngressKind type)
  else
    let seq ← (exactUint64 (raw.read (js "seq")) "seq").mapError .ingress
    let epoch ← (epochOf raw).mapError .ingress
    return {
      scopeId := encodeActivityScopeId (raw.read (js "scope"))
      seq
      epoch := some epoch
      event := pushedEvent raw }

end Raft.ActivityPanel
