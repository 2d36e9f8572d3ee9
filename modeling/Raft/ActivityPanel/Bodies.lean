import Raft.ActivityPanel.Ingress
import Raft.ActivityServer.Responses

/-!
# Server bodies at the ingress

Every body the server writes satisfies its contract schema, so the translators
accept it; this file computes what they make of snapshot, difference and
not-modified bodies.
-/

namespace Raft.ActivityPanel

open Raft.Foundation Raft.Activity Raft.ActivityServer Raft.Sync JsonSchema

/-! ## Contract -/

theorem isUInt64String_exactWire (value : Nat) : isUInt64String (exactWire value) = true :=
  (UInt64String.ofNat value).2

theorem activityScope_scopeIdentity (caller : Caller) (filter : ActivityFilter) :
    activityScope (scopeIdentity caller filter) = true := by
  refine closedObject_of_forall₂ (by decide) ?_
  refine .cons ⟨rfl, rfl⟩ (.cons ⟨rfl, rfl⟩ (.cons ⟨rfl, ?_⟩ (.cons ⟨rfl, rfl⟩ .nil)))
  cases filter <;> decide

theorem activityRow_wireRows (rows : List WindowRow) :
    arrayOf activityRow (wireRows rows) = true := by
  simp only [arrayOf, wireRows, List.all_map, List.all_eq_true, Function.comp_apply]
  exact fun row _ => row.payload.activityRow_wireRow row.rowVersion

theorem activityRowTombstone_fields (rowId : RowId) (rowVersion : Nat)
    (reason : TombstoneReason) :
    activityRowTombstone (.object (tombstoneFields rowId rowVersion reason)) = true := by
  refine closedObject_of_forall₂ (by decide) ?_
  refine .cons ⟨rfl, rfl⟩ (.cons ⟨rfl, isUInt64String_exactWire rowVersion⟩
    (.cons ⟨rfl, ?_⟩ .nil))
  cases reason <;> decide

theorem activityRowTombstone_wireTombstones (tombstones : List WindowTombstone) :
    arrayOf activityRowTombstone (wireTombstones tombstones) = true := by
  simp only [arrayOf, wireTombstones, List.all_map, List.all_eq_true, Function.comp_apply]
  exact fun stone _ => activityRowTombstone_fields _ _ _

theorem uint32_counter (counter : UInt32Counter) :
    uint32 (.number (JsNumber.ofNat counter)) = true :=
  counter_ofNat (Nat.le_of_lt_succ counter.isLt)

theorem windowFacts_fields (metadata : ScopeMetadata) {fields : JsObject}
    {properties : List (JsString × JsonSchema)}
    (h : List.Forall₂ (fun field property => field.1 = property.1 ∧ property.2 field.2 = true)
      fields properties) :
    List.Forall₂ (fun field property => field.1 = property.1 ∧ property.2 field.2 = true)
      (metadata.fields ++ fields) (windowFacts ++ properties) := by
  refine .cons ⟨rfl, ?_⟩ (.cons ⟨rfl, rfl⟩ (.cons ⟨rfl, rfl⟩
    (.cons ⟨rfl, uint32_counter _⟩ (.cons ⟨rfl, uint32_counter _⟩ h))))
  cases metadata.nextCursor <;> rfl

theorem activityWindow_json (window : ActivityWindow) : activityWindow window.json = true := by
  refine closedObject_of_forall₂ (by decide) ?_
  refine .cons ⟨rfl, activityRow_wireRows _⟩ (.cons ⟨rfl, activityRowTombstone_wireTombstones _⟩ ?_)
  simpa using windowFacts_fields window.metadata .nil

theorem snapshotIngress_snapshotBody (localeCompare : JsString → JsString → Int)
    (caller : Caller) (filter : ActivityFilter) (scope : ScopeTables) :
    snapshotIngress (snapshotBody localeCompare caller filter scope) = true := by
  refine closedObject_of_forall₂ (by decide) ?_
  exact .cons ⟨rfl, by decide⟩ (.cons ⟨rfl, rfl⟩
    (.cons ⟨rfl, activityScope_scopeIdentity caller filter⟩
    (.cons ⟨rfl, isUInt64String_exactWire _⟩ (.cons ⟨rfl, isUInt64String_exactWire _⟩
    (.cons ⟨rfl, isUInt64String_exactWire _⟩ (.cons ⟨rfl, activityWindow_json _⟩ .nil))))))

theorem snapshotRequiredBody_json (caller : Caller) (filter : ActivityFilter)
    (scope : ScopeTables) :
    snapshotRequiredBody (snapshotRequiredJson caller filter scope) = true := by
  refine closedObject_of_forall₂ (by decide) ?_
  exact .cons ⟨rfl, rfl⟩ (.cons ⟨rfl, rfl⟩
    (.cons ⟨rfl, activityScope_scopeIdentity caller filter⟩
    (.cons ⟨rfl, isUInt64String_exactWire _⟩ (.cons ⟨rfl, isUInt64String_exactWire _⟩
    (.cons ⟨rfl, isUInt64String_exactWire _⟩ .nil)))))

theorem notModifiedIngress_json (caller : Caller) (filter : ActivityFilter)
    (scope : ScopeTables) : notModifiedIngress (notModifiedJson caller filter scope) = true := by
  refine closedObject_of_forall₂ (by decide) ?_
  exact .cons ⟨rfl, by decide⟩ (.cons ⟨rfl, rfl⟩
    (.cons ⟨rfl, activityScope_scopeIdentity caller filter⟩
    (.cons ⟨rfl, isUInt64String_exactWire _⟩ (.cons ⟨rfl, isUInt64String_exactWire _⟩
    (.cons ⟨rfl, isUInt64String_exactWire _⟩ .nil)))))

theorem differenceIngress_json (caller : Caller) (filter : ActivityFilter) (scope : ScopeTables)
    (after : Nat) (latest : List Change) (metadata : ScopeMetadata) :
    differenceIngress (differenceJson caller filter scope after latest metadata) = true := by
  refine closedObject_of_forall₂ (by decide) ?_
  have hnext : List.Forall₂
      (fun (field : JsString × JsValue) (property : JsString × JsonSchema) =>
        field.1 = property.1 ∧ property.2 field.2 = true)
      [(js "nextFromSeq", .null)] [(js "nextFromSeq", nullable isUInt64String)] :=
    .cons ⟨rfl, rfl⟩ .nil
  exact .cons ⟨rfl, by decide⟩ (.cons ⟨rfl, rfl⟩
    (.cons ⟨rfl, activityScope_scopeIdentity caller filter⟩
    (.cons ⟨rfl, isUInt64String_exactWire _⟩ (.cons ⟨rfl, isUInt64String_exactWire _⟩
    (.cons ⟨rfl, isUInt64String_exactWire _⟩ (.cons ⟨rfl, isUInt64String_exactWire _⟩
    (.cons ⟨rfl, activityRow_wireRows _⟩ (.cons ⟨rfl, activityRowTombstone_wireTombstones _⟩
    (windowFacts_fields metadata hnext)))))))))

/-! ## Translation -/

theorem validate_of_accepts {schemaId : String} {schema : JsonSchema} {raw : JsValue}
    (h : schema raw = true) : validate schemaId schema raw = .ok () :=
  if_pos h

theorem exactUint64_exactWire (value : Nat) (field : String) :
    exactUint64 (exactWire value) field = .ok value := by
  rw [exactUint64, exactWire, asUInt64String_string]
  exact congrArg Except.ok (UInt64String.value_ofNat value)

theorem exactUint64_read {body : JsValue} {field : String} {value : Nat}
    (hread : body.read (js field) = exactWire value) :
    exactUint64 (body.read (js field)) field = .ok value := by
  rw [hread, exactUint64_exactWire]

theorem epochOf_body {body : JsValue} {epoch : Nat}
    (hread : body.read (js "epoch") = exactWire epoch) :
    epochOf body = .ok (UInt64String.ofNat epoch).1 := by
  rw [epochOf, hread]
  rfl

theorem requestIdOf_body {body : JsValue} {requestId : JsString} (hne : requestId ≠ [])
    (hread : body.read (js "requestId") = .string requestId) :
    requestIdOf body = .ok requestId := by
  cases requestId with
  | nil => exact absurd rfl hne
  | cons unit rest =>
      rw [requestIdOf, hread]
      rfl

def snapshotPayload (localeCompare : JsString → JsString → Int) (scope : ScopeTables) : JsValue :=
  .object [(js "window", (materializeWindow localeCompare scope).json),
    (js "activityVersion", exactWire scope.watermark)]

def panelScopeId (caller : Caller) (filter : ActivityFilter) : SyncScopeId :=
  encodeActivityScopeId (scopeIdentity caller filter)

theorem snapshotFromResponse_snapshotBody {localeCompare : JsString → JsString → Int}
    {caller : Caller} {filter : ActivityFilter} {scope : ScopeTables} {body : JsValue}
    (hrequest : caller.requestId ≠ [])
    (hbody : body = snapshotBody localeCompare caller filter scope) :
    snapshotFromResponse body = .ok {
      requestId := caller.requestId
      scopeId := panelScopeId caller filter
      watermark := scope.watermark
      epoch := some (UInt64String.ofNat scope.epoch).1
      state := snapshotPayload localeCompare scope } := by
  have hvalid : validate "SnapshotIngress.json" snapshotIngress body = .ok () :=
    validate_of_accepts (hbody ▸ snapshotIngress_snapshotBody localeCompare caller filter scope)
  have hid : requestIdOf body = .ok caller.requestId :=
    requestIdOf_body hrequest (by rw [hbody]; rfl)
  have hwatermark : exactUint64 (body.read (js "watermark")) "watermark" = .ok scope.watermark :=
    exactUint64_read (by rw [hbody]; rfl)
  have hepoch : epochOf body = .ok (UInt64String.ofNat scope.epoch).1 :=
    epochOf_body (by rw [hbody]; rfl)
  rw [snapshotFromResponse, hvalid, hid, hwatermark, hepoch, hbody]
  rfl

theorem differenceFromResponse_notModified {caller : Caller} {filter : ActivityFilter}
    {scope : ScopeTables} {body : JsValue} (hrequest : caller.requestId ≠ [])
    (hbody : body = notModifiedJson caller filter scope) :
    differenceFromResponse body = .ok (.notModified caller.requestId (panelScopeId caller filter)
      (UInt64String.ofNat scope.epoch).1 scope.watermark
      (UInt64String.ofNat scope.watermark).1) := by
  have hkind : differenceFromResponse body = notModifiedFromBody body := by
    rw [hbody]
    rfl
  have hvalid : validate "NotModifiedIngress.json" notModifiedIngress body = .ok () :=
    validate_of_accepts (hbody ▸ notModifiedIngress_json caller filter scope)
  have hid : requestIdOf body = .ok caller.requestId :=
    requestIdOf_body hrequest (by rw [hbody]; rfl)
  have hwatermark : exactUint64 (body.read (js "watermark")) "watermark" = .ok scope.watermark :=
    exactUint64_read (by rw [hbody]; rfl)
  have hepoch : epochOf body = .ok (UInt64String.ofNat scope.epoch).1 :=
    epochOf_body (by rw [hbody]; rfl)
  rw [hkind, notModifiedFromBody, hvalid, hid, hwatermark, hepoch, hbody]
  rfl

theorem differenceFromResponse_snapshotRequired {caller : Caller} {filter : ActivityFilter}
    {scope : ScopeTables} {body : JsValue} (hrequest : caller.requestId ≠ [])
    (hbody : body = snapshotRequiredJson caller filter scope) :
    differenceFromResponse body = .error (.snapshotRequired (panelScopeId caller filter)
      (UInt64String.ofNat scope.epoch).1 scope.watermark caller.requestId) := by
  have hkind : differenceFromResponse body = snapshotRequiredFromBody body := by
    rw [hbody]
    rfl
  have hvalid : validate "SnapshotRequiredBody.json" snapshotRequiredBody body = .ok () :=
    validate_of_accepts (hbody ▸ snapshotRequiredBody_json caller filter scope)
  have hid : requestIdOf body = .ok caller.requestId :=
    requestIdOf_body hrequest (by rw [hbody]; rfl)
  have hwatermark : exactUint64 (body.read (js "watermark")) "watermark" = .ok scope.watermark :=
    exactUint64_read (by rw [hbody]; rfl)
  have hepoch : epochOf body = .ok (UInt64String.ofNat scope.epoch).1 :=
    epochOf_body (by rw [hbody]; rfl)
  rw [hkind, snapshotRequiredFromBody, hvalid, hepoch, hwatermark, hid, hbody]
  rfl

/-- The one event of a difference body stands at the end of the range. -/
def differenceResponse (caller : Caller) (filter : ActivityFilter) (scope : ScopeTables)
    (after : Nat) (body : JsValue) : SyncDifferenceResponse JsValue where
  scopeId := panelScopeId caller filter
  epoch := some (UInt64String.ofNat scope.epoch).1
  fromSeq := (after + 1 : Nat)
  toSeq := scope.watermark
  partialPage := false
  events := [⟨scope.watermark, differenceEvent body⟩]

theorem differenceFromResponse_difference {caller : Caller} {filter : ActivityFilter}
    {scope : ScopeTables} {after : Nat} {latest : List Change} {metadata : ScopeMetadata}
    {body : JsValue} (hrequest : caller.requestId ≠ []) (hafter : after < scope.watermark)
    (hbody : body = differenceJson caller filter scope after latest metadata) :
    differenceFromResponse body =
      .ok (.difference caller.requestId (differenceResponse caller filter scope after body)) := by
  have hkind : differenceFromResponse body = differenceFromBody body := by
    rw [hbody]
    rfl
  have hvalid : validate "DifferenceIngress.json" differenceIngress body = .ok () :=
    validate_of_accepts (hbody ▸ differenceIngress_json caller filter scope after latest metadata)
  have hto : exactUint64 (body.read (js "toSeq")) "toSeq" = .ok scope.watermark :=
    exactUint64_read (by rw [hbody]; rfl)
  have hfrom : exactUint64 (body.read (js "fromSeq")) "fromSeq" = .ok (after + 1) :=
    exactUint64_read (by rw [hbody]; rfl)
  have hnext : nextFromSeqOf body = .ok none := by
    rw [hbody]
    rfl
  have hid : requestIdOf body = .ok caller.requestId :=
    requestIdOf_body hrequest (by rw [hbody]; rfl)
  have hepoch : epochOf body = .ok (UInt64String.ofNat scope.epoch).1 :=
    epochOf_body (by rw [hbody]; rfl)
  have hscope : body.read (js "scope") = scopeIdentity caller filter := by
    rw [hbody]
    rfl
  have hrange : ¬ scope.watermark < after + 1 := by omega
  rw [hkind, differenceFromBody, hvalid, hto, hfrom, hnext, hid, hepoch]
  simp only [bind, Except.bind, hrange, if_false, hscope]
  rfl

/-! ## Pushes -/

def framePush (caller : Caller) (filter : ActivityFilter) (epoch : Nat) (logged : LoggedChange) :
    JsValue :=
  .object [
    (js "type", .string (js "frame")),
    (js "scope", scopeIdentity caller filter),
    (js "epoch", exactWire epoch),
    (js "seq", exactWire logged.seq),
    (js "activityVersion", exactWire logged.seq),
    (js "rows", wireRows (upsertedRow logged.change).toList),
    (js "tombstones", wireTombstones (buriedRow logged.change).toList)]

theorem frameIngress_framePush (caller : Caller) (filter : ActivityFilter) (epoch : Nat)
    (logged : LoggedChange) : frameIngress (framePush caller filter epoch logged) = true := by
  refine closedObject_of_forall₂ (by decide) ?_
  exact .cons ⟨rfl, by decide⟩ (.cons ⟨rfl, activityScope_scopeIdentity caller filter⟩
    (.cons ⟨rfl, isUInt64String_exactWire _⟩ (.cons ⟨rfl, isUInt64String_exactWire _⟩
    (.cons ⟨rfl, isUInt64String_exactWire _⟩ (.cons ⟨rfl, activityRow_wireRows _⟩
    (.cons ⟨rfl, activityRowTombstone_wireTombstones _⟩ .nil))))))

theorem closedObject_other_type {properties : List (JsString × JsonSchema)} {type : JsString}
    {body : JsValue} (hmem : (js "type", oneText [type]) ∈ properties)
    (hbody : oneText [type] (body.read (js "type")) = false) :
    closedObject properties body = false := by
  cases body with
  | object fields =>
      rw [Bool.eq_false_iff]
      intro hclosed
      have hread := closedObject_read hclosed hmem
      rw [JsValue.read] at hbody
      rw [hbody] at hread
      cases hread
  | undefined | null | boolean _ | number _ | string _ | array _ => rfl

theorem activityIngress_framePush (caller : Caller) (filter : ActivityFilter) (epoch : Nat)
    (logged : LoggedChange) : activityIngress (framePush caller filter epoch logged) = true := by
  have hframe := frameIngress_framePush caller filter epoch logged
  have hread : (framePush caller filter epoch logged).read (js "type") =
      .string (js "frame") := rfl
  generalize framePush caller filter epoch logged = body at hframe hread
  have hother {properties : List (JsString × JsonSchema)} {type : JsString}
      (hmem : (js "type", oneText [type]) ∈ properties) (hne : js "frame" ≠ type) :
      closedObject properties body = false := by
    refine closedObject_other_type hmem ?_
    rw [hread]
    simpa [oneText] using hne
  have hsnapshot : snapshotIngress body = false := hother List.mem_cons_self (by decide)
  have hnotModified : notModifiedIngress body = false := hother List.mem_cons_self (by decide)
  have hdifference : differenceIngress body = false := hother List.mem_cons_self (by decide)
  have hreceipt : commandReceiptIngress body = false := hother List.mem_cons_self (by decide)
  have hrejected : commandRejectedIngress body = false := hother List.mem_cons_self (by decide)
  have hreadState : readStateUpdatedIngress body = false := hother List.mem_cons_self (by decide)
  simp [activityIngress, oneOf, hframe, hsnapshot, hnotModified, hdifference, hreceipt, hrejected,
    hreadState]

theorem frameFromPushEvent_framePush (caller : Caller) (filter : ActivityFilter) (epoch : Nat)
    (logged : LoggedChange) {body : JsValue} (hbody : body = framePush caller filter epoch logged) :
    frameFromPushEvent body = .ok {
      scopeId := panelScopeId caller filter
      seq := logged.seq
      epoch := some (UInt64String.ofNat epoch).1
      event := pushedEvent body } := by
  have hvalid : validate "ActivityIngress.json" activityIngress body = .ok () :=
    validate_of_accepts (hbody ▸ activityIngress_framePush caller filter epoch logged)
  have htype : (body.read (js "type")).text = js "frame" := by
    rw [hbody]
    rfl
  have hseq : exactUint64 (body.read (js "seq")) "seq" = .ok logged.seq :=
    exactUint64_read (by rw [hbody]; rfl)
  have hepoch : epochOf body = .ok (UInt64String.ofNat epoch).1 :=
    epochOf_body (by rw [hbody]; rfl)
  have hscope : body.read (js "scope") = scopeIdentity caller filter := by
    rw [hbody]
    rfl
  simp only [frameFromPushEvent, hvalid, htype, hseq, hepoch, hscope, ne_eq, not_true_eq_false,
    false_and, if_false, Except.mapError, bind, Except.bind, pure, Except.pure]
  rfl

end Raft.ActivityPanel
