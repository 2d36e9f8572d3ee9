import Raft.Activity.Domain
import Raft.Foundation.JsonSchema

/-!
# The Activity wire contract

The schemas of the generated `activity-v1` bundle that window rows, response
bodies and pushed envelopes have to satisfy.
-/

namespace Raft.Activity

open Raft.Foundation JsonSchema

def opaqueId : JsonSchema := JsonSchema.string

def utcInstantString : JsonSchema := JsonSchema.string

def uint32 : JsonSchema := counter 4294967295

def actorKind : JsonSchema :=
  oneText [js "user", js "agent", js "system", js "external_projection"]

def channelKind : JsonSchema := oneText [js "channel", js "private", js "joint", js "dm"]

def activityFilter : JsonSchema := oneText [js "all", js "unread", js "mentions"]

def activityRowCommon : List (JsString × JsonSchema) :=
  [(js "rowId", opaqueId),
    (js "rowVersion", isUInt64String),
    (js "latestActivitySeq", isUInt64String),
    (js "lastActivityAt", utcInstantString),
    (js "unreadCount", uint32),
    (js "hasMention", boolean),
    (js "firstUnreadMessageId", nullable opaqueId),
    (js "firstMentionMessageId", nullable opaqueId),
    (js "maxReadSeq", isUInt64String),
    (js "readStateVersion", isUInt64String)]

def channelRowProperties (type : JsString) (kinds : List JsString) :
    List (JsString × JsonSchema) :=
  activityRowCommon ++
    [(js "type", oneText [type]),
      (js "channelId", opaqueId),
      (js "channelName", JsonSchema.string),
      (js "channelKind", oneText kinds),
      (js "lastMessageId", opaqueId),
      (js "lastMessagePreview", JsonSchema.string),
      (js "lastMessageSenderKind", actorKind),
      (js "lastMessageSenderId", opaqueId),
      (js "lastMessageSenderName", nullable JsonSchema.string)]

def channelActivityRow : List (JsString × JsonSchema) :=
  channelRowProperties (js "channel") [js "channel", js "private", js "joint"]

def dmActivityRow : List (JsString × JsonSchema) := channelRowProperties (js "dm") [js "dm"]

def threadActivityRow : List (JsString × JsonSchema) :=
  activityRowCommon ++
    [(js "type", oneText [js "thread"]),
      (js "threadChannelId", opaqueId),
      (js "parentMessageId", opaqueId),
      (js "parentChannelId", opaqueId),
      (js "parentChannelName", JsonSchema.string),
      (js "parentChannelKind", channelKind),
      (js "parentMessagePreview", JsonSchema.string),
      (js "parentMessageSenderKind", oneText [js "user", js "agent", js "external_projection"]),
      (js "parentMessageSenderId", opaqueId),
      (js "latestActivityPreview", JsonSchema.string),
      (js "latestActivitySenderKind", actorKind),
      (js "latestActivitySenderId", opaqueId),
      (js "latestActivitySenderName", nullable JsonSchema.string),
      (js "latestActivityMessageId", opaqueId),
      (js "isFollowing", boolean),
      (js "replyCount", uint32),
      (js "lastReplyAt", nullable utcInstantString),
      (js "taskNumber", nullable uint32),
      (js "taskStatus", nullable JsonSchema.string),
      (js "taskClaimedByName", nullable JsonSchema.string)]

def activityRowArms : List (List (JsString × JsonSchema)) :=
  [channelActivityRow, dmActivityRow, threadActivityRow]

def activityRow : JsonSchema := oneOf (activityRowArms.map closedObject)

def activityRowTombstone : JsonSchema :=
  closedObject
    [(js "rowId", opaqueId),
      (js "rowVersion", isUInt64String),
      (js "reason", oneText [js "done", js "deleted", js "outOfWindow"])]

def activityScope : JsonSchema :=
  closedObject
    [(js "serverId", opaqueId),
      (js "principalId", opaqueId),
      (js "filter", activityFilter),
      (js "windowId", opaqueId)]

def rowsAndTombstones : List (JsString × JsonSchema) :=
  [(js "rows", arrayOf activityRow), (js "tombstones", arrayOf activityRowTombstone)]

def windowFacts : List (JsString × JsonSchema) :=
  [(js "nextCursor", nullable JsonSchema.string),
    (js "hasMore", boolean),
    (js "complete", boolean),
    (js "totalCount", uint32),
    (js "totalUnreadCount", uint32)]

def activityWindow : JsonSchema := closedObject (rowsAndTombstones ++ windowFacts)

def snapshotIngress : JsonSchema :=
  closedObject
    [(js "type", oneText [js "snapshot"]),
      (js "requestId", opaqueId),
      (js "scope", activityScope),
      (js "epoch", isUInt64String),
      (js "watermark", isUInt64String),
      (js "activityVersion", isUInt64String),
      (js "window", activityWindow)]

def notModifiedIngress : JsonSchema :=
  closedObject
    [(js "type", oneText [js "notModified"]),
      (js "requestId", opaqueId),
      (js "scope", activityScope),
      (js "epoch", isUInt64String),
      (js "watermark", isUInt64String),
      (js "activityVersion", isUInt64String)]

def differenceIngress : JsonSchema :=
  closedObject
    ([(js "type", oneText [js "difference"]),
      (js "requestId", opaqueId),
      (js "scope", activityScope),
      (js "epoch", isUInt64String),
      (js "fromSeq", isUInt64String),
      (js "toSeq", isUInt64String),
      (js "activityVersion", isUInt64String)] ++
      rowsAndTombstones ++ windowFacts ++
      [(js "nextFromSeq", nullable isUInt64String)])

def affectedReadState : JsonSchema :=
  closedObject
    [(js "scopeId", opaqueId),
      (js "channelId", nullable opaqueId),
      (js "maxReadSeq", isUInt64String),
      (js "readStateVersion", isUInt64String)]

def activityCommandReceipt : JsonSchema :=
  closedObject
    [(js "commandId", opaqueId),
      (js "applied", boolean),
      (js "activityVersion", isUInt64String),
      (js "affectedScopes", arrayOf affectedReadState),
      (js "tombstones", arrayOf activityRowTombstone)]

def contractErrorCode : JsonSchema :=
  oneText [js "invalidRequest", js "staleVersion", js "unauthorized", js "forbidden",
    js "conflict", js "unavailable", js "internal"]

def contractError : JsonSchema :=
  closedObject
    [(js "code", contractErrorCode),
      (js "message", JsonSchema.string),
      (js "retryable", boolean)]

def frameIngress : JsonSchema :=
  closedObject
    ([(js "type", oneText [js "frame"]),
      (js "scope", activityScope),
      (js "epoch", isUInt64String),
      (js "seq", isUInt64String),
      (js "activityVersion", isUInt64String)] ++ rowsAndTombstones)

def commandReceiptIngress : JsonSchema :=
  closedObject
    [(js "type", oneText [js "commandReceipt"]),
      (js "scope", activityScope),
      (js "receipt", activityCommandReceipt)]

def commandRejectedIngress : JsonSchema :=
  closedObject
    [(js "type", oneText [js "commandRejected"]),
      (js "scope", activityScope),
      (js "commandId", opaqueId),
      (js "activityVersion", nullable isUInt64String),
      (js "error", contractError)]

def readStateUpdatedIngress : JsonSchema :=
  closedObject
    [(js "type", oneText [js "readStateUpdated"]),
      (js "scope", activityScope),
      (js "epoch", isUInt64String),
      (js "seq", isUInt64String),
      (js "activityVersion", isUInt64String),
      (js "updates", arrayOf affectedReadState)]

def activityIngress : JsonSchema :=
  oneOf [snapshotIngress, notModifiedIngress, differenceIngress, frameIngress,
    commandReceiptIngress, commandRejectedIngress, readStateUpdatedIngress]

def isTrue : JsonSchema
  | .boolean value => value
  | _ => false

def snapshotRequiredBody : JsonSchema :=
  closedObject
    [(js "snapshotRequired", isTrue),
      (js "requestId", opaqueId),
      (js "scope", activityScope),
      (js "epoch", isUInt64String),
      (js "watermark", isUInt64String),
      (js "activityVersion", isUInt64String)]

/-! ## Rows -/

theorem activityRow_arm {value : JsValue} (h : activityRow value = true) :
    ∃ arm ∈ activityRowArms, closedObject arm value = true := by
  obtain ⟨schema, hmem, hvalue⟩ := exists_of_oneOf h
  obtain ⟨arm, harm, rfl⟩ := List.mem_map.mp hmem
  exact ⟨arm, harm, hvalue⟩

theorem common_mem_arm {arm : List (JsString × JsonSchema)} (harm : arm ∈ activityRowArms)
    {property : JsString × JsonSchema} (h : property ∈ activityRowCommon) : property ∈ arm := by
  simp only [activityRowArms, List.mem_cons, List.not_mem_nil, or_false] at harm
  rcases harm with rfl | rfl | rfl
  all_goals exact List.mem_append_left _ h

theorem type_mem_arm {arm : List (JsString × JsonSchema)} (harm : arm ∈ activityRowArms) :
    ∃ type, (js "type", oneText [type]) ∈ arm := by
  simp only [activityRowArms, List.mem_cons, List.not_mem_nil, or_false] at harm
  rcases harm with rfl | rfl | rfl
  · exact ⟨js "channel", List.mem_append_right _ List.mem_cons_self⟩
  · exact ⟨js "dm", List.mem_append_right _ List.mem_cons_self⟩
  · exact ⟨js "thread", List.mem_append_right _ List.mem_cons_self⟩

theorem isString_of_oneText {texts : List JsString} {value : JsValue}
    (h : oneText texts value = true) : value.isString = true := by
  cases value with
  | string _ => rfl
  | undefined | null | boolean _ | number _ | array _ | object _ => cases h

theorem isRow_of_activityRow {fields : JsObject} (h : activityRow (.object fields) = true)
    (hrowId : isNonEmptyString (JsObject.read fields (js "rowId")) = true) :
    isRow (.object fields) = true := by
  obtain ⟨arm, harm, hclosed⟩ := activityRow_arm h
  have hcommon {key : JsString} {schema : JsonSchema} (hmem : (key, schema) ∈ activityRowCommon) :
      schema (JsObject.read fields key) = true :=
    closedObject_read hclosed (common_mem_arm harm hmem)
  have hversion : isUInt64String (JsObject.read fields (js "rowVersion")) = true :=
    hcommon (by simp [activityRowCommon])
  have hseq : isUInt64String (JsObject.read fields (js "maxReadSeq")) = true :=
    hcommon (by simp [activityRowCommon])
  have hreadState : isUInt64String (JsObject.read fields (js "readStateVersion")) = true :=
    hcommon (by simp [activityRowCommon])
  have hat : (JsObject.read fields (js "lastActivityAt")).isString = true :=
    hcommon (by simp [activityRowCommon, utcInstantString, JsonSchema.string])
  obtain ⟨type, htype⟩ := type_mem_arm harm
  have htype := isString_of_oneText (closedObject_read hclosed htype)
  simp [isRow, hrowId, hversion, hseq, hreadState, hat, htype]

theorem rowVersion_schema {arm : List (JsString × JsonSchema)} (harm : arm ∈ activityRowArms)
    {property : JsString × JsonSchema} (hproperty : property ∈ arm)
    (hkey : property.1 = js "rowVersion") : property.2 = isUInt64String := by
  -- the version stands second in every arm and nowhere else
  have hrest : ∀ arm ∈ activityRowArms,
      js "rowVersion" ∉ (arm.eraseIdx 1).map Prod.fst := by decide +kernel
  obtain ⟨index, hindex, rfl⟩ := List.mem_iff_getElem.mp hproperty
  by_cases hone : index = 1
  · subst hone
    simp only [activityRowArms, List.mem_cons, List.not_mem_nil, or_false] at harm
    rcases harm with rfl | rfl | rfl
    all_goals rfl
  · have hmem : arm[index] ∈ arm.eraseIdx 1 :=
      List.mem_eraseIdx_iff_getElem.mpr ⟨index, hindex, hone, rfl⟩
    exact absurd (List.mem_map.mpr ⟨_, hmem, hkey⟩) (hrest arm harm)

theorem activityRow_write_version (fields : JsObject) (first second : UInt64String) :
    activityRow (.object (JsObject.write fields (js "rowVersion") (.string first))) =
      activityRow (.object (JsObject.write fields (js "rowVersion") (.string second))) := by
  apply oneOf_congr
  intro schema hschema
  obtain ⟨arm, harm, rfl⟩ := List.mem_map.mp hschema
  apply closedObject_write_congr
  intro property hproperty hkey
  rw [rowVersion_schema harm hproperty hkey]
  exact first.2.trans second.2.symm

end Raft.Activity
