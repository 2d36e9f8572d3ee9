import Mathlib.Algebra.Order.BigOperators.Group.Finset
import Raft.Outbox.Caps
import Raft.Outbox.Frames

/-!
# The queue file

How a queue is written into its file, the check of the whole file when it is
read again, and what a queue must satisfy to pass the check.
-/

namespace Raft.Outbox

open Raft.Foundation JsValue AgentOutboxState

/-! ## Writing and reading the queue -/

def countsToJs (counts : GapCounts) : JsObject :=
  [(js "e1", JsCodec.count.toJs counts.e1),
    (js "turnCompleted", JsCodec.count.toJs counts.turnCompleted),
    (js "spawned", JsCodec.count.toJs counts.spawned),
    (js "exited", JsCodec.count.toJs counts.exited),
    (js "startOutcome", JsCodec.count.toJs counts.startOutcome)]

def countsOfJs (value : JsValue) : Option GapCounts := do
  let e1 ← JsCodec.count.ofJs (value.read (js "e1"))
  let turnCompleted ← JsCodec.count.ofJs (value.read (js "turnCompleted"))
  let spawned ← JsCodec.count.ofJs (value.read (js "spawned"))
  let exited ← JsCodec.count.ofJs (value.read (js "exited"))
  let startOutcome ← JsCodec.count.ofJs (value.read (js "startOutcome"))
  some ⟨e1, turnCompleted, spawned, exited, startOutcome⟩

def ENTRY_KINDS : List EntryKind := [.e1, .turnCompleted, .spawned, .exited, .startOutcome]

def kindOfJs (value : JsValue) : Option EntryKind :=
  ENTRY_KINDS.find? fun kind => isText (kindText kind) value

def entryToJs : OutboxEntry OutboxFrame → JsObject
  | .normal entry =>
      [(js "t", .string (js "normal")), (js "kind", .string (kindText entry.kind)),
        (js "daemonInstanceId", .string entry.daemonInstanceId),
        (js "clientSeq", JsCodec.count.toJs entry.clientSeq),
        (js "takeoverEpoch", JsCodec.integer.toJs entry.takeoverEpoch),
        (js "frame", .object (frameToJs entry.frame))]
  | .gap gap =>
      [(js "t", .string (js "gap")), (js "gapId", .string gap.gapId),
        (js "daemonInstanceId", .string gap.daemonInstanceId),
        (js "takeoverEpoch", JsCodec.integer.toJs gap.takeoverEpoch),
        (js "fromSeq", JsCodec.count.toJs gap.fromSeq), (js "toSeq", JsCodec.count.toJs gap.toSeq),
        (js "counts", .object (countsToJs gap.counts)),
        (js "sealed", JsCodec.boolean.toJs gap.isSealed)]
  | .cross cross =>
      [(js "t", .string (js "cross")), (js "gapId", .string cross.gapId),
        (js "instances", JsCodec.text.list.toJs cross.instances),
        (js "takeoverEpoch", JsCodec.integer.toJs cross.takeoverEpoch),
        (js "counts", .object (countsToJs cross.counts)),
        (js "sealed", JsCodec.boolean.toJs cross.isSealed)]

def entryOfJs (value : JsValue) : Option (OutboxEntry OutboxFrame) := do
  let takeoverEpoch ← JsCodec.integer.ofJs (value.read (js "takeoverEpoch"))
  let tag := (value.read (js "t")).text
  if tag = js "normal" then do
    let kind ← kindOfJs (value.read (js "kind"))
    let daemonInstanceId ← JsCodec.text.ofJs (value.read (js "daemonInstanceId"))
    let clientSeq ← JsCodec.count.ofJs (value.read (js "clientSeq"))
    let frame ← frameOfJs (value.read (js "frame"))
    some (.normal ⟨kind, daemonInstanceId, clientSeq, takeoverEpoch, frame⟩)
  else do
    let gapId ← JsCodec.text.ofJs (value.read (js "gapId"))
    let counts ← countsOfJs (value.read (js "counts"))
    let isSealed ← JsCodec.boolean.ofJs (value.read (js "sealed"))
    if tag = js "gap" then do
      let daemonInstanceId ← JsCodec.text.ofJs (value.read (js "daemonInstanceId"))
      let fromSeq ← JsCodec.count.ofJs (value.read (js "fromSeq"))
      let toSeq ← JsCodec.count.ofJs (value.read (js "toSeq"))
      some (.gap ⟨gapId, daemonInstanceId, takeoverEpoch, fromSeq, toSeq, counts, isSealed⟩)
    else if tag = js "cross" then do
      let instances ← JsCodec.text.list.ofJs (value.read (js "instances"))
      some (.cross ⟨gapId, instances, takeoverEpoch, counts, isSealed⟩)
    else none

def stateToJs (state : AgentOutboxState OutboxFrame) : JsObject :=
  [(js "v", JsCodec.count.toJs 1), (js "agentId", .string state.agentId),
    (js "takeoverEpoch", JsCodec.integer.toJs state.takeoverEpoch),
    (js "entries", .array (state.entries.map fun entry => .object (entryToJs entry))),
    (js "inFlight", JsCodec.boolean.toJs state.inFlight),
    (js "protocolEngaged", JsCodec.boolean.optional.toJs state.protocolEngaged),
    (js "humanTakeoverEpoch", JsCodec.integer.optional.toJs state.humanTakeoverEpoch)]

def stateOfJs (value : JsValue) : Option (AgentOutboxState OutboxFrame) := do
  let agentId ← JsCodec.text.ofJs (value.read (js "agentId"))
  let takeoverEpoch ← JsCodec.integer.ofJs (value.read (js "takeoverEpoch"))
  let entries ← (value.read (js "entries")).arrayItems.mapM entryOfJs
  let inFlight ← JsCodec.boolean.ofJs (value.read (js "inFlight"))
  let protocolEngaged ← JsCodec.boolean.optional.ofJs (value.read (js "protocolEngaged"))
  let humanTakeoverEpoch ← JsCodec.integer.optional.ofJs (value.read (js "humanTakeoverEpoch"))
  some ⟨agentId, takeoverEpoch, protocolEngaged, humanTakeoverEpoch, entries, inFlight⟩

theorem nodup_countsToJs (counts : GapCounts) : ((countsToJs counts).map Prod.fst).Nodup :=
  of_decide_eq_true rfl

theorem nodup_entryToJs (entry : OutboxEntry OutboxFrame) :
    ((entryToJs entry).map Prod.fst).Nodup := by
  cases entry <;> exact of_decide_eq_true rfl

theorem nodup_stateToJs (state : AgentOutboxState OutboxFrame) :
    ((stateToJs state).map Prod.fst).Nodup := of_decide_eq_true rfl

theorem countsOfJs_toJs (counts : GapCounts) :
    countsOfJs (jsonCopy (.object (countsToJs counts))) = some counts := by
  simp only [countsOfJs, read_jsonCopy (nodup_countsToJs counts)]
  change (do
    let e1 ← JsCodec.count.ofJs (jsonCopy (JsCodec.count.toJs counts.e1))
    let turnCompleted ← JsCodec.count.ofJs (jsonCopy (JsCodec.count.toJs counts.turnCompleted))
    let spawned ← JsCodec.count.ofJs (jsonCopy (JsCodec.count.toJs counts.spawned))
    let exited ← JsCodec.count.ofJs (jsonCopy (JsCodec.count.toJs counts.exited))
    let startOutcome ← JsCodec.count.ofJs (jsonCopy (JsCodec.count.toJs counts.startOutcome))
    some (GapCounts.mk e1 turnCompleted spawned exited startOutcome)) = _
  simp only [FieldCodec.ofJs_toJs, Option.bind_eq_bind, Option.bind_some]

theorem kindOfJs_kindText (kind : EntryKind) : kindOfJs (.string (kindText kind)) = some kind := by
  cases kind <;> rfl

theorem entryOfJs_toJs (entry : OutboxEntry OutboxFrame) :
    entryOfJs (jsonCopy (.object (entryToJs entry))) = some entry := by
  simp only [entryOfJs, read_jsonCopy (nodup_entryToJs entry)]
  cases entry with
  | normal entry =>
      change (do
        let takeoverEpoch ← JsCodec.integer.ofJs
          (jsonCopy (JsCodec.integer.toJs entry.takeoverEpoch))
        let kind ← kindOfJs (.string (kindText entry.kind))
        let daemonInstanceId ← JsCodec.text.ofJs
          (jsonCopy (JsCodec.text.toJs entry.daemonInstanceId))
        let clientSeq ← JsCodec.count.ofJs (jsonCopy (JsCodec.count.toJs entry.clientSeq))
        let frame ← frameOfJs (jsonCopy (.object (frameToJs entry.frame)))
        some (OutboxEntry.normal ⟨kind, daemonInstanceId, clientSeq, takeoverEpoch, frame⟩)) = _
      simp only [FieldCodec.ofJs_toJs, kindOfJs_kindText, frameOfJs_toJs, Option.bind_eq_bind,
        Option.bind_some]
  | gap gap =>
      change (do
        let takeoverEpoch ← JsCodec.integer.ofJs
          (jsonCopy (JsCodec.integer.toJs gap.takeoverEpoch))
        let gapId ← JsCodec.text.ofJs (jsonCopy (JsCodec.text.toJs gap.gapId))
        let counts ← countsOfJs (jsonCopy (.object (countsToJs gap.counts)))
        let isSealed ← JsCodec.boolean.ofJs (jsonCopy (JsCodec.boolean.toJs gap.isSealed))
        let daemonInstanceId ← JsCodec.text.ofJs
          (jsonCopy (JsCodec.text.toJs gap.daemonInstanceId))
        let fromSeq ← JsCodec.count.ofJs (jsonCopy (JsCodec.count.toJs gap.fromSeq))
        let toSeq ← JsCodec.count.ofJs (jsonCopy (JsCodec.count.toJs gap.toSeq))
        some (OutboxEntry.gap
          ⟨gapId, daemonInstanceId, takeoverEpoch, fromSeq, toSeq, counts, isSealed⟩)) = _
      simp only [FieldCodec.ofJs_toJs, countsOfJs_toJs, Option.bind_eq_bind, Option.bind_some]
  | cross cross =>
      change (do
        let takeoverEpoch ← JsCodec.integer.ofJs
          (jsonCopy (JsCodec.integer.toJs cross.takeoverEpoch))
        let gapId ← JsCodec.text.ofJs (jsonCopy (JsCodec.text.toJs cross.gapId))
        let counts ← countsOfJs (jsonCopy (.object (countsToJs cross.counts)))
        let isSealed ← JsCodec.boolean.ofJs (jsonCopy (JsCodec.boolean.toJs cross.isSealed))
        let instances ← JsCodec.text.list.ofJs
          (jsonCopy (JsCodec.text.list.toJs cross.instances))
        some (OutboxEntry.cross ⟨gapId, instances, takeoverEpoch, counts, isSealed⟩)) = _
      simp only [FieldCodec.ofJs_toJs, countsOfJs_toJs, Option.bind_eq_bind, Option.bind_some]

theorem stateOfJs_toJs (state : AgentOutboxState OutboxFrame) :
    stateOfJs (jsonCopy (.object (stateToJs state))) = some state := by
  simp only [stateOfJs, read_jsonCopy (nodup_stateToJs state)]
  have hentries : (jsonCopy (.array
      (state.entries.map fun entry => .object (entryToJs entry)))).arrayItems.mapM entryOfJs =
      some state.entries := by
    rw [jsonCopy_array _ _ fun _ => rfl]
    induction state.entries with
    | nil => rfl
    | cons entry entries ih => simp_all [arrayItems, entryOfJs_toJs]
  change (do
    let agentId ← JsCodec.text.ofJs (jsonCopy (JsCodec.text.toJs state.agentId))
    let takeoverEpoch ← JsCodec.integer.ofJs
      (jsonCopy (JsCodec.integer.toJs state.takeoverEpoch))
    let entries ← (jsonCopy (.array
      (state.entries.map fun entry => .object (entryToJs entry)))).arrayItems.mapM entryOfJs
    let inFlight ← JsCodec.boolean.ofJs (jsonCopy (JsCodec.boolean.toJs state.inFlight))
    let protocolEngaged ← JsCodec.boolean.optional.ofJs
      (jsonCopy (JsCodec.boolean.optional.toJs state.protocolEngaged))
    let humanTakeoverEpoch ← JsCodec.integer.optional.ofJs
      (jsonCopy (JsCodec.integer.optional.toJs state.humanTakeoverEpoch))
    some (AgentOutboxState.mk agentId takeoverEpoch protocolEngaged humanTakeoverEpoch entries
      inFlight)) = _
  simp only [FieldCodec.ofJs_toJs, hentries, Option.bind_eq_bind, Option.bind_some]

/-! ## Checking the file -/

def isBoolean : JsValue → Bool
  | .boolean _ => true
  | _ => false

def isArray : JsValue → Bool
  | .array _ => true
  | _ => false

def isAtMost : JsValue → JsValue → Bool
  | .number first, .number second => first.le second
  | _, _ => false

def objectSize : JsValue → Nat
  | .object fields => fields.length
  | _ => 0

def COUNT_KEYS : List JsString := ENTRY_KINDS.map kindText

def isValidCounts (value : JsValue) : Bool :=
  isObject value && objectSize value = COUNT_KEYS.length &&
    COUNT_KEYS.all fun key => isCount (value.read key)

def isValidContent (value : JsValue) (agentId : JsString) : Bool :=
  let t := value.read (js "t")
  if isText (js "normal") t then
    ENTRY_KINDS.any (fun kind => isText (kindText kind) (value.read (js "kind"))) &&
      isId (value.read (js "daemonInstanceId")) && isCount (value.read (js "clientSeq")) &&
      isValidFrame (value.read (js "frame")) agentId value
  else if isText (js "gap") t then
    isId (value.read (js "gapId")) && isId (value.read (js "daemonInstanceId")) &&
      isCount (value.read (js "fromSeq")) && isCount (value.read (js "toSeq")) &&
      isAtMost (value.read (js "fromSeq")) (value.read (js "toSeq")) &&
      isValidCounts (value.read (js "counts")) && isBoolean (value.read (js "sealed"))
  else if isText (js "cross") t then
    let instances := value.read (js "instances")
    isId (value.read (js "gapId")) && isListOf isId instances &&
      0 < instances.arrayItems.length && (instances.arrayItems.map JsValue.text).Nodup &&
      isValidCounts (value.read (js "counts")) && isBoolean (value.read (js "sealed"))
  else false

def isValidEntry (value : JsValue) (agentId : JsString) (epoch : JsValue) : Bool :=
  isObject value && isCount (value.read (js "takeoverEpoch")) &&
    isAtMost (value.read (js "takeoverEpoch")) epoch && isValidContent value agentId

def isTagged (tag : JsString) (entry : JsValue) : Bool := isText tag (entry.read (js "t"))

def numberText : JsValue → JsString
  | .number value => counterText value
  | _ => []

def normalId (entry : JsValue) : Option JsString :=
  if isTagged (js "normal") entry then
    some ((entry.read (js "daemonInstanceId")).text ++
      0 :: numberText (entry.read (js "clientSeq")))
  else none

def markerId (entry : JsValue) : Option JsString :=
  if isTagged (js "normal") entry then none else some (entry.read (js "gapId")).text

def gapInstanceText (entry : JsValue) : Option JsString :=
  if isTagged (js "gap") entry then some (entry.read (js "daemonInstanceId")).text else none

def isValidState (value : JsValue) (agentId : JsString) : Bool :=
  let epoch := value.read (js "takeoverEpoch")
  let entries := (value.read (js "entries")).arrayItems
  let gaps := entries.filterMap gapInstanceText
  let instances := gaps.foldl (fun seen id => if id ∈ seen then seen else seen ++ [id]) []
  isObject value && strictEqual (value.read (js "v")) (.number (.ofNat 1)) &&
    isText agentId (value.read (js "agentId")) && isCount epoch &&
    isAbsentOr (fun human => isCount human && isAtMost human epoch)
      (value.read (js "humanTakeoverEpoch")) &&
    isAbsentOr isBoolean (value.read (js "protocolEngaged")) &&
    isBoolean (value.read (js "inFlight")) && isArray (value.read (js "entries")) &&
    !(strictEqual (value.read (js "inFlight")) (.boolean true) && entries.length = 0) &&
    entries.length ≤ OUTBOX_HARD_TOTAL &&
    entries.all (fun entry => isValidEntry entry agentId epoch) &&
    (entries.filterMap normalId).Nodup && (entries.filterMap markerId).Nodup &&
    (entries.filterMap normalId).length ≤ OUTBOX_NORMAL_CAP &&
    (entries.filter (isTagged (js "cross"))).length ≤ OUTBOX_CROSS_MAX &&
    instances.length ≤ OUTBOX_GAP_INSTANCES_MAX &&
    instances.all fun id => gaps.count id ≤ OUTBOX_GAPS_PER_INSTANCE_MAX

/-- What loading makes of a queue file that parses; a file that fails its check is corrupt. -/
def loadState (value : JsValue) (agentId : JsString) : Option (AgentOutboxState OutboxFrame) :=
  if isValidState value agentId then stateOfJs value else none

/-! ## Queues that fit the file -/

structure NormalEntry.Carries (agentId : JsString) (entry : NormalEntry OutboxFrame) : Prop where
  agent : entry.frame.agentId = agentId
  kind : entry.kind = outboxEntryKind entry.frame
  daemonInstanceId : entry.daemonInstanceId = entry.frame.daemonInstanceId
  clientSeq : entry.clientSeq = entry.frame.clientSeq
  wellFormed : entry.frame.WellFormed

structure GapEntry.Fits (gap : GapEntry) : Prop where
  gapId : gap.gapId ≠ []
  daemonInstanceId : gap.daemonInstanceId ≠ []
  range : gap.fromSeq ≤ gap.toSeq
  toSeq : gap.toSeq ≤ maxSafeInteger

structure CrossEntry.Fits (cross : CrossEntry) : Prop where
  gapId : cross.gapId ≠ []
  instances : cross.instances ≠ []
  named : [] ∉ cross.instances
  distinct : cross.instances.Nodup

def EntryFits (agentId : JsString) : OutboxEntry OutboxFrame → Prop
  | .normal entry => entry.Carries agentId
  | .gap gap => gap.Fits
  | .cross cross => cross.Fits

structure QueueFits (agentId : JsString) (state : AgentOutboxState OutboxFrame) : Prop where
  agent : state.agentId = agentId
  epochs : EpochOrdered state
  nonneg : ∀ entry ∈ state.entries, 0 ≤ entry.takeoverEpoch
  takeoverEpoch : 0 ≤ state.takeoverEpoch ∧ state.takeoverEpoch ≤ maxSafeInteger
  human : ∀ epoch ∈ state.humanTakeoverEpoch, 0 ≤ epoch ∧ epoch ≤ state.takeoverEpoch
  caps : ∃ used, WithinCaps used (shapes state.entries)
  fits : ∀ entry ∈ state.entries, EntryFits agentId entry
  counts : ∀ entry ∈ state.entries, ∀ kind, entry.kindCount kind ≤ maxSafeInteger
  identities : ((normals state.entries).map NormalEntry.identity).Nodup

theorem length_entries (entries : List (OutboxEntry OutboxFrame)) : entries.length =
    (shapes entries).countP Shape.isNormal + (gapInstances (shapes entries)).length +
      (shapes entries).countP Shape.isCross := by
  induction entries with
  | nil => rfl
  | cons entry entries ih =>
      rw [List.length_cons, shapes_cons, List.countP_cons, List.countP_cons, ih]
      cases entry <;> simp [shape, OutboxEntry.isNormal, OutboxEntry.crossOf,
        OutboxEntry.gapInstance, gapInstances] <;> omega

theorem WithinCaps.length_le {used : List JsString} {entries : List (OutboxEntry OutboxFrame)}
    (h : WithinCaps used (shapes entries)) : entries.length ≤ OUTBOX_HARD_TOTAL := by
  have hgaps : (gapInstances (shapes entries)).length ≤
      OUTBOX_GAP_INSTANCES_MAX * OUTBOX_GAPS_PER_INSTANCE_MAX := by
    rw [← List.sum_toFinset_count_eq_length]
    refine (Finset.sum_le_card_nsmul _ _ OUTBOX_GAPS_PER_INSTANCE_MAX fun id _ => ?_).trans ?_
    · rw [lawful_beq_subsingleton instBEqOfDecidableEq (@List.instBEq CodeUnit _)]
      exact h.gaps id
    · exact Nat.mul_le_mul_right _ h.instances
  have hnormals := h.normals
  have hcrosses := h.crosses
  rw [length_entries, OUTBOX_HARD_TOTAL]
  omega

theorem isCount_integer {n : Int} (hnonneg : 0 ≤ n) (hle : n ≤ maxSafeInteger) :
    isCount (jsonCopy (JsCodec.integer.toJs n)) = true := by
  obtain ⟨n, rfl⟩ := Int.eq_ofNat_of_zero_le hnonneg
  have hcount := isCount_count (n := n) (by omega)
  simpa [JsCodec.integer, JsCodec.count, JsNumber.ofNat] using hcount

theorem isAtMost_integer {first second : Int} (h : first ≤ second) :
    isAtMost (jsonCopy (JsCodec.integer.toJs first)) (jsonCopy (JsCodec.integer.toJs second)) =
      true := by
  simpa [JsCodec.integer, jsonCopy, JsNumber.jsonCopy, isAtMost, JsNumber.le, JsNumber.compares,
    JsNumber.extended] using h

theorem isAtMost_count {first second : Nat} (h : first ≤ second) :
    isAtMost (jsonCopy (JsCodec.count.toJs first)) (jsonCopy (JsCodec.count.toJs second)) =
      true := by
  simpa [JsCodec.count, JsNumber.ofNat, jsonCopy, JsNumber.jsonCopy, isAtMost, JsNumber.le,
    JsNumber.compares, JsNumber.extended] using h

theorem isValidCounts_toJs {counts : GapCounts} (h : ∀ kind, counts.get kind ≤ maxSafeInteger) :
    isValidCounts (jsonCopy (.object (countsToJs counts))) = true := by
  have hkeys : COUNT_KEYS.all (fun key =>
      isCount ((jsonCopy (.object (countsToJs counts))).read key)) = true := by
    rw [COUNT_KEYS, List.all_map, List.all_eq_true]
    intro kind _
    rw [Function.comp_apply, read_jsonCopy (nodup_countsToJs counts)]
    cases kind with
    | e1 => exact isCount_count (h .e1)
    | turnCompleted => exact isCount_count (h .turnCompleted)
    | spawned => exact isCount_count (h .spawned)
    | exited => exact isCount_count (h .exited)
    | startOutcome => exact isCount_count (h .startOutcome)
  rw [isValidCounts, hkeys]
  rfl

theorem isValidContent_toJs {agentId : JsString} {entry : OutboxEntry OutboxFrame}
    (hfits : EntryFits agentId entry) (hcounts : ∀ kind, entry.kindCount kind ≤ maxSafeInteger) :
    isValidContent (jsonCopy (.object (entryToJs entry))) agentId = true := by
  have hread := read_jsonCopy (nodup_entryToJs entry)
  cases entry with
  | normal entry =>
      obtain ⟨rfl, hkind, hinstance, hseq, hframe⟩ := hfits
      have hvalid : isValidFrame (jsonCopy (.object (frameToJs entry.frame))) entry.frame.agentId
          (jsonCopy (.object (entryToJs (.normal entry)))) = true := by
        refine isValidFrame_toJs hframe ⟨?_, ?_, ?_⟩
        · rw [hread, ← hinstance]
          rfl
        · rw [hread, ← hseq]
          rfl
        · rw [hread, ← hkind]
          rfl
      have hkinds : ENTRY_KINDS.any
          (fun kind => isText (kindText kind) (.string (kindText entry.kind))) = true := by
        cases entry.kind <;> rfl
      have hid := isId_string (hinstance ▸ hframe.daemonInstanceId)
      have hcount := isCount_count (hseq ▸ hframe.clientSeq)
      simp only [isValidContent, hread]
      change (ENTRY_KINDS.any (fun kind =>
        isText (kindText kind) (.string (kindText entry.kind))) &&
        isId (.string entry.daemonInstanceId) &&
        isCount (jsonCopy (JsCodec.count.toJs entry.clientSeq)) &&
        isValidFrame (jsonCopy (.object (frameToJs entry.frame))) entry.frame.agentId
          (jsonCopy (.object (entryToJs (.normal entry))))) = true
      rw [hkinds, hid, hcount, hvalid]
      rfl
  | gap gap =>
      have hvalid := isValidCounts_toJs hcounts
      simp only [isValidContent, hread]
      change (isId (.string gap.gapId) && isId (.string gap.daemonInstanceId) &&
        isCount (jsonCopy (JsCodec.count.toJs gap.fromSeq)) &&
        isCount (jsonCopy (JsCodec.count.toJs gap.toSeq)) &&
        isAtMost (jsonCopy (JsCodec.count.toJs gap.fromSeq))
          (jsonCopy (JsCodec.count.toJs gap.toSeq)) &&
        isValidCounts (jsonCopy (.object (countsToJs gap.counts))) && true) = true
      rw [isId_string hfits.gapId, isId_string hfits.daemonInstanceId,
        isCount_count (hfits.range.trans hfits.toSeq), isCount_count hfits.toSeq,
        isAtMost_count hfits.range, hvalid]
      rfl
  | cross cross =>
      have hvalid := isValidCounts_toJs hcounts
      have hlist : isListOf isId (jsonCopy (JsCodec.text.list.toJs cross.instances)) = true := by
        refine isListOf_list _ fun id hid => isId_string ?_
        rintro rfl
        exact hfits.named hid
      have hitems : (jsonCopy (JsCodec.text.list.toJs cross.instances)).arrayItems.map
          JsValue.text = cross.instances := by
        change (jsonCopy (.array (cross.instances.map JsCodec.text.toJs))).arrayItems.map _ = _
        rw [jsonCopy_array _ _ fun _ => rfl, arrayItems, List.map_map]
        exact List.map_id _
      have hlength : 0 < (jsonCopy (JsCodec.text.list.toJs cross.instances)).arrayItems.length := by
        rw [← List.length_map JsValue.text, hitems]
        exact List.length_pos_iff.mpr hfits.instances
      simp only [isValidContent, hread]
      change (isId (.string cross.gapId) &&
        isListOf isId (jsonCopy (JsCodec.text.list.toJs cross.instances)) &&
        decide (0 < (jsonCopy (JsCodec.text.list.toJs cross.instances)).arrayItems.length) &&
        decide (((jsonCopy (JsCodec.text.list.toJs cross.instances)).arrayItems.map
          JsValue.text).Nodup) &&
        isValidCounts (jsonCopy (.object (countsToJs cross.counts))) && true) = true
      rw [isId_string hfits.gapId, hlist, decide_eq_true hlength, hitems,
        decide_eq_true hfits.distinct, hvalid]
      rfl

theorem isValidEntry_toJs {agentId : JsString} {entry : OutboxEntry OutboxFrame} {epoch : Int}
    (hnonneg : 0 ≤ entry.takeoverEpoch) (hle : entry.takeoverEpoch ≤ epoch)
    (hsafe : epoch ≤ maxSafeInteger) (hfits : EntryFits agentId entry)
    (hcounts : ∀ kind, entry.kindCount kind ≤ maxSafeInteger) :
    isValidEntry (jsonCopy (.object (entryToJs entry))) agentId
      (jsonCopy (JsCodec.integer.toJs epoch)) = true := by
  have hepoch : (jsonCopy (.object (entryToJs entry))).read (js "takeoverEpoch") =
      jsonCopy (JsCodec.integer.toJs entry.takeoverEpoch) := by
    rw [read_jsonCopy (nodup_entryToJs entry)]
    cases entry <;> rfl
  rw [isValidEntry, hepoch, isCount_integer hnonneg (hle.trans hsafe), isAtMost_integer hle,
    isValidContent_toJs hfits hcounts]
  rfl

/-! ## Queues that fit pass the check -/

theorem isTagged_toJs (tag : JsString) (entry : OutboxEntry OutboxFrame) :
    isTagged tag (jsonCopy (.object (entryToJs entry))) =
      isText tag (match entry with
        | .normal _ => .string (js "normal")
        | .gap _ => .string (js "gap")
        | .cross _ => .string (js "cross")) := by
  rw [isTagged, read_jsonCopy (nodup_entryToJs entry)]
  cases entry <;> rfl

def identityText (identity : JsString × Nat) : JsString :=
  identity.1 ++ 0 :: decimalText identity.2

theorem normalId_toJs (entry : OutboxEntry OutboxFrame) :
    normalId (jsonCopy (.object (entryToJs entry))) = match entry with
      | .normal entry => some (identityText entry.identity)
      | .gap _ | .cross _ => none := by
  rw [normalId, isTagged_toJs, read_jsonCopy (nodup_entryToJs entry),
    read_jsonCopy (nodup_entryToJs entry)]
  cases entry with
  | gap gap => rfl
  | cross cross => rfl
  | normal entry =>
      change some (entry.daemonInstanceId ++
        0 :: counterText (.ofNat entry.clientSeq)) = some (identityText entry.identity)
      rw [counterText_ofNat]
      rfl

theorem markerId_toJs (entry : OutboxEntry OutboxFrame) :
    markerId (jsonCopy (.object (entryToJs entry))) = entry.gapId := by
  rw [markerId, isTagged_toJs, read_jsonCopy (nodup_entryToJs entry)]
  cases entry <;> rfl

theorem gapInstanceText_toJs (entry : OutboxEntry OutboxFrame) :
    gapInstanceText (jsonCopy (.object (entryToJs entry))) = entry.gapInstance := by
  rw [gapInstanceText, isTagged_toJs, read_jsonCopy (nodup_entryToJs entry)]
  cases entry <;> rfl

theorem zero_notMem_decimalText (n : Nat) : 0 ∉ decimalText n := by
  intro hmem
  have hdigits := isCanonicalDecimal_all (isCanonicalDecimal_decimalText n)
  have hzero := List.all_eq_true.mp hdigits 0 hmem
  exact absurd hzero (by decide)

theorem eq_of_append_zero_eq {first second rest others : JsString} (hfirst : 0 ∉ first)
    (hsecond : 0 ∉ second) (h : first ++ 0 :: rest = second ++ 0 :: others) :
    first = second ∧ rest = others := by
  induction first generalizing second with
  | nil =>
      cases second with
      | nil => exact ⟨rfl, List.tail_eq_of_cons_eq h⟩
      | cons unit second =>
          obtain rfl := List.head_eq_of_cons_eq h
          exact absurd List.mem_cons_self hsecond
  | cons unit first ih =>
      cases second with
      | nil =>
          obtain rfl := List.head_eq_of_cons_eq h
          exact absurd List.mem_cons_self hfirst
      | cons other second =>
          obtain rfl := List.head_eq_of_cons_eq h
          obtain ⟨rfl, hrest⟩ := ih (fun hmem => hfirst (List.mem_cons_of_mem _ hmem))
            (fun hmem => hsecond (List.mem_cons_of_mem _ hmem)) (List.tail_eq_of_cons_eq h)
          exact ⟨rfl, hrest⟩

theorem identityText_injective : Function.Injective identityText := by
  rintro ⟨first, n⟩ ⟨second, m⟩ h
  have hreverse := congrArg List.reverse h
  simp only [identityText, List.reverse_append, List.reverse_cons, List.append_assoc,
    List.singleton_append] at hreverse
  have hn : 0 ∉ (decimalText n).reverse := by simpa using zero_notMem_decimalText n
  have hm : 0 ∉ (decimalText m).reverse := by simpa using zero_notMem_decimalText m
  obtain ⟨hdigits, hrest⟩ := eq_of_append_zero_eq hn hm hreverse
  have htext : decimalText n = decimalText m := List.reverse_inj.mp hdigits
  rw [List.reverse_inj.mp hrest, ← decimalValue_decimalText n, htext, decimalValue_decimalText]

theorem filterMap_normalId (entries : List (OutboxEntry OutboxFrame)) :
    (entries.map fun entry => jsonCopy (.object (entryToJs entry))).filterMap normalId =
      (normals entries).map fun entry => identityText entry.identity := by
  rw [List.filterMap_map, normals, List.map_filterMap]
  refine List.filterMap_congr fun entry _ => ?_
  rw [Function.comp_apply, normalId_toJs]
  cases entry <;> rfl

theorem filterMap_markerId (entries : List (OutboxEntry OutboxFrame)) :
    (entries.map fun entry => jsonCopy (.object (entryToJs entry))).filterMap markerId =
      gapIds (shapes entries) := by
  rw [List.filterMap_map, gapIds, shapes, List.filterMap_map]
  exact List.filterMap_congr fun entry _ => markerId_toJs entry

theorem filterMap_gapInstanceText (entries : List (OutboxEntry OutboxFrame)) :
    (entries.map fun entry => jsonCopy (.object (entryToJs entry))).filterMap gapInstanceText =
      gapInstances (shapes entries) := by
  rw [List.filterMap_map, gapInstances, shapes, List.filterMap_map]
  exact List.filterMap_congr fun entry _ => gapInstanceText_toJs entry

theorem length_filter_isTagged_cross (entries : List (OutboxEntry OutboxFrame)) :
    ((entries.map fun entry => jsonCopy (.object (entryToJs entry))).filter
      (isTagged (js "cross"))).length = (shapes entries).countP Shape.isCross := by
  rw [← List.countP_eq_length_filter, List.countP_map, shapes, List.countP_map]
  refine List.countP_congr fun entry _ => ?_
  rw [Function.comp_apply, isTagged_toJs]
  cases entry <;> exact Iff.rfl

theorem QueueFits.isValidState {agentId : JsString} {state : AgentOutboxState OutboxFrame}
    (h : QueueFits agentId state) :
    isValidState (jsonCopy (.object (stateToJs state))) agentId = true := by
  obtain ⟨used, hcaps⟩ := h.caps
  have hread := read_jsonCopy (nodup_stateToJs state)
  have hitems : (jsonCopy ((JsValue.object (stateToJs state)).read (js "entries"))).arrayItems =
      state.entries.map fun entry => jsonCopy (.object (entryToJs entry)) := by
    change (jsonCopy (.array
      (state.entries.map fun entry => .object (entryToJs entry)))).arrayItems = _
    rw [jsonCopy_array _ _ fun _ => rfl]
    rfl
  have hhuman : isAbsentOr (fun human => isCount human &&
      isAtMost human (jsonCopy (JsCodec.integer.toJs state.takeoverEpoch)))
      (jsonCopy (JsCodec.integer.optional.toJs state.humanTakeoverEpoch)) = true := by
    refine isAbsentOr_optional _ fun epoch hepoch => ?_
    obtain ⟨hnonneg, hle⟩ := h.human epoch hepoch
    rw [isCount_integer hnonneg (hle.trans h.takeoverEpoch.2), isAtMost_integer hle]
    rfl
  have hengaged : isAbsentOr isBoolean
      (jsonCopy (JsCodec.boolean.optional.toJs state.protocolEngaged)) = true :=
    isAbsentOr_optional _ fun _ _ => rfl
  have hflying : (!(strictEqual (jsonCopy (JsCodec.boolean.toJs state.inFlight)) (.boolean true) &&
      decide ((state.entries.map fun entry =>
        jsonCopy (.object (entryToJs entry))).length = 0))) = true := by
    cases hinFlight : state.inFlight with
    | false => rfl
    | true =>
        obtain ⟨oldest, hflight, -⟩ := h.epochs.settled hinFlight
        have hne : state.entries ≠ [] := by
          rintro hnil
          simp [flight, hinFlight, hnil] at hflight
        simp [hne]
  have hvalid : (state.entries.map fun entry => jsonCopy (.object (entryToJs entry))).all
      (fun entry => isValidEntry entry agentId
        (jsonCopy (JsCodec.integer.toJs state.takeoverEpoch))) = true := by
    rw [List.all_map, List.all_eq_true]
    intro entry hentry
    exact isValidEntry_toJs (h.nonneg entry hentry)
      (h.epochs.bounded _ (List.mem_map_of_mem hentry)) h.takeoverEpoch.2 (h.fits entry hentry)
      (h.counts entry hentry)
  have hidentities : ((normals state.entries).map
      fun entry => identityText entry.identity).Nodup := by
    have hmapped := h.identities.map identityText_injective
    rwa [List.map_map] at hmapped
  have hinstances := toFinset_foldl_insert (gapInstances (shapes state.entries)) []
  have hcard := List.toFinset_card_of_nodup
    (nodup_foldl_insert (gapInstances (shapes state.entries)) List.nodup_nil)
  rw [hinstances, List.toFinset_nil, Finset.empty_union] at hcard
  simp only [Outbox.isValidState, hitems, filterMap_normalId, filterMap_markerId,
    filterMap_gapInstanceText, length_filter_isTagged_cross, List.length_map, hread,
    Bool.and_eq_true, decide_eq_true_eq]
  refine ⟨⟨⟨⟨⟨⟨⟨⟨⟨⟨⟨⟨⟨⟨⟨⟨rfl, strictEqual_count 1⟩, ?_⟩, ?_⟩, hhuman⟩, hengaged⟩, rfl⟩, rfl⟩,
    ?_⟩, hcaps.length_le⟩, hvalid⟩, hidentities⟩, hcaps.distinct⟩, ?_⟩, hcaps.crosses⟩, ?_⟩, ?_⟩
  · exact h.agent ▸ isText_string state.agentId
  · exact isCount_integer h.takeoverEpoch.1 h.takeoverEpoch.2
  · rw [List.length_map] at hflying
    exact hflying
  · rw [length_normals]
    exact normalCount_eq_countP.trans_le hcaps.normals
  · exact hcard.symm.trans_le hcaps.instances
  · exact List.all_eq_true.mpr fun id _ => decide_eq_true (hcaps.gaps id)

end Raft.Outbox
