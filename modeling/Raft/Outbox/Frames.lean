import Raft.Foundation.JsCodec
import Raft.Foundation.JsComparison
import Raft.Outbox.Queue

/-!
# The frames that the queue holds

The evidence frames, how they are written into the queue file, and the check
that each field of a stored frame passes before the frame is used.
-/

namespace Raft.Outbox

open Raft.Foundation JsValue

/-! ## Frames -/

inductive AgentRuntimeOutcome where
  | terminal_failure (failureKind fingerprint errorClass : JsString)
  | turn_completed (textEvents toolCalls : Nat) (catchupBatchId : Option JsString)
      (catchupRenderedRows : Option Nat)
  deriving DecidableEq

inductive StartResult where
  | rebound (processInstanceId : JsString)
  | not_spawned (reason : JsString)
  deriving DecidableEq

inductive FrameBody where
  | runtimeOutcome (sessionId : Option JsString) (observedAtMs : ℚ) (traceparent : Option JsString)
      (outcome : AgentRuntimeOutcome)
  | processSpawned (processInstanceId : JsString) (supersededLaunchIds : Option (List JsString))
      (respawn : Option Bool)
  | processExited (processInstanceId : JsString) (spawnLaunchId : Option JsString)
      (code : Option Int) (signal : Option JsString)
  | startOutcome (result : StartResult)
  deriving DecidableEq

structure OutboxFrame where
  agentId : JsString
  daemonInstanceId : JsString
  launchId : JsString
  clientSeq : Nat
  generation : Option Nat
  body : FrameBody
  deriving DecidableEq

def outboxEntryKind (frame : OutboxFrame) : EntryKind :=
  match frame.body with
  | .runtimeOutcome _ _ _ (.terminal_failure ..) => .e1
  | .runtimeOutcome _ _ _ (.turn_completed ..) => .turnCompleted
  | .processSpawned .. => .spawned
  | .processExited .. => .exited
  | .startOutcome .. => .startOutcome

/-! ## Writing and reading frames -/

def runtimeOutcomeToJs : AgentRuntimeOutcome → JsObject
  | .terminal_failure failureKind fingerprint errorClass =>
      [(js "kind", .string (js "terminal_failure")), (js "failureKind", .string failureKind),
        (js "fingerprint", .string fingerprint), (js "errorClass", .string errorClass)]
  | .turn_completed textEvents toolCalls catchupBatchId catchupRenderedRows =>
      [(js "kind", .string (js "turn_completed")), (js "textEvents", JsCodec.count.toJs textEvents),
        (js "toolCalls", JsCodec.count.toJs toolCalls),
        (js "catchupBatchId", JsCodec.text.optional.toJs catchupBatchId),
        (js "catchupRenderedRows", JsCodec.count.optional.toJs catchupRenderedRows)]

def runtimeOutcomeOfJs (value : JsValue) : Option AgentRuntimeOutcome :=
  let kind := (value.read (js "kind")).text
  if kind = js "terminal_failure" then do
    let failureKind ← JsCodec.text.ofJs (value.read (js "failureKind"))
    let fingerprint ← JsCodec.text.ofJs (value.read (js "fingerprint"))
    let errorClass ← JsCodec.text.ofJs (value.read (js "errorClass"))
    some (.terminal_failure failureKind fingerprint errorClass)
  else if kind = js "turn_completed" then do
    let textEvents ← JsCodec.count.ofJs (value.read (js "textEvents"))
    let toolCalls ← JsCodec.count.ofJs (value.read (js "toolCalls"))
    let catchupBatchId ← JsCodec.text.optional.ofJs (value.read (js "catchupBatchId"))
    let catchupRenderedRows ← JsCodec.count.optional.ofJs (value.read (js "catchupRenderedRows"))
    some (.turn_completed textEvents toolCalls catchupBatchId catchupRenderedRows)
  else none

theorem runtimeOutcomeOfJs_toJs (outcome : AgentRuntimeOutcome) :
    runtimeOutcomeOfJs (jsonCopy (.object (runtimeOutcomeToJs outcome))) = some outcome := by
  have hkeys : ((runtimeOutcomeToJs outcome).map Prod.fst).Nodup := by
    cases outcome <;> exact of_decide_eq_true rfl
  have hread := read_jsonCopy hkeys
  simp only [runtimeOutcomeOfJs, hread]
  cases outcome with
  | terminal_failure failureKind fingerprint errorClass => rfl
  | turn_completed textEvents toolCalls catchupBatchId catchupRenderedRows =>
      change (do
        let textEvents ← JsCodec.count.ofJs (jsonCopy (JsCodec.count.toJs textEvents))
        let toolCalls ← JsCodec.count.ofJs (jsonCopy (JsCodec.count.toJs toolCalls))
        let catchupBatchId ← JsCodec.text.optional.ofJs
          (jsonCopy (JsCodec.text.optional.toJs catchupBatchId))
        let catchupRenderedRows ← JsCodec.count.optional.ofJs
          (jsonCopy (JsCodec.count.optional.toJs catchupRenderedRows))
        some (AgentRuntimeOutcome.turn_completed textEvents toolCalls catchupBatchId
          catchupRenderedRows)) = _
      simp only [JsCodec.count.ofJs_toJs, FieldCodec.ofJs_toJs, Option.bind_eq_bind,
        Option.bind_some]

def startResultToJs : StartResult → JsObject
  | .rebound processInstanceId =>
      [(js "kind", .string (js "rebound")), (js "processInstanceId", .string processInstanceId)]
  | .not_spawned reason =>
      [(js "kind", .string (js "not_spawned")), (js "reason", .string reason)]

def startResultOfJs (value : JsValue) : Option StartResult :=
  let kind := (value.read (js "kind")).text
  if kind = js "rebound" then
    (JsCodec.text.ofJs (value.read (js "processInstanceId"))).map .rebound
  else if kind = js "not_spawned" then
    (JsCodec.text.ofJs (value.read (js "reason"))).map .not_spawned
  else none

theorem startResultOfJs_toJs (result : StartResult) :
    startResultOfJs (jsonCopy (.object (startResultToJs result))) = some result := by
  have hkeys : ((startResultToJs result).map Prod.fst).Nodup := by
    cases result <;> exact of_decide_eq_true rfl
  simp only [startResultOfJs, read_jsonCopy hkeys]
  cases result <;> rfl

def frameTypeText : FrameBody → JsString
  | .runtimeOutcome .. => js "agent:runtime:outcome"
  | .processSpawned .. => js "agent:process_spawned"
  | .processExited .. => js "agent:process_exited"
  | .startOutcome .. => js "agent:start:outcome"

def bodyToJs : FrameBody → JsObject
  | .runtimeOutcome sessionId observedAtMs traceparent outcome =>
      [(js "v", JsCodec.count.toJs 1), (js "sessionId", JsCodec.text.nullable.toJs sessionId),
        (js "observedAtMs", JsCodec.rational.toJs observedAtMs),
        (js "traceparent", JsCodec.text.optional.toJs traceparent),
        (js "outcome", .object (runtimeOutcomeToJs outcome))]
  | .processSpawned processInstanceId supersededLaunchIds respawn =>
      [(js "processInstanceId", .string processInstanceId),
        (js "supersededLaunchIds", JsCodec.text.list.optional.toJs supersededLaunchIds),
        (js "respawn", JsCodec.boolean.optional.toJs respawn)]
  | .processExited processInstanceId spawnLaunchId code signal =>
      [(js "processInstanceId", .string processInstanceId),
        (js "spawnLaunchId", JsCodec.text.nullable.toJs spawnLaunchId),
        (js "code", JsCodec.integer.nullable.toJs code),
        (js "signal", JsCodec.text.nullable.toJs signal)]
  | .startOutcome result => [(js "result", .object (startResultToJs result))]

/-- The fields in the order of their names' first use; the order means nothing to a reader. -/
def frameToJs (frame : OutboxFrame) : JsObject :=
  [(js "type", .string (frameTypeText frame.body)), (js "agentId", .string frame.agentId),
    (js "daemonInstanceId", .string frame.daemonInstanceId),
    (js "launchId", .string frame.launchId), (js "clientSeq", JsCodec.count.toJs frame.clientSeq),
    (js "generation", JsCodec.count.optional.toJs frame.generation)] ++ bodyToJs frame.body

def bodyOfJs (value : JsValue) : Option FrameBody :=
  let type := (value.read (js "type")).text
  if type = js "agent:runtime:outcome" then do
    let sessionId ← JsCodec.text.nullable.ofJs (value.read (js "sessionId"))
    let observedAtMs ← JsCodec.rational.ofJs (value.read (js "observedAtMs"))
    let traceparent ← JsCodec.text.optional.ofJs (value.read (js "traceparent"))
    let outcome ← runtimeOutcomeOfJs (value.read (js "outcome"))
    some (.runtimeOutcome sessionId observedAtMs traceparent outcome)
  else if type = js "agent:process_spawned" then do
    let processInstanceId ← JsCodec.text.ofJs (value.read (js "processInstanceId"))
    let supersededLaunchIds ← JsCodec.text.list.optional.ofJs
      (value.read (js "supersededLaunchIds"))
    let respawn ← JsCodec.boolean.optional.ofJs (value.read (js "respawn"))
    some (.processSpawned processInstanceId supersededLaunchIds respawn)
  else if type = js "agent:process_exited" then do
    let processInstanceId ← JsCodec.text.ofJs (value.read (js "processInstanceId"))
    let spawnLaunchId ← JsCodec.text.nullable.ofJs (value.read (js "spawnLaunchId"))
    let code ← JsCodec.integer.nullable.ofJs (value.read (js "code"))
    let signal ← JsCodec.text.nullable.ofJs (value.read (js "signal"))
    some (.processExited processInstanceId spawnLaunchId code signal)
  else if type = js "agent:start:outcome" then
    (startResultOfJs (value.read (js "result"))).map .startOutcome
  else none

def frameOfJs (value : JsValue) : Option OutboxFrame := do
  let agentId ← JsCodec.text.ofJs (value.read (js "agentId"))
  let daemonInstanceId ← JsCodec.text.ofJs (value.read (js "daemonInstanceId"))
  let launchId ← JsCodec.text.ofJs (value.read (js "launchId"))
  let clientSeq ← JsCodec.count.ofJs (value.read (js "clientSeq"))
  let generation ← JsCodec.count.optional.ofJs (value.read (js "generation"))
  let body ← bodyOfJs value
  some ⟨agentId, daemonInstanceId, launchId, clientSeq, generation, body⟩

theorem nodup_frameToJs (frame : OutboxFrame) : ((frameToJs frame).map Prod.fst).Nodup := by
  obtain ⟨agentId, daemonInstanceId, launchId, clientSeq, generation, body⟩ := frame
  cases body <;> exact of_decide_eq_true rfl

theorem bodyOfJs_toJs (frame : OutboxFrame) :
    bodyOfJs (jsonCopy (.object (frameToJs frame))) = some frame.body := by
  simp only [bodyOfJs, read_jsonCopy (nodup_frameToJs frame)]
  obtain ⟨agentId, daemonInstanceId, launchId, clientSeq, generation, body⟩ := frame
  cases body with
  | runtimeOutcome sessionId observedAtMs traceparent outcome =>
      change (do
        let sessionId ← JsCodec.text.nullable.ofJs
          (jsonCopy (JsCodec.text.nullable.toJs sessionId))
        let observedAtMs ← JsCodec.rational.ofJs (jsonCopy (JsCodec.rational.toJs observedAtMs))
        let traceparent ← JsCodec.text.optional.ofJs
          (jsonCopy (JsCodec.text.optional.toJs traceparent))
        let outcome ← runtimeOutcomeOfJs (jsonCopy (.object (runtimeOutcomeToJs outcome)))
        some (FrameBody.runtimeOutcome sessionId observedAtMs traceparent outcome)) = _
      simp only [FieldCodec.ofJs_toJs, runtimeOutcomeOfJs_toJs, Option.bind_eq_bind,
        Option.bind_some]
  | processSpawned processInstanceId supersededLaunchIds respawn =>
      change (do
        let processInstanceId ← JsCodec.text.ofJs
          (jsonCopy (JsCodec.text.toJs processInstanceId))
        let supersededLaunchIds ← JsCodec.text.list.optional.ofJs
          (jsonCopy (JsCodec.text.list.optional.toJs supersededLaunchIds))
        let respawn ← JsCodec.boolean.optional.ofJs
          (jsonCopy (JsCodec.boolean.optional.toJs respawn))
        some (FrameBody.processSpawned processInstanceId supersededLaunchIds respawn)) = _
      simp only [FieldCodec.ofJs_toJs, Option.bind_eq_bind, Option.bind_some]
  | processExited processInstanceId spawnLaunchId code signal =>
      change (do
        let processInstanceId ← JsCodec.text.ofJs
          (jsonCopy (JsCodec.text.toJs processInstanceId))
        let spawnLaunchId ← JsCodec.text.nullable.ofJs
          (jsonCopy (JsCodec.text.nullable.toJs spawnLaunchId))
        let code ← JsCodec.integer.nullable.ofJs (jsonCopy (JsCodec.integer.nullable.toJs code))
        let signal ← JsCodec.text.nullable.ofJs (jsonCopy (JsCodec.text.nullable.toJs signal))
        some (FrameBody.processExited processInstanceId spawnLaunchId code signal)) = _
      simp only [FieldCodec.ofJs_toJs, Option.bind_eq_bind, Option.bind_some]
  | startOutcome result =>
      change (startResultOfJs (jsonCopy (.object (startResultToJs result)))).map _ = _
      rw [startResultOfJs_toJs, Option.map_some]

theorem frameOfJs_toJs (frame : OutboxFrame) :
    frameOfJs (jsonCopy (.object (frameToJs frame))) = some frame := by
  rw [frameOfJs, bodyOfJs_toJs]
  simp only [read_jsonCopy (nodup_frameToJs frame)]
  change (do
    let agentId ← JsCodec.text.ofJs (jsonCopy (JsCodec.text.toJs frame.agentId))
    let daemonInstanceId ← JsCodec.text.ofJs (jsonCopy (JsCodec.text.toJs frame.daemonInstanceId))
    let launchId ← JsCodec.text.ofJs (jsonCopy (JsCodec.text.toJs frame.launchId))
    let clientSeq ← JsCodec.count.ofJs (jsonCopy (JsCodec.count.toJs frame.clientSeq))
    let generation ← JsCodec.count.optional.ofJs
      (jsonCopy (JsCodec.count.optional.toJs frame.generation))
    some (OutboxFrame.mk agentId daemonInstanceId launchId clientSeq generation frame.body)) = _
  simp only [FieldCodec.ofJs_toJs, Option.bind_eq_bind, Option.bind_some]

/-! ## Checking stored frames -/

def isObject : JsValue → Bool
  | .object _ => true
  | _ => false

def isCount : JsValue → Bool
  | .number value => value.isUnsignedSafeInteger
  | _ => false

def isTime : JsValue → Bool
  | .number (.finite value) => 0 ≤ value
  | .number .negativeZero => true
  | _ => false

def isId : JsValue → Bool
  | .string value => !value.isEmpty
  | _ => false

/-- `===` of two values read at different places: arrays and objects are never the same. -/
def strictEqual : JsValue → JsValue → Bool
  | .undefined, .undefined | .null, .null => true
  | .boolean first, .boolean second => first = second
  | .number first, .number second => first.strictEq second
  | .string first, .string second => first = second
  | _, _ => false

def isText (text : JsString) (value : JsValue) : Bool := strictEqual value (.string text)

def isAbsentOr (check : JsValue → Bool) : JsValue → Bool
  | .undefined => true
  | value => check value

def isNullOr (check : JsValue → Bool) : JsValue → Bool
  | .null => true
  | value => check value

def isIdOrNull : JsValue → Bool := isNullOr isId

def isListOf (check : JsValue → Bool) : JsValue → Bool
  | .array items => items.all check
  | _ => false

def isInteger : JsValue → Bool
  | .number (.finite value) => value.den = 1
  | .number .negativeZero => true
  | _ => false

def OUTBOX_FRAME_TYPES : List JsString :=
  [js "agent:runtime:outcome", js "agent:process_spawned", js "agent:process_exited",
    js "agent:start:outcome"]

def isValidOutcome (kind outcome : JsValue) : Bool :=
  isObject outcome &&
    if isText (js "terminal_failure") (outcome.read (js "kind")) then
      isText (js "e1") kind && isId (outcome.read (js "failureKind")) &&
        isId (outcome.read (js "fingerprint")) && isId (outcome.read (js "errorClass"))
    else if isText (js "turn_completed") (outcome.read (js "kind")) then
      isText (js "turnCompleted") kind && isCount (outcome.read (js "textEvents")) &&
        isCount (outcome.read (js "toolCalls"))
    else false

def isValidResult (result : JsValue) : Bool :=
  isObject result &&
    if isText (js "rebound") (result.read (js "kind")) then
      isId (result.read (js "processInstanceId"))
    else if isText (js "not_spawned") (result.read (js "kind")) then
      isId (result.read (js "reason"))
    else false

def isValidBody (value kind : JsValue) : Bool :=
  let type := value.read (js "type")
  if isText (js "agent:runtime:outcome") type then
    strictEqual (value.read (js "v")) (.number (.ofNat 1)) &&
      isId (value.read (js "launchId")) &&
      isNullOr JsValue.isString (value.read (js "sessionId")) &&
      isTime (value.read (js "observedAtMs")) && isValidOutcome kind (value.read (js "outcome"))
  else if isText (js "agent:process_spawned") type then
    isText (js "spawned") kind && isId (value.read (js "processInstanceId")) &&
      isId (value.read (js "launchId")) &&
      isAbsentOr (isListOf isId) (value.read (js "supersededLaunchIds"))
  else if isText (js "agent:process_exited") type then
    isText (js "exited") kind && isId (value.read (js "processInstanceId")) &&
      isIdOrNull (value.read (js "spawnLaunchId")) && isId (value.read (js "launchId")) &&
      isNullOr isInteger (value.read (js "code")) &&
      isNullOr JsValue.isString (value.read (js "signal"))
  else if isText (js "agent:start:outcome") type then
    isText (js "startOutcome") kind && isId (value.read (js "launchId")) &&
      isValidResult (value.read (js "result"))
  else false

def isValidFrame (value : JsValue) (agentId : JsString) (entry : JsValue) : Bool :=
  isObject value && isText agentId (value.read (js "agentId")) &&
    OUTBOX_FRAME_TYPES.any (fun type => isText type (value.read (js "type"))) &&
    strictEqual (value.read (js "daemonInstanceId")) (entry.read (js "daemonInstanceId")) &&
    strictEqual (value.read (js "clientSeq")) (entry.read (js "clientSeq")) &&
    isAbsentOr isCount (value.read (js "generation")) &&
    isValidBody value (entry.read (js "kind"))

/-! ## Well-formed frames -/

def AgentRuntimeOutcome.WellFormed : AgentRuntimeOutcome → Prop
  | .terminal_failure failureKind fingerprint errorClass =>
      failureKind ≠ [] ∧ fingerprint ≠ [] ∧ errorClass ≠ []
  | .turn_completed textEvents toolCalls _ _ =>
      textEvents ≤ maxSafeInteger ∧ toolCalls ≤ maxSafeInteger

def FrameBody.WellFormed : FrameBody → Prop
  | .runtimeOutcome _ observedAtMs _ outcome => 0 ≤ observedAtMs ∧ outcome.WellFormed
  | .processSpawned processInstanceId supersededLaunchIds _ =>
      processInstanceId ≠ [] ∧ ∀ launchIds ∈ supersededLaunchIds, [] ∉ launchIds
  | .processExited processInstanceId spawnLaunchId _ _ =>
      processInstanceId ≠ [] ∧ spawnLaunchId ≠ some []
  | .startOutcome (.rebound processInstanceId) => processInstanceId ≠ []
  | .startOutcome (.not_spawned reason) => reason ≠ []

structure OutboxFrame.WellFormed (frame : OutboxFrame) : Prop where
  daemonInstanceId : frame.daemonInstanceId ≠ []
  launchId : frame.launchId ≠ []
  clientSeq : frame.clientSeq ≤ maxSafeInteger
  generation : ∀ generation ∈ frame.generation, generation ≤ maxSafeInteger
  body : frame.body.WellFormed

def kindText : EntryKind → JsString
  | .e1 => js "e1"
  | .turnCompleted => js "turnCompleted"
  | .spawned => js "spawned"
  | .exited => js "exited"
  | .startOutcome => js "startOutcome"

theorem isCount_count {n : Nat} (h : n ≤ maxSafeInteger) :
    isCount (jsonCopy (JsCodec.count.toJs n)) = true := JsNumber.isUnsignedSafeInteger_ofNat h

theorem isId_string {text : JsString} (h : text ≠ []) : isId (.string text) = true := by
  cases text with
  | nil => exact absurd rfl h
  | cons unit rest => rfl

theorem isText_string (text : JsString) : isText text (.string text) = true := by
  simp [isText, strictEqual]

theorem strictEqual_string (text : JsString) : strictEqual (.string text) (.string text) = true :=
  isText_string text

theorem strictEqual_count (n : Nat) : strictEqual (jsonCopy (JsCodec.count.toJs n))
    (jsonCopy (JsCodec.count.toJs n)) = true := by
  simp [JsCodec.count, JsNumber.ofNat, jsonCopy, JsNumber.jsonCopy, strictEqual,
    JsNumber.strictEq, JsNumber.compares, JsNumber.extended]

theorem isAbsentOr_optional {α : Type*} (codec : JsCodec α) {check : JsValue → Bool}
    {value : Option α} (h : ∀ held ∈ value, check (jsonCopy (codec.toJs held)) = true) :
    isAbsentOr check (jsonCopy (codec.optional.toJs value)) = true := by
  cases value with
  | none => rfl
  | some held =>
      have hheld := h held rfl
      have hpresent := (codec.present held).2
      change isAbsentOr check (jsonCopy (codec.toJs held)) = true
      rw [isAbsentOr]
      · exact hheld
      · exact hpresent

theorem isNullOr_nullable {α : Type*} (codec : JsCodec α) {check : JsValue → Bool}
    {value : Option α} (h : ∀ held ∈ value, check (jsonCopy (codec.toJs held)) = true) :
    isNullOr check (jsonCopy (codec.nullable.toJs value)) = true := by
  cases value with
  | none => rfl
  | some held =>
      have hheld := h held rfl
      have hpresent := (codec.present held).1
      change isNullOr check (jsonCopy (codec.toJs held)) = true
      rw [isNullOr]
      · exact hheld
      · exact hpresent

theorem isListOf_list {α : Type*} (codec : JsCodec α) {check : JsValue → Bool} {values : List α}
    (h : ∀ value ∈ values, check (jsonCopy (codec.toJs value)) = true) :
    isListOf check (jsonCopy (codec.list.toJs values)) = true := by
  change isListOf check (jsonCopy (.array (values.map codec.toJs))) = true
  rw [jsonCopy_array _ _ codec.isDefined_toJs, isListOf, List.all_map]
  exact List.all_eq_true.mpr h

structure Declares (entry : JsValue) (frame : OutboxFrame) : Prop where
  daemonInstanceId : entry.read (js "daemonInstanceId") = .string frame.daemonInstanceId
  clientSeq : entry.read (js "clientSeq") = jsonCopy (JsCodec.count.toJs frame.clientSeq)
  kind : entry.read (js "kind") = .string (kindText (outboxEntryKind frame))

theorem isValidOutcome_toJs {outcome : AgentRuntimeOutcome} (h : outcome.WellFormed)
    (sessionId : Option JsString) (observedAtMs : ℚ) (traceparent : Option JsString)
    (frame : OutboxFrame)
    (hbody : frame.body = .runtimeOutcome sessionId observedAtMs traceparent outcome) :
    isValidOutcome (.string (kindText (outboxEntryKind frame)))
      (jsonCopy (.object (runtimeOutcomeToJs outcome))) = true := by
  have hkeys : ((runtimeOutcomeToJs outcome).map Prod.fst).Nodup := by
    cases outcome <;> exact of_decide_eq_true rfl
  simp only [isValidOutcome, read_jsonCopy hkeys, Bool.and_eq_true]
  refine ⟨rfl, ?_⟩
  cases outcome with
  | terminal_failure failureKind fingerprint errorClass =>
      obtain ⟨hkind, hfingerprint, hclass⟩ := h
      have hdeclared : outboxEntryKind frame = .e1 := by rw [outboxEntryKind, hbody]
      rw [hdeclared]
      change (true && isId (.string failureKind) && isId (.string fingerprint) &&
        isId (.string errorClass)) = true
      rw [isId_string hkind, isId_string hfingerprint, isId_string hclass]
      rfl
  | turn_completed textEvents toolCalls catchupBatchId catchupRenderedRows =>
      have hdeclared : outboxEntryKind frame = .turnCompleted := by rw [outboxEntryKind, hbody]
      rw [hdeclared]
      change (true && isCount (jsonCopy (JsCodec.count.toJs textEvents)) &&
        isCount (jsonCopy (JsCodec.count.toJs toolCalls))) = true
      rw [isCount_count h.1, isCount_count h.2]
      rfl

theorem isValidResult_toJs {result : StartResult}
    (h : (FrameBody.startOutcome result).WellFormed) :
    isValidResult (jsonCopy (.object (startResultToJs result))) = true := by
  have hkeys : ((startResultToJs result).map Prod.fst).Nodup := by
    cases result <;> exact of_decide_eq_true rfl
  simp only [isValidResult, read_jsonCopy hkeys, Bool.and_eq_true]
  refine ⟨rfl, ?_⟩
  cases result with
  | rebound processInstanceId => exact isId_string h
  | not_spawned reason => exact isId_string h

theorem isValidBody_toJs {frame : OutboxFrame} (h : frame.WellFormed) :
    isValidBody (jsonCopy (.object (frameToJs frame)))
      (.string (kindText (outboxEntryKind frame))) = true := by
  simp only [isValidBody, read_jsonCopy (nodup_frameToJs frame)]
  have hlaunchId := isId_string h.launchId
  have hbody := h.body
  rcases heq : frame with ⟨agentId, daemonInstanceId, launchId, clientSeq, generation, body⟩
  rw [heq] at hlaunchId hbody
  cases body with
  | runtimeOutcome sessionId observedAtMs traceparent outcome =>
      have hsession : isNullOr JsValue.isString
          (jsonCopy (JsCodec.text.nullable.toJs sessionId)) = true :=
        isNullOr_nullable _ fun _ _ => rfl
      have htime : isTime (jsonCopy (JsCodec.rational.toJs observedAtMs)) = true :=
        decide_eq_true hbody.1
      have houtcome := isValidOutcome_toJs hbody.2 sessionId observedAtMs traceparent
        ⟨agentId, daemonInstanceId, launchId, clientSeq, generation,
          .runtimeOutcome sessionId observedAtMs traceparent outcome⟩ rfl
      have hversion := strictEqual_count 1
      change (strictEqual (jsonCopy (JsCodec.count.toJs 1)) (jsonCopy (JsCodec.count.toJs 1)) &&
        isId (.string launchId) && isNullOr JsValue.isString
          (jsonCopy (JsCodec.text.nullable.toJs sessionId)) &&
        isTime (jsonCopy (JsCodec.rational.toJs observedAtMs)) &&
        isValidOutcome (.string (kindText (outboxEntryKind ⟨agentId, daemonInstanceId, launchId,
          clientSeq, generation, .runtimeOutcome sessionId observedAtMs traceparent outcome⟩)))
            (jsonCopy (.object (runtimeOutcomeToJs outcome)))) = true
      rw [hversion, hlaunchId, hsession, htime, houtcome]
      rfl
  | processSpawned processInstanceId supersededLaunchIds respawn =>
      have hsuperseded : isAbsentOr (isListOf isId)
          (jsonCopy (JsCodec.text.list.optional.toJs supersededLaunchIds)) = true := by
        refine isAbsentOr_optional _ fun launchIds hlaunchIds => ?_
        refine isListOf_list _ fun id hid => isId_string ?_
        rintro rfl
        exact hbody.2 launchIds hlaunchIds hid
      change (true && isId (.string processInstanceId) && isId (.string launchId) &&
        isAbsentOr (isListOf isId)
          (jsonCopy (JsCodec.text.list.optional.toJs supersededLaunchIds))) = true
      rw [isId_string hbody.1, hlaunchId, hsuperseded]
      rfl
  | processExited processInstanceId spawnLaunchId code signal =>
      have hspawn : isIdOrNull (jsonCopy (JsCodec.text.nullable.toJs spawnLaunchId)) = true := by
        refine isNullOr_nullable _ fun id hid => isId_string ?_
        rintro rfl
        exact hbody.2 hid
      have hcode : isNullOr isInteger (jsonCopy (JsCodec.integer.nullable.toJs code)) = true :=
        isNullOr_nullable _ fun _ _ => rfl
      have hsignal : isNullOr JsValue.isString
          (jsonCopy (JsCodec.text.nullable.toJs signal)) = true :=
        isNullOr_nullable _ fun _ _ => rfl
      change (true && isId (.string processInstanceId) &&
        isIdOrNull (jsonCopy (JsCodec.text.nullable.toJs spawnLaunchId)) &&
        isId (.string launchId) && isNullOr isInteger
          (jsonCopy (JsCodec.integer.nullable.toJs code)) &&
        isNullOr JsValue.isString (jsonCopy (JsCodec.text.nullable.toJs signal))) = true
      rw [isId_string hbody.1, hspawn, hlaunchId, hcode, hsignal]
      rfl
  | startOutcome result =>
      have hresult := isValidResult_toJs hbody
      change (true && isId (.string launchId) &&
        isValidResult (jsonCopy (.object (startResultToJs result)))) = true
      rw [hlaunchId, hresult]
      rfl

theorem isValidFrame_toJs {frame : OutboxFrame} (h : frame.WellFormed) {entry : JsValue}
    (hentry : Declares entry frame) :
    isValidFrame (jsonCopy (.object (frameToJs frame))) frame.agentId entry = true := by
  have hgeneration : isAbsentOr isCount
      (jsonCopy (JsCodec.count.optional.toJs frame.generation)) = true :=
    isAbsentOr_optional _ fun generation hgeneration => isCount_count (h.generation _ hgeneration)
  have htype : OUTBOX_FRAME_TYPES.any
      (fun type => isText type (.string (frameTypeText frame.body))) = true := by
    cases frame.body <;> rfl
  rw [isValidFrame, hentry.kind, isValidBody_toJs h, hentry.daemonInstanceId, hentry.clientSeq]
  simp only [read_jsonCopy (nodup_frameToJs frame)]
  change (true && isText frame.agentId (.string frame.agentId) &&
    OUTBOX_FRAME_TYPES.any (fun type => isText type (.string (frameTypeText frame.body))) &&
    strictEqual (.string frame.daemonInstanceId) (.string frame.daemonInstanceId) &&
    strictEqual (jsonCopy (JsCodec.count.toJs frame.clientSeq))
      (jsonCopy (JsCodec.count.toJs frame.clientSeq)) &&
    isAbsentOr isCount (jsonCopy (JsCodec.count.optional.toJs frame.generation)) && true) = true
  rw [isText_string, htype, strictEqual_string, strictEqual_count, hgeneration]
  rfl

end Raft.Outbox
