import Mathlib.Order.Lattice
import Mathlib.Order.MinMax
import Raft.Foundation.CanonicalJson
import Raft.Foundation.InsertionMap
import Raft.Foundation.JsComparison
import Raft.Foundation.JsonKeys
import Raft.Foundation.Utf8

/-!
# The timer runtime

One entry object for each accepted schedule, the current one of every
four-tuple in a map, and the platform timers that were armed for them.  A
platform timer that was cleared may still run its callback once.
-/

namespace Raft.RapTimer

open Raft.Foundation

structure RapTimerCancelInput where
  serverId : JsString
  appId : JsString
  subjectAgentId : JsString
  sourceId : JsString
  deriving DecidableEq

structure RapTimerScheduleInput extends RapTimerCancelInput where
  fireAtMs : JsNumber
  data : JsValue

/-- How `JSON.stringify` spells a number, and `JSON.parse`. -/
structure Json where
  numberText : JsNumber → JsString
  parse : JsString → JsValue

/-- `JSON.stringify(value)`: the keys of an object stay in their order. -/
def Json.stringify (json : Json) (value : JsValue) : JsString :=
  canonicalText json.numberText (fun _ _ => true) value

structure TimerEntry where
  key : JsString
  input : RapTimerCancelInput
  fireAtMs : Nat
  serializedData : JsString
  handle : Option Nat
  deriving DecidableEq

/-- A timeout of the platform; its callback holds on to an entry object. -/
structure PlatformTimer where
  entry : Nat
  armedAt : Int
  dueAt : Int
  cleared : Bool
  ran : Bool
  deriving DecidableEq

/-- Entry objects and platform timers are numbered in the order in which they were made. -/
structure Runtime where
  objects : List TimerEntry
  entries : InsertionMap JsString Nat
  timers : List PlatformTimer

def createRapTimerRuntime : Runtime := ⟨[], .empty, []⟩

structure DueInput where
  serverId : JsString
  appId : JsString
  subjectAgentId : JsString
  data : JsValue

/-! ## Checks -/

def RAP_TIMER_MAX_DATA_BYTES : Nat := 4096

def RAP_TIMER_MAX_SOURCE_ID_BYTES : Nat := 512

def MAX_PLATFORM_DELAY_MS : Int := 2147483647

def timerKey (input : RapTimerCancelInput) : JsString :=
  jsonStrings [input.serverId, input.appId, input.subjectAgentId, input.sourceId]

def isFiniteNumber : JsNumber → Bool
  | .finite _ | .negativeZero => true
  | .nan | .infinity _ => false

mutual

/-- Nothing nested more than 32 deep, and nothing that JSON would leave out or replace. -/
def isJsonValue : (depth : Nat) → JsValue → Bool
  | _, .undefined => false
  | depth, .null => depth ≤ 32
  | depth, .boolean _ => depth ≤ 32
  | depth, .string _ => depth ≤ 32
  | depth, .number value => depth ≤ 32 && isFiniteNumber value
  | depth, .array items => depth ≤ 32 && areJsonValues (depth + 1) items
  | depth, .object fields => depth ≤ 32 && areJsonFields (depth + 1) fields

def areJsonValues : (depth : Nat) → List JsValue → Bool
  | _, [] => true
  | depth, item :: items => isJsonValue depth item && areJsonValues depth items

def areJsonFields : (depth : Nat) → JsObject → Bool
  | _, [] => true
  | depth, (_, value) :: fields => isJsonValue depth value && areJsonFields depth fields

end

def assertSourceId (sourceId : JsString) : Except JsString Unit :=
  if sourceId.length = 0 ∨ RAP_TIMER_MAX_SOURCE_ID_BYTES < utf8Length sourceId then
    .error (js "RAP_TIMER_SOURCE_ID_INVALID")
  else .ok ()

def assertScheduleInput (json : Json) (input : RapTimerScheduleInput) :
    Except JsString (Nat × JsString) :=
  match input.fireAtMs.safeNat with
  | none => .error (js "RAP_TIMER_FIRE_AT_INVALID")
  | some fireAtMs => do
      assertSourceId input.sourceId
      if isJsonValue 0 input.data = false then .error (js "RAP_TIMER_DATA_INVALID")
      else
        let serialized := json.stringify input.data
        if RAP_TIMER_MAX_DATA_BYTES < utf8Length serialized then
          .error (js "RAP_TIMER_DATA_TOO_LARGE")
        else .ok (fireAtMs, serialized)

/-! ## Operations -/

namespace Runtime

variable (json : Json) (runtime : Runtime)

def arm (object : Nat) (now : Int) : Runtime :=
  match runtime.objects[object]? with
  | none => runtime
  | some entry =>
      let remaining := max 0 (entry.fireAtMs - now)
      { runtime with
        timers := runtime.timers ++
          [⟨object, now, now + min remaining MAX_PLATFORM_DELAY_MS, false, false⟩]
        objects := runtime.objects.set object { entry with handle := some runtime.timers.length } }

def disarm (handle : Option Nat) : Runtime :=
  match handle with
  | none => runtime
  | some handle =>
      { runtime with
        timers := runtime.timers.modify handle fun timer => { timer with cleared := true } }

/-- The callback of an entry; the clock is read again when a new timer is armed. -/
def wake (object : Nat) (now rearmNow : Int) : Runtime × Option DueInput :=
  match runtime.objects[object]? with
  | none => (runtime, none)
  | some entry =>
      if runtime.entries.get entry.key ≠ some object then (runtime, none)
      else if now < entry.fireAtMs then (runtime.arm object rearmNow, none)
      else ({ runtime with entries := runtime.entries.delete entry.key },
        some
          { serverId := entry.input.serverId
            appId := entry.input.appId
            subjectAgentId := entry.input.subjectAgentId
            data := json.parse entry.serializedData })

def currentHandle (key : JsString) : Option Nat := do
  let object ← runtime.entries.get key
  let entry ← runtime.objects[object]?
  entry.handle

def isArmed (input : RapTimerScheduleInput) : Except JsString Bool := do
  let (fireAtMs, serializedData) ← assertScheduleInput json input
  match (runtime.entries.get (timerKey input.toRapTimerCancelInput)).bind
      fun object => runtime.objects[object]? with
  | none => .ok false
  | some entry => .ok (entry.fireAtMs = fireAtMs && entry.serializedData = serializedData)

def upsert (entry : TimerEntry) (now : Int) : Runtime :=
  let disarmed := runtime.disarm (runtime.currentHandle entry.key)
  let object := disarmed.objects.length
  let stored : Runtime :=
    { disarmed with
      objects := disarmed.objects ++ [entry]
      entries := disarmed.entries.set entry.key object }
  stored.arm object now

def schedule (input : RapTimerScheduleInput) (now : Int) : Except JsString Runtime := do
  let (fireAtMs, serializedData) ← assertScheduleInput json input
  .ok (runtime.upsert
    { key := timerKey input.toRapTimerCancelInput
      input := input.toRapTimerCancelInput
      fireAtMs
      serializedData
      handle := none } now)

inductive CancelOutcome where
  | cancelled
  | not_found
  deriving DecidableEq

def cancel (input : RapTimerCancelInput) : Except JsString (Runtime × CancelOutcome) := do
  assertSourceId input.sourceId
  let key := timerKey input
  if (runtime.entries.get key).isNone then .ok (runtime, .not_found)
  else
    .ok ({ runtime with entries := runtime.entries.delete key }.disarm (runtime.currentHandle key),
      .cancelled)

/-- The platform runs the callback of a timer that has not run yet, be it cleared or not. -/
def callback (handle : Nat) (now rearmNow : Int) : Runtime × Option DueInput :=
  match runtime.timers[handle]? with
  | none => (runtime, none)
  | some timer =>
      if timer.ran then (runtime, none)
      else
        { runtime with
          timers := runtime.timers.set handle { timer with ran := true } }.wake json timer.entry
            now rearmNow

end Runtime

/-! ## Runs -/

inductive Operation where
  | schedule (input : RapTimerScheduleInput) (now : Int)
  | cancel (input : RapTimerCancelInput)
  | callback (handle : Nat) (now rearmNow : Int)

inductive Event where
  | accepted (object : Nat) (input : RapTimerScheduleInput)
  | cancelled (input : RapTimerCancelInput)
  | dispatched (object : Nat) (now : Int) (due : DueInput)

def callbackEntry (runtime : Runtime) (handle : Nat) : Option Nat :=
  runtime.timers[handle]?.map (·.entry)

def step (json : Json) (state : Runtime × List Event) : Operation → Runtime × List Event
  | .schedule input now =>
      match state.1.schedule json input now with
      | .error _ => state
      | .ok runtime => (runtime, state.2 ++ [.accepted state.1.objects.length input])
  | .cancel input =>
      match state.1.cancel input with
      | .error _ => state
      | .ok (runtime, _) => (runtime, state.2 ++ [.cancelled input])
  | .callback handle now rearmNow =>
      match state.1.callback json handle now rearmNow, callbackEntry state.1 handle with
      | (runtime, some due), some object => (runtime, state.2 ++ [.dispatched object now due])
      | (runtime, _), _ => (runtime, state.2)

end Raft.RapTimer
