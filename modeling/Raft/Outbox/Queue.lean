import Mathlib.Data.List.Basic
import Raft.Foundation.JsString

/-!
# The outbox queue of one agent

Evidence frames wait here for their acks, oldest first.  When the normal
entries are full, an entry that is not in flight is dropped or folded into a
marker: a gap for its daemon instance or, past eight instances, a cross entry.
-/

namespace Raft.Outbox

open Raft.Foundation

def OUTBOX_NORMAL_CAP : Nat := 128
def OUTBOX_GAP_INSTANCES_MAX : Nat := 8
def OUTBOX_GAPS_PER_INSTANCE_MAX : Nat := 2
def OUTBOX_CROSS_MAX : Nat := 2
def OUTBOX_HARD_TOTAL : Nat :=
  OUTBOX_NORMAL_CAP + OUTBOX_GAP_INSTANCES_MAX * OUTBOX_GAPS_PER_INSTANCE_MAX + OUTBOX_CROSS_MAX
def OUTBOX_LAUNCH_CRITICAL_RESERVE : Nat := 4

inductive EntryKind where
  | e1
  | turnCompleted
  | spawned
  | exited
  | startOutcome
  deriving DecidableEq

structure GapCounts where
  e1 : Nat
  turnCompleted : Nat
  spawned : Nat
  exited : Nat
  startOutcome : Nat
  deriving DecidableEq

namespace GapCounts

def zeroCounts : GapCounts := ⟨0, 0, 0, 0, 0⟩

def get (counts : GapCounts) : EntryKind → Nat
  | .e1 => counts.e1
  | .turnCompleted => counts.turnCompleted
  | .spawned => counts.spawned
  | .exited => counts.exited
  | .startOutcome => counts.startOutcome

def addCounts (into source : GapCounts) : GapCounts where
  e1 := into.e1 + source.e1
  turnCompleted := into.turnCompleted + source.turnCompleted
  spawned := into.spawned + source.spawned
  exited := into.exited + source.exited
  startOutcome := into.startOutcome + source.startOutcome

def bump (counts : GapCounts) : EntryKind → GapCounts
  | .e1 => { counts with e1 := counts.e1 + 1 }
  | .turnCompleted => { counts with turnCompleted := counts.turnCompleted + 1 }
  | .spawned => { counts with spawned := counts.spawned + 1 }
  | .exited => { counts with exited := counts.exited + 1 }
  | .startOutcome => { counts with startOutcome := counts.startOutcome + 1 }

@[simp] theorem get_zeroCounts (kind : EntryKind) : zeroCounts.get kind = 0 := by
  cases kind <;> rfl

@[simp] theorem get_addCounts (into source : GapCounts) (kind : EntryKind) :
    (into.addCounts source).get kind = into.get kind + source.get kind := by
  cases kind <;> rfl

theorem get_bump (counts : GapCounts) (bumped kind : EntryKind) :
    (counts.bump bumped).get kind = counts.get kind + if bumped = kind then 1 else 0 := by
  cases bumped <;> cases kind <;> rfl

end GapCounts

/-! ## Entries -/

universe u

variable {φ : Type u}

structure NormalEntry (φ : Type u) where
  kind : EntryKind
  daemonInstanceId : JsString
  clientSeq : Nat
  takeoverEpoch : Int
  frame : φ

structure GapEntry where
  gapId : JsString
  daemonInstanceId : JsString
  takeoverEpoch : Int
  fromSeq : Nat
  toSeq : Nat
  counts : GapCounts
  isSealed : Bool
  deriving DecidableEq

structure CrossEntry where
  gapId : JsString
  instances : List JsString
  takeoverEpoch : Int
  counts : GapCounts
  isSealed : Bool
  deriving DecidableEq

inductive OutboxEntry (φ : Type u) where
  | normal (entry : NormalEntry φ)
  | gap (gap : GapEntry)
  | cross (cross : CrossEntry)

namespace GapEntry

def isOpen (gap : GapEntry) (epoch : Int) : Bool := !gap.isSealed && gap.takeoverEpoch = epoch

def count (gap : GapEntry) (entry : NormalEntry φ) : GapEntry :=
  { gap with
    counts := gap.counts.bump entry.kind
    fromSeq := min gap.fromSeq entry.clientSeq
    toSeq := max gap.toSeq entry.clientSeq }

end GapEntry

namespace CrossEntry

def isOpen (cross : CrossEntry) (epoch : Int) : Bool :=
  !cross.isSealed && cross.takeoverEpoch = epoch

def absorb (cross : CrossEntry) (daemonInstanceId : JsString) (counts : GapCounts) : CrossEntry :=
  { cross with
    counts := cross.counts.addCounts counts
    instances :=
      if daemonInstanceId ∈ cross.instances then cross.instances
      else cross.instances ++ [daemonInstanceId] }

end CrossEntry

namespace OutboxEntry

def isNormal : OutboxEntry φ → Bool
  | .normal _ => true
  | .gap _ | .cross _ => false

def takeoverEpoch : OutboxEntry φ → Int
  | .normal entry => entry.takeoverEpoch
  | .gap marker => marker.takeoverEpoch
  | .cross marker => marker.takeoverEpoch

@[simp] theorem takeoverEpoch_normal (entry : NormalEntry φ) :
    (normal entry).takeoverEpoch = entry.takeoverEpoch := rfl

@[simp] theorem takeoverEpoch_gap (marker : GapEntry) :
    (gap marker : OutboxEntry φ).takeoverEpoch = marker.takeoverEpoch := rfl

@[simp] theorem takeoverEpoch_cross (marker : CrossEntry) :
    (cross marker : OutboxEntry φ).takeoverEpoch = marker.takeoverEpoch := rfl

def gapId : OutboxEntry φ → Option JsString
  | .normal _ => none
  | .gap marker => some marker.gapId
  | .cross marker => some marker.gapId

def gapOf (daemonInstanceId : JsString) : OutboxEntry φ → Option GapEntry
  | .gap marker => if marker.daemonInstanceId = daemonInstanceId then some marker else none
  | .normal _ | .cross _ => none

def gapInstance : OutboxEntry φ → Option JsString
  | .gap marker => some marker.daemonInstanceId
  | .normal _ | .cross _ => none

def crossOf : OutboxEntry φ → Option CrossEntry
  | .cross marker => some marker
  | .normal _ | .gap _ => none

def sealed : OutboxEntry φ → OutboxEntry φ
  | .normal entry => .normal entry
  | .gap marker => .gap { marker with isSealed := true }
  | .cross marker => .cross { marker with isSealed := true }

def isUnsealed : OutboxEntry φ → Bool
  | .normal _ => false
  | .gap marker => !marker.isSealed
  | .cross marker => !marker.isSealed

end OutboxEntry

structure AgentOutboxState (φ : Type u) where
  agentId : JsString
  takeoverEpoch : Int
  protocolEngaged : Option Bool
  humanTakeoverEpoch : Option Int
  entries : List (OutboxEntry φ)
  inFlight : Bool

def freshOutboxState (agentId : JsString) : AgentOutboxState φ :=
  ⟨agentId, 0, none, none, [], false⟩

/-! ## Capacity -/

namespace AgentOutboxState

variable (state : AgentOutboxState φ)

def normalCount : Nat := state.entries.countP OutboxEntry.isNormal

def gapsOf (daemonInstanceId : JsString) : List GapEntry :=
  state.entries.filterMap (OutboxEntry.gapOf daemonInstanceId)

def instancesWithGaps : List JsString :=
  (state.entries.filterMap OutboxEntry.gapInstance).foldl
    (fun seen daemonInstanceId =>
      if daemonInstanceId ∈ seen then seen else seen ++ [daemonInstanceId])
    []

def crossEntries : List CrossEntry := state.entries.filterMap OutboxEntry.crossOf

def openGap (daemonInstanceId : JsString) : Option GapEntry :=
  (state.gapsOf daemonInstanceId).find? fun gap => gap.isOpen state.takeoverEpoch

def openCross : Option CrossEntry :=
  state.crossEntries.find? fun cross => cross.isOpen state.takeoverEpoch

def canCreateCross : Bool := state.crossEntries.length < OUTBOX_CROSS_MAX

def mergeableInstance (except : JsString) : Option JsString :=
  state.instancesWithGaps.find? fun daemonInstanceId =>
    daemonInstanceId ≠ except &&
      (state.gapsOf daemonInstanceId).all fun gap => gap.isOpen state.takeoverEpoch

def crossSlotAvailable : Bool := state.openCross.isSome || state.canCreateCross

def gapSlotAvailable (daemonInstanceId : JsString) : Bool :=
  if (state.openGap daemonInstanceId).isSome then true
  else if (state.gapsOf daemonInstanceId).length ≥ OUTBOX_GAPS_PER_INSTANCE_MAX then false
  else if (state.gapsOf daemonInstanceId).length > 0 ∨
      state.instancesWithGaps.length < OUTBOX_GAP_INSTANCES_MAX then
    true
  else state.crossSlotAvailable && (state.mergeableInstance daemonInstanceId).isSome

def isInFlightIndex (index : Nat) : Bool := state.inFlight && index = 0

/-- The normal entries that are not in flight and pass the test, with their indexes. -/
def outOfFlight (keep : NormalEntry φ → Bool) : List (Nat × NormalEntry φ) :=
  state.entries.zipIdx.filterMap fun indexed => match indexed with
    | (.normal entry, index) =>
        if keep entry && !state.isInFlightIndex index then some (index, entry) else none
    | (.gap _, _) | (.cross _, _) => none

def droppableTurnCompleted : List (Nat × NormalEntry φ) :=
  state.outOfFlight fun entry => entry.kind = .turnCompleted

def foldableIndexes : List (Nat × NormalEntry φ) :=
  state.outOfFlight fun entry =>
    entry.kind ≠ .turnCompleted && entry.takeoverEpoch = state.takeoverEpoch

def canAdmitStart (daemonInstanceId : JsString) : Bool :=
  let normalRoom := (OUTBOX_NORMAL_CAP : Int) - state.normalCount +
    state.droppableTurnCompleted.length + state.foldableIndexes.length
  OUTBOX_LAUNCH_CRITICAL_RESERVE ≤ normalRoom && state.gapSlotAvailable daemonInstanceId &&
    state.crossSlotAvailable

/-! ## Folding -/

/-- An entry object is found again by its rank among the normal entries. -/
def spliceNormal : Nat → List (OutboxEntry φ) → List (OutboxEntry φ) → List (OutboxEntry φ)
  | _, _, [] => []
  | 0, replacement, .normal _ :: rest => replacement ++ rest
  | rank + 1, replacement, .normal entry :: rest =>
      .normal entry :: spliceNormal rank replacement rest
  | rank, replacement, .gap gap :: rest => .gap gap :: spliceNormal rank replacement rest
  | rank, replacement, .cross cross :: rest => .cross cross :: spliceNormal rank replacement rest

def countInGap (entry : NormalEntry φ) : List (OutboxEntry φ) :=
  state.entries.replaceF fun other =>
    ((other.gapOf entry.daemonInstanceId).filter fun gap => gap.isOpen state.takeoverEpoch).map
      fun gap => .gap (gap.count entry)

def absorbIntoCross (entries : List (OutboxEntry φ)) (daemonInstanceId : JsString)
    (counts : GapCounts) : List (OutboxEntry φ) :=
  entries.replaceF fun other =>
    (other.crossOf.filter fun cross => cross.isOpen state.takeoverEpoch).map
      fun cross => .cross (cross.absorb daemonInstanceId counts)

def newCross (crossId : JsString) : CrossEntry :=
  ⟨crossId, [], state.takeoverEpoch, .zeroCounts, false⟩

def mergeInstanceIntoCross (crossId daemonInstanceId : JsString) : AgentOutboxState φ :=
  let firstGap := state.entries.findIdx fun entry => (entry.gapOf daemonInstanceId).isSome
  let opened :=
    if state.openCross.isSome then state.entries
    else state.entries.insertIdx firstGap (.cross (state.newCross crossId))
  let counts := (state.gapsOf daemonInstanceId).foldl
    (fun counts gap => counts.addCounts gap.counts) .zeroCounts
  { state with
    entries := (state.absorbIntoCross opened daemonInstanceId counts).filter
      fun entry => (entry.gapOf daemonInstanceId).isNone }

def foldIntoCross (crossId : JsString) (rank : Nat) (entry : NormalEntry φ) :
    Option (AgentOutboxState φ) :=
  let counts := GapCounts.zeroCounts.bump entry.kind
  if state.openCross.isSome then
    some { state with
      entries := spliceNormal rank []
        (state.absorbIntoCross state.entries entry.daemonInstanceId counts) }
  else if state.canCreateCross then
    some { state with
      entries := spliceNormal rank
        [.cross ((state.newCross crossId).absorb entry.daemonInstanceId counts)] state.entries }
  else none

def prepareGap (crossId daemonInstanceId : JsString) : AgentOutboxState φ :=
  if (state.gapsOf daemonInstanceId).length = 0 ∧
      state.instancesWithGaps.length ≥ OUTBOX_GAP_INSTANCES_MAX then
    match state.mergeableInstance daemonInstanceId with
    | some oldest =>
        if state.crossSlotAvailable then state.mergeInstanceIntoCross crossId oldest else state
    | none => state
  else state

/-- Folds the normal entry at the index into a marker; `none` if no marker slot exists. -/
def foldEntry (crossId gapId : JsString) (index : Nat) (entry : NormalEntry φ) :
    Option (AgentOutboxState φ) :=
  let daemonInstanceId := entry.daemonInstanceId
  let rank := (state.entries.take index).countP OutboxEntry.isNormal
  if (state.openGap daemonInstanceId).isSome then
    some { state with entries := spliceNormal rank [] (state.countInGap entry) }
  else if (state.gapsOf daemonInstanceId).length < OUTBOX_GAPS_PER_INSTANCE_MAX then
    let prepared := state.prepareGap crossId daemonInstanceId
    if (state.gapsOf daemonInstanceId).length > 0 ∨
        prepared.instancesWithGaps.length < OUTBOX_GAP_INSTANCES_MAX then
      let gap : GapEntry :=
        ⟨gapId, daemonInstanceId, state.takeoverEpoch, entry.clientSeq, entry.clientSeq,
          .zeroCounts, false⟩
      some { prepared with
        entries := spliceNormal rank [.gap (gap.count entry)] prepared.entries }
    else prepared.foldIntoCross crossId rank entry
  else state.foldIntoCross crossId rank entry

end AgentOutboxState

/-! ## Operations -/

inductive AppendResult where
  | appended
  | dropped_turn_completed
  | folded
  | no_room
  deriving DecidableEq

namespace AgentOutboxState

variable (state : AgentOutboxState φ)

def push (entry : NormalEntry φ) : AgentOutboxState φ :=
  { state with entries := state.entries ++ [.normal entry] }

def dropTurnCompleted (index : Nat) (dropped : NormalEntry φ) : AgentOutboxState φ :=
  let counted :=
    if dropped.takeoverEpoch = state.takeoverEpoch then state.countInGap dropped
    else state.entries
  { state with entries := counted.eraseIdx index }

/-- The two ids are what fresh markers are named with. -/
def appendToOutbox (crossId gapId : JsString) (entry : NormalEntry φ) (evict : Bool) :
    AgentOutboxState φ × AppendResult :=
  if state.normalCount < OUTBOX_NORMAL_CAP then (state.push entry, .appended)
  else if !evict then (state, .no_room)
  else
    match state.droppableTurnCompleted with
    | (index, dropped) :: _ =>
        ((state.dropTurnCompleted index dropped).push entry, .dropped_turn_completed)
    | [] =>
        if entry.kind = .turnCompleted then (state, .dropped_turn_completed)
        else
          match state.foldableIndexes.findSome? fun foldable =>
              state.foldEntry crossId gapId foldable.1 foldable.2 with
          | some folded => (folded.push entry, .folded)
          | none => (state, .no_room)

def adoptTakeoverEpoch (epoch : Int) : AgentOutboxState φ :=
  if epoch > state.takeoverEpoch then
    { state with
      entries := state.entries.map OutboxEntry.sealed
      takeoverEpoch := epoch }
  else state

end AgentOutboxState

structure OutboxAck where
  daemonInstanceId : Option JsString
  clientSeq : Option Nat
  gapId : Option JsString

def OutboxAck.names (ack : OutboxAck) : OutboxEntry φ → Bool
  | .normal entry =>
      ack.gapId.isNone && some entry.daemonInstanceId = ack.daemonInstanceId &&
        some entry.clientSeq = ack.clientSeq
  | .gap gap => some gap.gapId = ack.gapId
  | .cross cross => some cross.gapId = ack.gapId

namespace AgentOutboxState

variable (state : AgentOutboxState φ)

def ackedIndex (ack : OutboxAck) : Option Nat := state.entries.findIdx? ack.names

def applyOutboxAck (ack : OutboxAck) : AgentOutboxState φ :=
  match state.ackedIndex ack with
  | none => state
  | some index =>
      { state with
        entries := state.entries.eraseIdx index
        inFlight := state.inFlight && !state.isInFlightIndex index }

/-- The mutation by which the oldest entry goes in flight; an in-flight marker is sealed. -/
def markInFlight : AgentOutboxState φ :=
  match state.entries with
  | [] => state
  | oldest :: rest =>
      if !state.inFlight || oldest.isUnsealed then
        { state with
          entries := oldest.sealed :: rest
          inFlight := true }
      else state

/-- The mutation by which an admitted human start records its takeover. -/
def recordHumanTakeover (epoch : Int) : AgentOutboxState φ :=
  if state.humanTakeoverEpoch.any (epoch ≤ ·) then state
  else { state with humanTakeoverEpoch := some epoch }

end AgentOutboxState

end Raft.Outbox
