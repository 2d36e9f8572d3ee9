import Mathlib.Data.List.Range
import Raft.Foundation.FifoGate
import Raft.Foundation.JsComparison

/-!
# The gate before the inbox route

Requests beyond the concurrency limit wait in a bounded queue, from which a time
limit or the client's disconnect takes them.  A request is named by its place
among the calls of `acquire`.  The promises are kept as the list of their
settlements, and the leases that are not released yet by their requests.
-/

namespace Raft.Concurrency

open Raft.Foundation

/-! ## Options -/

structure InboxRouteBackpressureOptions where
  maxConcurrency : JsNumber
  maxQueue : JsNumber
  queueTimeoutMs : JsNumber

structure BackpressureLimits where
  maxConcurrency : Nat
  maxQueue : Nat
  queueTimeoutMs : Nat
  maxConcurrency_pos : 0 < maxConcurrency
  queueTimeoutMs_pos : 0 < queueTimeoutMs

def requirePositiveInteger (name : String) (value : JsNumber) :
    Except JsString { n : Nat // 0 < n } :=
  match value.safeNat with
  | some n =>
      if h : 0 < n then .ok ⟨n, h⟩ else .error (js name ++ js " must be a positive integer")
  | none => .error (js name ++ js " must be a positive integer")

def requireNonnegativeInteger (name : String) (value : JsNumber) : Except JsString Nat :=
  match value.safeNat with
  | some n => .ok n
  | none => .error (js name ++ js " must be a nonnegative integer")

def backpressureLimits (options : InboxRouteBackpressureOptions) :
    Except JsString BackpressureLimits := do
  let maxConcurrency ← requirePositiveInteger "maxConcurrency" options.maxConcurrency
  let maxQueue ← requireNonnegativeInteger "maxQueue" options.maxQueue
  let queueTimeoutMs ← requirePositiveInteger "queueTimeoutMs" options.queueTimeoutMs
  .ok ⟨maxConcurrency, maxQueue, queueTimeoutMs, maxConcurrency.2, queueTimeoutMs.2⟩

/-! ## State -/

inductive InboxBackpressureRejectReason where
  | queue_full
  | queue_timeout
  | request_aborted
  deriving DecidableEq

structure InboxBackpressureSnapshot where
  active : ℤ
  queued : Nat
  maxConcurrency : Nat
  maxQueue : Nat
  admittedTotal : Nat
  queuedTotal : Nat
  rejectedTotal : Nat
  timedOutTotal : Nat
  maxObservedActive : ℤ
  maxObservedQueued : Nat
  deriving DecidableEq

structure InboxBackpressureLease where
  queued : Bool
  waitMs : ℤ
  snapshot : InboxBackpressureSnapshot
  deriving DecidableEq

inductive Settlement where
  | resolved (lease : InboxBackpressureLease)
  | rejected (reason : InboxBackpressureRejectReason)
  deriving DecidableEq

structure PendingAcquire where
  request : Nat
  enqueuedAt : ℤ
  signal : Option Nat
  deriving DecidableEq

structure InboxRouteBackpressure where
  limits : BackpressureLimits
  pending : List PendingAcquire
  active : ℤ
  admittedTotal : Nat
  queuedTotal : Nat
  rejectedTotal : Nat
  timedOutTotal : Nat
  maxObservedActive : ℤ
  maxObservedQueued : Nat
  /-- The calls of `acquire` so far. -/
  requests : Nat
  /-- The abort signals that have been raised. -/
  aborted : List Nat
  /-- What the promises were resolved or rejected with, in that order. -/
  settled : List (Nat × Settlement)
  /-- The requests whose lease has `released` false. -/
  held : List Nat

namespace InboxRouteBackpressure

def start (limits : BackpressureLimits) : InboxRouteBackpressure :=
  ⟨limits, [], 0, 0, 0, 0, 0, 0, 0, 0, [], [], []⟩

def create (options : InboxRouteBackpressureOptions) : Except JsString InboxRouteBackpressure :=
  (backpressureLimits options).map start

variable (gate : InboxRouteBackpressure)

def snapshot : InboxBackpressureSnapshot where
  active := gate.active
  queued := gate.pending.length
  maxConcurrency := gate.limits.maxConcurrency
  maxQueue := gate.limits.maxQueue
  admittedTotal := gate.admittedTotal
  queuedTotal := gate.queuedTotal
  rejectedTotal := gate.rejectedTotal
  timedOutTotal := gate.timedOutTotal
  maxObservedActive := gate.maxObservedActive
  maxObservedQueued := gate.maxObservedQueued

def isAborted : Option Nat → Bool
  | none => false
  | some signal => signal ∈ gate.aborted

/-- `rejectedTotal += 1` and the rejection of the promise. -/
def reject (request : Nat) (reason : InboxBackpressureRejectReason) : InboxRouteBackpressure :=
  { gate with
    rejectedTotal := gate.rejectedTotal + 1
    settled := gate.settled ++ [(request, .rejected reason)] }

def createLease (queued : Bool) (startedAt nowMs : ℤ) : InboxBackpressureLease where
  queued := queued
  waitMs := if queued then max 0 (nowMs - startedAt) else 0
  snapshot := gate.snapshot

/-- The four lines that both ways in share, and the lease. -/
def letIn (request : Nat) (queued : Bool) (startedAt nowMs : ℤ) : InboxRouteBackpressure :=
  let counted : InboxRouteBackpressure :=
    { gate with
      active := gate.active + 1
      admittedTotal := gate.admittedTotal + 1
      maxObservedActive := max gate.maxObservedActive (gate.active + 1) }
  { counted with
    settled := gate.settled ++ [(request, .resolved (counted.createLease queued startedAt nowMs))]
    held := gate.held ++ [request] }

def enqueue (request : Nat) (signal : Option Nat) (nowMs : ℤ) : InboxRouteBackpressure :=
  { gate with
    queuedTotal := gate.queuedTotal + 1
    pending := gate.pending ++ [⟨request, nowMs, signal⟩]
    maxObservedQueued := max gate.maxObservedQueued (gate.pending.length + 1) }

def acquire (signal : Option Nat) (nowMs : ℤ) : InboxRouteBackpressure :=
  let called : InboxRouteBackpressure := { gate with requests := gate.requests + 1 }
  if gate.isAborted signal then called.reject gate.requests .request_aborted
  else if gate.active < gate.limits.maxConcurrency then
    called.letIn gate.requests false nowMs nowMs
  else if gate.pending.length ≥ gate.limits.maxQueue then
    called.reject gate.requests .queue_full
  else called.enqueue gate.requests signal nowMs

/-- `pending` is spliced out, if it is still there. -/
def removePending (request : Nat) : Option InboxRouteBackpressure :=
  if gate.pending.any fun entry => entry.request = request then
    some { gate with pending := gate.pending.eraseP fun entry => entry.request = request }
  else none

def timedOut (request : Nat) : InboxRouteBackpressure :=
  match gate.removePending request with
  | none => gate
  | some removed =>
      { removed.reject request .queue_timeout with timedOutTotal := removed.timedOutTotal + 1 }

/-- `onAbort`, which runs once the signal of the entry is raised. -/
def onAbort (request : Nat) : InboxRouteBackpressure :=
  match gate.pending.find? fun entry => entry.request = request with
  | none => gate
  | some entry =>
      if gate.isAborted entry.signal then
        ((gate.removePending request).getD gate).reject request .request_aborted
      else gate

def drainFrom (nowMs : ℤ) : List PendingAcquire → InboxRouteBackpressure → InboxRouteBackpressure
  | [], gate => gate
  | entry :: rest, gate =>
      if gate.active < gate.limits.maxConcurrency then
        let shifted : InboxRouteBackpressure := { gate with pending := rest }
        if gate.isAborted entry.signal then
          drainFrom nowMs rest (shifted.reject entry.request .request_aborted)
        else drainFrom nowMs rest (shifted.letIn entry.request true entry.enqueuedAt nowMs)
      else gate

def drain (nowMs : ℤ) : InboxRouteBackpressure := drainFrom nowMs gate.pending gate

/-- `release` of the lease of a request; a second call does nothing. -/
def release (request : Nat) (nowMs : ℤ) : InboxRouteBackpressure :=
  if request ∈ gate.held then
    drain { gate with held := gate.held.erase request, active := gate.active - 1 } nowMs
  else gate

end InboxRouteBackpressure

/-- What can happen to the gate.  A signal is raised first and its listeners run one by one. -/
inductive BackpressureEvent where
  | acquire (signal : Option Nat) (nowMs : ℤ)
  | abort (signal : Nat)
  | onAbort (request : Nat)
  | timedOut (request : Nat)
  | release (request : Nat) (nowMs : ℤ)

def BackpressureEvent.isAcquire : BackpressureEvent → Bool
  | .acquire _ _ => true
  | .abort _ | .onAbort _ | .timedOut _ | .release _ _ => false

namespace InboxRouteBackpressure

def step (gate : InboxRouteBackpressure) : BackpressureEvent → InboxRouteBackpressure
  | .acquire signal nowMs => gate.acquire signal nowMs
  | .abort signal => { gate with aborted := signal :: gate.aborted }
  | .onAbort request => gate.onAbort request
  | .timedOut request => gate.timedOut request
  | .release request nowMs => gate.release request nowMs

end InboxRouteBackpressure

end Raft.Concurrency
