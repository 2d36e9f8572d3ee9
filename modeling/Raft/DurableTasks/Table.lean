import Raft.Foundation.JsValue

/-!
# The table of durable tasks

A row is written already claimed by its inline run, and any worker claims it again
once its lease has expired.  Every later write of a claim carries a fence: the row
is open, and still holds the token and the attempt of that claim.
-/

namespace Raft.DurableTasks

open Raft.Foundation

inductive DurableTaskState where
  | opened
  | succeeded
  | needsAttention
  deriving DecidableEq

structure DurableTaskRow where
  id : Nat
  kind : JsString
  payloadVersion : Int
  payload : JsValue
  state : DurableTaskState
  attempts : Nat
  maxAttempts : Nat
  /-- Fencing token of the current attempt; null while waiting for a retry. -/
  claimedBy : Option JsString
  /-- While open: claimed until (running) or the next retry time (waiting). -/
  leaseUntil : Int
  lastError : Option JsString
  createdAt : Int
  updatedAt : Int
  finishedAt : Option Int

/-- A claimed attempt: the fencing token for every write until it finishes. -/
structure DurableTaskClaim where
  task : DurableTaskRow
  claimedBy : JsString
  attempt : Nat

inductive TaskError where
  | permanent (code : JsString)
  | thrown (errorClass : JsString)

structure DurableTaskDefinition where
  kind : JsString
  payloadVersion : Int
  decode : JsValue → Int → Except TaskError Unit
  leaseMs : Int
  maxAttempts : Nat
  backoffMs : Option (Nat → Int)
  retryable : Option (TaskError → Bool)
  errorCode : Option (TaskError → JsString)

inductive TaskResult where
  | ok
  | failed (retryable : Bool) (errorCode : JsString)

inductive DurableTaskOutcome where
  | succeeded
  | retry
  | needsAttention
  | fenced
  deriving DecidableEq

def fenced (claim : DurableTaskClaim) (row : DurableTaskRow) : Bool :=
  row.id = claim.task.id && row.state = .opened && row.claimedBy = some claim.claimedBy &&
    row.attempts = claim.attempt

abbrev DurableTaskTable := Nat → Option DurableTaskRow

def updateWhere (condition : DurableTaskRow → Bool) (set : DurableTaskRow → DurableTaskRow)
    (rows : DurableTaskTable) : DurableTaskTable :=
  fun id => (rows id).map fun row => if condition row then set row else row

def holdsFence (rows : DurableTaskTable) (claim : DurableTaskClaim) : Bool :=
  (rows claim.task.id).any (fenced claim)

def createdRow (id : Nat) (definition : DurableTaskDefinition) (payload : JsValue)
    (claimedBy : JsString)
    (now : Int) : DurableTaskRow where
  id
  kind := definition.kind
  payloadVersion := definition.payloadVersion
  payload
  state := .opened
  attempts := 1
  maxAttempts := definition.maxAttempts
  claimedBy := some claimedBy
  leaseUntil := now + definition.leaseMs
  lastError := none
  createdAt := now
  updatedAt := now
  finishedAt := none

def insertRow (rows : DurableTaskTable) (row : DurableTaskRow) : DurableTaskTable :=
  fun id => if id = row.id then some row else rows id

def extendDurableTaskLease (rows : DurableTaskTable) (claim : DurableTaskClaim)
    (leaseMs now : Int) :
    DurableTaskTable × Bool :=
  (updateWhere (fenced claim)
    (fun row => { row with leaseUntil := now + leaseMs, updatedAt := now }) rows,
    holdsFence rows claim)

/-! ## Finishing -/

def finishOutcome (claim : DurableTaskClaim) : TaskResult → DurableTaskOutcome
  | .ok => .succeeded
  | .failed retryable _ =>
      if retryable && decide (claim.attempt < claim.task.maxAttempts) then .retry
        else .needsAttention

def finishedRow (claim : DurableTaskClaim) (result : TaskResult) (now : Int) (backoffMs : Nat → Int)
    (row : DurableTaskRow) : DurableTaskRow :=
  match result with
  | .ok =>
      { row with
        state := .succeeded
        finishedAt := some now
        claimedBy := none
        lastError := none
        updatedAt := now }
  | .failed retryable errorCode =>
      if retryable && decide (claim.attempt < claim.task.maxAttempts) then
        { row with
          claimedBy := none
          leaseUntil := now + backoffMs claim.attempt
          lastError := some errorCode
          updatedAt := now }
      else
        { row with
          state := .needsAttention
          claimedBy := none
          lastError := some errorCode
          updatedAt := now }

def finishDurableTask (rows : DurableTaskTable) (claim : DurableTaskClaim) (result : TaskResult)
    (now : Int) (backoffMs : Nat → Int) : DurableTaskTable × DurableTaskOutcome :=
  (updateWhere (fenced claim) (finishedRow claim result now backoffMs) rows,
    if holdsFence rows claim then finishOutcome claim result else .fenced)

def failedWith (definition : Option DurableTaskDefinition) (error : TaskError) : TaskResult :=
  match error with
  | .permanent code => .failed false code
  | .thrown errorClass =>
      .failed (((definition.bind (·.retryable)).map (· error)).getD true)
        (((definition.bind (·.errorCode)).map (· error)).getD (js "ERROR_" ++ errorClass))

def taskResult (definition : Option DurableTaskDefinition) (claim : DurableTaskClaim)
    (handled : Except TaskError Unit) : TaskResult :=
  match definition with
  | none => failedWith none (.permanent (js "DURABLE_TASK_KIND_UNKNOWN"))
  | some definition =>
      match definition.decode claim.task.payload claim.task.payloadVersion with
      | .error error => failedWith (some definition) error
      | .ok _ =>
          match handled with
          | .error error => failedWith (some definition) error
          | .ok _ => .ok

/-! ## Recovery -/

def isSpent (now : Int) (row : DurableTaskRow) : Bool :=
  row.state = .opened && row.leaseUntil < now && row.maxAttempts ≤ row.attempts

/-- Tasks whose attempts are spent need attention instead of another claim. -/
def sweepSpent (rows : DurableTaskTable) (now : Int) : DurableTaskTable :=
  updateWhere (isSpent now) (fun row =>
    { row with
      state := .needsAttention
      claimedBy := none
      lastError := some (row.lastError.getD (js "LEASE_EXPIRED"))
      updatedAt := now }) rows

def isClaimable (now : Int) (kinds : List JsString) (row : DurableTaskRow) : Bool :=
  row.state = .opened && row.leaseUntil < now && row.kind ∈ kinds && row.attempts < row.maxAttempts

def claimRows (rows : DurableTaskTable) (ids : List Nat) (claimToken : JsString)
    (leaseMs now : Int) :
    DurableTaskTable :=
  updateWhere (fun row => row.id ∈ ids) (fun row =>
    { row with
      claimedBy := some claimToken
      attempts := row.attempts + 1
      leaseUntil := now + leaseMs
      updatedAt := now }) rows

/-- The separate read after a claim: rows that the token still holds. -/
def readClaims (rows : DurableTaskTable) (ids : List Nat) (claimToken : JsString) :
    List DurableTaskClaim :=
  ids.filterMap fun id =>
    ((rows id).filter fun task => task.claimedBy = some claimToken).map fun task =>
      ⟨task, claimToken, task.attempts⟩

def DURABLE_TASK_RETENTION_MS : Int := 7 * 24 * 60 * 60 * 1000

def isPrunable (now : Int) (row : DurableTaskRow) : Bool :=
  row.state = .succeeded && row.finishedAt.any fun finishedAt => finishedAt <
    now - DURABLE_TASK_RETENTION_MS

def pruneRows (rows : DurableTaskTable) (ids : List Nat) : DurableTaskTable :=
  fun id => if id ∈ ids then none else rows id

end Raft.DurableTasks
