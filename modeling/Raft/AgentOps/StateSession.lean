import Raft.Foundation.JsComparison
import Raft.Foundation.Run
import Raft.SeenPolicy.FrontierSnapshot

/-!
# The persisted client state

One client's working copy of its stored state: the committed and the pending
inbox cursor, the seen frontier and the held sends.  `save` takes its snapshot
before the store is awaited and clears the dirty flag after it, so operations
and other saves run in between.
-/

namespace Raft.AgentOps

open Raft.Foundation Raft.SeenPolicy

/-! ## The stored state -/

def RAFT_STATE_CONTINUATIONS_PER_TARGET : Nat := 3

def RAFT_STATE_CONTINUATIONS_TOTAL : Nat := 20

structure RaftStateContinuation where
  target : JsString
  idempotencyKey : JsString
  contentHash : JsString
  heldAt : JsString
  deriving DecidableEq

structure RaftState where
  version : Nat
  cursor : Option JsNumber
  pendingCursor : Option JsNumber
  frontier : SeenFrontierSnapshot
  continuations : List RaftStateContinuation

def isNullableCursor (value : Option JsNumber) : Bool := value.all JsNumber.isWholeNumber

def parseRaftState (value : RaftState) : Option RaftState :=
  if isNullableCursor value.cursor && isNullableCursor value.pendingCursor then some value else none

def emptyState : RaftState := ⟨0, none, none, .empty, []⟩

def SameUpToVersion (first second : RaftState) : Prop :=
  { first with version := 0 } = { second with version := 0 }

/-! ## The session -/

structure RaftStateSession where
  frontier : SeenFrontier
  cursor : Option JsNumber
  pendingCursor : Option JsNumber
  continuations : List RaftStateContinuation
  loadedVersion : Option Nat
  dirty : Bool

/-- The state and the `expectedVersion` one call hands to the store. -/
structure SaveCall where
  state : RaftState
  expectedVersion : Option Nat

def dropOldest (target : JsString) : Nat → List RaftStateContinuation → List RaftStateContinuation
  | 0, entries => entries
  | _, [] => []
  | count + 1, entry :: entries =>
      if entry.target = target then dropOldest target count entries
      else entry :: dropOldest target (count + 1) entries

namespace RaftStateSession

def fresh (frontier : SeenFrontier) : RaftStateSession := ⟨frontier, none, none, [], none, false⟩

variable (session : RaftStateSession)

/-- The store's answer, already read; `none` stands for an empty store and a failed load. -/
def ensureLoaded (loaded : Option RaftState) : RaftStateSession :=
  match loaded.bind parseRaftState with
  | none => session
  | some state =>
      { session with
        loadedVersion := some state.version
        cursor := state.cursor
        pendingCursor := state.pendingCursor
        frontier := session.frontier.absorb state.frontier
        continuations := state.continuations }

def setPending (cursor : Option JsNumber) : RaftStateSession :=
  match cursor with
  | none => session
  | some cursor =>
      if session.pendingCursor.any cursor.strictEq then session
      else { session with pendingCursor := some cursor, dirty := true }

/-- The outer `none` is a call without an argument. -/
def commit (cursor : Option (Option JsNumber)) : Option JsNumber × RaftStateSession :=
  match cursor.getD session.pendingCursor with
  | none => (none, session)
  | some next =>
      let cursor := match session.cursor with
        | none => next
        | some cursor => if next.gt cursor then next else cursor
      let pendingCursor := session.pendingCursor.filter fun pending => !pending.le cursor
      (some cursor, { session with cursor := some cursor, pendingCursor, dirty := true })

def rememberContinuation (entry : RaftStateContinuation) : RaftStateSession :=
  let others := session.continuations.filter fun held =>
    !(held.target = entry.target && held.contentHash = entry.contentHash)
  let continuations := others ++ [entry]
  let perTarget := continuations.filter fun held => held.target = entry.target
  let continuations := dropOldest entry.target
    (perTarget.length - RAFT_STATE_CONTINUATIONS_PER_TARGET) continuations
  { session with
    continuations := continuations.drop (continuations.length - RAFT_STATE_CONTINUATIONS_TOTAL)
    dirty := true }

def forgetContinuation (target contentHash : JsString) : RaftStateSession :=
  let continuations := session.continuations.filter fun held =>
    !(held.target = target && held.contentHash = contentHash)
  { session with
    continuations
    dirty := session.dirty || continuations.length != session.continuations.length }

def snapshot : RaftState where
  version := session.loadedVersion.getD 0 + 1
  cursor := session.cursor
  pendingCursor := session.pendingCursor
  frontier := session.frontier.snapshot
  continuations := session.continuations

/-- The call `save` makes before its await; without one it returns true at once. -/
def save (force : Bool) : Option SaveCall :=
  if !session.dirty && !force then none else some ⟨session.snapshot, session.loadedVersion⟩

def saved (call : SaveCall) : RaftStateSession :=
  { session with loadedVersion := some call.state.version, dirty := false }

end RaftStateSession

/-! ## Bookings -/

/-- A frontier operation, in the model context of the view it is made through. -/
inductive FrontierBooking where
  | recordAlias (requested canonical : JsString)
  | recordUpTo (context : Option (Option JsString)) (target : JsString) (seq : JsNumber)
  | recordExact (context : Option (Option JsString)) (target : JsString) (seqs : List JsNumber)

def viewOf (frontier : SeenFrontier) : Option (Option JsString) → SeenFrontier
  | none => frontier
  | some context => frontier.inContext context

def book (frontier : SeenFrontier) (booking : FrontierBooking) : SeenFrontier :=
  let booked := match booking with
    | .recordAlias requested canonical => frontier.recordAlias requested canonical
    | .recordUpTo context target seq => (viewOf frontier context).recordUpTo target seq
    | .recordExact context target seqs => (viewOf frontier context).recordExact target seqs
  { frontier with core := booked.core }

/-! ## A client and its store -/

structure Client where
  session : RaftStateSession
  /-- The calls whose await has not settled. -/
  saving : List SaveCall
  /-- The last state saved successfully, before that the one loaded. -/
  stored : RaftState

inductive ClientEvent where
  | setPending (cursor : Option JsNumber)
  | commit (cursor : Option (Option JsNumber))
  | rememberContinuation (entry : RaftStateContinuation)
  | forgetContinuation (target contentHash : JsString)
  | markDirty (bookings : List FrontierBooking)
  | save (force : Bool)
  | settled (index : Nat) (succeeds : Bool)

def openClient (frontier : SeenFrontier) (loaded : Option RaftState) : Client where
  session := (RaftStateSession.fresh frontier).ensureLoaded loaded
  saving := []
  stored := (loaded.bind parseRaftState).getD emptyState

def Client.start (client : Client) (force : Bool) : Client :=
  match client.session.save force with
  | none => client
  | some call => { client with saving := client.saving ++ [call] }

def Client.settle (client : Client) (index : Nat) (succeeds : Bool) : Client :=
  match client.saving[index]? with
  | none => client
  | some call =>
      let client := { client with saving := client.saving.eraseIdx index }
      if succeeds then { client with session := client.session.saved call, stored := call.state }
      else client

def clientStep (client : Client) : ClientEvent → Client
  | .setPending cursor => { client with session := client.session.setPending cursor }
  | .commit cursor => { client with session := (client.session.commit cursor).2 }
  | .rememberContinuation entry =>
      { client with session := client.session.rememberContinuation entry }
  | .forgetContinuation target contentHash =>
      { client with session := client.session.forgetContinuation target contentHash }
  | .markDirty bookings =>
      { client with session := { client.session with
          frontier := bookings.foldl book client.session.frontier
          dirty := true } }
  | .save force => client.start force
  | .settled index succeeds => client.settle index succeeds

end Raft.AgentOps
