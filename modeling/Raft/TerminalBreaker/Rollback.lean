import Raft.TerminalBreaker.Circuit
import Raft.TerminalBreaker.Finished

/-!
# What a rollback undoes

A rollback right after its claim restores the record, unless the claim dropped an
entry.  Later, evidence of the claimed launch may have moved the circuit: a probe's
rollback then reopens what recovered, or counts an attempt twice, because the
launch is told apart by its claim alone.
-/

namespace Raft.TerminalBreaker

open Raft.Foundation TerminalFailureBreakerState

/-! ## The launch that moved the circuit -/

namespace TerminalFailureBreakerState

variable (record : TerminalFailureBreakerState)

def openingLaunch (frame : TerminalFailureFrame) (nowMs : Int)
    (unreadCeilings : Option (InsertionMap JsString Int)) : Option JsString :=
  if (record.applyTerminalFailureFrame frame nowMs unreadCeilings).openedNow then
    some frame.launchId
  else none

def closingLaunch (frame : TurnCompletedFrame) (nowMs : Int)
    (persistedSessionId : Option JsString) :
    Option JsString :=
  if (record.applyTurnCompletedFrame frame nowMs persistedSessionId).closedNow then
    some frame.launchId
  else none

def endingLaunch (frame : TerminalProcessExitFrame) : Option JsString :=
  if (record.applyTerminalProcessExited frame).probeEnded then record.currentLaunch.map (·.launchId)
  else none

def failingLaunch (input : TerminalStartRejection) : Option JsString :=
  if (record.applyTerminalStartRejectedBeforeSpawn input).spawnErrorCounted then some input.launchId
  else none

/-- The launch whose failure, clean turn, exit or spawn error moves the circuit. -/
def movingLaunch : BreakerEvent → Option JsString
  | .failure frame nowMs unreadCeilings => record.openingLaunch frame nowMs unreadCeilings
  | .turnCompleted frame nowMs persistedSessionId =>
      record.closingLaunch frame nowMs persistedSessionId
  | .processExited frame => record.endingLaunch frame
  | .startRejected input => record.failingLaunch input
  | .outboxFrame frame input =>
      -- A frame that is not judged leaves the circuit where it is.
      match frame with
      | .terminalFailure frame => record.openingLaunch frame input.nowMs input.unreadCeilings
      | .turnCompleted frame => record.closingLaunch frame input.nowMs input.persistedSessionId
      | .processExited daemonInstanceId _ processInstanceId spawnLaunchId launchId =>
          record.endingLaunch
            ⟨daemonInstanceId, processInstanceId, spawnLaunchId, launchId, input.nowMs⟩
      | .startNotSpawned daemonInstanceId _ launchId reason =>
          record.failingLaunch
            ⟨launchId, daemonInstanceId, reason, some input.nowMs, input.unreadCeilings⟩
      | _ => none
  | _ => none

end TerminalFailureBreakerState

structure MovedHistory where
  history : BreakerHistory
  movedBy : Option JsString

def freshMoved : MovedHistory := ⟨freshHistory, none⟩

def movedStep (moved : MovedHistory) (event : BreakerEvent) : MovedHistory :=
  ⟨historyStep moved.history event,
    if (moved.history.record.transition event).state = moved.history.record.state then moved.movedBy
    else moved.history.record.movingLaunch event⟩

theorem history_run (moved : MovedHistory) (events : List BreakerEvent) :
    (run movedStep moved events).history = run historyStep moved.history events := by
  induction events generalizing moved with
  | nil => rfl
  | cons event rest ih => exact ih _

/-! ## What a rollback leaves alone -/

def TerminalFailureBreakerState.identified (record : TerminalFailureBreakerState) :
    List TerminalUnexitedEntry :=
  record.unexited.filter (·.processInstanceId.isSome)

structure KeepsEvidence (moved : MovedHistory) (token : TerminalClaimToken)
    (rolled : TerminalFailureBreakerState) : Prop where
  totalCount : rolled.totalCount = moved.history.record.totalCount
  sameFingerprint : rolled.sameFingerprint = moved.history.record.sameFingerprint
  lastFailure : rolled.lastFailure = moved.history.record.lastFailure
  catchupObligation : rolled.catchupObligation = moved.history.record.catchupObligation
  recentExits : rolled.recentExits = moved.history.record.recentExits
  outboxWatermarks : rolled.outboxWatermarks = moved.history.record.outboxWatermarks
  identified : rolled.identified = moved.history.record.identified
  recovered : moved.history.record.state = .closed → moved.movedBy = some token.launchId →
    rolled.state = .closed
  reopened : moved.history.record.state = .opened → moved.movedBy = some token.launchId →
    rolled.generation = moved.history.record.generation ∧
      rolled.backoffStep = moved.history.record.backoffStep ∧
        rolled.blockedUntilMs = moved.history.record.blockedUntilMs

/-- The claim's own launch already moved the circuit of its probe, or the launch put back is a
probe and engages the breaker for a process that was never protected. -/
def UndoesEvidence (moved : MovedHistory) (token : TerminalClaimToken) : Prop :=
  moved.history.record.ownsCurrentLaunch token = true ∧
    (token.isProbe = true ∧ moved.history.record.state ≠ .halfOpen ∧
        moved.movedBy = some token.launchId ∨
      token.previousLaunch.any (·.isProbe) = true ∧
        ∃ entry ∈ moved.history.record.identified, entry.isProtected = false)

/-- Only the pending entry of the launch and the demand may differ. -/
structure RestoresBefore (record rolled : TerminalFailureBreakerState) (launchId : JsString) :
    Prop where
  fields : { rolled with unexited := record.unexited, wakeDemand := record.wakeDemand } = record
  pending : ∃ kept, rolled.unexited = record.unexited ++ kept ∧
    ∀ entry ∈ kept, entry.spawnLaunchId = launchId ∧ entry.processInstanceId = none

def Overflows (record : TerminalFailureBreakerState) (input : TerminalClaimInput) : Prop :=
  input.capability = true ∧ input.daemonInstanceId ≠ none ∧
    TERMINAL_FAILURE_UNEXITED_MAX ≤ record.unexited.length

/-! ## Undoing a claim -/

namespace TerminalFailureBreakerState

variable {record : TerminalFailureBreakerState}

theorem identified_dropPending (launchId : JsString) (dispatchLeftReplica : Bool) :
    (record.dropPending launchId dispatchLeftReplica).identified = record.identified := by
  rw [dropPending]
  split
  · rfl
  · rw [identified, identified, List.filter_filter]
    refine List.filter_congr fun entry _ => ?_
    cases entry.processInstanceId <;> simp

theorem identified_undoClaim (token : TerminalClaimToken) (nowMs : Int)
    (dispatchLeftReplica : Bool) :
    (record.undoClaim token nowMs dispatchLeftReplica).identified = record.identified := by
  have hlaunch : (record.undoLaunch token nowMs).identified = record.identified := by
    rw [undoLaunch]
    split <;> rfl
  exact (identified_dropPending token.launchId dispatchLeftReplica).trans hlaunch

theorem identified_finishTransition :
    record.finishTransition.identified =
      if record.settleTerminalNeedsManual.isTerminalBreakerEngaged then
        record.identified.map fun entry => { entry with isProtected := true }
      else record.identified := by
  rw [finishTransition, identified, markProtectedIfEngaged, markedUnexited]
  split
  · rw [List.filter_map]
    rfl
  · rfl

theorem undoLaunch_plain {token : TerminalClaimToken} (nowMs : Int)
    (hplain : token.isProbe = false) :
    record.undoLaunch token nowMs = { record with currentLaunch := token.previousLaunch } := by
  rw [undoLaunch, if_neg (by simp [hplain])]

theorem engaged_undoClaim {token : TerminalClaimToken} {nowMs : Int} {dispatchLeftReplica : Bool}
    (hplain : token.isProbe = false) :
    (record.undoClaim token nowMs dispatchLeftReplica).isTerminalBreakerEngaged =
      { record with currentLaunch := token.previousLaunch }.isTerminalBreakerEngaged := by
  rw [undoClaim, dropPending, undoLaunch_plain nowMs hplain]
  split <;> rfl

theorem engaged_of_undoClaim {token : TerminalClaimToken} {nowMs : Int} {dispatchLeftReplica : Bool}
    (hplain : token.isProbe = false) (hprevious : token.previousLaunch.any (·.isProbe) = false)
    (hengaged : (record.undoClaim token nowMs
      dispatchLeftReplica).settleTerminalNeedsManual.isTerminalBreakerEngaged = true) :
    record.isTerminalBreakerEngaged = true := by
  have hsettle : (record.undoClaim token nowMs
      dispatchLeftReplica).isTerminalBreakerEngaged = true := by
    rw [isTerminalBreakerEngaged, settleTerminalNeedsManual, settledBlock] at hengaged
    split at hengaged
    · rw [isTerminalBreakerEngaged, Bool.or_eq_true]
      exact .inl (by simpa using hengaged)
    · exact hengaged
  rw [engaged_undoClaim hplain] at hsettle
  simp only [isTerminalBreakerEngaged, hprevious, Bool.or_eq_true] at hsettle ⊢
  tauto

theorem identified_rollback_iff (h : Finished record) {token : TerminalClaimToken} (nowMs : Int)
    (dispatchLeftReplica : Bool)
    (hprobe : token.isProbe = true → record.isTerminalBreakerEngaged = true) :
    (record.undoClaim token nowMs dispatchLeftReplica).finishTransition.identified =
        record.identified ↔
      ¬ (token.previousLaunch.any (·.isProbe) = true ∧
        ∃ entry ∈ record.identified, entry.isProtected = false) := by
  have hsubset : ∀ entry ∈ record.identified, entry ∈ record.unexited :=
    fun entry hentry => List.mem_of_mem_filter hentry
  rw [identified_finishTransition, identified_undoClaim]
  constructor
  · rintro hkept ⟨hprevious, entry, hentry, hunprotected⟩
    have hplain : token.isProbe = false := by
      by_contra hisProbe
      have hengaged := hprobe (by simpa using hisProbe)
      simp [h.marked hengaged entry (hsubset entry hentry)] at hunprotected
    have hengaged : (record.undoClaim token nowMs
        dispatchLeftReplica).settleTerminalNeedsManual.isTerminalBreakerEngaged = true := by
      have hcurrent : (record.undoClaim token nowMs
          dispatchLeftReplica).settleTerminalNeedsManual.currentLaunch = token.previousLaunch := by
        rw [undoClaim, dropPending, undoLaunch_plain nowMs hplain]
        split <;> rfl
      simp [isTerminalBreakerEngaged, hcurrent, hprevious]
    rw [if_pos hengaged] at hkept
    rw [← hkept] at hentry
    obtain ⟨before, _, rfl⟩ := List.mem_map.mp hentry
    simp at hunprotected
  · intro hnot
    split
    · rename_i hengaged
      refine map_protect_eq fun entry hentry => ?_
      by_contra hunprotected
      have hunprotected : entry.isProtected = false := by simpa using hunprotected
      have hidle : record.isTerminalBreakerEngaged = false := by
        by_contra hon
        simp [h.marked (by simpa using hon) entry (hsubset entry hentry)] at hunprotected
      have hplain : token.isProbe = false := by
        by_contra hisProbe
        simp [hprobe (by simpa using hisProbe)] at hidle
      have hprevious : token.previousLaunch.any (·.isProbe) = false := by
        by_contra hisProbe
        exact hnot ⟨by simpa using hisProbe, entry, hentry, hunprotected⟩
      simp [engaged_of_undoClaim hplain hprevious hengaged] at hidle
    · rfl

/-! ## A rollback right after its claim -/

theorem normalizeTerminalBreaker_eq_of_closed (h : Finished record) {nowMs : Int}
    (hclosed : (record.normalizeTerminalBreaker nowMs).state = .closed) :
    record.normalizeTerminalBreaker nowMs = record := by
  have hlease : record.normalizeTerminalBreakerLease nowMs = record := by
    rw [normalizeTerminalBreakerLease]
    split
    · rfl
    · rename_i lease hlease
      have hopen : (record.normalizeTerminalBreakerLease nowMs).state = .opened := by
        rw [normalizeTerminalBreakerLease, hlease]
        rfl
      have hsame : (record.normalizeTerminalBreaker nowMs).state = .opened := hopen
      simp [hclosed] at hsame
  rw [normalizeTerminalBreaker, hlease, h.finishTransition_eq]

end TerminalFailureBreakerState

structure Extends (record next : TerminalFailureBreakerState) (launchId : JsString)
    (launch : Option TerminalBreakerLaunch) : Prop where
  fields : next = { record with
    currentLaunch := launch, wakeDemand := next.wakeDemand, unexited := next.unexited }
  pending : ∃ kept, next.unexited = record.unexited ++ kept ∧
    ∀ entry ∈ kept, entry.spawnLaunchId = launchId ∧ entry.processInstanceId = none

namespace Extends

variable {record next : TerminalFailureBreakerState} {launchId : JsString}
  {launch : Option TerminalBreakerLaunch}

theorem restores (h : Extends record next launchId record.currentLaunch) :
    RestoresBefore record next launchId where
  fields := by rw [h.fields]
  pending := h.pending

theorem change (h : Extends record next launchId launch) (demand : Option TerminalWakeDemand)
    (kept : List TerminalUnexitedEntry)
    (hkept : ∀ entry ∈ kept, entry.spawnLaunchId = launchId ∧ entry.processInstanceId = none) :
    Extends record { next with wakeDemand := demand, unexited := record.unexited ++ kept } launchId
      launch where
  fields := congrArg (fun extended : TerminalFailureBreakerState => { extended with
    wakeDemand := demand, unexited := record.unexited ++ kept }) h.fields
  pending := ⟨kept, rfl, hkept⟩

theorem putBack (h : Extends record next launchId launch) (other : Option TerminalBreakerLaunch) :
    Extends record { next with currentLaunch := other } launchId other where
  fields := congrArg (fun extended : TerminalFailureBreakerState => { extended with
    currentLaunch := other }) h.fields
  pending := h.pending

theorem dropPending (hidentified : ∀ entry ∈ record.unexited, entry.processInstanceId ≠ none)
    (h : Extends record next launchId launch) (dispatchLeftReplica : Bool) :
    Extends record (next.dropPending launchId dispatchLeftReplica) launchId launch := by
  obtain ⟨kept, hunexited, hkept⟩ := h.pending
  rw [TerminalFailureBreakerState.dropPending]
  split
  · exact h
  · rw [hunexited, List.filter_append]
    have hbase : (record.unexited.filter fun entry =>
        !(entry.spawnLaunchId = launchId && entry.processInstanceId.isNone)) = record.unexited := by
      refine List.filter_eq_self.mpr fun entry hentry => ?_
      have hsome := Option.isSome_iff_ne_none.mpr (hidentified entry hentry)
      simp [hsome]
    rw [hbase]
    exact h.change next.wakeDemand _ fun entry hentry => hkept entry (List.mem_of_mem_filter hentry)

theorem mark (hfinished : Finished record) (h : Extends record next launchId launch)
    (hlaunch : launch.any (·.isProbe) = true → record.currentLaunch.any (·.isProbe) = true) :
    Extends record next.markProtectedIfEngaged launchId launch := by
  obtain ⟨kept, hunexited, hkept⟩ := h.pending
  have hengaged : next.isTerminalBreakerEngaged = true →
    record.isTerminalBreakerEngaged = true := by
    rw [h.fields]
    simp only [isTerminalBreakerEngaged, Bool.or_eq_true]
    tauto
  rw [markProtectedIfEngaged, markedUnexited]
  split
  · rename_i hon
    rw [hunexited, List.map_append, map_protect_eq (hfinished.marked (hengaged hon))]
    exact h.change next.wakeDemand _ (by simpa using hkept)
  · exact h

end Extends

namespace TerminalFailureBreakerState

variable {record : TerminalFailureBreakerState}

theorem pushUnexited_of_fits (entry : TerminalUnexitedEntry)
    (hfits : record.unexited.length < TERMINAL_FAILURE_UNEXITED_MAX) :
    record.pushUnexited entry = { record with unexited := record.unexited ++ [entry] } := by
  have hlength : (record.unexited ++ [entry]).length ≤ TERMINAL_FAILURE_UNEXITED_MAX := by
    simpa using hfits
  simp only [pushUnexited, keepLast_eq_self hlength, Nat.not_lt.mpr hlength, decide_false,
    Bool.or_false]

theorem unexitedOverflow_pushUnexited (entry : TerminalUnexitedEntry)
    (hfull : TERMINAL_FAILURE_UNEXITED_MAX ≤ record.unexited.length) :
    (record.pushUnexited entry).unexitedOverflow = true := by
  have hlength : TERMINAL_FAILURE_UNEXITED_MAX < (record.unexited ++ [entry]).length := by
    simpa using Nat.lt_succ_of_le hfull
  simp only [pushUnexited, hlength, decide_true, Bool.or_true]

theorem extends_pushPending {input : TerminalClaimInput} (isProbe : Bool)
    (hfits : ¬ Overflows record input) :
    Extends record (((record.startLaunch input isProbe).claimDemand input).pushPending input)
      input.launchId (record.startLaunch input isProbe).currentLaunch := by
  have hidle : Extends record ((record.startLaunch input isProbe).claimDemand input)
      input.launchId (record.startLaunch input isProbe).currentLaunch :=
    ⟨rfl, [], by simp [startLaunch, claimDemand], by simp⟩
  rw [pushPending]
  split
  · exact hidle
  · rename_i daemonInstanceId hdaemon
    split
    · rename_i hcapability
      have hlength : ((record.startLaunch input isProbe).claimDemand input).unexited.length <
          TERMINAL_FAILURE_UNEXITED_MAX := by
        simpa [Overflows, hcapability, hdaemon, startLaunch, claimDemand] using hfits
      rw [pushUnexited_of_fits _ hlength]
      exact hidle.change _ [_] (by simp)
    · exact hidle

theorem restores_undoClaim {input : TerminalClaimInput} {token : TerminalClaimToken}
    (h : Finished record) (hnone : record.needsManual = none)
    (hidentified : ∀ entry ∈ record.unexited, entry.processInstanceId ≠ none)
    (hfits : ¬ Overflows record input) (hlaunch : token.launchId = input.launchId)
    (hplain : token.isProbe = false) (hprevious : token.previousLaunch = record.currentLaunch)
    (nowMs : Int) (dispatchLeftReplica : Bool) :
    RestoresBefore record ((record.claimLaunch input false).undoClaim token nowMs
      dispatchLeftReplica).finishTransition input.launchId := by
  have hclaimed : Extends record (record.claimLaunch input false) input.launchId
      (record.startLaunch input false).currentLaunch :=
    (extends_pushPending false hfits).mark h (by simp [startLaunch])
  have hundone : Extends record ((record.claimLaunch input false).undoClaim token nowMs
      dispatchLeftReplica) input.launchId record.currentLaunch := by
    rw [undoClaim, undoLaunch_plain nowMs hplain, hprevious, hlaunch]
    have hdropped :=
      (hclaimed.putBack record.currentLaunch).dropPending hidentified dispatchLeftReplica
    obtain ⟨kept, hunexited, hkept⟩ := hdropped.pending
    exact hunexited ▸ hdropped.change (unclaimedDemand _ input.launchId) kept hkept
  have hsettled : ((record.claimLaunch input false).undoClaim token nowMs
      dispatchLeftReplica).settleTerminalNeedsManual =
        (record.claimLaunch input false).undoClaim token
        nowMs dispatchLeftReplica := by
    rw [settleTerminalNeedsManual, settledBlock, settlesNeedsManual_of_none _
      (by rw [hundone.fields]; exact hnone)]
    rfl
  rw [finishTransition, hsettled]
  exact (hundone.mark h id).restores

theorem unexitedOverflow_claimLaunch {input : TerminalClaimInput} (isProbe : Bool)
    (hfull : Overflows record input) :
    (record.claimLaunch input isProbe).unexitedOverflow = true := by
  obtain ⟨hcapability, hdaemon, hlength⟩ := hfull
  obtain ⟨daemonInstanceId, hdaemon⟩ := Option.ne_none_iff_exists'.mp hdaemon
  rw [claimLaunch, pushPending, hdaemon]
  dsimp only
  rw [if_pos hcapability]
  exact unexitedOverflow_pushUnexited _ hlength

theorem unexitedOverflow_undoClaim (token : TerminalClaimToken) (nowMs : Int)
    (dispatchLeftReplica : Bool) :
    (record.undoClaim token nowMs dispatchLeftReplica).finishTransition.unexitedOverflow =
      record.unexitedOverflow := by
  rw [undoClaim, dropPending, undoLaunch]
  split <;> split <;> rfl

theorem restores_iff (h : Finished record) {input : TerminalClaimInput}
    {state : TerminalFailureBreakerState} {token : TerminalClaimToken}
    (hautomatic : input.control = .automatic)
    (hclaimed : record.claimTerminalStart input = .claimed state token)
    (hplain : token.isProbe = false) (nowMs : Int) (dispatchLeftReplica : Bool) :
    RestoresBefore record (state.rollbackTerminalClaim token nowMs dispatchLeftReplica).1
        input.launchId ↔ ¬ Overflows record input := by
  have heffect := record.claimEffect input
  rw [hclaimed] at heffect
  cases heffect with
  | takenOver hhuman => simp [hautomatic] at hhuman
  | probe => simp [tokenOf] at hplain
  | replaced _ hadmits hclosed _ hstate =>
      rw [normalizeTerminalBreaker_eq_of_closed h hclosed] at hadmits hstate
      obtain ⟨_, hnone, hblocking, hroom, _⟩ := record.automaticRefusal_eq_none hadmits
      have hidentified : ∀ entry ∈ record.unexited, entry.processInstanceId ≠ none := by
        intro entry hentry hpending
        have hconfirmed := List.filter_eq_nil_iff.mp hblocking entry hentry
        rw [isConfirmedLiveCurrentProcess] at hconfirmed
        cases hlaunch : record.currentLaunch <;> simp [hlaunch, hpending] at hconfirmed
      obtain ⟨hcurrent, hgeneration, _⟩ := currentLaunch_claimLaunch record input false
      subst hstate
      rw [rollbackTerminalClaim, if_pos (by
        simp [ownsCurrentLaunch, hcurrent, startLaunch, tokenOf, hgeneration])]
      constructor
      · intro hrestores hfull
        have hoverflow := congrArg TerminalFailureBreakerState.unexitedOverflow hrestores.fields
        simp only [unexitedOverflow_undoClaim, unexitedOverflow_claimLaunch false hfull, hroom]
          at hoverflow
        cases hoverflow
      · intro hfits
        exact restores_undoClaim h hnone hidentified hfits rfl rfl
          (by simp only [tokenOf, normalizeTerminalBreaker_eq_of_closed h hclosed]) nowMs
          dispatchLeftReplica

/-! ## A late rollback -/

theorem evidence_undoClaim (token : TerminalClaimToken) (nowMs : Int) (dispatchLeftReplica : Bool) :
    (record.undoClaim token nowMs dispatchLeftReplica).totalCount = record.totalCount ∧
      (record.undoClaim token nowMs dispatchLeftReplica).sameFingerprint = record.sameFingerprint ∧
      (record.undoClaim token nowMs dispatchLeftReplica).lastFailure = record.lastFailure ∧
      (record.undoClaim token nowMs dispatchLeftReplica).catchupObligation =
        record.catchupObligation ∧
      (record.undoClaim token nowMs dispatchLeftReplica).recentExits = record.recentExits ∧
      (record.undoClaim token nowMs dispatchLeftReplica).outboxWatermarks =
        record.outboxWatermarks := by
  rw [undoClaim, dropPending, undoLaunch]
  split <;> split <;> exact ⟨rfl, rfl, rfl, rfl, rfl, rfl⟩

theorem undoClaim_probe {token : TerminalClaimToken} (nowMs : Int) (dispatchLeftReplica : Bool)
    (hprobe : token.isProbe = true) :
    (record.undoClaim token nowMs dispatchLeftReplica).state = .opened ∧
      (record.undoClaim token nowMs dispatchLeftReplica).generation = record.generation + 1 := by
  rw [undoClaim, dropPending, undoLaunch, if_pos hprobe]
  split <;> exact ⟨rfl, rfl⟩

theorem undoClaim_plain {token : TerminalClaimToken} (nowMs : Int) (dispatchLeftReplica : Bool)
    (hplain : token.isProbe = false) :
    (record.undoClaim token nowMs dispatchLeftReplica).state = record.state ∧
      (record.undoClaim token nowMs dispatchLeftReplica).generation = record.generation ∧
      (record.undoClaim token nowMs dispatchLeftReplica).backoffStep = record.backoffStep ∧
      (record.undoClaim token nowMs dispatchLeftReplica).blockedUntilMs =
        record.blockedUntilMs := by
  rw [undoClaim, dropPending, undoLaunch_plain nowMs hplain]
  split <;> exact ⟨rfl, rfl, rfl, rfl⟩

theorem engaged_of_ownsProbe {history : BreakerHistory} (hknown : Known history)
    {token : TerminalClaimToken} (htoken : token ∈ history.tokens)
    (howner : history.record.ownsCurrentLaunch token = true) (hprobe : token.isProbe = true) :
    history.record.isTerminalBreakerEngaged = true := by
  obtain ⟨launch, hlaunch, hid, _⟩ := history.record.ownsCurrentLaunch_iff.mp howner
  have hidentity := congrArg LaunchIdentity.isProbe (hknown.owner_identity htoken hlaunch hid)
  have hisProbe : launch.isProbe = true := hidentity.trans hprobe
  simp [isTerminalBreakerEngaged, hlaunch, hisProbe]

end TerminalFailureBreakerState

theorem keepsEvidence_iff {moved : MovedHistory} (hfinished : Finished moved.history.record)
    (hknown : Known moved.history) {token : TerminalClaimToken}
    (htoken : token ∈ moved.history.tokens)
    (nowMs : Int) (dispatchLeftReplica : Bool) :
    KeepsEvidence moved token
        (moved.history.record.rollbackTerminalClaim token nowMs dispatchLeftReplica).1 ↔
      ¬ UndoesEvidence moved token := by
  rw [rollbackTerminalClaim]
  split
  · rename_i howner
    have hidentified := identified_rollback_iff hfinished nowMs dispatchLeftReplica
      (engaged_of_ownsProbe hknown htoken howner)
    constructor
    · rintro hkeeps ⟨-, ⟨hprobe, hstate, hmoved⟩ | hprevious⟩
      · obtain ⟨hopened, hgeneration⟩ := @undoClaim_probe moved.history.record token nowMs
          dispatchLeftReplica hprobe
        rcases moved.history.record.state_cases with hclosed | hopen | hhalf
        · exact absurd (hopened.symm.trans (hkeeps.recovered hclosed hmoved)) (by simp)
        · have hsame := hgeneration.symm.trans (hkeeps.reopened hopen hmoved).1
          omega
        · exact hstate hhalf
      · exact hidentified.mp hkeeps.identified hprevious
    · intro hnot
      obtain ⟨htotal, hsame, hfailure, hobligation, hexits, hmarks⟩ :=
        @evidence_undoClaim moved.history.record token nowMs dispatchLeftReplica
      refine ⟨htotal, hsame, hfailure, hobligation, hexits, hmarks,
        hidentified.mpr fun hprevious => hnot ⟨howner, .inr hprevious⟩, fun hclosed hmoved => ?_,
        fun hopen hmoved => ?_⟩
      · cases hprobe : token.isProbe with
        | false => exact (undoClaim_plain nowMs dispatchLeftReplica hprobe).1.trans hclosed
        | true => exact absurd ⟨howner, .inl ⟨hprobe, by simp [hclosed], hmoved⟩⟩ hnot
      · cases hprobe : token.isProbe with
        | false => exact (undoClaim_plain nowMs dispatchLeftReplica hprobe).2
        | true => exact absurd ⟨howner, .inl ⟨hprobe, by simp [hopen], hmoved⟩⟩ hnot
  · rename_i hother
    refine iff_of_true ⟨rfl, rfl, rfl, rfl, rfl, rfl, rfl, fun hclosed _ => hclosed,
      fun _ _ => ⟨rfl, rfl, rfl⟩⟩ fun hundoes => hother hundoes.1

/-- In every run, a rollback keeps all evidence exactly when no evidence of the claimed launch moved
its probe's circuit and no probe is put back over an unprotected process, and a plain claim that is
undone at once leaves the record as it was exactly when its pending entry had room. -/
theorem rollback_undoes_only_its_claim_iff {events : List BreakerEvent}
    (hallowed : Admitted historyStep Allowed freshHistory events) :
    (∀ token ∈ (run historyStep freshHistory events).tokens, token.control = .automatic →
      ∀ nowMs dispatchLeftReplica, KeepsEvidence (run movedStep freshMoved events) token
        ((run historyStep freshHistory events).record.rollbackTerminalClaim token nowMs
          dispatchLeftReplica).1 ↔ ¬ UndoesEvidence (run movedStep freshMoved events) token) ∧
    ∀ input state token, input.control = .automatic →
      (run historyStep freshHistory events).record.claimTerminalStart input = .claimed state token →
      token.isProbe = false → ∀ nowMs dispatchLeftReplica,
        (RestoresBefore (run historyStep freshHistory events).record
          (state.rollbackTerminalClaim token nowMs dispatchLeftReplica).1 input.launchId ↔
            ¬ Overflows (run historyStep freshHistory events).record input) := by
  have hknown : Known (run historyStep freshHistory events) :=
    hallowed.invariant Known (fun _ _ h hguard => h.step hguard) .fresh
  have hfinished : Finished (run historyStep freshHistory events).record :=
    hallowed.invariant (fun history => Finished history.record)
      (fun _ event h _ => finished_transition event h) .fresh
  constructor
  · intro token htoken _ nowMs dispatchLeftReplica
    have hmoved : (run movedStep freshMoved events).history = run historyStep freshHistory events :=
      history_run freshMoved events
    rw [← hmoved] at hknown hfinished htoken ⊢
    exact keepsEvidence_iff hfinished hknown htoken nowMs dispatchLeftReplica
  · intro input state token hautomatic hclaimed hplain nowMs dispatchLeftReplica
    exact restores_iff hfinished hautomatic hclaimed hplain nowMs dispatchLeftReplica

/-! ## A probe that recovered -/

def claimedProbe : List BreakerEvent :=
  [startOn (js "launch-1") 0, failureOf (js "launch-1") 1 1, exitOf (js "launch-1")
    (js "process-1") 2,
    startOn (js "launch-2") 3, failureOf (js "launch-2") 2 4,
    exitOf (js "launch-2") (js "process-2") 5, startOn (js "launch-3") 3600004]

def probeToken : TerminalClaimToken := ⟨js "launch-3", 1, 3600004, true, .automatic, none, 0⟩

def recoveredProbe : List BreakerEvent :=
  claimedProbe ++ [.turnCompleted ⟨js "launch-3", some (js "session-1"), js "daemon-1", 3,
    none, none⟩
    3600005 (some (js "session-1"))]

theorem recoveredProbe_closed :
    Admitted historyStep Allowed freshHistory recoveredProbe ∧
      probeToken ∈ (run movedStep freshMoved recoveredProbe).history.tokens ∧
      (run movedStep freshMoved recoveredProbe).history.record.state = .closed ∧
      (run movedStep freshMoved recoveredProbe).movedBy = some probeToken.launchId ∧
      ((run movedStep freshMoved recoveredProbe).history.record.rollbackTerminalClaim probeToken
        3630004 true).1.state = .opened := by
  decide +kernel

/-- The late rollback reopens the circuit that the probe's own turn closed. -/
theorem late_rollback_reopens :
    Admitted historyStep Allowed freshHistory recoveredProbe ∧
      probeToken ∈ (run movedStep freshMoved recoveredProbe).history.tokens ∧
      ¬ KeepsEvidence (run movedStep freshMoved recoveredProbe) probeToken
        ((run movedStep freshMoved recoveredProbe).history.record.rollbackTerminalClaim probeToken
          3630004 true).1 := by
  obtain ⟨hallowed, htoken, hclosed, hmoved, hopened⟩ := recoveredProbe_closed
  refine ⟨hallowed, htoken, fun hkeeps => ?_⟩
  exact absurd (hopened.symm.trans (hkeeps.recovered hclosed hmoved)) (by simp)

/-- While the probe has sent nothing its rollback keeps all evidence. -/
theorem rollback_keeps_claimedProbe :
    KeepsEvidence (run movedStep freshMoved claimedProbe) probeToken
      ((run historyStep freshHistory claimedProbe).record.rollbackTerminalClaim probeToken
        3630004 true).1 :=
  ((rollback_undoes_only_its_claim_iff
    (recoveredProbe_closed.1.of_initial (List.prefix_append claimedProbe _))).1 probeToken
      (by decide +kernel) rfl 3630004 true).mpr (by
        rintro ⟨-, ⟨-, hstate, -⟩ | ⟨hprevious, -⟩⟩
        · exact hstate (by decide +kernel)
        · cases hprevious)

end Raft.TerminalBreaker
