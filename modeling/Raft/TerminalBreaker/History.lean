import Raft.TerminalBreaker.Effects

/-!
# Histories of a breaker

The record together with the tokens of the claims it granted.  Claims have
distinct launch ids, and only a granted claim is rolled back.  Every launch the
record names was claimed, and a launch keeps the identity of its claim.
-/

namespace Raft.TerminalBreaker

open Raft.Foundation TerminalFailureBreakerState

structure BreakerHistory where
  record : TerminalFailureBreakerState
  tokens : List TerminalClaimToken

def freshHistory : BreakerHistory := ⟨freshTerminalFailureBreakerState, []⟩

def grantedTokens (record : TerminalFailureBreakerState) : BreakerEvent → List TerminalClaimToken
  | .claim input => (record.claimTerminalStart input).tokens
  | _ => []

def historyStep (history : BreakerHistory) (event : BreakerEvent) : BreakerHistory :=
  ⟨history.record.transition event, history.tokens ++ grantedTokens history.record event⟩

def Allowed (history : BreakerHistory) : BreakerEvent → Prop
  | .claim input => ∀ token ∈ history.tokens, token.launchId ≠ input.launchId
  | .rollback token _ _ => token ∈ history.tokens
  | _ => True

instance (history : BreakerHistory) (event : BreakerEvent) : Decidable (Allowed history event) :=
  match event with
  | .claim input =>
      inferInstanceAs (Decidable (∀ token ∈ history.tokens, token.launchId ≠ input.launchId))
  | .rollback token _ _ => inferInstanceAs (Decidable (token ∈ history.tokens))
  | .failure .. | .turnCompleted .. | .gate _ | .lift .. | .manualStop _ | .startAck _
  | .processSpawned _ | .processExited _ | .daemonReady .. | .startRejected _ | .outboxFrame ..
  | .marker .. | .catchupBuild .. | .attachBatch _ => isTrue trivial

/-! ## Identities of launches -/

structure LaunchIdentity where
  launchId : JsString
  generation : Nat
  isProbe : Bool
  claimedAtMs : Int
  deriving DecidableEq

def TerminalBreakerLaunch.identity (launch : TerminalBreakerLaunch) : LaunchIdentity :=
  ⟨launch.launchId, launch.generation, launch.isProbe, launch.claimedAtMs⟩

def TerminalClaimToken.identity (token : TerminalClaimToken) : LaunchIdentity :=
  ⟨token.launchId, token.generation, token.isProbe, token.claimedAtMs⟩

namespace TerminalFailureBreakerState

def identities (record : TerminalFailureBreakerState) : List LaunchIdentity :=
  (record.currentLaunch.toList ++ record.lastProbe.toList).map (·.identity)

variable {record next : TerminalFailureBreakerState}

theorem mem_identities {identity : LaunchIdentity} :
    identity ∈ record.identities ↔
      (∃ launch, record.currentLaunch = some launch ∧ launch.identity = identity) ∨
        ∃ probe, record.lastProbe = some probe ∧ probe.identity = identity := by
  simp [identities, Option.mem_toList]

theorem identities_subset
    (hcurrent : ∀ launch, next.currentLaunch = some launch → launch.identity ∈ record.identities)
    (hprobe : ∀ probe, next.lastProbe = some probe → probe.identity ∈ record.identities) :
    next.identities ⊆ record.identities := by
  intro identity hidentity
  rcases mem_identities.mp hidentity with ⟨launch, hlaunch, rfl⟩ | ⟨probe, hlast, rfl⟩
  · exact hcurrent launch hlaunch
  · exact hprobe probe hlast

theorem identity_mem_of_current {launch : TerminalBreakerLaunch} {identity : LaunchIdentity}
    (h : record.currentLaunch = some launch) (hidentity : launch.identity = identity) :
    identity ∈ record.identities :=
  mem_identities.mpr (.inl ⟨launch, h, hidentity⟩)

theorem identity_mem_of_lastProbe {probe : TerminalBreakerLaunch} {identity : LaunchIdentity}
    (h : record.lastProbe = some probe) (hidentity : probe.identity = identity) :
    identity ∈ record.identities :=
  mem_identities.mpr (.inr ⟨probe, h, hidentity⟩)

theorem identities_map (change : TerminalBreakerLaunch → TerminalBreakerLaunch)
    (hidentity : ∀ launch, (change launch).identity = launch.identity)
    (hcurrent : next.currentLaunch = record.currentLaunch.map change)
    (hprobe : next.lastProbe = record.lastProbe) : next.identities ⊆ record.identities := by
  refine identities_subset (fun launch hlaunch => ?_) fun probe hlast => ?_
  · rw [hcurrent, Option.map_eq_some_iff] at hlaunch
    obtain ⟨held, hheld, rfl⟩ := hlaunch
    exact hidentity held ▸ identity_mem_of_current hheld rfl
  · exact identity_mem_of_lastProbe (hprobe ▸ hlast) rfl

theorem identities_normalizeTerminalBreakerLease (nowMs : Int) :
    (record.normalizeTerminalBreakerLease nowMs).identities ⊆ record.identities := by
  rw [normalizeTerminalBreakerLease]
  split
  · exact List.Subset.refl _
  · refine identities_subset (fun launch hlaunch => ?_) fun probe hlast => ?_
    · cases hlaunch
    · exact identity_mem_of_current hlast rfl

end TerminalFailureBreakerState

section

variable {record normalized next : TerminalFailureBreakerState}

theorem FailureEffect.identities {frame : TerminalFailureFrame} {nowMs : Int}
    {unreadCeilings : Option (InsertionMap JsString Int)}
    (hlease : normalized.identities ⊆ record.identities)
    (h : FailureEffect record frame nowMs unreadCeilings normalized next) :
    next.identities ⊆ record.identities := by
  cases h with
  | ignored => exact List.Subset.refl _
  | late probe _ hprobe =>
      refine List.Subset.trans (identities_subset (fun launch hlaunch => ?_)
        fun last hlast => ?_) hlease
      · exact identity_mem_of_current hlaunch rfl
      · cases hlast
        exact identity_mem_of_lastProbe hprobe rfl
  | probeFailed launch _ hlaunch | counted launch _ hlaunch | opened launch _ _ hlaunch =>
      refine List.Subset.trans (identities_subset (fun held hheld => ?_)
        fun last hlast => ?_) hlease
      · cases hheld
        exact identity_mem_of_current hlaunch rfl
      · exact identity_mem_of_lastProbe hlast rfl

theorem TurnEffect.identities {frame : TurnCompletedFrame} {nowMs : Int}
    (hlease : normalized.identities ⊆ record.identities)
    (h : TurnEffect record frame nowMs normalized next) : next.identities ⊆ record.identities := by
  cases h with
  | ignored => exact List.Subset.refl _
  | late probe _ _ hprobe =>
      refine List.Subset.trans (identities_subset (fun held hheld => ?_)
        fun last hlast => ?_) hlease
      · cases hheld
        exact identity_mem_of_lastProbe hprobe rfl
      · cases hlast
  | recovered launch _ hlaunch | completed launch _ hlaunch =>
      refine List.Subset.trans (identities_subset (fun held hheld => ?_)
        fun last hlast => ?_) hlease
      · cases hheld
        exact identity_mem_of_current hlaunch rfl
      · exact identity_mem_of_lastProbe hlast rfl

theorem GateEffect.identities {input : TerminalWakeGateInput} {result : TerminalWakeGateResult}
    (hnormalized : normalized.identities ⊆ record.identities)
    (h : GateEffect record input normalized result) :
    result.state.identities ⊆ record.identities := by
  cases h <;> exact hnormalized

theorem ManualStopEffect.identities {nowMs : Int}
    (hlease : normalized.identities ⊆ record.identities)
    (h : ManualStopEffect nowMs normalized next) : next.identities ⊆ record.identities := by
  cases h with
  | stopped =>
      refine List.Subset.trans (identities_subset (fun held hheld => ?_)
        fun last hlast => ?_) hlease
      · cases hheld
      · exact identity_mem_of_lastProbe hlast rfl
  | idle | cancelled => exact hlease

theorem AckEffect.identities {ack : TerminalStartAck}
    (h : AckEffect record ack (record.markTakeover ack.launchId) next) :
    next.identities ⊆ record.identities := by
  have hmarked : (record.markTakeover ack.launchId).identities ⊆ record.identities := by
    refine identities_map _ (fun launch => ?_) rfl rfl
    split <;> rfl
  cases h with
  | notRebind => exact List.Subset.refl _
  | exited | merged | filled | unmatched => exact hmarked

theorem identities_resetSpawnError (launches : List JsString) :
    (record.resetSpawnError launches).identities = record.identities := by
  rw [TerminalFailureBreakerState.resetSpawnError]
  split <;> rfl

theorem identities_settleSpawned (frame : TerminalProcessSpawnedFrame) :
    (record.settleSpawned frame).identities ⊆ record.identities := by
  refine identities_map _ (fun launch => ?_) rfl rfl
  split <;> rfl

theorem SpawnEffect.identities {frame : TerminalProcessSpawnedFrame}
    (h : SpawnEffect frame record next) : next.identities ⊆ record.identities := by
  cases h with
  | unknownExit | exited | acknowledged => exact List.Subset.refl _
  | merged | filled | tracked => exact identities_settleSpawned frame

theorem identities_endCarried (carried : List JsString) (atMs : Int) :
    (record.endCarried carried atMs).1.identities ⊆ record.identities := by
  rw [TerminalFailureBreakerState.endCarried]
  split
  · rename_i launch hlaunch
    have hheld := (Option.filter_eq_some_iff.mp hlaunch).1
    rw [TerminalFailureBreakerState.endLaunch]
    split <;> refine identities_subset (fun held hend => ?_) fun last hlast => ?_
    all_goals first
      | exact identity_mem_of_lastProbe hlast rfl
      | cases hend
        exact identity_mem_of_current hheld rfl
  · refine identities_subset (fun held hheld => identity_mem_of_current hheld rfl)
      fun last hlast => ?_
    simp only [TerminalFailureBreakerState.endLastProbe, Option.map_eq_some_iff] at hlast
    obtain ⟨probe, hprobe, rfl⟩ := hlast
    split <;> exact identity_mem_of_lastProbe hprobe rfl

theorem ExitEffect.identities {frame : TerminalProcessExitFrame}
    (h : ExitEffect record frame next) :
    next.identities ⊆ record.identities := by
  cases h with
  | removed index => exact identities_endCarried _ frame.atMs
  | acknowledged | unmatched => exact List.Subset.refl _

theorem identities_dropUntracked (daemonInstanceId : JsString) (nowMs : Int) :
    (record.dropUntracked daemonInstanceId nowMs).identities = record.identities := by
  rw [TerminalFailureBreakerState.dropUntracked]
  split <;> rfl

theorem identities_blockOnRestart (protectedOld : List TerminalUnexitedEntry) (nowMs : Int) :
    (record.blockOnRestart protectedOld nowMs).identities = record.identities := by
  rw [TerminalFailureBreakerState.blockOnRestart]
  split <;> rfl

theorem ReadyEffect.identities {daemonInstanceId : JsString} {nowMs : Int}
    (h : ReadyEffect record daemonInstanceId nowMs next) : next.identities ⊆ record.identities := by
  cases h with
  | current => exact List.Subset.refl _
  | retired =>
      have heq (protectedOld : List TerminalUnexitedEntry) :
          ((record.markProtectedIfEngaged.dropUntracked daemonInstanceId nowMs).blockOnRestart
            protectedOld nowMs).identities = record.identities :=
        (identities_blockOnRestart protectedOld nowMs).trans
          (identities_dropUntracked daemonInstanceId nowMs)
      intro identity hidentity
      exact heq _ ▸ hidentity

theorem identities_rejectStart (input : TerminalStartRejection) :
    (record.rejectStart input).identities = record.identities := by
  rw [TerminalFailureBreakerState.rejectStart]
  split <;> rfl

theorem identities_countSpawnError {launch : TerminalBreakerLaunch} (nowMs : Int)
    (unreadCeilings : Option (InsertionMap JsString Int))
    (hlaunch : record.currentLaunch = some launch) :
    (record.countSpawnError launch nowMs unreadCeilings).identities ⊆ record.identities := by
  rw [TerminalFailureBreakerState.countSpawnError]
  split <;> refine identities_subset (fun held hheld => ?_) fun last hlast => ?_
  all_goals first
    | exact identity_mem_of_lastProbe hlast rfl
    | cases hheld
      exact identity_mem_of_current hlaunch rfl

theorem currentLaunch_rejectStart (input : TerminalStartRejection) :
    (record.rejectStart input).currentLaunch = record.currentLaunch := by
  rw [TerminalFailureBreakerState.rejectStart]
  split <;> rfl

theorem RejectionEffect.identities {input : TerminalStartRejection}
    (hlease : normalized.identities ⊆ record.identities)
    (h : RejectionEffect input normalized next) : next.identities ⊆ record.identities := by
  have hrejected : (normalized.rejectStart input).identities ⊆ record.identities := by
    rw [identities_rejectStart]
    exact hlease
  cases h with
  | unmatched => exact hlease
  | counted launch hlaunch =>
      exact List.Subset.trans (identities_countSpawnError _ _
        ((currentLaunch_rejectStart input).trans hlaunch)) hrejected
  | released =>
      refine List.Subset.trans (identities_subset (fun held hheld => ?_) fun last hlast => ?_)
        hrejected
      · cases hheld
      · exact identity_mem_of_current hlast rfl
  | removed => exact hrejected

theorem AttachEffect.identities {batch : CatchupBatch} (h : AttachEffect record batch next) :
    next.identities ⊆ record.identities := by
  cases h with
  | attached obligation launch _ hlaunch =>
      refine identities_subset (fun held hheld => ?_) fun last hlast =>
        identity_mem_of_lastProbe hlast rfl
      cases hheld
      exact identity_mem_of_current hlaunch rfl

theorem BuildEffect.identities {readCursors : InsertionMap JsString Int}
    {batch : Option CatchupBatch}
    (h : BuildEffect record readCursors batch next) : next.identities ⊆ record.identities := by
  cases h with
  | nothingOwed | settled => exact List.Subset.refl _
  | attached _ _ _ _ _ _ _ hattached => exact hattached.identities

end

namespace BreakerEvent

def placesLaunch : BreakerEvent → Bool
  | .claim _ => true
  | .rollback .. => true
  | _ => false

end BreakerEvent

namespace TerminalFailureBreakerState

variable (record : TerminalFailureBreakerState)

theorem identities_spawned (frame : TerminalProcessSpawnedFrame) :
    (record.applyTerminalProcessSpawned frame).state.identities ⊆ record.identities := by
  have hspawned := (record.spawnEffect frame).identities
  rwa [identities_resetSpawnError] at hspawned

theorem identities_judged (frame : TerminalOutboxFrame) (input : TerminalOutboxFrameInput) :
    (record.judgeOutboxFrame frame input).1.identities ⊆ record.identities := by
  have hlease := @identities_normalizeTerminalBreakerLease record
  cases frame with
  | terminalFailure frame => exact (record.failureEffect frame _ _).identities (hlease _)
  | turnCompleted frame => exact (record.turnEffect frame _ _).identities (hlease _)
  | processSpawned => exact record.identities_spawned _
  | processExited => exact (record.exitEffect _).identities
  | startRebound => exact (record.ackEffect _).identities
  | startNotSpawned => exact (record.rejectionEffect _).identities (hlease _)
  | evidenceLost =>
      rw [judgeOutboxFrame, markEvidenceLost]
      split <;> exact List.Subset.refl _

theorem identities_applyTerminalOutboxFrame (frame : TerminalOutboxFrame)
    (input : TerminalOutboxFrameInput) :
    (record.applyTerminalOutboxFrame frame input).state.identities ⊆ record.identities := by
  have heffect := record.outboxEffect frame input
  generalize record.applyTerminalOutboxFrame frame input = applied at heffect
  cases heffect with
  | replayed => exact List.Subset.refl _
  | lost =>
      have hlost := record.identities_judged (.evidenceLost [] 0 []) input
      exact List.Subset.trans (List.Subset.refl _) hlost
  | judged => exact List.Subset.trans (List.Subset.refl _) (record.identities_judged frame input)

theorem identities_transition {event : BreakerEvent} (hplaces : event.placesLaunch = false) :
    (record.transition event).identities ⊆ record.identities := by
  have hlease := @identities_normalizeTerminalBreakerLease record
  cases event with
  | failure frame nowMs unreadCeilings =>
      exact (record.failureEffect frame nowMs unreadCeilings).identities (hlease _)
  | turnCompleted frame nowMs persistedSessionId =>
      exact (record.turnEffect frame nowMs persistedSessionId).identities (hlease _)
  | gate input =>
      have hnormalized : (record.normalizeTerminalBreaker input.nowMs).identities ⊆
          record.identities := hlease _
      exact (record.gateEffect input).identities hnormalized
  | claim | rollback => simp [BreakerEvent.placesLaunch] at hplaces
  | lift =>
      refine identities_subset (fun launch hlaunch => ?_) fun probe hprobe => ?_
      · cases hlaunch
      · cases hprobe
  | manualStop nowMs => exact (record.manualStopEffect nowMs).identities (hlease _)
  | startAck ack => exact (record.ackEffect ack).identities
  | processSpawned frame => exact record.identities_spawned frame
  | processExited frame => exact (record.exitEffect frame).identities
  | daemonReady daemonInstanceId nowMs =>
    exact (record.readyEffect daemonInstanceId nowMs).identities
  | startRejected input => exact (record.rejectionEffect input).identities (hlease _)
  | outboxFrame frame input => exact record.identities_applyTerminalOutboxFrame frame input
  | marker marker nowMs =>
      have hlost := record.identities_judged (.evidenceLost [] 0 []) ⟨nowMs, none, none⟩
      show (record.applyTerminalOutcomeMarker marker nowMs).1.identities ⊆ record.identities
      rw [applyTerminalOutcomeMarker]
      split_ifs <;> first | exact List.Subset.refl _ | exact hlost
  | catchupBuild readCursors batch => exact (record.buildEffect readCursors batch).identities
  | attachBatch batch =>
      rcases record.attach_cases batch with heq | hattached
      · exact fun _ hidentity => heq ▸ hidentity
      · exact hattached.identities

end TerminalFailureBreakerState

/-! ## Every launch was claimed -/

structure Known (history : BreakerHistory) : Prop where
  distinct : (history.tokens.map (·.launchId)).Nodup
  launches : history.record.identities ⊆ history.tokens.map (·.identity)
  previous : ∀ token ∈ history.tokens, ∀ launch, token.previousLaunch = some launch →
    launch.identity ∈ history.tokens.map (·.identity)

namespace Known

variable {history : BreakerHistory}

theorem fresh : Known freshHistory where
  distinct := by simp [freshHistory]
  launches := by simp [freshHistory, freshTerminalFailureBreakerState, identities]
  previous _ htoken := by simp [freshHistory] at htoken

theorem identity_eq (h : Known history) {token : TerminalClaimToken}
    (htoken : token ∈ history.tokens)
    {identity : LaunchIdentity} (hidentity : identity ∈ history.tokens.map (·.identity))
    (hlaunch : identity.launchId = token.launchId) : identity = token.identity := by
  obtain ⟨other, hother, rfl⟩ := List.mem_map.mp hidentity
  have hsame : other = token := List.inj_on_of_nodup_map h.distinct hother htoken hlaunch
  rw [hsame]

theorem owner_identity (h : Known history) {token : TerminalClaimToken}
    (htoken : token ∈ history.tokens)
    {launch : TerminalBreakerLaunch} (hlaunch : history.record.currentLaunch = some launch)
    (hid : launch.launchId = token.launchId) : launch.identity = token.identity :=
  h.identity_eq htoken (h.launches (identity_mem_of_current hlaunch rfl)) hid

end Known

theorem currentLaunch_claimLaunch (record : TerminalFailureBreakerState)
    (input : TerminalClaimInput)
    (isProbe : Bool) :
    (record.claimLaunch input isProbe).currentLaunch =
      (record.startLaunch input isProbe).currentLaunch ∧
      (record.claimLaunch input isProbe).generation = record.generation ∧
      (record.claimLaunch input isProbe).lastProbe = record.lastProbe := by
  rw [claimLaunch, pushPending]
  split
  · exact ⟨rfl, rfl, rfl⟩
  · split <;> exact ⟨rfl, rfl, rfl⟩

theorem identities_claimLaunch (record : TerminalFailureBreakerState) (input : TerminalClaimInput)
    (isProbe : Bool) (previousLaunch : Option TerminalBreakerLaunch) {identity : LaunchIdentity}
    (h : identity ∈ (record.claimLaunch input isProbe).identities) :
    identity = (tokenOf input isProbe previousLaunch (record.claimLaunch input isProbe)).identity ∨
      ∃ probe, record.lastProbe = some probe ∧ probe.identity = identity := by
  have ⟨hcurrent, hgeneration, hprobe⟩ := currentLaunch_claimLaunch record input isProbe
  rcases mem_identities.mp h with ⟨launch, hlaunch, rfl⟩ | ⟨probe, hlast, rfl⟩
  · rw [hcurrent] at hlaunch
    cases hlaunch
    simp [tokenOf, TerminalClaimToken.identity, TerminalBreakerLaunch.identity, hgeneration]
  · exact .inr ⟨probe, hprobe ▸ hlast, rfl⟩

theorem ClaimEffect.identities {record : TerminalFailureBreakerState} {input : TerminalClaimInput}
    {normalized state : TerminalFailureBreakerState} {token : TerminalClaimToken}
    (hlease : normalized.identities ⊆ record.identities)
    (h : ClaimEffect record input normalized (.claimed state token)) :
    (∀ identity ∈ state.identities, identity = token.identity ∨ identity ∈ record.identities) ∧
      token.launchId = input.launchId ∧
      ∀ launch, token.previousLaunch = some launch → launch.identity ∈ record.identities := by
  cases h with
  | takenOver _ _ hstate =>
      subst hstate
      refine ⟨fun identity hidentity => ?_, rfl, fun launch hlaunch => ?_⟩
      · rcases identities_claimLaunch _ input false none hidentity with hnew | ⟨probe, hprobe, _⟩
        · exact .inl hnew
        · cases hprobe
      · cases hlaunch
  | probe _ _ hopen _ hstate =>
      subst hstate
      refine ⟨fun identity hidentity => ?_, rfl, fun launch hlaunch => ?_⟩
      · rcases identities_claimLaunch _ input true none hidentity with hnew | ⟨probe, hprobe, rfl⟩
        · exact .inl hnew
        · rw [claimProbe, if_pos hopen] at hprobe
          exact .inr (hlease (identity_mem_of_current hprobe rfl))
      · cases hlaunch
  | replaced _ _ _ _ hstate =>
      subst hstate
      refine ⟨fun identity hidentity => ?_, rfl, fun launch hlaunch => ?_⟩
      · rcases identities_claimLaunch _ input false normalized.currentLaunch hidentity with
          hnew | ⟨probe, hprobe, rfl⟩
        · exact .inl hnew
        · exact .inr (hlease (identity_mem_of_lastProbe hprobe rfl))
      · exact hlease (identity_mem_of_current hlaunch rfl)

theorem identities_undoClaim (record : TerminalFailureBreakerState) (token : TerminalClaimToken)
    (nowMs : Int) (dispatchLeftReplica : Bool) {identity : LaunchIdentity}
    (h : identity ∈ (record.undoClaim token nowMs dispatchLeftReplica).identities) :
    (∃ launch, token.previousLaunch = some launch ∧ launch.identity = identity) ∨
      identity ∈ record.identities := by
  have hparts : (record.undoClaim token nowMs dispatchLeftReplica).lastProbe = record.lastProbe ∧
      ∀ launch, (record.undoClaim token nowMs dispatchLeftReplica).currentLaunch = some launch →
        token.previousLaunch = some launch := by
    rw [undoClaim, dropPending, undoLaunch]
    split <;> split <;> exact ⟨rfl, by simp [withTransition]⟩
  rcases mem_identities.mp h with ⟨launch, hlaunch, hid⟩ | ⟨probe, hprobe, hid⟩
  · exact .inl ⟨launch, hparts.2 launch hlaunch, hid⟩
  · exact .inr (identity_mem_of_lastProbe (hparts.1 ▸ hprobe) hid)

theorem Known.step {history : BreakerHistory} {event : BreakerEvent} (h : Known history)
    (hallowed : Allowed history event) : Known (historyStep history event) := by
  cases hplaces : event.placesLaunch with
  | false =>
      have hgranted : grantedTokens history.record event = [] := by
        cases event <;> first | rfl | simp [BreakerEvent.placesLaunch] at hplaces
      have hrecord := history.record.identities_transition hplaces
      refine ⟨?_, ?_, ?_⟩ <;> simp only [historyStep, hgranted, List.append_nil]
      · exact h.distinct
      · exact List.Subset.trans hrecord h.launches
      · exact h.previous
  | true =>
      cases event with
      | claim input =>
          have heffect := history.record.claimEffect input
          have hnormalized : (history.record.normalizeTerminalBreaker input.nowMs).identities ⊆
              history.record.identities := identities_normalizeTerminalBreakerLease input.nowMs
          simp only [historyStep, grantedTokens, transition]
          cases hresult : history.record.claimTerminalStart input with
          | refused reason =>
              simpa [TerminalClaimResult.tokens, TerminalClaimResult.stateAfter] using h
          | claimed state token =>
              rw [hresult] at heffect
              have ⟨hidentities, hid, hprevious⟩ := heffect.identities hnormalized
              simp only [TerminalClaimResult.tokens, TerminalClaimResult.stateAfter]
              refine ⟨?_, fun identity hidentity => ?_, fun held hheld launch hlaunch => ?_⟩
              · rw [List.map_append, List.nodup_append]
                refine ⟨h.distinct, by simp, ?_⟩
                intro first hfirst second hsecond heq
                obtain ⟨other, hother, rfl⟩ := List.mem_map.mp hfirst
                simp only [List.map_cons, List.map_nil, List.mem_singleton] at hsecond
                exact hallowed other hother (heq.trans (hsecond.trans hid))
              · rw [List.map_append, List.mem_append]
                rcases hidentities identity hidentity with rfl | hold
                · exact .inr (by simp)
                · exact .inl (h.launches hold)
              · rw [List.map_append, List.mem_append]
                rcases List.mem_append.mp hheld with hold | hnew
                · exact .inl (h.previous held hold launch hlaunch)
                · rw [List.mem_singleton] at hnew
                  subst hnew
                  exact .inl (h.launches (hprevious launch hlaunch))
      | rollback token nowMs dispatchLeftReplica =>
          refine ⟨?_, fun identity hidentity => ?_, ?_⟩ <;>
            simp only [historyStep, grantedTokens, List.append_nil] at *
          · exact h.distinct
          · have heffect := history.record.rollbackEffect token nowMs dispatchLeftReplica
            simp only [transition] at hidentity
            generalize history.record.rollbackTerminalClaim token nowMs dispatchLeftReplica = result
              at heffect hidentity
            cases heffect with
            | skipped => exact h.launches hidentity
            | restored =>
                rcases identities_undoClaim history.record token nowMs dispatchLeftReplica
                  hidentity with
                  ⟨launch, hlaunch, rfl⟩ | hold
                · exact h.previous token hallowed launch hlaunch
                · exact h.launches hold
          · exact h.previous
      | _ => simp [BreakerEvent.placesLaunch] at hplaces

end Raft.TerminalBreaker
