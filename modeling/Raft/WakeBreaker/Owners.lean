import Raft.Foundation.Run
import Raft.WakeBreaker.Episode

/-!
# Who releases a block or an owed catch-up

A rollback writes back the whole record from before its start.  As long as that
start is the current one and no failure of it was counted, nothing else is lost.
-/

namespace Raft.WakeBreaker

open Raft.Foundation WakeCrashLoopEpisodeState

structure StartMark where
  start : Option Nat
  failed : Bool
  deriving DecidableEq

/-- The launches that carried a catch-up, the record's mark and the mark before each start. -/
structure WakeHistory where
  carried : List JsString
  mark : StartMark
  marks : List StartMark

def WakeHistory.empty : WakeHistory := ⟨[], ⟨none, false⟩, []⟩

def recallWake (rules : WakeCrashLoopRules) (system : WakeSystem) (history : WakeHistory) :
    WakeOperation → WakeHistory
  | .recordStart _ _ _ =>
      { history with
        mark := ⟨some system.tokens.length, false⟩
        marks := history.marks ++ [history.mark] }
  | .rollbackStart token =>
      if system.tokens[token]?.any system.record.isSameStart then
        { history with mark := history.marks[token]?.getD history.mark }
      else history
  | .recordStartFailure launchId reason nowMs =>
      let outcome := (system.record.applyWakeCrashLoopStartFailure rules launchId reason nowMs).2
      { history with mark := { history.mark with failed := history.mark.failed ||
          outcome ≠ .ignored && outcome ≠ .owned_by_terminal_breaker } }
  | .recordManualStop | .liftForConfigChange => { history with mark := ⟨none, false⟩ }
  | .markCatchupCarried launchId =>
      if system.record.lastStartLaunchId = some launchId then
        { history with carried := launchId :: history.carried }
      else history
  | .recordExit _ _ | .recordStartSucceeded _ | .startFailureOwned _
  | .confirmCatchupDelivered _ => history

def recalledRun (rules : WakeCrashLoopRules) (episode : Nat) (operations : List WakeOperation) :
    WakeSystem × WakeHistory :=
  run (instrument (wakeStep rules) (recallWake rules)) (freshWakeSystem episode, .empty) operations

/-- Only the owners release: what one operation may do to the record. -/
structure ReleasedByOwners (watched : WakeSystem × WakeHistory) (operation : WakeOperation)
    (next : WakeSystem) : Prop where
  unblocked : watched.1.record.blocked = true → next.record.blocked = false →
    (∃ launchId nowMs, operation = .recordStart launchId nowMs true) ∨
      operation = .recordManualStop ∨ operation = .liftForConfigChange ∨
      ∃ launchId, operation = .startFailureOwned launchId ∧
        watched.1.record.blockedByLaunchId = some launchId
  delivered : watched.1.record.catchupOwed = true → next.record.catchupOwed = false →
    ∃ launchId ∈ watched.2.carried, operation = .confirmCatchupDelivered launchId
  counted : ∀ token, operation = .rollbackStart token →
    watched.1.record.startFailureCount ≤ next.record.startFailureCount

/-- A rollback that takes effect undoes the current start, with no failure counted since. -/
def undoesItsStart (watched : WakeSystem × WakeHistory) : WakeOperation → Bool
  | .rollbackStart token =>
      !watched.1.tokens[token]?.any watched.1.record.isSameStart ||
        watched.2.mark = ⟨some token, false⟩
  | .recordStart _ _ _ | .recordExit _ _ | .recordStartFailure _ _ _ | .recordStartSucceeded _
  | .startFailureOwned _ | .recordManualStop | .liftForConfigChange | .markCatchupCarried _
  | .confirmCatchupDelivered _ => true

/-! ## What a rollback writes back -/

/-- Nothing is lost by going back from the record to the one before the start. -/
structure LosesNothing (previous state : WakeCrashLoopEpisodeState) : Prop where
  blocked : state.blocked = true → previous.blocked = true
  owed : state.catchupOwed = true → previous.catchupOwed = true
  failures : state.startFailureCount ≤ previous.startFailureCount

def Undoable (tokens : List WakeCrashLoopStartRecord) (mark : StartMark)
    (state : WakeCrashLoopEpisodeState) : Prop :=
  ∀ start, mark.start = some start → ∃ token, tokens[start]? = some token ∧
    (mark.failed = false → state.lastStartCounted = false → LosesNothing token.previous state)

theorem Undoable.append {tokens : List WakeCrashLoopStartRecord} {mark : StartMark}
    {state : WakeCrashLoopEpisodeState} (h : Undoable tokens mark state)
    (more : WakeCrashLoopStartRecord) : Undoable (tokens ++ [more]) mark state := by
  intro start hstart
  obtain ⟨token, htoken, hloses⟩ := h start hstart
  exact ⟨token, List.getElem?_append_left
    (List.getElem?_eq_some_iff.mp htoken).1 ▸ htoken, hloses⟩

theorem Undoable.of_less {tokens : List WakeCrashLoopStartRecord} {mark : StartMark}
    {state next : WakeCrashLoopEpisodeState} (h : Undoable tokens mark state)
    (hcounted : next.lastStartCounted = state.lastStartCounted)
    (hblocked : next.blocked = true → state.blocked = true)
    (howed : next.catchupOwed = true → state.catchupOwed = true)
    (hfailures : next.startFailureCount ≤ state.startFailureCount) :
    Undoable tokens mark next := by
  intro start hstart
  obtain ⟨token, htoken, hloses⟩ := h start hstart
  refine ⟨token, htoken, fun hfailed hnext => ?_⟩
  obtain ⟨hwasBlocked, hwasOwed, hwas⟩ := hloses hfailed (hcounted ▸ hnext)
  exact ⟨hwasBlocked ∘ hblocked, hwasOwed ∘ howed, hfailures.trans hwas⟩

structure Recalled (watched : WakeSystem × WakeHistory) : Prop where
  carried : ∀ launchId ∈ watched.1.record.catchupCarriedLaunchId, launchId ∈ watched.2.carried
  tokens : ∀ token ∈ watched.1.tokens, ∀ launchId ∈ token.previous.catchupCarriedLaunchId,
    launchId ∈ watched.2.carried
  undoable : Undoable watched.1.tokens watched.2.mark watched.1.record
  marks : List.Forall₂ (fun token mark => Undoable watched.1.tokens mark token.previous)
    watched.1.tokens watched.2.marks

theorem recalled_fresh (episode : Nat) : Recalled (freshWakeSystem episode, .empty) where
  carried _ h := by cases h
  tokens _ h := absurd h List.not_mem_nil
  undoable _ h := by cases h
  marks := .nil

theorem Recalled.of_less {watched : WakeSystem × WakeHistory} (h : Recalled watched)
    {next : WakeCrashLoopEpisodeState}
    (hcounted : next.lastStartCounted = watched.1.record.lastStartCounted)
    (hblocked : next.blocked = true → watched.1.record.blocked = true)
    (howed : next.catchupOwed = true → watched.1.record.catchupOwed = true)
    (hfailures : next.startFailureCount ≤ watched.1.record.startFailureCount)
    (hcarried : ∀ launchId ∈ next.catchupCarriedLaunchId, launchId ∈ watched.2.carried) :
    Recalled ({ watched.1 with record := next }, watched.2) where
  carried := hcarried
  tokens := h.tokens
  undoable := h.undoable.of_less hcounted hblocked howed hfailures
  marks := h.marks

theorem Recalled.unmarked {watched : WakeSystem × WakeHistory} (h : Recalled watched)
    {next : WakeCrashLoopEpisodeState}
    (hcarried : ∀ launchId ∈ next.catchupCarriedLaunchId, launchId ∈ watched.2.carried) :
    Recalled ({ watched.1 with record := next }, { watched.2 with mark := ⟨none, false⟩ }) where
  carried := hcarried
  tokens := h.tokens
  undoable := nofun
  marks := h.marks

theorem Recalled.recordStart {rules : WakeCrashLoopRules} {system : WakeSystem}
    {history : WakeHistory} (h : Recalled (system, history)) (launchId : Option JsString)
    (nowMs : Int) (human : Bool) :
    Recalled (instrument (wakeStep rules) (recallWake rules) (system, history)
      (.recordStart launchId nowMs human)) := by
  obtain ⟨howed, -, hcarried, hcase⟩ :=
    @applyWakeCrashLoopStart_cases rules system.record launchId nowMs human
  refine ⟨fun carrier hmem => ?_, fun token htoken => ?_, fun start hstart => ?_, ?_⟩
  · change carrier ∈ (system.record.applyWakeCrashLoopStart rules launchId nowMs
      human).catchupCarriedLaunchId at hmem
    rw [hcarried] at hmem
    cases hmem
  · rcases List.mem_append.mp htoken with hold | hnew
    · exact h.tokens token hold
    · obtain rfl := List.mem_singleton.mp hnew
      exact h.carried
  · obtain rfl := Option.some.inj hstart
    refine ⟨⟨launchId, nowMs, system.record⟩, by simp [instrument, wakeStep], fun _ _ => ?_⟩
    change LosesNothing system.record
      (system.record.applyWakeCrashLoopStart rules launchId nowMs human)
    obtain ⟨-, hblocked, hfailures⟩ | ⟨hblocked, hfailures, -⟩ := hcase
    · exact ⟨by simp [hblocked], fun hnext => howed ▸ hnext, hfailures ▸ Nat.zero_le _⟩
    · exact ⟨fun hnext => hblocked ▸ hnext, fun hnext => howed ▸ hnext, hfailures.le⟩
  · exact List.rel_append (h.marks.imp fun _ _ hmark => hmark.append _)
      (.cons (h.undoable.append _) .nil)

theorem Recalled.rollbackStart {rules : WakeCrashLoopRules} {system : WakeSystem}
    {history : WakeHistory} (h : Recalled (system, history)) {token : Nat}
    (hguard : undoesItsStart (system, history) (.rollbackStart token) = true) :
    let next := instrument (wakeStep rules) (recallWake rules) (system, history)
      (.rollbackStart token)
    ReleasedByOwners (system, history) (.rollbackStart token) next.1 ∧ Recalled next := by
  have hunchanged : wakeStep rules system (.rollbackStart token) = system →
      recallWake rules system history (.rollbackStart token) = history →
      ReleasedByOwners (system, history) (.rollbackStart token)
        (wakeStep rules system (.rollbackStart token)) ∧
      Recalled (wakeStep rules system (.rollbackStart token),
        recallWake rules system history (.rollbackStart token)) := by
    intro hsystem hhistory
    rw [hsystem, hhistory]
    exact ⟨⟨fun hwas hnext => (Bool.false_ne_true (hnext.symm.trans hwas)).elim,
      fun hwas hnext => (Bool.false_ne_true (hnext.symm.trans hwas)).elim, fun _ _ => le_rfl⟩, h⟩
  cases htoken : system.tokens[token]? with
  | none =>
      have hstep : wakeStep rules system (.rollbackStart token) = system := by
        simp [wakeStep, htoken]
      exact hunchanged hstep (by simp [recallWake, htoken])
  | some record =>
      cases hsame : system.record.isSameStart record with
      | false =>
          exact hunchanged (by simp [wakeStep, htoken, WakeCrashLoopEpisodeState.rollbackStart,
            hsame])
            (by simp [recallWake, htoken, hsame])
      | true =>
          have hmark : history.mark = ⟨some token, false⟩ := by
            simpa [undoesItsStart, htoken, hsame] using hguard
          have hlast : system.record.lastStartCounted = false := by
            rw [isSameStart, Bool.and_eq_true] at hsame
            simpa using hsame.2
          obtain ⟨found, hfound, hloses⟩ := h.undoable token (by rw [hmark])
          obtain rfl : record = found := Option.some.inj (htoken.symm.trans hfound)
          obtain ⟨hblocked, howed, hfailures⟩ := hloses (by rw [hmark]) hlast
          have hstep : wakeStep rules system (.rollbackStart token) =
              { system with record := record.previous } := by
            simp [wakeStep, htoken, WakeCrashLoopEpisodeState.rollbackStart, hsame]
          obtain ⟨hlength, hmarks⟩ := List.forall₂_iff_get.mp h.marks
          obtain ⟨hlt, hget⟩ := List.getElem?_eq_some_iff.mp htoken
          have hrecall : recallWake rules system history (.rollbackStart token) =
              { history with mark := history.marks[token] } := by
            simp [recallWake, htoken, hsame, List.getElem?_eq_getElem (hlength ▸ hlt)]
          simp only [instrument]
          rw [hstep, hrecall]
          refine ⟨⟨fun hwas hnext => ?_, fun hwas hnext => ?_, fun _ _ => hfailures⟩,
            h.tokens record (List.mem_of_getElem? htoken), h.tokens, ?_, h.marks⟩
          · simp [hblocked hwas] at hnext
          · simp [howed hwas] at hnext
          · have hundo := hmarks token hlt (hlength ▸ hlt)
            simp only [List.get_eq_getElem, hget] at hundo
            exact hundo

theorem released_of_kept {watched : WakeSystem × WakeHistory} {operation : WakeOperation}
    {next : WakeSystem} (hblocked : watched.1.record.blocked = true → next.record.blocked = true)
    (howed : watched.1.record.catchupOwed = true → next.record.catchupOwed = true)
    (hother : ∀ token, operation ≠ .rollbackStart token) :
    ReleasedByOwners watched operation next where
  unblocked hwas hnext := by simp [hblocked hwas] at hnext
  delivered hwas hnext := by simp [howed hwas] at hnext
  counted token htoken := absurd htoken (hother token)

theorem recalled_step {rules : WakeCrashLoopRules} {watched : WakeSystem × WakeHistory}
    {operation : WakeOperation} (h : Recalled watched)
    (hguard : undoesItsStart watched operation = true) :
    let next := instrument (wakeStep rules) (recallWake rules) watched operation
    ReleasedByOwners watched operation next.1 ∧ Recalled next := by
  obtain ⟨system, history⟩ := watched
  cases operation with
  | rollbackStart token => exact h.rollbackStart hguard
  | recordStart launchId nowMs human =>
      refine ⟨?_, h.recordStart launchId nowMs human⟩
      obtain ⟨howed, -, -, ⟨rfl, -⟩ | ⟨hblocked, -⟩⟩ :=
        @applyWakeCrashLoopStart_cases rules system.record launchId nowMs human
      · exact ⟨fun _ _ => .inl ⟨launchId, nowMs, rfl⟩, fun hwas hnext =>
          (Bool.false_ne_true (hnext.symm.trans (howed.trans hwas))).elim, by simp⟩
      · exact released_of_kept hblocked.trans howed.trans (by simp)
  | recordExit exit nowMs =>
      obtain ⟨hsame, -⟩ | ⟨hopen, -, hcounted, howed, hcarried, hfailures, -, -⟩ :=
        @applyWakeCrashLoopExit_cases rules system.record exit nowMs
      · have hstep : instrument (wakeStep rules) (recallWake rules) (system, history)
            (.recordExit exit nowMs) = (system, history) := by
          simp only [instrument, wakeStep, recallWake, hsame]
        rw [hstep]
        exact ⟨released_of_kept id id (by simp), h⟩
      · refine ⟨released_of_kept (by simp [hopen]) howed.trans (by simp), fun launchId hmem => ?_,
          h.tokens, fun start hstart => ?_, h.marks⟩
        · exact h.carried launchId (hcarried ▸ hmem)
        · obtain ⟨token, htoken, -⟩ := h.undoable start hstart
          exact ⟨token, htoken, fun _ hlast =>
            (Bool.false_ne_true (hlast.symm.trans hcounted)).elim⟩
  | recordStartFailure launchId reason nowMs =>
      obtain ⟨hsame, hignored⟩ | ⟨hopen, ⟨hnotIgnored, hnotOwned⟩, -, howed, hcarried, -⟩ :=
        @applyWakeCrashLoopStartFailure_cases rules system.record launchId reason nowMs
      · have hstep : instrument (wakeStep rules) (recallWake rules) (system, history)
            (.recordStartFailure launchId reason nowMs) = (system, history) := by
          simp only [instrument, wakeStep, recallWake, hsame]
          rcases hignored with hignored | hignored <;> simp [hignored]
        rw [hstep]
        exact ⟨released_of_kept id id (by simp), h⟩
      · refine ⟨released_of_kept (by simp [hopen]) howed (by simp), fun launchId hmem => ?_,
          h.tokens, fun start hstart => ?_, h.marks⟩
        · exact h.carried launchId (hcarried ▸ hmem)
        · obtain ⟨token, htoken, -⟩ := h.undoable start hstart
          refine ⟨token, htoken, fun hfailed _ => ?_⟩
          simp [instrument, recallWake, hnotIgnored, hnotOwned] at hfailed
  | recordStartSucceeded launchId =>
      obtain ⟨hcounted, hblocked, howed, hcarried, hfailures⟩ :=
        @applyWakeCrashLoopStartSucceeded_cases system.record launchId
      exact ⟨released_of_kept hblocked.trans howed.trans (by simp),
        h.of_less hcounted hblocked.symm.trans howed.symm.trans hfailures
          (hcarried.symm ▸ h.carried)⟩
  | startFailureOwned launchId =>
      obtain ⟨hcounted, howed, hcarried, -, hfailures, hblocked, -⟩ :=
        @applyWakeCrashLoopStartFailureOwned_cases system.record launchId
      refine ⟨⟨fun hwas hnext => ?_, fun hwas hnext =>
          (Bool.false_ne_true (hnext.symm.trans (howed.trans hwas))).elim, by simp⟩,
        h.of_less hcounted ?_ howed.symm.trans hfailures (hcarried.symm ▸ h.carried)⟩
      · rcases hblocked with hsame | ⟨-, hby⟩
        · exact (Bool.false_ne_true (hnext.symm.trans (hsame.trans hwas))).elim
        · exact .inr (.inr (.inr ⟨launchId, rfl, hby⟩))
      · rcases hblocked with hsame | ⟨hnone, -⟩
        · exact hsame.symm.trans
        · simp [hnone]
  | recordManualStop =>
      exact ⟨⟨fun _ _ => .inr (.inl rfl), fun hwas hnext =>
        (Bool.false_ne_true (hnext.symm.trans hwas)).elim, by simp⟩, h.unmarked (by rintro _ ⟨⟩)⟩
  | liftForConfigChange =>
      have howed : system.record.liftForConfigChange.catchupOwed = system.record.catchupOwed ∧
          ∀ launchId ∈ system.record.liftForConfigChange.catchupCarriedLaunchId,
            launchId ∈ history.carried := by
        rw [liftForConfigChange]
        split
        · exact ⟨rfl, by rintro _ ⟨⟩⟩
        · exact ⟨rfl, h.carried⟩
      exact ⟨⟨fun _ _ => .inr (.inr (.inl rfl)), fun hwas hnext =>
        (Bool.false_ne_true (hnext.symm.trans (howed.1.trans hwas))).elim, by simp⟩,
        h.unmarked howed.2⟩
  | markCatchupCarried launchId =>
      have hstep : instrument (wakeStep rules) (recallWake rules) (system, history)
          (.markCatchupCarried launchId) =
          ({ system with record := system.record.markCatchupCarried launchId },
            if system.record.lastStartLaunchId = some launchId then
              { history with carried := launchId :: history.carried }
            else history) := rfl
      have hmore : ∀ carrier ∈ history.carried, carrier ∈
          (if system.record.lastStartLaunchId = some launchId then
            { history with carried := launchId :: history.carried } else history).carried := by
        intro carrier hmem
        split
        · exact List.mem_cons_of_mem _ hmem
        · exact hmem
      have hkept : Recalled (system, if system.record.lastStartLaunchId = some launchId then
          { history with carried := launchId :: history.carried } else history) := by
        refine ⟨fun carrier hmem => hmore carrier (h.carried carrier hmem),
          fun token htoken carrier hmem => hmore carrier (h.tokens token htoken carrier hmem),
          ?_, ?_⟩
        · split <;> exact h.undoable
        · split <;> exact h.marks
      simp only [hstep]
      rw [markCatchupCarried]
      split
      · next hnames =>
          rw [Bool.and_eq_true, decide_eq_true_eq] at hnames
          refine ⟨released_of_kept id id (by simp), hkept.of_less rfl id id le_rfl ?_⟩
          rintro carrier ⟨⟩
          simp [hnames.2]
      · exact ⟨released_of_kept id id (by simp), hkept⟩
  | confirmCatchupDelivered launchId =>
      have hstep : instrument (wakeStep rules) (recallWake rules) (system, history)
          (.confirmCatchupDelivered launchId) =
          ({ system with record := system.record.confirmCatchupDelivered launchId }, history) :=
        rfl
      simp only [hstep]
      rw [confirmCatchupDelivered]
      split
      · next hcarries =>
          rw [Bool.and_eq_true, decide_eq_true_eq] at hcarries
          exact ⟨⟨fun hwas hnext => (Bool.false_ne_true (hnext.symm.trans hwas)).elim,
            fun _ _ => ⟨launchId, h.carried launchId hcarries.2, rfl⟩, by simp⟩,
            h.of_less rfl id (by simp) le_rfl (by simp)⟩
      · exact ⟨released_of_kept id id (by simp), h⟩

/-- As long as rollbacks undo only starts that did not fail, only the owners release. -/
theorem released_only_by_owners (rules : WakeCrashLoopRules) (episode : Nat)
    (operations : List WakeOperation)
    (hrun : Admitted (instrument (wakeStep rules) (recallWake rules))
      (fun watched operation => undoesItsStart watched operation = true)
      (freshWakeSystem episode, .empty) operations) :
    ∀ before operation, before ++ [operation] <+: operations →
      ReleasedByOwners (recalledRun rules episode before) operation
        (recalledRun rules episode (before ++ [operation])).1 := by
  intro before operation hstart
  obtain ⟨hbefore, hguard⟩ := admitted_concat.mp (hrun.of_initial hstart)
  have hrecalled : Recalled (recalledRun rules episode before) :=
    hbefore.invariant Recalled (fun _ _ h hguard => (recalled_step h hguard).2)
      (recalled_fresh episode)
  rw [recalledRun, recalledRun, run_concat, ← recalledRun]
  exact (recalled_step hrecalled hguard).1

theorem released_only_by_owners_undone :
    ReleasedByOwners
      (recalledRun ⟨60000, 3, none, none⟩ 1
        [.recordStart (some (js "a")) 0 false, .rollbackStart 0,
          .recordStart (some (js "b")) 5 false])
      .recordManualStop
      (recalledRun ⟨60000, 3, none, none⟩ 1
        [.recordStart (some (js "a")) 0 false, .rollbackStart 0,
          .recordStart (some (js "b")) 5 false, .recordManualStop]).1 :=
  released_only_by_owners _ 1
    [.recordStart (some (js "a")) 0 false, .rollbackStart 0,
      .recordStart (some (js "b")) 5 false, .recordManualStop] (by decide)
    [.recordStart (some (js "a")) 0 false, .rollbackStart 0,
      .recordStart (some (js "b")) 5 false] .recordManualStop (List.prefix_refl _)

def failedThenUndone : List WakeOperation :=
  [.recordStart (some (js "a")) 0 false,
    .recordStartFailure (some (js "a")) (js "runtime_login_required") 5, .rollbackStart 0]

/-- The rollback lifts the block, settles the owed catch-up and forgets the failure. -/
theorem rollback_releases : ¬ ∀ (rules : WakeCrashLoopRules) (episode : Nat)
    (operations : List WakeOperation) (before : List WakeOperation) (operation : WakeOperation),
    before ++ [operation] <+: operations →
      ReleasedByOwners (recalledRun rules episode before) operation
        (recalledRun rules episode (before ++ [operation])).1 := by
  intro h
  have hreleased := h ⟨60000, 3, none, none⟩ 1 failedThenUndone
    [.recordStart (some (js "a")) 0 false,
      .recordStartFailure (some (js "a")) (js "runtime_login_required") 5]
    (.rollbackStart 0) (List.prefix_refl _)
  have hcounted := hreleased.counted 0 rfl
  revert hcounted
  decide

end Raft.WakeBreaker
