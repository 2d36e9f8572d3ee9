import Raft.Foundation.Run
import Raft.TerminalBreaker.Circuit
import Raft.TerminalBreaker.Owed

/-!
# Owed messages are forgotten only once seen

Messages are raised into the obligation while starts are refused.  A batch is
built from what the chain reports and the row query returns, recorded for the
launch that carries it, and echoed by a turn of that launch.  Everything else may
change the record in between, but not its obligation.

An overflow is cleared by a complete batch whatever was raised since its rows were
read, so a message refused in that time past a full table of ceilings is lost.
-/

namespace Raft.TerminalBreaker

open Raft.Foundation

/-- What an obligation owes, whatever made it engage. -/
def CatchupObligation.debt (obligation : CatchupObligation) : CatchupObligation :=
  { obligation with engagedByFailure := false }

theorem obligation_of_debt {current next : Option CatchupObligation}
    (h : next.map (·.debt) = current.map (·.debt)) {obligation : CatchupObligation}
    (hnext : next = some obligation) :
    ∃ before, current = some before ∧
      obligation = { before with engagedByFailure := obligation.engagedByFailure } := by
  subst hnext
  obtain ⟨before, hbefore, hdebt⟩ := Option.map_eq_some_iff.mp h.symm
  refine ⟨before, hbefore, ?_⟩
  cases before
  cases obligation
  simp only [CatchupObligation.debt, CatchupObligation.mk.injEq] at hdebt
  simp [hdebt]

theorem pending_of_echoedBatch {obligation : CatchupObligation} {frame : TurnCompletedFrame}
    {batch : CatchupBatch} (h : echoedBatch (some obligation) frame = some batch) :
    obligation.pendingBatch = some batch ∧ batch.launchId = frame.launchId := by
  have ⟨hpending, hmatches⟩ := Option.filter_eq_some_iff.mp h
  simp only [Bool.and_eq_true, decide_eq_true_eq] at hmatches
  exact ⟨hpending, hmatches.1.2⟩

theorem obligation_of_echoedBatch {obligation : Option CatchupObligation}
    {frame : TurnCompletedFrame}
    {batch : CatchupBatch} (h : echoedBatch obligation frame = some batch) :
    ∃ owed, obligation = some owed := by
  cases obligation with
  | none => cases h
  | some owed => exact ⟨owed, rfl⟩

theorem echoedObligation_eq_self {obligation : Option CatchupObligation}
    {frame : TurnCompletedFrame}
    (h : echoedBatch obligation frame = none) : echoedObligation obligation frame = obligation := by
  cases obligation with
  | none => rfl
  | some owed => simp [echoedObligation, h]

theorem echoedObligation_eq_echo {obligation : CatchupObligation} {frame : TurnCompletedFrame}
    {batch : CatchupBatch} (h : echoedBatch (some obligation) frame = some batch) :
    echoedObligation (some obligation) frame = applyCatchupEcho obligation batch := by
  simp [echoedObligation, h]

namespace TerminalFailureBreakerState

variable (record : TerminalFailureBreakerState)

theorem catchupObligation_normalizeTerminalBreakerLease (nowMs : Int) :
    (record.normalizeTerminalBreakerLease nowMs).catchupObligation = record.catchupObligation := by
  rw [normalizeTerminalBreakerLease]
  split <;> rfl

def EchoesTurn (frame : TurnCompletedFrame) (applied : TurnCompletedApplied) : Prop :=
  applied.state.catchupObligation =
    if applied.echoApplied then echoedObligation record.catchupObligation frame
    else record.catchupObligation

variable {record} in
theorem EchoesTurn.counted {frame : TurnCompletedFrame} {state : TerminalFailureBreakerState}
    {applied closedNow : Bool} {ignored : Option TerminalFrameIgnoredReason}
    (hstate : state.catchupObligation = echoedObligation record.catchupObligation frame) :
    record.EchoesTurn frame
      ⟨state, applied, ignored, closedNow,
        (echoedBatch record.catchupObligation frame).isSome⟩ := by
  rw [EchoesTurn]
  dsimp only
  rw [hstate]
  cases hbatch : echoedBatch record.catchupObligation frame with
  | some batch => simp
  | none => simp [echoedObligation_eq_self hbatch]

theorem echoesTurn (frame : TurnCompletedFrame) (nowMs : Int)
    (persistedSessionId : Option JsString) :
    record.EchoesTurn frame (record.applyTurnCompletedFrame frame nowMs persistedSessionId) := by
  have hnormalized := record.catchupObligation_normalizeTerminalBreakerLease nowMs
  have hignored (reason : TerminalFrameIgnoredReason) :
      record.EchoesTurn frame (record.ignoreTurn reason) := rfl
  rw [applyTurnCompletedFrame]
  generalize record.normalizeTerminalBreakerLease nowMs = normalized at hnormalized
  have hcompleted (launch : TerminalBreakerLaunch) :
      (normalized.completeTurn launch frame).catchupObligation =
        echoedObligation record.catchupObligation frame := by
    rw [completeTurn, hnormalized]
  dsimp only
  rw [hnormalized]
  split
  · split
    · exact hignored _
    · exact hignored _
    · rename_i probe _ _
      split
      · exact hignored _
      · split
        · exact .counted (hcompleted probe)
        · exact hignored _
  · split
    · exact hignored _
    · rename_i launch _
      split
      · exact hignored _
      · split
        · split
          · exact .counted (hcompleted launch)
          · exact .counted (hcompleted launch)
        · exact hignored _

theorem catchupObligation_build {obligation : CatchupObligation}
    (readCursors : InsertionMap JsString Int)
    (batch : Option CatchupBatch) (h : record.catchupObligation = some obligation) :
    ∃ after, Settled obligation after readCursors ∧
      ((record.applyCatchupBuild readCursors batch).attached = false ∧
          ((record.applyCatchupBuild readCursors batch).state.catchupObligation = some after ∨
            (record.applyCatchupBuild readCursors batch).state.catchupObligation = none ∧
              isCatchupObligationFulfilled after = true) ∨
        ∃ built settled, batch = some built ∧
          (record.applyCatchupBuild readCursors batch).attached = true ∧
          (record.applyCatchupBuild readCursors batch).state.catchupObligation =
            some { after with pendingBatch := some { built with settledByCursor := settled }
              }) := by
  obtain ⟨after, hsettled, hafter⟩ := settleCatchupByReadCursor_settled obligation readCursors
  refine ⟨after, hsettled, ?_⟩
  rw [applyCatchupBuild, h]
  dsimp only
  rcases hafter with hsome | ⟨hnone, hfulfilled⟩
  · rw [hsome]
    cases batch with
    | none => exact .inl ⟨rfl, .inl rfl⟩
    | some built =>
        dsimp only
        split
        · rename_i attached hattached
          cases attachEffect _ hattached with
          | attached owed launch howed =>
              cases howed
              exact .inr ⟨built, _, rfl, rfl, rfl⟩
        · exact .inl ⟨rfl, .inl rfl⟩
  · rw [hnone]
    exact .inl ⟨rfl, .inr ⟨rfl, hfulfilled⟩⟩

end TerminalFailureBreakerState

/-! ## Runs -/

/-- A batch, and the latest seqs posted when the unread set it was judged by was reported. -/
structure ReadBatch where
  batch : CatchupBatch
  latest : JsString → Int

structure TurnEcho where
  /-- The launch whose turn echoed the batch. -/
  launchId : JsString
  batch : CatchupBatch

structure DebtWorld where
  record : TerminalFailureBreakerState
  /-- The latest seq posted to each conversation. -/
  latest : JsString → Int
  readCursor : JsString → Int
  raised : List (JsString × Int)
  built : List ReadBatch
  /-- The latest seqs posted when the pending batch's unread set was reported. -/
  pendingLatest : JsString → Int
  echoed : List TurnEcho

inductive DebtEvent where
  /-- A transition that raises the obligation. -/
  | raise (ceilings : Option (InsertionMap JsString Int)) (origin : CatchupObligationOrigin)
      (next : TerminalFailureBreakerState)
  | post (latest : JsString → Int)
  | read (readCursor : JsString → Int)
  | build (report : UnreadReport) (input : CatchupBatchBuildInput)
  | recordBuild (readCursors : InsertionMap JsString Int) (built : Option ReadBatch)
  | turn (frame : TurnCompletedFrame) (nowMs : Int) (persistedSessionId : Option JsString)
  /-- A transition that leaves what is owed alone. -/
  | other (next : TerminalFailureBreakerState)

namespace DebtWorld

variable (world : DebtWorld)

/-- The row is at or below the read cursor, or was rendered in order in a batch that a turn of
the launch that carried it echoed. -/
def Seen (conversationId : JsString) (seq : Int) : Prop :=
  seq ≤ world.readCursor conversationId ∨
    ∃ echo ∈ world.echoed, echo.batch.launchId = echo.launchId ∧
      echo.batch.Renders conversationId seq

def applyBuild (readCursors : InsertionMap JsString Int) (built : Option ReadBatch) : DebtWorld :=
  let applied := world.record.applyCatchupBuild readCursors (built.map (·.batch))
  { world with
    record := applied.state
    pendingLatest :=
      if applied.attached then (built.map (·.latest)).getD world.pendingLatest
      else world.pendingLatest }

def applyTurn (frame : TurnCompletedFrame) (nowMs : Int) (persistedSessionId : Option JsString) :
    DebtWorld :=
  let applied := world.record.applyTurnCompletedFrame frame nowMs persistedSessionId
  { world with
    record := applied.state
    echoed :=
      if applied.echoApplied then
        world.echoed ++
          (echoedBatch world.record.catchupObligation frame).toList.map (⟨frame.launchId, ·⟩)
      else world.echoed }

def step : DebtEvent → DebtWorld
  | .raise ceilings _ next =>
      { world with record := next, raised := world.raised ++ raisedEntries ceilings }
  | .post latest => { world with latest }
  | .read readCursor => { world with readCursor }
  | .build report input =>
      { world with built := world.built ++ [⟨buildCatchupBatch input, report.latest⟩] }
  | .recordBuild readCursors built => world.applyBuild readCursors built
  | .turn frame nowMs persistedSessionId => world.applyTurn frame nowMs persistedSessionId
  | .other next => { world with record := next }

/-- Seqs and read cursors only grow, and a build meets its contract. -/
def Possible (deliverable : JsString → Int → Prop) : DebtEvent → Prop
  | .raise ceilings origin next => next.catchupObligation =
      some (raiseCatchupObligation world.record.catchupObligation ceilings origin)
  | .post latest => world.latest ≤ latest
  | .read readCursor => world.readCursor ≤ readCursor
  | .build report input => report.readCursor ≤ world.readCursor ∧ report.latest ≤ world.latest ∧
      MeetsContract deliverable world.record.catchupObligation world.latest report input
  | .recordBuild readCursors built =>
      (∀ conversationId cursor, readCursors.get conversationId = some cursor →
        cursor ≤ world.readCursor conversationId) ∧ ∀ read, built = some read → read ∈ world.built
  | .turn _ _ _ => True
  | .other next =>
      next.catchupObligation.map (·.debt) = world.record.catchupObligation.map (·.debt)

structure Begins : Prop where
  record : ∀ obligation, world.record.catchupObligation = some obligation →
    obligation.obligationCursor = .empty ∧ obligation.pendingBatch = none
  raised : world.raised = []
  built : world.built = []
  echoed : world.echoed = []

/-- Where nothing is owed any more, every row up to a raised message was seen. -/
def ForgetsOnlySeen (deliverable : JsString → Int → Prop) : Prop :=
  world.record.catchupObligation = none → ∀ owed ∈ world.raised, ∀ seq ≤ owed.2,
    deliverable owed.1 seq → world.Seen owed.1 seq

/-- The turn echoes a complete batch on an overflow, while a message that no ceiling covers has
an unseen row posted since the unread set of the batch was reported. -/
structure Outruns (deliverable : JsString → Int → Prop) (frame : TurnCompletedFrame) : Prop where
  lost : ∃ obligation batch, world.record.catchupObligation = some obligation ∧
    echoedBatch (some obligation) frame = some batch ∧ obligation.owedOverflow = true ∧
      isCompleteBatch batch = true ∧ ∃ owed ∈ world.raised, ¬ obligation.Ceils owed.1 owed.2 ∧
        ∃ seq ≤ owed.2, world.pendingLatest owed.1 < seq ∧ deliverable owed.1 seq ∧
          ¬ world.Seen owed.1 seq

/-- No complete batch is echoed on an overflow that grew since it was built. -/
def KeepsOverflow (deliverable : JsString → Int → Prop) : DebtEvent → Prop
  | .turn frame _ _ => ¬ world.Outruns deliverable frame
  | _ => True

/-! ## The invariant -/

structure Accounted (deliverable : JsString → Int → Prop) : Prop where
  claimed : ∀ obligation, world.record.catchupObligation = some obligation →
    ∀ conversationId seq, obligation.Claims conversationId seq → deliverable conversationId seq →
      world.Seen conversationId seq
  pending : ∀ obligation batch, world.record.catchupObligation = some obligation →
    obligation.pendingBatch = some batch → batch.Backed deliverable world.Seen world.pendingLatest
  built : ∀ read ∈ world.built, read.batch.Backed deliverable world.Seen read.latest
  raised : ∀ owed ∈ world.raised, (∀ seq ≤ owed.2, deliverable owed.1 seq → world.Seen owed.1 seq) ∨
    ∃ obligation, world.record.catchupObligation = some obligation ∧ obligation.Owes owed.1 owed.2

variable {world} {deliverable : JsString → Int → Prop}

theorem Seen.grows {next : DebtWorld} {conversationId : JsString} {seq : Int}
    (h : world.Seen conversationId seq) (hread : world.readCursor ≤ next.readCursor)
    (hechoed : ∀ echo ∈ world.echoed, echo ∈ next.echoed) : next.Seen conversationId seq := by
  rcases h with hcursor | ⟨echo, hecho, hrenders⟩
  · exact .inl (hcursor.trans (hread conversationId))
  · exact .inr ⟨echo, hechoed echo hecho, hrenders⟩

theorem Begins.accounted (h : world.Begins) : world.Accounted deliverable where
  claimed obligation hobligation conversationId seq hclaims _ := by
    obtain ⟨cursor, hget, _⟩ := hclaims
    rw [(h.record obligation hobligation).1] at hget
    cases hget
  pending obligation batch hobligation hbatch := by
    rw [(h.record obligation hobligation).2] at hbatch
    cases hbatch
  built read hread := by
    rw [h.built] at hread
    cases hread
  raised owed howed := by
    rw [h.raised] at howed
    cases howed

theorem Accounted.transport {next : DebtWorld} (h : world.Accounted deliverable)
    (hdebt : next.record.catchupObligation.map (·.debt) = world.record.catchupObligation.map
      (·.debt))
    (hseen : ∀ conversationId seq, world.Seen conversationId seq → next.Seen conversationId seq)
    (hpending : next.pendingLatest = world.pendingLatest) (hraised : next.raised = world.raised)
    (hbuilt : ∀ read ∈ next.built,
      read ∈ world.built ∨ read.batch.Backed deliverable next.Seen read.latest) :
    next.Accounted deliverable where
  claimed obligation hnext conversationId seq hclaims hdeliverable := by
    obtain ⟨before, hbefore, hsame⟩ := obligation_of_debt hdebt hnext
    rw [hsame] at hclaims
    exact hseen _ _ (h.claimed before hbefore conversationId seq hclaims hdeliverable)
  pending obligation batch hnext hbatch := by
    obtain ⟨before, hbefore, hsame⟩ := obligation_of_debt hdebt hnext
    rw [hsame] at hbatch
    rw [hpending]
    exact (h.pending before batch hbefore hbatch).mono hseen
  built read hread := (hbuilt read hread).elim (fun hmem => (h.built read hmem).mono hseen) id
  raised owed howed := by
    rcases h.raised owed (hraised ▸ howed) with hall | ⟨obligation, hsome, howes⟩
    · exact .inl fun seq hseq hdeliverable => hseen _ _ (hall seq hseq hdeliverable)
    · obtain ⟨after, hafter, hsame⟩ := obligation_of_debt hdebt.symm hsome
      rw [hsame] at howes
      exact .inr ⟨after, hafter, howes⟩

theorem Accounted.raise (h : world.Accounted deliverable)
    {ceilings : Option (InsertionMap JsString Int)}
    {origin : CatchupObligationOrigin} {next : TerminalFailureBreakerState}
    (hnext : next.catchupObligation =
      some (raiseCatchupObligation world.record.catchupObligation ceilings origin)) :
    (world.step (.raise ceilings origin next)).Accounted deliverable := by
  have ⟨hraised, hnamed⟩ :=
    raised_raiseCatchupObligation world.record.catchupObligation ceilings origin
  refine ⟨fun obligation hobligation conversationId seq hclaims hdeliverable => ?_,
    fun obligation batch hobligation hbatch => ?_, h.built, fun owed howed => ?_⟩
  · cases hnext.symm.trans hobligation
    rw [CatchupObligation.Claims, hraised.obligationCursor] at hclaims
    cases hcurrent : world.record.catchupObligation with
    | none =>
        obtain ⟨cursor, hget, _⟩ := hclaims
        rw [hcurrent] at hget
        cases hget
    | some current =>
        rw [hcurrent] at hclaims
        exact h.claimed current hcurrent conversationId seq hclaims hdeliverable
  · cases hnext.symm.trans hobligation
    rw [hraised.pendingBatch] at hbatch
    cases hcurrent : world.record.catchupObligation with
    | none =>
        rw [hcurrent] at hbatch
        cases hbatch
    | some current =>
        rw [hcurrent] at hbatch
        exact h.pending current batch hcurrent hbatch
  · rcases List.mem_append.mp howed with hold | hnew
    · rcases h.raised owed hold with hall | ⟨current, hcurrent, howes⟩
      · exact .inl hall
      · refine .inr ⟨_, hnext, ?_⟩
        rw [hcurrent] at hraised ⊢
        exact hraised.owes howes
    · exact .inr ⟨_, hnext, hnamed owed hnew⟩

theorem Accounted.build (h : world.Accounted deliverable) {report : UnreadReport}
    {input : CatchupBatchBuildInput}
    (hpossible : world.Possible deliverable (.build report input)) :
    (world.step (.build report input)).Accounted deliverable := by
  obtain ⟨hread, _, hcontract⟩ := hpossible
  refine h.transport rfl (fun _ _ => id) rfl rfl fun read hmem => ?_
  rcases List.mem_append.mp hmem with hold | hnew
  · exact .inl hold
  · cases List.mem_singleton.mp hnew
    have hclaimed (owed : CatchupObligation)
        (howed : world.record.catchupObligation = some owed) (conversationId : JsString)
        (cursor : Int)
        (hget : owed.obligationCursor.get conversationId = some cursor) (seq : Int)
        (hseq : seq ≤ cursor) :=
      h.claimed owed howed conversationId seq ⟨cursor, hget, hseq⟩
    exact .inr (hcontract.backed
      (fun conversationId seq hseq => .inl (hseq.trans (hread conversationId))) hclaimed)

theorem Accounted.settled (h : world.Accounted deliverable) {obligation after : CatchupObligation}
    {readCursors : InsertionMap JsString Int}
    (hobligation : world.record.catchupObligation = some obligation)
    (hsettled : Settled obligation after readCursors)
    (hcursors : ∀ conversationId cursor, readCursors.get conversationId = some cursor →
      cursor ≤ world.readCursor conversationId) {conversationId : JsString} {seq : Int}
    (hclaims : after.Claims conversationId seq) (hdeliverable : deliverable conversationId seq) :
    world.Seen conversationId seq := by
  rcases hsettled.read hclaims with hbefore | ⟨cursor, hget, hseq⟩
  · exact h.claimed obligation hobligation conversationId seq hbefore hdeliverable
  · exact .inl (hseq.trans (hcursors conversationId cursor hget))

theorem Accounted.recordBuild (h : world.Accounted deliverable)
    {readCursors : InsertionMap JsString Int} {built : Option ReadBatch}
    (hpossible : world.Possible deliverable (.recordBuild readCursors built)) :
    (world.step (.recordBuild readCursors built)).Accounted deliverable := by
  obtain ⟨hcursors, hmem⟩ := hpossible
  rw [step, applyBuild]
  cases hobligation : world.record.catchupObligation with
  | none =>
      have happlied : world.record.applyCatchupBuild readCursors (built.map (·.batch)) =
          ⟨world.record, false, false, [], false⟩ := by
        rw [TerminalFailureBreakerState.applyCatchupBuild, hobligation]
      rw [happlied]
      exact h.transport rfl (fun _ _ => id) rfl rfl fun _ => .inl
  | some obligation =>
      obtain ⟨after, hsettled, hafter⟩ := world.record.catchupObligation_build readCursors
        (built.map (·.batch)) hobligation
      have hclaimed {conversationId : JsString} {seq : Int}
        (hclaims : after.Claims conversationId seq)
          (hdeliverable : deliverable conversationId seq) : world.Seen conversationId seq :=
        h.settled hobligation hsettled hcursors hclaims hdeliverable
      have howed (owed : JsString × Int) (hraised : owed ∈ world.raised) :
          (∀ seq ≤ owed.2, deliverable owed.1 seq → world.Seen owed.1 seq) ∨
            after.Owes owed.1 owed.2 := by
        refine (h.raised owed hraised).imp_right ?_
        rintro ⟨current, hcurrent, howes⟩
        cases hobligation.symm.trans hcurrent
        exact hsettled.owes howes
      rcases hafter with ⟨hattached, hnext⟩ | ⟨batch, settled, hbatch, hattached, hnext⟩
      · rw [hattached, if_neg Bool.false_ne_true]
        rcases hnext with hsome | ⟨hnone, hfulfilled⟩
        · refine ⟨fun owed howes conversationId seq hclaims => ?_,
            fun owed batch howes hbatch => ?_,
            h.built, fun owed hraised => ?_⟩
          · cases hsome.symm.trans howes
            exact hclaimed hclaims
          · cases hsome.symm.trans howes
            exact h.pending obligation batch hobligation (hsettled.pendingBatch ▸ hbatch)
          · exact (howed owed hraised).imp_right fun howes => ⟨after, hsome, howes⟩
        · refine ⟨fun owed howes => ?_, fun owed batch howes => ?_, h.built, fun owed hraised => ?_⟩
          · cases hnone.symm.trans howes
          · cases hnone.symm.trans howes
          · refine .inl ((howed owed hraised).elim id fun howes seq hseq hdeliverable => ?_)
            rcases howes with hceils | hoverflow
            · exact hclaimed ((CatchupObligation.claims_of_fulfilled hfulfilled hceils).le hseq)
                hdeliverable
            · rw [CatchupObligation.not_overflow_of_fulfilled hfulfilled] at hoverflow
              cases hoverflow
      · obtain ⟨read, rfl, rfl⟩ := Option.map_eq_some_iff.mp hbatch
        rw [hattached, if_pos rfl]
        refine ⟨fun owed howes conversationId seq hclaims => ?_,
          fun owed batch howes hpending => ?_,
          h.built, fun owed hraised => ?_⟩
        · cases hnext.symm.trans howes
          exact hclaimed hclaims
        · cases hnext.symm.trans howes
          cases hpending
          exact (h.built read (hmem read rfl)).withSettled settled
        · exact (howed owed hraised).imp_right fun howes => ⟨_, hnext, howes⟩

theorem Accounted.echo (h : world.Accounted deliverable) {next : DebtWorld}
    {frame : TurnCompletedFrame}
    {obligation : CatchupObligation} {batch : CatchupBatch}
    (hobligation : world.record.catchupObligation = some obligation)
    (hbatch : echoedBatch (some obligation) frame = some batch)
    (hnext : next.record.catchupObligation = applyCatchupEcho obligation batch)
    (hread : next.readCursor = world.readCursor) (hraised : next.raised = world.raised)
    (hbuilt : next.built = world.built) (hpending : next.pendingLatest = world.pendingLatest)
    (hechoed : next.echoed = world.echoed ++ [⟨frame.launchId, batch⟩])
    (hkeeps : ¬ world.Outruns deliverable frame) : next.Accounted deliverable := by
  have ⟨hcarried, hlaunch⟩ := pending_of_echoedBatch hbatch
  have hbacked := h.pending obligation batch hobligation hcarried
  have hgrows {conversationId : JsString} {seq : Int} (hseen : world.Seen conversationId seq) :
      next.Seen conversationId seq :=
    hseen.grows hread.ge fun echo hecho => hechoed ▸ List.mem_append_left _ hecho
  have hrendered {conversationId : JsString} {seq : Int}
      (hrow : world.Seen conversationId seq ∨ batch.Renders conversationId seq) :
      next.Seen conversationId seq := by
    rcases hrow with hseen | hrenders
    · exact hgrows hseen
    · exact .inr ⟨⟨frame.launchId, batch⟩, by simp [hechoed], hlaunch, hrenders⟩
  obtain ⟨after, hafter, hresult⟩ := applyCatchupEcho_echoed obligation batch
  have hclaimed {conversationId : JsString} {seq : Int} (hclaims : after.Claims conversationId seq)
      (hdeliverable : deliverable conversationId seq) : next.Seen conversationId seq := by
    rcases (hafter.claims conversationId seq).mp hclaims with hbefore | ⟨entry, hentry, rfl,
      hcovered⟩
    · exact hgrows (h.claimed obligation hobligation conversationId seq hbefore hdeliverable)
    · exact hrendered (hbacked.covered entry hentry seq hcovered hdeliverable)
  -- A message owed only through a cleared overflow had its rows read with the batch.
  have howed (owed : JsString × Int) (hmem : owed ∈ world.raised) :
      (∀ seq ≤ owed.2, deliverable owed.1 seq → next.Seen owed.1 seq) ∨
        after.Owes owed.1 owed.2 := by
    rcases h.raised owed hmem with hall | ⟨current, hcurrent, howes⟩
    · exact .inl fun seq hseq hdeliverable => hgrows (hall seq hseq hdeliverable)
    · cases hobligation.symm.trans hcurrent
      by_cases hceils : obligation.Ceils owed.1 owed.2
      · refine .inr (.inl ?_)
        rw [CatchupObligation.Ceils, hafter.owedCeilings]
        exact hceils
      · have hoverflow := howes.resolve_left hceils
        cases hcomplete : isCompleteBatch batch with
        | false => exact .inr (.inr (by rw [hafter.owedOverflow, hoverflow, hcomplete]; rfl))
        | true =>
            refine .inl fun seq hseq hdeliverable => ?_
            by_cases hlatest : seq ≤ world.pendingLatest owed.1
            · exact hrendered (hbacked.complete hcomplete owed.1 seq hlatest hdeliverable)
            · by_contra hunseen
              exact hkeeps ⟨obligation, batch, hobligation, hbatch, hoverflow, hcomplete,
                owed, hmem,
                hceils, seq, hseq, not_le.mp hlatest, hdeliverable, fun hseen =>
                  hunseen (hgrows hseen)⟩
  have hbuiltBacked : ∀ read ∈ next.built, read.batch.Backed deliverable next.Seen read.latest :=
    fun read hmem => (h.built read (hbuilt ▸ hmem)).mono fun _ _ => hgrows
  rcases hresult with hsome | ⟨hnone, hfulfilled⟩
  · rw [hsome] at hnext
    refine ⟨fun owed howes conversationId seq hclaims => ?_,
      fun owed pending howes hpendingBatch => ?_,
      hbuiltBacked, fun owed hmem => ?_⟩
    · cases hnext.symm.trans howes
      exact hclaimed hclaims
    · cases hnext.symm.trans howes
      rw [hpending]
      exact (h.pending obligation pending hobligation
        (hafter.pendingBatch pending hpendingBatch)).mono fun _ _ => hgrows
    · exact (howed owed (hraised ▸ hmem)).imp_right fun howes => ⟨after, hnext, howes⟩
  · rw [hnone] at hnext
    refine ⟨fun owed howes => ?_, fun owed pending howes => ?_, hbuiltBacked, fun owed hmem => ?_⟩
    · cases hnext.symm.trans howes
    · cases hnext.symm.trans howes
    · refine .inl ((howed owed (hraised ▸ hmem)).elim id fun howes seq hseq hdeliverable => ?_)
      rcases howes with hceils | hoverflow
      · exact hclaimed ((CatchupObligation.claims_of_fulfilled hfulfilled hceils).le hseq)
          hdeliverable
      · rw [CatchupObligation.not_overflow_of_fulfilled hfulfilled] at hoverflow
        cases hoverflow

theorem Accounted.turn (h : world.Accounted deliverable) {frame : TurnCompletedFrame} {nowMs : Int}
    {persistedSessionId : Option JsString} (hkeeps : ¬ world.Outruns deliverable frame) :
    (world.step (.turn frame nowMs persistedSessionId)).Accounted deliverable := by
  have hturn := world.record.echoesTurn frame nowMs persistedSessionId
  rw [TerminalFailureBreakerState.EchoesTurn] at hturn
  cases hecho : (world.record.applyTurnCompletedFrame frame nowMs
    persistedSessionId).echoApplied with
  | false =>
      rw [hecho, if_neg Bool.false_ne_true] at hturn
      refine h.transport (congrArg _ hturn) (fun _ _ hseen =>
        hseen.grows le_rfl fun echo hmem => ?_) rfl rfl
        fun _ => .inl
      simpa [step, applyTurn, hecho] using hmem
  | true =>
      rw [hecho, if_pos rfl] at hturn
      cases hbatch : echoedBatch world.record.catchupObligation frame with
      | none =>
          rw [echoedObligation_eq_self hbatch] at hturn
          refine h.transport (congrArg _ hturn) (fun _ _ hseen =>
            hseen.grows le_rfl fun echo hmem => ?_) rfl rfl
            fun _ => .inl
          simp [step, applyTurn, hecho, hmem]
      | some batch =>
          obtain ⟨obligation, hobligation⟩ := obligation_of_echoedBatch hbatch
          rw [hobligation] at hbatch hturn
          rw [echoedObligation_eq_echo hbatch] at hturn
          refine h.echo hobligation hbatch hturn rfl rfl rfl rfl ?_ hkeeps
          simp [step, applyTurn, hecho, hobligation, hbatch]

theorem Accounted.step (h : world.Accounted deliverable) {event : DebtEvent}
    (hpossible : world.Possible deliverable event)
    (hkeeps : world.KeepsOverflow deliverable event) :
    (world.step event).Accounted deliverable := by
  cases event with
  | raise ceilings origin next => exact h.raise hpossible
  | post latest => exact h.transport rfl (fun _ _ => id) rfl rfl fun _ => .inl
  | read readCursor =>
      exact h.transport rfl (fun _ _ hseen => hseen.grows hpossible fun _ =>
        id) rfl rfl fun _ => .inl
  | build report input => exact h.build hpossible
  | recordBuild readCursors built => exact h.recordBuild hpossible
  | turn frame nowMs persistedSessionId => exact h.turn hkeeps
  | other next => exact h.transport hpossible (fun _ _ => id) rfl rfl fun _ => .inl

theorem Accounted.forgetsOnlySeen (h : world.Accounted deliverable) :
    world.ForgetsOnlySeen deliverable := by
  intro hnone owed hmem
  rcases h.raised owed hmem with hall | ⟨obligation, hsome, _⟩
  · exact hall
  · cases hnone.symm.trans hsome

/-! ## Cursors -/

def KeepsCursors (world next : DebtWorld) : Prop :=
  ∀ before after, world.record.catchupObligation = some before →
    next.record.catchupObligation = some after → ∀ conversationId cursor,
      before.obligationCursor.get conversationId = some cursor →
        ∃ later, after.obligationCursor.get conversationId = some later ∧ cursor ≤ later

theorem keepsCursors_of_debt {next : DebtWorld}
    (h : next.record.catchupObligation.map (·.debt) = world.record.catchupObligation.map (·.debt)) :
    world.KeepsCursors next := by
  intro before after hbefore hafter conversationId cursor hget
  obtain ⟨current, hcurrent, hsame⟩ := obligation_of_debt h hafter
  cases hbefore.symm.trans hcurrent
  rw [hsame]
  exact ⟨cursor, hget, le_rfl⟩

theorem keepsCursors_step {event : DebtEvent} (hpossible : world.Possible deliverable event) :
    world.KeepsCursors (world.step event) := by
  cases event with
  | raise ceilings origin next =>
      intro before after hbefore hafter conversationId cursor hget
      cases (Eq.symm hpossible).trans hafter
      have hraised := (raised_raiseCatchupObligation (some before) ceilings origin).1
      rw [hbefore, hraised.obligationCursor]
      exact ⟨cursor, hget, le_rfl⟩
  | post latest => exact keepsCursors_of_debt rfl
  | read readCursor => exact keepsCursors_of_debt rfl
  | build report input => exact keepsCursors_of_debt rfl
  | recordBuild readCursors built =>
      intro before after hbefore hafter conversationId cursor hget
      obtain ⟨settled, hsettled, hresult⟩ := world.record.catchupObligation_build readCursors
        (built.map (·.batch)) hbefore
      have hclaims : settled.Claims conversationId cursor := hsettled.claims ⟨cursor, hget, le_rfl⟩
      rcases hresult with ⟨_, hsome | ⟨hnone, _⟩⟩ | ⟨batch, settlements, _, _, hsome⟩
      · cases hsome.symm.trans hafter
        exact hclaims
      · cases hnone.symm.trans hafter
      · cases hsome.symm.trans hafter
        exact hclaims
  | turn frame nowMs persistedSessionId =>
      have hturn := world.record.echoesTurn frame nowMs persistedSessionId
      rw [TerminalFailureBreakerState.EchoesTurn] at hturn
      split at hturn
      · intro before after hbefore hafter conversationId cursor hget
        have hechoed := hturn.symm.trans hafter
        rw [hbefore] at hechoed
        cases hbatch : echoedBatch (some before) frame with
        | none =>
            rw [echoedObligation_eq_self hbatch] at hechoed
            cases hechoed
            exact ⟨cursor, hget, le_rfl⟩
        | some batch =>
            rw [echoedObligation_eq_echo hbatch] at hechoed
            obtain ⟨moved, hmoved, hresult⟩ := applyCatchupEcho_echoed before batch
            rcases hresult with hsome | ⟨hnone, _⟩
            · cases hsome.symm.trans hechoed
              exact (hmoved.claims conversationId cursor).mpr (.inl ⟨cursor, hget, le_rfl⟩)
            · cases hnone.symm.trans hechoed
      · exact keepsCursors_of_debt (congrArg _ hturn)
  | other next => exact keepsCursors_of_debt hpossible

/-- In every run in which no complete batch is echoed on an overflow that outgrew it, the
obligation becomes null only once every row up to every raised message was seen. -/
theorem owed_messages_forgotten_only_seen (deliverable : JsString → Int → Prop) (start : DebtWorld)
    (hbegins : start.Begins) (events : List DebtEvent)
    (hpossible : Admitted step (fun world event => world.Possible deliverable event) start events)
    (hkeeps : Admitted step (fun world event => world.KeepsOverflow deliverable event)
      start events) :
    (run step start events).ForgetsOnlySeen deliverable ∧
      ∀ before event, before ++ [event] <+: events →
        (run step start before).KeepsCursors (run step start (before ++ [event])) := by
  refine ⟨?_, fun before event hstarts => ?_⟩
  · have hboth : Admitted step (fun world event => world.Possible deliverable event ∧
        world.KeepsOverflow deliverable event) start events :=
      admitted_iff_forall_step.mpr fun before next hstarts =>
        ⟨admitted_iff_forall_step.mp hpossible before next hstarts,
          admitted_iff_forall_step.mp hkeeps before next hstarts⟩
    exact (hboth.invariant (Accounted · deliverable) (fun _ _ h hguard => h.step hguard.1 hguard.2)
      hbegins.accounted).forgetsOnlySeen
  · rw [run_concat]
    exact keepsCursors_step (admitted_concat.mp (hpossible.of_initial hstarts)).2

/-! ## A batch that is outrun -/

def owedConversation (index : Nat) : JsString := [Fin.ofNat _ index]

def owedOnce (indexes : List Nat) : InsertionMap JsString Int :=
  mapOf (indexes.map fun index => (owedConversation index, 1))

def oneRow (_conversationId : JsString) (seq : Int) : Prop := seq = 1

def postedOnce (missing : List JsString) (conversationId : JsString) : Int :=
  if conversationId ∈ missing then 0 else 1

def owing (record : TerminalFailureBreakerState) (ceilings : InsertionMap JsString Int) :
    TerminalFailureBreakerState :=
  { record with
    catchupObligation := some (raiseCatchupObligation record.catchupObligation (some ceilings)
      .failure) }

def carriedRecord : TerminalFailureBreakerState :=
  freshTerminalFailureBreakerState.transition (startOn (js "launch-1") 0)

def refusedRecord : TerminalFailureBreakerState := owing carriedRecord (owedOnce (List.range 64))

def lastUnread : CatchupBatchBuildInput where
  batchId := js "batch-1"
  launchId := js "launch-1"
  builtAtMs := 1
  conversations := [⟨owedConversation 63, 0, 1, false, [1]⟩]
  rendered := [⟨js "message-1", owedConversation 63, 1, false⟩]
  candidateCapHit := false
  unreadLatestSeqs := owedOnce [63]

def beforeLatePost : JsString → Int := postedOnce [owedConversation 64]

def readAllButLast : JsString → Int := postedOnce [owedConversation 63, owedConversation 64]

def lastRead : ReadBatch := ⟨buildCatchupBatch lastUnread, beforeLatePost⟩

def builtRecord : TerminalFailureBreakerState :=
  (refusedRecord.applyCatchupBuild (owedOnce (List.range 63)) (some lastRead.batch)).state

def debtStart : DebtWorld := ⟨carriedRecord, fun _ => 0, fun _ => 0, [], [], fun _ => 0, []⟩

def carriedRun : List DebtEvent :=
  [.post beforeLatePost, .raise (some (owedOnce (List.range 64))) .failure refusedRecord,
    .read readAllButLast, .build ⟨readAllButLast, beforeLatePost⟩ lastUnread,
    .recordBuild (owedOnce (List.range 63)) (some lastRead)]

def echoingTurn : DebtEvent :=
  .turn ⟨js "launch-1", some (js "session-1"), js "daemon-1", 1, some (js "batch-1"),
    some (some 1)⟩ 2
    (some (js "session-1"))

def outrunRun : List DebtEvent :=
  carriedRun ++ [.post fun _ => 1,
    .raise (some (owedOnce [64])) .failure (owing builtRecord (owedOnce [64])), echoingTurn]

theorem debtStart_begins : debtStart.Begins := by
  refine ⟨fun obligation hobligation => ?_, rfl, rfl, rfl⟩
  cases (rfl : debtStart.record.catchupObligation = none).symm.trans hobligation

theorem postedOnce_nonneg (missing : List JsString) : (fun _ => 0) ≤ postedOnce missing := by
  intro conversationId
  rw [postedOnce]
  split <;> norm_num

theorem postedOnce_le_one (missing : List JsString) : postedOnce missing ≤ fun _ => 1 := by
  intro conversationId
  rw [postedOnce]
  split <;> norm_num

theorem lastUnread_meetsContract :
    MeetsContract oneRow refusedRecord.catchupObligation beforeLatePost
    ⟨readAllButLast, beforeLatePost⟩ lastUnread where
  distinct := by decide +kernel
  lowerBound c hc := by
    cases List.mem_singleton.mp hc
    decide +kernel
  fetches c hc := by
    cases List.mem_singleton.mp hc
    exact ⟨by decide +kernel, by decide, by decide +kernel, fun seq hrow _ _ _ => by
      rw [oneRow] at hrow
      simp [hrow]⟩
  unread conversationId seq hrow hunread hposted := by
    rw [oneRow] at hrow
    subst hrow
    simp only [readAllButLast, beforeLatePost, postedOnce, List.mem_cons, List.not_mem_nil,
      or_false] at hunread hposted
    split_ifs at hunread with hconversation
    · split_ifs at hposted with hlate
      · omega
      · rw [hconversation.resolve_right hlate]
        exact ⟨1, by decide +kernel, le_rfl⟩
    · omega

theorem carriedRun_possible :
    Admitted step (fun world event => world.Possible oneRow event) debtStart carriedRun := by
  refine ⟨postedOnce_nonneg _, rfl, postedOnce_nonneg _,
    ⟨le_rfl, le_rfl, lastUnread_meetsContract⟩,
    ⟨fun conversationId cursor hget => ?_, fun read hread => ?_⟩, trivial⟩
  · have hread := mem_of_get_mapOf hget
    obtain ⟨index, hindex, heq⟩ := List.mem_map.mp hread
    cases heq
    have hall : ∀ index ∈ List.range 63, 1 ≤ readAllButLast (owedConversation index) := by
      decide +kernel
    exact hall index hindex
  · cases hread
    exact List.mem_singleton_self _

theorem settled_runs :
    (run step debtStart outrunRun).record.catchupObligation.isNone = true ∧
      (∀ echo ∈ (run step debtStart outrunRun).echoed, ∀ message ∈ echo.batch.messages,
        message.conversationId ≠ owedConversation 64) ∧
      (run step debtStart carriedRun).record.catchupObligation.all
        (fun obligation => !obligation.owedOverflow) = true ∧
      (run step debtStart (carriedRun ++ [echoingTurn])).record.catchupObligation.isNone =
        true := by
  decide +kernel

/-- The overflow of the late message is cleared by the batch that was built before it. -/
theorem outrun_overflow_forgets :
    ¬ ∀ (deliverable : JsString → Int → Prop) (start : DebtWorld), start.Begins →
      ∀ events, Admitted step (fun world event => world.Possible deliverable event) start events →
        (run step start events).ForgetsOnlySeen deliverable := by
  intro hall
  have hbuilt : (run step debtStart carriedRun).record = builtRecord := by
    simp only [carriedRun, run_cons, run_nil, step, applyBuild, Option.map_some]
    rfl
  have hpossible : Admitted step (fun world event => world.Possible oneRow event) debtStart
      outrunRun := by
    refine admitted_append.mpr ⟨carriedRun_possible, postedOnce_le_one _, ?_, trivial, trivial⟩
    simp only [Possible, step, hbuilt, owing]
  obtain ⟨hnull, hrendered, -, -⟩ := settled_runs
  have hraised : (owedConversation 64, (1 : Int)) ∈ (run step debtStart outrunRun).raised :=
    List.mem_append_right _ (List.mem_singleton_self _)
  have hread : (run step debtStart outrunRun).readCursor (owedConversation 64) < 1 :=
    (by decide : readAllButLast (owedConversation 64) < 1)
  rcases hall oneRow debtStart debtStart_begins outrunRun hpossible
    (Option.isNone_iff_eq_none.mp hnull) _ hraised 1 le_rfl rfl with hcursor | ⟨echo, hecho, _,
      hrenders⟩
  · exact absurd hcursor hread.not_ge
  · obtain ⟨message, hmessage, hconversation, _⟩ := hrenders
    exact hrendered echo hecho message hmessage hconversation

/-- Without the late message the same turn settles the obligation. -/
theorem carriedRun_forgets_only_seen :
    (run step debtStart (carriedRun ++ [echoingTurn])).record.catchupObligation.isNone = true ∧
      (run step debtStart (carriedRun ++ [echoingTurn])).ForgetsOnlySeen oneRow := by
  have hpossible : Admitted step (fun world event => world.Possible oneRow event) debtStart
      (carriedRun ++ [echoingTurn]) := admitted_append.mpr ⟨carriedRun_possible, trivial, trivial⟩
  obtain ⟨-, -, hroom, hnull⟩ := settled_runs
  refine ⟨hnull, (owed_messages_forgotten_only_seen oneRow debtStart debtStart_begins _
    hpossible (admitted_append.mpr ⟨⟨trivial, trivial, trivial, trivial, trivial, trivial⟩,
      ?_, trivial⟩)).1⟩
  rintro ⟨obligation, _, hobligation, _, hoverflow, _⟩
  rw [hobligation, Option.all_some, hoverflow] at hroom
  cases hroom

end DebtWorld

end Raft.TerminalBreaker
