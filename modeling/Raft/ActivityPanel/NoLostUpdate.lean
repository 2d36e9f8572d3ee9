import Raft.ActivityPanel.InFlight

/-!
# The panel loses no update

Where every difference that is folded starts at or before the watermark it
meets, a window served from the core has the rows that the server had at the
position the core names.  A drain can break the condition: it asks after a
watermark captured before a rebaseline, under the epoch held after it.
-/

namespace Raft.ActivityPanel

open Raft.Foundation Raft.Activity Raft.ActivityServer Raft.Sync

/-! ## The three promises -/

/-- The rows of the window are the server's active rows at the held epoch and watermark. -/
def ServedExactly (setting : PanelSetting) (panel : Panel) (scopeId : SyncScopeId)
    (window : CoreAuthoritativeWindow) : Prop :=
  ∃ filter epoch watermark, scopeId = setting.scopeId filter ∧
    panel.consumer.core.scopeSyncState ACTIVITY_DOMAIN scopeId =
      some ⟨(watermark : Nat), some (UInt64String.ofNat epoch).1, false⟩ ∧
    window.rows.Perm
      ((activeRowsAt (panel.service.log filter) (toLex (epoch, watermark))).map windowRow)

/-- The scope and the request id that a body of the difference route answers. -/
def differenceAnswers (raw : JsValue) : Option (SyncScopeId × JsString) :=
  match differenceFromResponse raw with
  | .ok (.difference requestId response) => some (response.scopeId, requestId)
  | .ok (.notModified requestId scopeId _ _ _) => some (scopeId, requestId)
  | .error (.snapshotRequired scopeId _ _ requestId) => some (scopeId, requestId)
  | .error (.activityIngress _) => none

def IgnoresUncorrelated (consumer : ActivityConsumer) : Prop :=
  (∀ raw snapshot, snapshotFromResponse raw = .ok snapshot →
    consumer.outstanding.get snapshot.scopeId ≠ some snapshot.requestId →
    ∃ reason, consumer.acceptSnapshot raw =
      .ok (.ignoredUncorrelated snapshot.requestId reason, consumer)) ∧
  ∀ raw scopeId requestId, differenceAnswers raw = some (scopeId, requestId) →
    consumer.outstanding.get scopeId ≠ some requestId →
    ∃ reason, consumer.acceptDifference raw =
      .ok (.ignoredUncorrelated requestId reason, consumer)

/-- After an accepted 409 the scope has one request, a snapshot. -/
def CollapsesConflicts (consumer : ActivityConsumer) : Prop :=
  ∀ raw scopeId epoch watermark requestId outcome next,
    differenceFromResponse raw = .error (.snapshotRequired scopeId epoch watermark requestId) →
    consumer.acceptDifference raw = .ok (.snapshotRequired outcome, next) →
    next.pendingRequests.filter (fun request =>
      request.domain = ACTIVITY_DOMAIN ∧ request.scopeId = scopeId) =
        [.snapshot ACTIVITY_DOMAIN scopeId .snapshotRequired]

/-! ## Correlation -/

theorem ignoresUncorrelated (consumer : ActivityConsumer) : IgnoresUncorrelated consumer := by
  refine ⟨fun raw snapshot hraw hother => ?_, fun raw scopeId requestId hraw hother => ?_⟩
  · rw [ActivityConsumer.acceptSnapshot, hraw]
    exact ActivityConsumer.settle_uncorrelated hother _ _
  · rw [differenceAnswers] at hraw
    rw [ActivityConsumer.acceptDifference]
    split at hraw
    on_goal 4 => cases hraw
    all_goals
      rename_i hparsed
      cases hraw
      rw [hparsed]
      exact ActivityConsumer.settle_uncorrelated hother _ _

/-! ## Conflicts -/

structure WellFormed (setting : PanelSetting) (core : ActivitySyncCore) : Prop where
  registered : core.domainOf ACTIVITY_DOMAIN = .ok (createActivityDomain setting.numberText)
  keyed : WellKeyed core.pending

section

variable {setting : PanelSetting} {consumer next : ActivityConsumer}
  {answer : ActivityIngestReport}

theorem wellFormed_ingest {report : SyncIngestOutcome → ActivityIngestReport}
    {input : SyncHarnessInput JsValue JsValue}
    (hingest : consumer.ingest report input = .ok (answer, next))
    (h : WellFormed setting consumer.core) : WellFormed setting next.core := by
  rw [ActivityConsumer.ingest] at hingest
  cases hresult : ingestSyncHarnessInput consumer.core input with
  | error message =>
      rw [hresult] at hingest
      cases hingest
  | ok result =>
      have hcore : Sync.step consumer.core input = result.2 := by
        rw [Sync.step, hresult]
      rw [hresult] at hingest
      cases hingest
      change WellFormed setting result.2
      rw [← hcore]
      exact ⟨by rw [step_domainOf]; exact h.registered, wellKeyed_step input h.keyed⟩

theorem wellFormed_settle {scopeId : SyncScopeId} {requestId : JsString}
    {report : SyncIngestOutcome → ActivityIngestReport}
    {input : SyncHarnessInput JsValue JsValue}
    (hsettle : consumer.settle scopeId requestId report input = .ok (answer, next))
    (h : WellFormed setting consumer.core) : WellFormed setting next.core := by
  rw [ActivityConsumer.settle] at hsettle
  split at hsettle
  · cases hsettle
    exact h
  · exact wellFormed_ingest hsettle h

theorem wellFormed_acceptSnapshot {raw : JsValue}
    (haccept : consumer.acceptSnapshot raw = .ok (answer, next))
    (h : WellFormed setting consumer.core) : WellFormed setting next.core := by
  rw [ActivityConsumer.acceptSnapshot] at haccept
  cases hraw : snapshotFromResponse raw with
  | error error =>
      rw [hraw] at haccept
      cases haccept
  | ok snapshot =>
      rw [hraw] at haccept
      exact wellFormed_settle haccept h

theorem wellFormed_acceptDifference {raw : JsValue}
    (haccept : consumer.acceptDifference raw = .ok (answer, next))
    (h : WellFormed setting consumer.core) : WellFormed setting next.core := by
  rw [ActivityConsumer.acceptDifference] at haccept
  split at haccept
  · exact wellFormed_settle haccept h
  · cases haccept
  · exact wellFormed_settle haccept h
  · exact wellFormed_settle haccept h

theorem wellFormed_acceptPush {raw : JsValue}
    (haccept : consumer.acceptPush raw = .ok (answer, next))
    (h : WellFormed setting consumer.core) : WellFormed setting next.core := by
  rw [ActivityConsumer.acceptPush] at haccept
  cases hraw : frameFromPushEvent raw with
  | error error =>
      rw [hraw] at haccept
      cases haccept
  | ok frame =>
      rw [hraw] at haccept
      exact wellFormed_ingest haccept h

theorem wellFormed_drain {panel : Panel} (h : WellFormed setting panel.consumer.core)
    (requests : List SyncRequestDescription) :
    WellFormed setting (panel.drain setting requests).consumer.core := by
  cases requests with
  | nil => exact h
  | cons request rest => exact h

theorem wellFormed_receive {panel : Panel} (h : WellFormed setting panel.consumer.core)
    (fetch : Fetch) (body : JsValue) :
    WellFormed setting (panel.receive setting fetch body).consumer.core := by
  rw [Panel.receive]
  split
  · dsimp only
    split
    · exact h
    · rename_i haccept
      exact wellFormed_acceptSnapshot haccept h
  · rename_i request rest _
    dsimp only
    split
    · exact h
    · rename_i answer next haccept
      apply wellFormed_drain
      split at haccept
      · exact wellFormed_acceptSnapshot haccept h
      · exact wellFormed_acceptDifference haccept h

theorem wellFormed_step {panel : Panel} (h : WellFormed setting panel.consumer.core)
    (event : PanelEvent) : WellFormed setting (panelStep setting panel event).consumer.core := by
  cases event with
  | reconcile input => exact h
  | bootstrap filter => exact h
  | drain => exact wellFormed_drain h _
  | push filter index =>
      rw [panelStep]
      split
      · exact h
      · split
        · exact h
        · rename_i haccept
          exact wellFormed_acceptPush haccept h
  | answer index input =>
      rw [panelStep]
      split
      · exact h
      · split
        · exact h
        · rw [Panel.answer]
          split <;> exact h
  | deliver index =>
      rw [panelStep]
      split
      · exact h
      · split
        · exact h
        · rename_i fetch _ _ body _
          have herased :
              WellFormed setting
                { panel with fetches := panel.fetches.eraseIdx index }.consumer.core := h
          exact wellFormed_receive herased fetch body

theorem wellFormed_run (events : List PanelEvent) :
    WellFormed setting (run (panelStep setting) (createPanel setting) events).consumer.core := by
  apply run_invariant (fun panel : Panel => WellFormed setting panel.consumer.core) events
    fun panel event h => wellFormed_step h event
  have hinitial := (panelSound_initial setting).consumer
  exact ⟨hinitial.registered, hinitial.keyed⟩

/-- The 409 is routed under the held epoch, so the core never takes it for a mismatch. -/
theorem epochMismatch_heldEpoch (scopeId : SyncScopeId) (epoch : SyncEpoch) :
    epochMismatch (consumer.core.scopeEntry (createActivityDomain setting.numberText) scopeId)
      (some ((consumer.heldEpoch scopeId).getD epoch)) = false := by
  have hname : (createActivityDomain setting.numberText).name = ACTIVITY_DOMAIN := rfl
  rw [SyncCore.scopeEntry, ActivityConsumer.heldEpoch, SyncCore.scopeSyncState, hname]
  cases consumer.core.scopes ACTIVITY_DOMAIN scopeId with
  | none => rfl
  | some entry => cases hepoch : entry.epoch <;> simp [epochMismatch, hepoch]

theorem collapsesConflicts (h : WellFormed setting consumer.core) :
    CollapsesConflicts consumer := by
  intro raw scopeId epoch watermark requestId outcome next hraw haccept
  have hnext := wellFormed_acceptDifference haccept h
  rw [ActivityConsumer.acceptDifference, hraw] at haccept
  dsimp only at haccept
  generalize hresponse : ({
    scopeId
    epoch := some ((consumer.heldEpoch scopeId).getD epoch)
    fromSeq := watermark
    toSeq := watermark
    events := []
    snapshotRequired := true } : SyncDifferenceResponse JsValue) = response at haccept
  by_cases houtstanding : consumer.outstanding.get scopeId = some requestId
  · let input : SyncHarnessInput JsValue JsValue := .difference ACTIVITY_DOMAIN response
    have hdomain : input.domain = ACTIVITY_DOMAIN := rfl
    have hscope : input.scopeId = scopeId := by
      simp only [input, SyncHarnessInput.scopeId, ← hresponse]
    obtain ⟨accepted, hsettled⟩ := ActivityConsumer.settle_correlated h.registered houtstanding
      .snapshotRequired hdomain
    have hcore : next.core = Sync.step consumer.core input := by
      rw [hsettled] at haccept
      cases haccept
      rfl
    have hwrites : (input.write (createActivityDomain setting.numberText)
        (consumer.core.scopeEntry (createActivityDomain setting.numberText)
          input.scopeId)).requests = [.clearScopeRequests, .requestSnapshot .snapshotRequired] := by
      rw [hscope]
      simp only [input, SyncHarnessInput.write, differenceWrite, ← hresponse,
        epochMismatch_heldEpoch, Bool.false_eq_true, if_false, if_true]
    have hregistered : consumer.core.domainOf input.domain =
        .ok (createActivityDomain setting.numberText) := h.registered
    have hpending := step_pending_of_domainOf hregistered
    rw [hwrites, hscope] at hpending
    rw [ActivityConsumer.pendingRequests, SyncCore.pendingRequests]
    refine hnext.keyed.sole_snapshot ?_ ?_ rfl rfl
    · rw [hcore, hpending, hdomain, get_writeRequests_own]
      rfl
    · rw [hcore, hpending, hdomain, get_writeRequests_own]
      rfl
  · obtain ⟨reason, hignored⟩ := ActivityConsumer.settle_uncorrelated houtstanding
      ActivityIngestReport.snapshotRequired (.difference ACTIVITY_DOMAIN response)
    rw [hignored] at haccept
    cases haccept

/-! ## Windows -/

theorem PanelSound.servedExactly {panel : Panel} (h : PanelSound setting panel)
    {gate : ActivityCutoverGate} {scopeId : SyncScopeId} {window : CoreAuthoritativeWindow}
    (hcore : hostWindowAuthority gate panel.consumer scopeId = .core window) :
    ServedExactly setting panel scopeId window := by
  rw [hostWindowAuthority] at hcore
  split at hcore
  · cases hcore
  · rw [ActivityConsumer.windowAuthority, SyncCore.state, SyncCore.scopeSyncState] at hcore
    cases hscope : panel.consumer.core.scopes ACTIVITY_DOMAIN scopeId with
    | none =>
        rw [hscope] at hcore
        cases hcore
    | some entry =>
        obtain ⟨filter, rfl⟩ := h.consumer.known scopeId entry hscope
        have hname : panel.consumer.core.scopes (createActivityDomain setting.numberText).name
            (setting.scopeId filter) = some entry := hscope
        have hexact := h.consumer.exact filter
        rw [SyncCore.scopeEntry, hname, Option.getD_some] at hexact
        simp only [hscope, Option.map_some, decideActivityWindowAuthority,
          Option.some.injEq] at hcore
        split at hcore
        · cases hcore
        rename_i hrepair
        rw [Bool.not_eq_true] at hrepair
        split at hcore
        · cases hcore
        rename_i activityVersion hversion
        split at hcore
        · cases hcore
          cases hexact with
          | unbased applied held initial =>
              rw [initial] at hversion
              cases hversion
          | based epoch watermark applied held reached shadows =>
              refine ⟨filter, epoch, watermark, rfl, ?_, shadows.rows_perm⟩
              rw [SyncCore.scopeSyncState, hscope, Option.map_some, applied, held,
                Option.getD_some, hrepair]
        · cases hcore

theorem hostWindowAuthority_on (consumer : ActivityConsumer) (scopeId : SyncScopeId) :
    hostWindowAuthority .on consumer scopeId = consumer.windowAuthority scopeId := rfl

/-- In every state of a run whose differences are covered, a window served from the core is exact;
in every state of every run, uncorrelated responses change nothing and a 409 leaves one request. -/
theorem panel_loses_no_update (setting : PanelSetting) (events : List PanelEvent) :
    let panel := run (panelStep setting) (createPanel setting) events
    (Admitted (panelStep setting) (Covered setting) (createPanel setting) events →
      ∀ gate scopeId window, hostWindowAuthority gate panel.consumer scopeId = .core window →
        ServedExactly setting panel scopeId window) ∧
      IgnoresUncorrelated panel.consumer ∧ CollapsesConflicts panel.consumer := by
  intro panel
  refine ⟨fun hcovered gate scopeId window hcore => ?_, ignoresUncorrelated _,
    collapsesConflicts (wellFormed_run events)⟩
  have hsound : PanelSound setting panel := hcovered.invariant (PanelSound setting)
    (fun panel event h hevent => h.step event hevent) (panelSound_initial setting)
  exact hsound.servedExactly hcore

end

/-! ### A difference -/

def toggleDigest (value : JsValue) : JsString :=
  exampleDigest value ++
    (if asBoolean ((value.read (js "metadata")).read (js "hasMore")) = some true then js "+"
    else js "-")

def windowInput (rows : List ActivityRowPayload)
    (distinct : (rows.map ActivityRowPayload.rowId).Nodup) (hasMore : Bool) : ReconcileInput where
  filter := .all
  canonical := ⟨rows, ⟨none, hasMore, true, 1, 1⟩, distinct⟩
  reasons := fun _ => .outOfWindow
  scan := []

def emptyWindow (hasMore : Bool) : ReconcileInput := windowInput [] List.nodup_nil hasMore

def generalWindow (hasMore : Bool) : ReconcileInput :=
  windowInput [generalRow] generalRow_nodup hasMore

def exampleSetting : PanelSetting where
  digest := toggleDigest
  localeCompare := fun _ _ => 0
  numberText := fun _ => js "1"
  serverId := js "s1"
  principalId := js "p1"
  filterOf := fun _ => .all

/-- A window without rows, and then the page that brings the general channel. -/
def differenceRun : List PanelEvent :=
  [.bootstrap .all, .answer 0 (emptyWindow true), .deliver 0, .reconcile (generalWindow true),
    .reconcile (generalWindow false), .push .all 3, .drain, .answer 0 (generalWindow false)]

def afterOf : FetchParams → Option Int
  | .snapshot => none
  | .difference _ after => some after

def coreRowCount : ActivityWindowAuthority → Option Nat
  | .core window => some window.rows.length
  | .legacy _ => none

/-- The difference was asked for after the watermark that the scope still has. -/
theorem differenceRun_state :
    ((run (panelStep exampleSetting) (createPanel exampleSetting)
        differenceRun).fetches[0]?.map fun fetch => (fetch.filter, afterOf fetch.params)) =
          some (.all, some 1) ∧
      ((run (panelStep exampleSetting) (createPanel exampleSetting)
        differenceRun).consumer.core.scopeEntry (createActivityDomain exampleSetting.numberText)
          (exampleSetting.scopeId .all)).appliedSeq = some 1 ∧
      coreRowCount (ActivityConsumer.windowAuthority (run (panelStep exampleSetting)
        (createPanel exampleSetting) (differenceRun ++ [.deliver 0])).consumer
          (exampleSetting.scopeId .all)) = some 1 := by
  decide +kernel

theorem covered_differenceRun :
    Admitted (panelStep exampleSetting) (Covered exampleSetting) (createPanel exampleSetting)
      (differenceRun ++ [.deliver 0]) := by
  refine admitted_concat.mpr ⟨⟨trivial, trivial,
    fun fetch body epoch after hget _ hparams => ?_, trivial, trivial, trivial, trivial, trivial,
    trivial⟩, fun fetch body epoch after hget _ hparams _ _ _ applied happlied => ?_⟩
  · have hasked := congrArg (Option.map Fetch.params) hget
    rw [Option.map_some, hparams] at hasked
    cases hasked
  · obtain ⟨hasked, hheld, -⟩ := differenceRun_state
    have hfound := congrArg (Option.map fun fetch => (fetch.filter, afterOf fetch.params)) hget
    rw [Option.map_some, hparams] at hfound
    obtain ⟨hfilter, hafter⟩ := Prod.mk.inj (Option.some.inj (hasked.symm.trans hfound))
    rw [← hfilter] at happlied
    obtain rfl := Option.some.inj hafter
    exact (Option.some.inj (hheld.symm.trans happlied)).le

theorem panel_loses_no_update_difference :
    ∃ window : CoreAuthoritativeWindow, window.rows.length = 1 ∧
      ServedExactly exampleSetting
        (run (panelStep exampleSetting) (createPanel exampleSetting)
          (differenceRun ++ [.deliver 0])) (exampleSetting.scopeId .all) window := by
  obtain ⟨-, -, hcount⟩ := differenceRun_state
  have hserved := (panel_loses_no_update exampleSetting (differenceRun ++ [.deliver 0])).1
    covered_differenceRun .on (exampleSetting.scopeId .all)
  cases hwindow : ActivityConsumer.windowAuthority (run (panelStep exampleSetting)
      (createPanel exampleSetting) (differenceRun ++ [.deliver 0])).consumer
        (exampleSetting.scopeId .all) with
  | legacy reason =>
      rw [hwindow] at hcount
      cases hcount
  | core window =>
      rw [hwindow] at hcount
      exact ⟨window, Option.some.inj hcount,
        hserved window ((hostWindowAuthority_on _ _).trans hwindow)⟩

/-! ## A drain across a rollover -/

/-! ### The service of a run -/

section

variable {setting : PanelSetting}

theorem service_drain (panel : Panel) (requests : List SyncRequestDescription) :
    (panel.drain setting requests).service = panel.service := by
  cases requests <;> rfl

theorem service_receive (panel : Panel) (fetch : Fetch) (body : JsValue) :
    (panel.receive setting fetch body).service = panel.service := by
  rw [Panel.receive]
  split
  · dsimp only
    split <;> rfl
  · dsimp only
    split
    · rfl
    · exact service_drain _ _

theorem service_deliver (panel : Panel) (index : Nat) :
    (panelStep setting panel (.deliver index)).service = panel.service := by
  rw [panelStep]
  split
  · rfl
  · split
    · rfl
    · exact service_receive _ _ _

theorem service_push (panel : Panel) (filter : ActivityFilter) (index : Nat) :
    (panelStep setting panel (.push filter index)).service = panel.service := by
  rw [panelStep]
  split
  · rfl
  · split <;> rfl

theorem service_drained (panel : Panel) :
    (panelStep setting panel .drain).service = panel.service :=
  service_drain panel _

theorem service_answer (panel : Panel) (index : Nat) (input : ReconcileInput) :
    (panelStep setting panel (.answer index input)).service = panel.service ∨
      ∃ fetch, panel.fetches[index]? = some fetch ∧
        (panelStep setting panel (.answer index input)).service =
          panel.service.reconcile setting.digest { input with filter := fetch.filter } := by
  rw [panelStep]
  split
  · exact Or.inl rfl
  · rename_i fetch hget
    split
    · exact Or.inl rfl
    · rw [Panel.answer]
      split
      · exact Or.inl rfl
      · exact Or.inr ⟨fetch, hget, rfl⟩

theorem serviceSound_run (events : List PanelEvent) :
    ServiceSound setting.digest
      (run (panelStep setting) (createPanel setting) events).service := by
  refine run_invariant (fun panel : Panel => ServiceSound setting.digest panel.service) events
    (fun panel event h => ?_) (serviceSound_initial setting.digest)
  cases event with
  | reconcile input => exact (h.reconcile input).1
  | push filter index => rwa [service_push]
  | drain =>
      change ServiceSound setting.digest (panel.drain setting _).service
      rwa [service_drain]
  | bootstrap filter => exact h
  | answer index input =>
      rcases service_answer panel index input with hkept | ⟨fetch, -, hserved⟩
      · rwa [hkept]
      · rw [hserved]
        exact (h.reconcile _).1
  | deliver index => rwa [service_deliver]

/-- The panel without the log, which no step but a push reads. -/
def Panel.forgetLog (panel : Panel) : Panel :=
  { panel with service := { tables := panel.service.tables } }

theorem forgetLog_drain (panel : Panel) (requests : List SyncRequestDescription) :
    (panel.drain setting requests).forgetLog = panel.forgetLog.drain setting requests := by
  cases requests <;> rfl

theorem forgetLog_receive (panel : Panel) (fetch : Fetch) (body : JsValue) :
    (panel.receive setting fetch body).forgetLog = panel.forgetLog.receive setting fetch body := by
  have hconsumer : panel.forgetLog.consumer = panel.consumer := rfl
  rw [Panel.receive, Panel.receive, hconsumer]
  cases fetch.continuation with
  | bootstrap =>
      dsimp only
      split <;> rfl
  | drain request rest =>
      dsimp only
      split
      · rfl
      · exact forgetLog_drain _ _

theorem forgetLog_step (panel : Panel) {event : PanelEvent}
    (h : ∀ filter index, event ≠ .push filter index) :
    (panelStep setting panel event).forgetLog =
      (panelStep setting panel.forgetLog event).forgetLog := by
  have hfetches : panel.forgetLog.fetches = panel.fetches := rfl
  cases event with
  | push filter index => exact absurd rfl (h filter index)
  | reconcile input => rfl
  | bootstrap filter => rfl
  | drain => rw [panelStep, panelStep, forgetLog_drain, forgetLog_drain]; rfl
  | answer index input =>
      rw [panelStep, panelStep, hfetches]
      split
      · rfl
      · split
        · rfl
        · rename_i fetch _ _
          have hrespond : respond setting panel.forgetLog.service fetch
              { input with filter := fetch.filter } =
                respond setting panel.service fetch { input with filter := fetch.filter } := rfl
          rw [Panel.answer, Panel.answer, hrespond]
          split <;> rfl
  | deliver index =>
      rw [panelStep, panelStep, hfetches]
      split
      · rfl
      · split
        · rfl
        · rw [forgetLog_receive, forgetLog_receive]
          rfl

theorem forgetLog_run (panel : Panel) {events : List PanelEvent}
    (h : ∀ filter index, .push filter index ∉ events) :
    (run (panelStep setting) panel events).forgetLog =
      (run (panelStep setting) panel.forgetLog events).forgetLog := by
  induction events using List.reverseRecOn with
  | nil => rfl
  | append_singleton events event ih =>
      have hevent : ∀ filter index, event ≠ .push filter index := fun filter index heq =>
        h filter index (by simp [heq])
      rw [run_concat, run_concat, forgetLog_step _ hevent,
        ih fun filter index hmem => h filter index (List.mem_append_left _ hmem),
        ← forgetLog_step _ hevent]

theorem run_reconcile (panel : Panel) (inputs : List ReconcileInput) :
    (run (panelStep setting) panel (inputs.map .reconcile)).forgetLog =
      { panel with service :=
        { tables := run (reconcileInTransaction setting.digest) panel.service.tables inputs }
          } := by
  induction inputs generalizing panel with
  | nil => rfl
  | cons input inputs ih =>
      rw [List.map_cons, run_cons, ih]
      rfl

end

/-! ### The failing run -/

def beforeRollover : List PanelEvent :=
  [.reconcile (emptyWindow true), .reconcile (emptyWindow false), .reconcile (emptyWindow true),
    .bootstrap .all, .answer 0 (emptyWindow true), .deliver 0,
    .reconcile (emptyWindow false), .reconcile (emptyWindow true),
    .push .all 2, .push .all 4, .drain]

def toggles (rounds : Nat) : List ReconcileInput :=
  (List.replicate rounds [emptyWindow false, emptyWindow true]).flatten

/-- The drain goes on in the new epoch, in which the general channel arrives at position 2. -/
def afterRollover : List PanelEvent :=
  [.answer 0 (emptyWindow true), .deliver 0, .reconcile (generalWindow true),
    .reconcile (generalWindow false), .answer 0 (generalWindow false), .deliver 0]

def lossyRun : List PanelEvent :=
  beforeRollover ++ (toggles 1022).map .reconcile ++ afterRollover

def emptyDigest (hasMore : Bool) : JsString :=
  toggleDigest (scopeFact toggleDigest (emptyWindow hasMore).canonical [])

structure Idle (tables : ActivityTables) (scopeDigest : Option JsString) (count : Nat) : Prop where
  version : tables.principalVersion = 0
  authorities : tables.authorities = fun _ => none
  others : ∀ filter, filter ≠ .all → tables.scopes filter = {}
  epoch : (tables.scopes .all).epoch = 1
  digest : (tables.scopes .all).scopeDigest = scopeDigest
  rows : (tables.scopes .all).rows = InsertionMap.empty
  count : (tables.scopes .all).changes.length = count

theorem idle_initial : Idle {} none 0 := ⟨rfl, rfl, fun _ _ => rfl, rfl, rfl, rfl, rfl⟩

section

variable {tables : ActivityTables} {scopeDigest : Option JsString} {count : Nat}

theorem pendingChanges_idle (h : Idle tables scopeDigest count) (hasMore : Bool) :
    pendingChanges toggleDigest (tables.scopes .all) (emptyWindow hasMore)
        (reconcileRows toggleDigest tables (emptyWindow hasMore)) =
      if scopeDigest ≠ some (emptyDigest hasMore) then
        [.scope (emptyWindow hasMore).canonical.metadata] else [] := by
  have hwork : (reconcileRows toggleDigest tables (emptyWindow hasMore)).rows =
      InsertionMap.empty := h.rows
  have hpending : (reconcileRows toggleDigest tables (emptyWindow hasMore)).pending = [] := rfl
  rw [pendingChanges, hwork, hpending, h.digest]
  rfl

theorem Idle.reconcile (h : Idle tables scopeDigest count) (hasMore : Bool)
    (hroom : count < CHANGE_RETENTION) :
    Idle (reconcileInTransaction toggleDigest tables (emptyWindow hasMore))
      (some (emptyDigest hasMore))
      (if scopeDigest ≠ some (emptyDigest hasMore) then count + 1 else count) := by
  have hwork : reconcileRows toggleDigest tables (emptyWindow hasMore) =
      startReconciling tables .all := rfl
  have hpending := pendingChanges_idle h hasMore
  have hscope : (reconcileInTransaction toggleDigest tables (emptyWindow hasMore)).scopes .all =
      reconcileScope toggleDigest (tables.scopes .all) (emptyWindow hasMore)
        (reconcileRows toggleDigest tables (emptyWindow hasMore)) := by
    change Function.update tables.scopes .all _ .all = _
    rw [Function.update_self]
    rfl
  have hwritten : { tables.scopes .all with
      rows := (reconcileRows toggleDigest tables (emptyWindow hasMore)).rows } =
        tables.scopes .all := rfl
  have hkeeps : rollsOver (tables.scopes .all) (if scopeDigest ≠ some (emptyDigest hasMore) then
      [.scope (emptyWindow hasMore).canonical.metadata] else []) = false := by
    rw [rollsOver, h.count]
    split <;> (simp; try omega)
  have hafter : (reconcileInTransaction toggleDigest tables (emptyWindow hasMore)).scopes .all =
      logChanges (tables.scopes .all) (if scopeDigest ≠ some (emptyDigest hasMore) then
        [.scope (emptyWindow hasMore).canonical.metadata] else []) (emptyDigest hasMore)
        (emptyWindow hasMore).canonical.metadata := by
    have hrows : projectedTombstones (reconcileRows toggleDigest tables
        (emptyWindow hasMore)).rows = [] := by
      rw [hwork]
      change projectedTombstones (tables.scopes .all).rows = []
      rw [h.rows]
      rfl
    rw [hscope, reconcileScope]
    simp only [hpending, hkeeps, hrows, hwritten, Bool.false_eq_true, if_false]
    rfl
  refine ⟨h.version, h.authorities, fun filter hfilter => ?_, ?_, ?_, ?_, ?_⟩
  · exact (Function.update_of_ne hfilter _ _).trans (h.others filter hfilter)
  all_goals
    rw [hafter]
    by_cases hmoved : scopeDigest ≠ some (emptyDigest hasMore)
  · simp [hmoved, logChanges, h.epoch]
  · simp [hmoved, logChanges, h.epoch]
  · simp [hmoved, logChanges]
  · simpa [hmoved, logChanges] using h.digest.trans (not_not.mp hmoved)
  · simp [hmoved, logChanges, h.rows]
  · simp [hmoved, logChanges, h.rows]
  · simp [hmoved, logChanges, h.count, numbered]
  · simp [hmoved, logChanges, h.count]

def rolledOver : ActivityTables where
  scopes := Function.update (fun _ => {}) .all {
    epoch := 2
    watermark := 1
    scopeDigest := some (emptyDigest true)
    metadata := some (emptyWindow true).canonical.metadata
    changes := [⟨1, .scope (emptyWindow true).canonical.metadata⟩] }

theorem Idle.rollover (h : Idle tables scopeDigest CHANGE_RETENTION)
    (hmoved : scopeDigest ≠ some (emptyDigest true)) :
    reconcileInTransaction toggleDigest tables (emptyWindow true) = rolledOver := by
  have hpending := pendingChanges_idle h true
  rw [if_pos hmoved] at hpending
  have hrolls : rollsOver (tables.scopes .all) [.scope (emptyWindow true).canonical.metadata] =
      true := by
    rw [rollsOver, h.count]
    rfl
  have hscope : reconcileScope toggleDigest (tables.scopes .all) (emptyWindow true)
      (reconcileRows toggleDigest tables (emptyWindow true)) = rolledOver.scopes .all := by
    have hrows : (reconcileRows toggleDigest tables (emptyWindow true)).rows =
        InsertionMap.empty := h.rows
    rw [reconcileScope]
    simp only [hpending, hrolls, if_true, hrows, h.epoch]
    rfl
  have hscopes : Function.update tables.scopes .all (reconcileScope toggleDigest
      (tables.scopes .all) (emptyWindow true) (reconcileRows toggleDigest tables
        (emptyWindow true))) = rolledOver.scopes := by
    funext filter
    by_cases hfilter : filter = .all
    · subst hfilter
      rw [Function.update_self, hscope]
    · rw [Function.update_of_ne hfilter, h.others filter hfilter]
      cases filter with
      | all => exact absurd rfl hfilter
      | unread | mentions => rfl
  have hversion : (reconcileRows toggleDigest tables (emptyWindow true)).principalVersion = 0 :=
    h.version
  have hauthorities : (reconcileRows toggleDigest tables (emptyWindow true)).authorities =
      fun _ => none := h.authorities
  change ActivityTables.mk (reconcileRows toggleDigest tables (emptyWindow true)).principalVersion
    (reconcileRows toggleDigest tables (emptyWindow true)).authorities
    (Function.update tables.scopes .all (reconcileScope toggleDigest (tables.scopes .all)
      (emptyWindow true) (reconcileRows toggleDigest tables (emptyWindow true)))) = rolledOver
  rw [hscopes, hversion, hauthorities]
  rfl

end

theorem emptyDigest_ne : emptyDigest true ≠ emptyDigest false := by decide +kernel

theorem idle_toggles {tables : ActivityTables} {count : Nat} (rounds : Nat)
    (h : Idle tables (some (emptyDigest true)) count)
    (hroom : count + 2 * rounds ≤ CHANGE_RETENTION) :
    Idle (run (reconcileInTransaction toggleDigest) tables (toggles rounds))
      (some (emptyDigest true)) (count + 2 * rounds) := by
  induction rounds generalizing tables count with
  | zero => exact h
  | succ rounds ih =>
      have hfirst := h.reconcile false (by omega)
      rw [if_pos (by simpa using emptyDigest_ne)] at hfirst
      have hsecond := hfirst.reconcile true (by omega)
      rw [if_pos (by simpa using emptyDigest_ne.symm)] at hsecond
      have hrest := ih hsecond (by omega)
      rw [show count + 1 + 1 + 2 * rounds = count + 2 * (rounds + 1) by omega] at hrest
      exact hrest

theorem idle_beforeRollover :
    Idle (run (panelStep exampleSetting) (createPanel exampleSetting) beforeRollover).service.tables
      (some (emptyDigest true)) 5 := by
  have hfirst := idle_initial.reconcile true (by decide)
  rw [if_pos (by simp)] at hfirst
  have hsecond := hfirst.reconcile false (by decide)
  rw [if_pos (by simpa using emptyDigest_ne)] at hsecond
  have hthird := hsecond.reconcile true (by decide)
  rw [if_pos (by simpa using emptyDigest_ne.symm)] at hthird
  -- The snapshot of the bootstrap finds nothing new.
  have hagain := hthird.reconcile true (by decide)
  rw [if_neg (by simp)] at hagain
  let asked := run (panelStep exampleSetting) (createPanel exampleSetting) (beforeRollover.take 4)
  have hanswered : Idle
    (panelStep exampleSetting asked (.answer 0 (emptyWindow true))).service.tables
      (some (emptyDigest true)) 3 := by
    rcases service_answer asked 0 (emptyWindow true) with hkept | ⟨fetch, hget, hserved⟩
    · rw [hkept]
      exact hthird
    · have hfilter : asked.fetches[0]?.map Fetch.filter = some .all := rfl
      rw [hget] at hfilter
      have hinput : { emptyWindow true with filter := fetch.filter } = emptyWindow true := by
        rw [Option.some.inj hfilter]
        rfl
      rw [hserved, hinput]
      exact hagain
  have hfourth := hanswered.reconcile false (by decide)
  rw [if_pos (by simpa using emptyDigest_ne)] at hfourth
  have hfifth := hfourth.reconcile true (by decide)
  rw [if_pos (by simpa using emptyDigest_ne.symm)] at hfifth
  have htables : (run (panelStep exampleSetting) (createPanel exampleSetting)
      beforeRollover).service.tables =
        reconcileInTransaction toggleDigest (reconcileInTransaction toggleDigest
          (panelStep exampleSetting asked (.answer 0 (emptyWindow true))).service.tables
          (emptyWindow false)) (emptyWindow true) := by
    simp only [beforeRollover, run_cons, run_nil, service_drained, service_push]
    rfl
  rw [htables]
  exact hfifth

def rolledOverPanel : Panel :=
  { run (panelStep exampleSetting) (createPanel exampleSetting) beforeRollover with
    service := { tables := rolledOver } }

def finishedPanel : Panel := run (panelStep exampleSetting) rolledOverPanel afterRollover

theorem forgetLog_lossyRun :
    (run (panelStep exampleSetting) (createPanel exampleSetting) lossyRun).forgetLog =
      finishedPanel.forgetLog := by
  have hidle := idle_toggles 1021 idle_beforeRollover (by decide)
  have hlast := hidle.reconcile false (by decide)
  rw [if_pos (by simpa using emptyDigest_ne)] at hlast
  have hrolled := Idle.rollover hlast (by simpa using emptyDigest_ne.symm)
  have htables : run (reconcileInTransaction exampleSetting.digest) (run (panelStep exampleSetting)
      (createPanel exampleSetting) beforeRollover).service.tables (toggles 1022) = rolledOver := by
    rw [show toggles 1022 = toggles 1021 ++ [emptyWindow false, emptyWindow true] by
      rw [toggles, toggles, List.replicate_succ', List.flatten_append, List.flatten_singleton],
      run_append, run_cons, run_cons, run_nil]
    exact hrolled
  rw [lossyRun, run_append, forgetLog_run, run_append, run_reconcile]
  · rw [htables, finishedPanel, rolledOverPanel]
  · intro filter index hmem
    simp [afterRollover] at hmem

def isEmptyCore : ActivityWindowAuthority → Bool
  | .core window => window.rows.isEmpty
  | .legacy _ => false

theorem finishedPanel_state :
    isEmptyCore (finishedPanel.consumer.windowAuthority (exampleSetting.scopeId .all)) = true ∧
      finishedPanel.consumer.core.scopeSyncState ACTIVITY_DOMAIN (exampleSetting.scopeId .all) =
        some ⟨4, some (UInt64String.ofNat 2).1, false⟩ ∧
      (finishedPanel.service.tables.scopes .all).epoch = 2 ∧
      (finishedPanel.service.tables.scopes .all).watermark = 4 ∧
      (materializeWindow exampleSetting.localeCompare
        (finishedPanel.service.tables.scopes .all)).rows.length = 1 := by
  decide +kernel

theorem isEmptyCore_finishedPanel : isEmptyCore
    (finishedPanel.consumer.windowAuthority (exampleSetting.scopeId .all)) = true :=
  finishedPanel_state.1

theorem scopeSyncState_finishedPanel :
    finishedPanel.consumer.core.scopeSyncState ACTIVITY_DOMAIN (exampleSetting.scopeId .all) =
      some ⟨4, some (UInt64String.ofNat 2).1, false⟩ :=
  finishedPanel_state.2.1

theorem tables_finishedPanel :
    (finishedPanel.service.tables.scopes .all).epoch = 2 ∧
      (finishedPanel.service.tables.scopes .all).watermark = 4 ∧
      (materializeWindow exampleSetting.localeCompare
        (finishedPanel.service.tables.scopes .all)).rows.length = 1 :=
  finishedPanel_state.2.2

theorem forgetLog_consumer {panel other : Panel} (h : panel.forgetLog = other.forgetLog) :
    panel.consumer = other.consumer := by
  have hconsumer := congrArg Panel.consumer h
  exact hconsumer

theorem forgetLog_tables {panel other : Panel} (h : panel.forgetLog = other.forgetLog) :
    panel.service.tables = other.service.tables := by
  have htables := congrArg (fun forgotten : Panel => forgotten.service.tables) h
  exact htables

theorem not_servedExactly {panel finished : Panel}
    (hconsumer : panel.consumer = finished.consumer)
    (htables : panel.service.tables = finished.service.tables)
    (hservice : ServiceSound exampleSetting.digest panel.service)
    (hstate : finished.consumer.core.scopeSyncState ACTIVITY_DOMAIN
      (exampleSetting.scopeId .all) = some ⟨4, some (UInt64String.ofNat 2).1, false⟩)
    (hserver : (finished.service.tables.scopes .all).epoch = 2 ∧
      (finished.service.tables.scopes .all).watermark = 4 ∧
      (materializeWindow exampleSetting.localeCompare
        (finished.service.tables.scopes .all)).rows.length = 1)
    {window : CoreAuthoritativeWindow} (hrows : window.rows = []) :
    ¬ServedExactly exampleSetting panel (exampleSetting.scopeId .all) window := by
  rintro ⟨filter, epoch, watermark, hscope, hheld, hperm⟩
  obtain rfl := scopeId_injective exampleSetting hscope
  rw [hconsumer, hstate] at hheld
  simp only [Option.some.injEq, SyncScopeState.mk.injEq, and_true] at hheld
  obtain ⟨hwatermark, hepoch⟩ := hheld
  obtain rfl := ofNat_text_inj hepoch
  obtain rfl : watermark = 4 := by omega
  obtain ⟨hserverEpoch, hserverWatermark, hlength⟩ := hserver
  have hrecorded := (hservice.log .all).recorded
  rw [htables] at hrecorded
  have hposition : (finished.service.tables.scopes .all).position = toLex (2, 4) := by
    rw [ScopeTables.position, hserverEpoch, hserverWatermark]
  obtain ⟨row, hrow⟩ := List.length_eq_one_iff.mp hlength
  have hactive := (mem_activeRowsAt_iff exampleSetting.localeCompare hrecorded
    (windowRow row)).mpr (by rw [hrow]; simp)
  rw [hposition] at hactive
  rw [hrows] at hperm
  rw [hperm.symm.eq_nil] at hactive
  cases hactive

/-- The core serves an empty window at the position where the server has the general channel. -/
theorem panel_loses_update :
    ¬∀ setting events gate scopeId window,
      let panel := run (panelStep setting) (createPanel setting) events
      hostWindowAuthority gate panel.consumer scopeId = .core window →
        ServedExactly setting panel scopeId window := by
  intro hclaim
  have hconsumer := forgetLog_consumer forgetLog_lossyRun
  have hempty := isEmptyCore_finishedPanel
  rw [← hconsumer] at hempty
  cases hwindow : ActivityConsumer.windowAuthority (run (panelStep exampleSetting)
      (createPanel exampleSetting) lossyRun).consumer (exampleSetting.scopeId .all) with
  | legacy reason =>
      rw [hwindow] at hempty
      cases hempty
  | core window =>
      rw [hwindow] at hempty
      refine not_servedExactly hconsumer (forgetLog_tables forgetLog_lossyRun)
        (serviceSound_run lossyRun) scopeSyncState_finishedPanel tables_finishedPanel
        (List.isEmpty_iff.mp hempty) ?_
      exact hclaim exampleSetting lossyRun .on (exampleSetting.scopeId .all) window
        ((hostWindowAuthority_on _ _).trans hwindow)

end Raft.ActivityPanel
