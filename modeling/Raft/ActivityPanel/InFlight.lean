import Raft.ActivityPanel.Positions

/-!
# The panel with its fetches in flight

The invariant of the panel: the server is sound, every entry of the core is
exact, request ids are issued once, and every answered fetch carries what the
server said at some position of its log.  One lemma for each kind of step.
-/

namespace Raft.ActivityPanel

open Raft.Foundation Raft.Activity Raft.ActivityServer Raft.Sync

/-! ## Names -/

theorem scopeId_injective (setting : PanelSetting) : Function.Injective setting.scopeId := by
  intro first second h
  have hquoted : jsonQuote first.text = jsonQuote second.text := by
    change jsonArray [jsonQuote setting.serverId, jsonQuote setting.principalId,
        jsonQuote first.text, jsonQuote (js "main")] =
      jsonArray [jsonQuote setting.serverId, jsonQuote setting.principalId,
        jsonQuote second.text, jsonQuote (js "main")] at h
    simpa [jsonArray] using h
  revert hquoted
  cases first <;> cases second <;> decide

theorem nextRequestId_injective : Function.Injective nextRequestId := fun _ _ h =>
  decimalText_injective (List.append_cancel_left h)

theorem nextRequestId_ne_nil (number : Nat) : nextRequestId number ≠ [] :=
  List.append_ne_nil_of_left_ne_nil (by decide) _

/-! ## The consumer -/

def Based (core : ActivitySyncCore) (scopeId : SyncScopeId) : Prop :=
  ∃ entry, core.scopes ACTIVITY_DOMAIN scopeId = some entry ∧ entry.appliedSeq ≠ none

theorem appliedSeq_write {config : SyncDomainConfig ActivityDomainState JsValue JsValue}
    {entry : ScopeEntry ActivityDomainState} (input : SyncHarnessInput JsValue JsValue)
    (h : entry.appliedSeq ≠ none) : (input.write config entry).entry.appliedSeq ≠ none := by
  cases input with
  | frame name pushed =>
      rcases frameWrite_entry config entry pushed with ⟨-, -, hentry⟩ | ⟨-, pending, hentry⟩
      · simp [SyncHarnessInput.write, hentry, acceptEvent]
      · simpa [SyncHarnessInput.write, hentry] using h
  | snapshot name taken =>
      rcases snapshotWrite_entry config entry taken with ⟨-, hentry⟩ | ⟨-, hentry⟩
      · simp [SyncHarnessInput.write, hentry, baselineEntry]
      · simpa [SyncHarnessInput.write, hentry] using h
  | difference name response =>
      rcases differenceWrite_entry config entry response with
        ⟨-, pending, hentry⟩ | ⟨-, pending, hentry⟩
      · simp only [SyncHarnessInput.write, hentry, applyDifference]
        exact jumpToSeq_based _ _
      · simpa [SyncHarnessInput.write, hentry] using h

theorem Based.step {core : ActivitySyncCore} {scopeId : SyncScopeId} (h : Based core scopeId)
    (input : SyncHarnessInput JsValue JsValue) : Based (Sync.step core input) scopeId := by
  obtain ⟨entry, hentry, hbased⟩ := h
  by_cases haddress : input.Addresses ACTIVITY_DOMAIN scopeId
  · rcases step_cases core input with hstep | ⟨config, hdomain, hname, -⟩
    · rw [hstep]
      exact ⟨entry, hentry, hbased⟩
    · obtain ⟨hinput, rfl⟩ := haddress
      rw [hinput] at hname hdomain
      refine ⟨(input.write config (core.scopeEntry config input.scopeId)).entry, ?_, ?_⟩
      · rw [← hname]
        exact step_scopes_of_addresses (by rw [hname, hdomain]) ⟨hinput.trans hname.symm, rfl⟩
      · refine appliedSeq_write input ?_
        rwa [SyncCore.scopeEntry, hname, hentry, Option.getD_some]
  · exact ⟨entry, by rw [step_scopes_of_not_addresses haddress, hentry], hbased⟩

variable {setting : PanelSetting} {service : ActivityService}

structure ConsumerSound (setting : PanelSetting) (service : ActivityService)
    (consumer : ActivityConsumer) : Prop where
  registered : consumer.core.domainOf ACTIVITY_DOMAIN =
    .ok (createActivityDomain setting.numberText)
  keyed : WellKeyed consumer.core.pending
  known : ∀ scopeId entry, consumer.core.scopes ACTIVITY_DOMAIN scopeId = some entry →
    ∃ filter, scopeId = setting.scopeId filter
  exact : ∀ filter, Exact (service.log filter) (service.tables.scopes filter).position
    (consumer.core.scopeEntry (createActivityDomain setting.numberText) (setting.scopeId filter))

/-- What a call leaves alone. -/
structure Settled (setting : PanelSetting) (service : ActivityService)
    (consumer next : ActivityConsumer) : Prop where
  sound : ConsumerSound setting service next
  based : ∀ scopeId, Based consumer.core scopeId → Based next.core scopeId
  outstanding : ∀ scopeId requestId, next.outstanding.get scopeId = some requestId →
    consumer.outstanding.get scopeId = some requestId

section

variable {consumer : ActivityConsumer}

theorem ConsumerSound.step (h : ConsumerSound setting service consumer)
    {input : SyncHarnessInput JsValue JsValue} (hdomain : input.domain = ACTIVITY_DOMAIN)
    {filter : ActivityFilter} (hscope : input.scopeId = setting.scopeId filter)
    (hexact : Exact (service.log filter) (service.tables.scopes filter).position
      (input.write (createActivityDomain setting.numberText)
        (consumer.core.scopeEntry (createActivityDomain setting.numberText)
          (setting.scopeId filter))).entry)
    (outstanding : InsertionMap SyncScopeId JsString) :
    ConsumerSound setting service { core := Sync.step consumer.core input, outstanding } := by
  refine ⟨?_, wellKeyed_step input h.keyed, fun scopeId entry hentry => ?_, fun other => ?_⟩
  · rw [step_domainOf]
    exact h.registered
  · by_cases haddress : input.Addresses ACTIVITY_DOMAIN scopeId
    · exact ⟨filter, haddress.2.symm.trans hscope⟩
    · rw [step_scopes_of_not_addresses haddress] at hentry
      exact h.known scopeId entry hentry
  · by_cases hfilter : other = filter
    · subst hfilter
      rwa [step_scopeEntry_of_addresses h.registered ⟨hdomain, hscope⟩]
    · have hother : ¬input.Addresses (createActivityDomain setting.numberText).name
          (setting.scopeId other) := fun haddress =>
        hfilter (scopeId_injective setting (haddress.2.symm.trans hscope))
      rw [step_scopeEntry_of_not_addresses hother]
      exact h.exact other

theorem ConsumerSound.settle (h : ConsumerSound setting service consumer) {requestId : JsString}
    (report : SyncIngestOutcome → ActivityIngestReport)
    {input : SyncHarnessInput JsValue JsValue} (hdomain : input.domain = ACTIVITY_DOMAIN)
    {filter : ActivityFilter} (hscope : input.scopeId = setting.scopeId filter)
    (hexact : consumer.outstanding.get (setting.scopeId filter) = some requestId →
      Exact (service.log filter) (service.tables.scopes filter).position
        (input.write (createActivityDomain setting.numberText)
          (consumer.core.scopeEntry (createActivityDomain setting.numberText)
            (setting.scopeId filter))).entry) :
    ∃ answer next, consumer.settle (setting.scopeId filter) requestId report input =
      .ok (answer, next) ∧ Settled setting service consumer next := by
  by_cases houtstanding : consumer.outstanding.get (setting.scopeId filter) = some requestId
  · obtain ⟨outcome, hsettle⟩ :=
      ActivityConsumer.settle_correlated h.registered houtstanding report hdomain
    refine ⟨_, _, hsettle, h.step hdomain hscope (hexact houtstanding) _,
      fun scopeId hbased => hbased.step input, fun scopeId other hget => ?_⟩
    rw [InsertionMap.get_delete] at hget
    split at hget
    · cases hget
    · exact hget
  · obtain ⟨reason, hsettle⟩ :=
      ActivityConsumer.settle_uncorrelated houtstanding report input
    exact ⟨_, _, hsettle, h, fun _ hbased => hbased, fun _ _ hget => hget⟩

theorem ConsumerSound.acceptPush (h : ConsumerSound setting service consumer)
    (hservice : ServiceSound setting.digest service) {filter : ActivityFilter} {pushed : LogEntry}
    (hpushed : pushed ∈ service.log filter) {body : JsValue}
    (hbody : body = framePush (setting.caller []) filter pushed.epoch pushed.toLoggedChange) :
    ∃ answer next, consumer.acceptPush body = .ok (answer, next) ∧
      Settled setting service consumer next := by
  have hlog := hservice.log filter
  generalize hframe : ({
    scopeId := setting.scopeId filter
    seq := pushed.seq
    epoch := some (UInt64String.ofNat pushed.epoch).1
    event := pushedEvent body } : SyncFrame JsValue) = frame
  have hparsed : frameFromPushEvent body = .ok frame := by
    rw [frameFromPushEvent_framePush _ _ _ _ hbody, ← hframe]
    rfl
  have hseq : frame.seq = pushed.seq := by rw [← hframe]
  have hexact : Exact (service.log filter) (service.tables.scopes filter).position
      (frameWrite (createActivityDomain setting.numberText)
        (consumer.core.scopeEntry (createActivityDomain setting.numberText)
          (setting.scopeId filter)) frame).entry :=
    (h.exact filter).frame (hservice.rising filter) hlog.sorted hlog.bounded hpushed hbody hseq
      (by rw [← hframe]) (by rw [← hframe])
  let input : SyncHarnessInput JsValue JsValue := .frame ACTIVITY_DOMAIN frame
  have hscope : input.scopeId = setting.scopeId filter := by
    simp only [input, SyncHarnessInput.scopeId, ← hframe]
  obtain ⟨outcome, hingest⟩ := ActivityConsumer.ingest_registered h.registered .push
    (show input.domain = ACTIVITY_DOMAIN from rfl)
  have haccept : consumer.acceptPush body = consumer.ingest .push input := by
    rw [ActivityConsumer.acceptPush, hparsed]
    rfl
  exact ⟨_, _, haccept.trans hingest, h.step rfl hscope hexact consumer.outstanding,
    fun scopeId hbased => hbased.step input, fun _ _ hget => hget⟩

theorem ConsumerSound.acceptSnapshot (h : ConsumerSound setting service consumer)
    {filter : ActivityFilter} {scope : ScopeTables}
    (hrecorded : Recorded (service.log filter) scope)
    (hreached : scope.position ≤ (service.tables.scopes filter).position) {requestId : JsString}
    (hid : requestId ≠ []) {body : JsValue}
    (hbody : body = snapshotBody setting.localeCompare (setting.caller requestId) filter scope) :
    ∃ answer next, consumer.acceptSnapshot body = .ok (answer, next) ∧
      Settled setting service consumer next := by
  have hcaller : (setting.caller requestId).requestId ≠ [] := hid
  rw [ActivityConsumer.acceptSnapshot, snapshotFromResponse_snapshotBody hcaller hbody]
  exact h.settle .snapshot rfl rfl fun _ => (h.exact filter).snapshot hrecorded hreached rfl rfl rfl

/-! ## Answers -/

inductive Answered (setting : PanelSetting) (service : ActivityService) (fetch : Fetch) :
    JsValue → Prop
  | snapshot {scope : ScopeTables} (asked : fetch.params = .snapshot)
      (recorded : Recorded (service.log fetch.filter) scope)
      (reached : scope.position ≤ (service.tables.scopes fetch.filter).position) :
      Answered setting service fetch
        (snapshotBody setting.localeCompare (setting.caller fetch.requestId) fetch.filter scope)
  | conflict {scope : ScopeTables} {epoch : JsString} {after : Int}
      (asked : fetch.params = .difference epoch after) :
      Answered setting service fetch
        (snapshotRequiredJson (setting.caller fetch.requestId) fetch.filter scope)
  | notModified {scope : ScopeTables}
      (asked : fetch.params =
        .difference (UInt64String.ofNat scope.epoch).1 (scope.watermark : Int))
      (started : 0 < scope.epoch) :
      Answered setting service fetch
        (notModifiedJson (setting.caller fetch.requestId) fetch.filter scope)
  | difference {scope : ScopeTables} {after : Nat} {changes : List Change}
      (asked : fetch.params = .difference (UInt64String.ofNat scope.epoch).1 (after : Int))
      (recorded : Recorded (service.log fetch.filter) scope)
      (reached : scope.position ≤ (service.tables.scopes fetch.filter).position)
      (logged : scope.changes = numbered 0 changes) (ahead : after < scope.watermark) :
      Answered setting service fetch
        (differenceJson (setting.caller fetch.requestId) fetch.filter scope after
          (latestByRow (numbered after (changes.drop after))).values
          (materializeWindow setting.localeCompare scope).metadata)

theorem answered_respond (h : ServiceSound setting.digest service) {fetch : Fetch}
    {input : ReconcileInput} (hfilter : input.filter = fetch.filter) {body : JsValue}
    (hbody : respond setting service fetch input = some body) :
    Answered setting (service.reconcile setting.digest input) fetch body := by
  obtain ⟨hnext, -⟩ := h.reconcile input
  have hscope : reconciledScope setting.digest service.tables input =
      (service.reconcile setting.digest input).tables.scopes fetch.filter := by
    rw [← hfilter]
    rfl
  have hrecorded := (hnext.log fetch.filter).recorded
  rw [respond] at hbody
  cases hparams : fetch.params with
  | snapshot =>
      simp only [hparams, Option.some.injEq] at hbody
      rw [← hbody, getActivitySnapshot, hscope, hfilter]
      exact .snapshot hparams hrecorded (le_refl _)
  | difference epochText afterWatermark =>
      simp only [hparams, bind, Option.bind_eq_some_iff] at hbody
      obtain ⟨epoch, hepoch, after, hafter, hanswer⟩ := hbody
      obtain rfl : epochText = epoch.1 := by
        rw [asUInt64String] at hepoch
        split at hepoch <;> cases hepoch
        rfl
      obtain rfl : afterWatermark = (after : Int) := by
        cases afterWatermark with
        | ofNat value => cases hafter; rfl
        | negSucc value => cases hafter
      rw [getActivityDifference, hscope, hfilter] at hanswer
      obtain ⟨-, changes, hlog, hwatermark, -⟩ := hrecorded.logged
      rw [differenceAnswer_of_dense setting.localeCompare _ _ hlog hwatermark] at hanswer
      by_cases hrefused : epoch.value ≠
          ((service.reconcile setting.digest input).tables.scopes fetch.filter).epoch ∨
          ((service.reconcile setting.digest input).tables.scopes fetch.filter).watermark < after
      · rw [if_pos hrefused] at hanswer
        cases hanswer
        exact .conflict hparams
      · rw [if_neg hrefused] at hanswer
        obtain ⟨hheld, hle⟩ := not_or.mp hrefused
        obtain rfl : epoch = UInt64String.ofNat
            ((service.reconcile setting.digest input).tables.scopes fetch.filter).epoch :=
          UInt64String.value_injective ((not_not.mp hheld).trans (UInt64String.value_ofNat _).symm)
        by_cases hequal : after =
            ((service.reconcile setting.digest input).tables.scopes fetch.filter).watermark
        · rw [if_pos hequal] at hanswer
          cases hanswer
          exact .notModified (hequal ▸ hparams) hrecorded.started
        · rw [if_neg hequal] at hanswer
          cases hanswer
          exact .difference hparams hrecorded (le_refl _) hlog (by omega)

theorem Answered.grow {fetch : Fetch} {body : JsValue} (h : Answered setting service fetch body)
    (hservice : ServiceSound setting.digest service) (input : ReconcileInput) :
    Answered setting (service.reconcile setting.digest input) fetch body := by
  obtain ⟨hposition, more, hmore, hlater⟩ := (hservice.reconcile input).2 fetch.filter
  have hrecorded : ∀ scope : ScopeTables, Recorded (service.log fetch.filter) scope →
      scope.position ≤ (service.tables.scopes fetch.filter).position →
      Recorded ((service.reconcile setting.digest input).log fetch.filter) scope := by
    intro scope hscope hreached
    rw [hmore]
    exact hscope.append fun entry hentry => hreached.trans_lt (hlater entry hentry)
  cases h with
  | snapshot asked recorded reached =>
      exact .snapshot asked (hrecorded _ recorded reached) (reached.trans hposition)
  | conflict asked => exact .conflict asked
  | notModified asked started => exact .notModified asked started
  | difference asked recorded reached logged ahead =>
      exact .difference asked (hrecorded _ recorded reached) (reached.trans hposition) logged ahead

theorem ConsumerSound.based_of_heldEpoch {consumer : ActivityConsumer} {scopeId : SyncScopeId}
    {epoch : SyncEpoch} (h : ConsumerSound setting service consumer)
    (hheld : consumer.heldEpoch scopeId = some epoch) : Based consumer.core scopeId := by
  rw [ActivityConsumer.heldEpoch, SyncCore.scopeSyncState] at hheld
  cases hscope : consumer.core.scopes ACTIVITY_DOMAIN scopeId with
  | none => simp [hscope] at hheld
  | some entry =>
      obtain ⟨filter, rfl⟩ := h.known scopeId entry hscope
      have hname : consumer.core.scopes (createActivityDomain setting.numberText).name
          (setting.scopeId filter) = some entry := hscope
      have hexact := h.exact filter
      rw [SyncCore.scopeEntry, hname, Option.getD_some] at hexact
      refine ⟨entry, hscope, ?_⟩
      cases hexact with
      | unbased applied held initial => simp [hscope, held] at hheld
      | based held watermark applied _ _ _ => simp [applied]

theorem appliedSeq_of_based {consumer : ActivityConsumer} {scopeId : SyncScopeId}
    (h : Based consumer.core scopeId) :
    (consumer.core.scopeEntry (createActivityDomain setting.numberText) scopeId).appliedSeq ≠
      none := by
  obtain ⟨entry, hentry, hbased⟩ := h
  have hscope : consumer.core.scopes (createActivityDomain setting.numberText).name scopeId =
      some entry := hentry
  rwa [SyncCore.scopeEntry, hscope, Option.getD_some]

theorem ne_zero_text {epoch : Nat} (h : 0 < epoch) : (UInt64String.ofNat epoch).1 ≠ js "0" := by
  intro hzero
  have hepoch : epoch = 0 := ofNat_text_inj (hzero.trans (by decide))
  omega

theorem ConsumerSound.acceptDifference {consumer : ActivityConsumer}
    (h : ConsumerSound setting service consumer) (hservice : ServiceSound setting.digest service)
    {fetch : Fetch} (hid : fetch.requestId ≠ []) {epoch : JsString} {after : Int}
    (hparams : fetch.params = .difference epoch after) {body : JsValue}
    (hbody : Answered setting service fetch body)
    (hbased : consumer.outstanding.get (setting.scopeId fetch.filter) = some fetch.requestId →
      epoch = js "0" ∨ Based consumer.core (setting.scopeId fetch.filter))
    (hcovered : consumer.outstanding.get (setting.scopeId fetch.filter) = some fetch.requestId →
      isTrue (body.read (js "snapshotRequired")) = false →
      Reaches (consumer.core.scopeEntry (createActivityDomain setting.numberText)
        (setting.scopeId fetch.filter)) epoch after) :
    ∃ answer next, consumer.acceptDifference body = .ok (answer, next) ∧
      Settled setting service consumer next := by
  have hexact := h.exact fetch.filter
  have hcaller : (setting.caller fetch.requestId).requestId ≠ [] := hid
  cases hbody with
  | snapshot asked recorded reached =>
      rw [asked] at hparams
      cases hparams
  | conflict asked =>
      rw [ActivityConsumer.acceptDifference, differenceFromResponse_snapshotRequired hcaller rfl]
      exact h.settle .snapshotRequired rfl rfl fun _ =>
        hexact.refused (by simp [acceptsDifference])
  | notModified asked started =>
      cases asked.symm.trans hparams
      rw [ActivityConsumer.acceptDifference, differenceFromResponse_notModified hcaller rfl]
      refine h.settle .notModified rfl rfl fun houtstanding => ?_
      have hheld := (hbased houtstanding).resolve_left (ne_zero_text started)
      exact hexact.notModified (appliedSeq_of_based hheld) rfl rfl (hcovered houtstanding rfl)
  | difference asked recorded reached logged ahead =>
      cases asked.symm.trans hparams
      rw [ActivityConsumer.acceptDifference,
        differenceFromResponse_difference hcaller ahead rfl]
      refine h.settle .difference rfl rfl fun houtstanding => ?_
      have hheld := (hbased houtstanding).resolve_left (ne_zero_text recorded.started)
      exact hexact.difference (appliedSeq_of_based hheld) (hservice.rising fetch.filter) recorded
        reached logged rfl ahead (hcovered houtstanding rfl)

end

/-! ## The panel -/

inductive Asked (core : ActivitySyncCore) : SyncRequestDescription → FetchParams → Prop
  | snapshot (domain : SyncDomainName) (scopeId : SyncScopeId) (reason : SnapshotReason) :
      Asked core (.snapshot domain scopeId reason) .snapshot
  | difference (domain : SyncDomainName) (scopeId : SyncScopeId) (sinceSeq : Int)
      (captured : Option SyncEpoch) (epoch : JsString)
      (held : epoch = js "0" ∨ Based core scopeId) :
      Asked core (.difference domain scopeId sinceSeq captured) (.difference epoch sinceSeq)

structure FetchSound (setting : PanelSetting) (service : ActivityService)
    (core : ActivitySyncCore) (fetch : Fetch) : Prop where
  drained : ∀ request rest, fetch.continuation = .drain request rest →
    Asked core request fetch.params
  bootstrapped : fetch.continuation = .bootstrap → fetch.params = .snapshot
  answered : ∀ body, fetch.body = some body → Answered setting service fetch body

structure PanelSound (setting : PanelSetting) (panel : Panel) : Prop where
  service : ServiceSound setting.digest panel.service
  consumer : ConsumerSound setting panel.service panel.consumer
  fetches : ∀ fetch ∈ panel.fetches,
    FetchSound setting panel.service panel.consumer.core fetch
  issued : ∀ fetch ∈ panel.fetches, ∃ number ≤ panel.requestCounter,
    fetch.requestId = nextRequestId number
  distinct : (panel.fetches.map Fetch.requestId).Nodup
  outstanding : ∀ scopeId requestId,
    panel.consumer.outstanding.get scopeId = some requestId →
    (∃ number ≤ panel.requestCounter, requestId = nextRequestId number) ∧
      ∀ fetch ∈ panel.fetches, fetch.requestId = requestId →
        ∀ request rest, fetch.continuation = .drain request rest → request.scopeId = scopeId

section

variable {panel : Panel}

theorem panelSound_initial (setting : PanelSetting) : PanelSound setting (createPanel setting) := by
  have hfresh := fresh_soleDomainCore (createActivityDomain setting.numberText)
  have hscopes : (createPanel setting).consumer.core.scopes = fun _ _ => none := hfresh.fields.1
  have hentry : ∀ scopeId, (createPanel setting).consumer.core.scopeEntry
      (createActivityDomain setting.numberText) scopeId =
        SyncCore.initialEntry (createActivityDomain setting.numberText) :=
    hfresh.scopeEntry (createActivityDomain setting.numberText)
  refine ⟨serviceSound_initial _, ⟨?_, ?_, ?_, fun filter => ?_⟩, ?_, ?_, List.nodup_nil, ?_⟩
  · exact domainOf_soleDomainCore (createActivityDomain setting.numberText)
  · intro key request hget
    cases hget
  · intro scopeId entry hfound
    rw [hscopes] at hfound
    cases hfound
  · rw [hentry]
    exact .unbased rfl rfl rfl
  · intro fetch hfetch
    cases hfetch
  · intro fetch hfetch
    cases hfetch
  · intro scopeId requestId hget
    cases hget

theorem Asked.mono {core after : ActivitySyncCore} {request : SyncRequestDescription}
    {params : FetchParams} (h : Asked core request params)
    (hbased : ∀ scopeId, Based core scopeId → Based after scopeId) :
    Asked after request params := by
  cases h with
  | snapshot domain scopeId reason => exact .snapshot domain scopeId reason
  | difference domain scopeId sinceSeq captured epoch held =>
      exact .difference domain scopeId sinceSeq captured epoch (held.imp_right (hbased scopeId))

theorem FetchSound.mono {service next : ActivityService} {core after : ActivitySyncCore}
    {fetch : Fetch} (h : FetchSound setting service core fetch)
    (hbased : ∀ scopeId, Based core scopeId → Based after scopeId)
    (hanswered : ∀ body, Answered setting service fetch body →
      Answered setting next fetch body) : FetchSound setting next after fetch :=
  ⟨fun request rest hdrain => (h.drained request rest hdrain).mono hbased, h.bootstrapped,
    fun body hbody => hanswered body (h.answered body hbody)⟩

theorem PanelSound.serve (h : PanelSound setting panel) (input : ReconcileInput) :
    PanelSound setting
      { panel with service := panel.service.reconcile setting.digest input } := by
  obtain ⟨hservice, hgrowth⟩ := h.service.reconcile input
  refine ⟨hservice, ⟨h.consumer.registered, h.consumer.keyed, h.consumer.known, fun filter => ?_⟩,
    fun fetch hfetch => ?_, h.issued, h.distinct, h.outstanding⟩
  · obtain ⟨hposition, more, hmore, hlater⟩ := hgrowth filter
    rw [hmore]
    exact (h.consumer.exact filter).grow hposition hlater
  · exact (h.fetches fetch hfetch).mono (fun _ hbased => hbased)
      fun body hbody => hbody.grow h.service input

theorem PanelSound.settle (h : PanelSound setting panel) {next : ActivityConsumer}
    (hsettled : Settled setting panel.service panel.consumer next) :
    PanelSound setting { panel with consumer := next } :=
  ⟨h.service, hsettled.sound,
    fun fetch hfetch => (h.fetches fetch hfetch).mono hsettled.based fun _ hbody => hbody,
    h.issued, h.distinct,
    fun scopeId requestId hget => h.outstanding scopeId requestId
      (hsettled.outstanding scopeId requestId hget)⟩

theorem PanelSound.push (h : PanelSound setting panel) (filter : ActivityFilter) (index : Nat) :
    PanelSound setting (panelStep setting panel (.push filter index)) := by
  rw [panelStep]
  split
  · exact h
  · rename_i pushed hpushed
    obtain ⟨answer, next, haccept, hsettled⟩ :=
      h.consumer.acceptPush h.service (List.mem_of_getElem? hpushed) rfl
    rw [haccept]
    exact h.settle hsettled

theorem PanelSound.startFetch (h : PanelSound setting panel) {filter : ActivityFilter}
    {params : FetchParams} {continuation : Continuation}
    (hdrained : ∀ request rest, continuation = .drain request rest →
      Asked panel.consumer.core request params)
    (hbootstrapped : continuation = .bootstrap → params = .snapshot)
    {outstanding : InsertionMap SyncScopeId JsString}
    (houtstanding : ∀ scopeId requestId, outstanding.get scopeId = some requestId →
      panel.consumer.outstanding.get scopeId = some requestId ∨
        (requestId = nextRequestId (panel.requestCounter + 1) ∧
          ∀ request rest, continuation = .drain request rest → request.scopeId = scopeId)) :
    PanelSound setting (Panel.startFetch
      { panel with consumer := { panel.consumer with outstanding } } filter params
      continuation) := by
  have hfresh : ∀ number ≤ panel.requestCounter,
      nextRequestId number ≠ nextRequestId (panel.requestCounter + 1) := by
    intro number hle heq
    have hnumber := nextRequestId_injective heq
    omega
  refine ⟨h.service, ⟨h.consumer.registered, h.consumer.keyed, h.consumer.known,
    h.consumer.exact⟩, ?_, ?_, ?_, ?_⟩
  · intro fetch hfetch
    rcases List.mem_append.mp hfetch with hold | hnew
    · exact h.fetches fetch hold
    · obtain rfl := List.mem_singleton.mp hnew
      exact ⟨hdrained, hbootstrapped, nofun⟩
  · intro fetch hfetch
    rcases List.mem_append.mp hfetch with hold | hnew
    · obtain ⟨number, hle, hnumber⟩ := h.issued fetch hold
      exact ⟨number, Nat.le_succ_of_le hle, hnumber⟩
    · obtain rfl := List.mem_singleton.mp hnew
      exact ⟨_, le_refl _, rfl⟩
  · simp only [Panel.startFetch, List.map_append, List.map_cons, List.map_nil]
    refine List.nodup_append.mpr ⟨h.distinct, List.nodup_singleton _, ?_⟩
    intro first hfirst second hsecond
    obtain ⟨fetch, hfetch, rfl⟩ := List.mem_map.mp hfirst
    obtain ⟨number, hle, hnumber⟩ := h.issued fetch hfetch
    rw [List.mem_singleton.mp hsecond, hnumber]
    exact hfresh number hle
  · intro scopeId requestId hget
    rcases houtstanding scopeId requestId hget with hold | ⟨rfl, hasks⟩
    · obtain ⟨⟨number, hle, rfl⟩, hasks⟩ := h.outstanding scopeId requestId hold
      refine ⟨⟨number, Nat.le_succ_of_le hle, rfl⟩, fun fetch hfetch hid => ?_⟩
      rcases List.mem_append.mp hfetch with hbefore | hnew
      · exact hasks fetch hbefore hid
      · obtain rfl := List.mem_singleton.mp hnew
        exact absurd hid.symm (hfresh number hle)
    · refine ⟨⟨_, le_refl _, rfl⟩, fun fetch hfetch hid => ?_⟩
      rcases List.mem_append.mp hfetch with hbefore | hnew
      · obtain ⟨number, hle, hnumber⟩ := h.issued fetch hbefore
        exact absurd (hnumber.symm.trans hid) (hfresh number hle)
      · obtain rfl := List.mem_singleton.mp hnew
        exact hasks

theorem asked_fetchParams {consumer : ActivityConsumer}
    (h : ConsumerSound setting service consumer) (request : SyncRequestDescription) :
    Asked consumer.core request (fetchParams consumer request) := by
  cases request with
  | snapshot domain scopeId reason => exact .snapshot domain scopeId reason
  | difference domain scopeId sinceSeq captured =>
      refine .difference domain scopeId sinceSeq captured _ ?_
      cases hheld : consumer.heldEpoch scopeId with
      | none => exact Or.inl rfl
      | some epoch => exact Or.inr (h.based_of_heldEpoch hheld)

theorem PanelSound.drain (h : PanelSound setting panel) (requests : List SyncRequestDescription) :
    PanelSound setting (panel.drain setting requests) := by
  cases requests with
  | nil => exact h
  | cons request rest =>
      rw [Panel.drain, ActivityConsumer.issueRequest]
      refine h.startFetch ?_ (by simp) fun scopeId requestId hget => ?_
      · rintro _ _ ⟨⟩
        exact asked_fetchParams h.consumer request
      · rw [InsertionMap.get_set] at hget
        split at hget
        · cases hget
          refine Or.inr ⟨rfl, ?_⟩
          rintro _ _ ⟨⟩
          exact Eq.symm ‹_›
        · exact Or.inl hget

theorem PanelSound.refetch (h : PanelSound setting panel) {fetches : List Fetch}
    (hdistinct : (fetches.map Fetch.requestId).Nodup)
    (hkept : ∀ fetch ∈ fetches, FetchSound setting panel.service panel.consumer.core fetch ∧
      ∃ old ∈ panel.fetches, fetch.requestId = old.requestId ∧
        fetch.continuation = old.continuation) :
    PanelSound setting { panel with fetches } := by
  refine ⟨h.service, h.consumer, fun fetch hfetch => (hkept fetch hfetch).1,
    fun fetch hfetch => ?_, hdistinct, fun scopeId requestId hget => ?_⟩
  · obtain ⟨-, old, hold, hid, -⟩ := hkept fetch hfetch
    rw [hid]
    exact h.issued old hold
  · obtain ⟨hnumber, hasks⟩ := h.outstanding scopeId requestId hget
    refine ⟨hnumber, fun fetch hfetch hfetchId => ?_⟩
    obtain ⟨-, old, hold, hid, hcontinuation⟩ := hkept fetch hfetch
    rw [hcontinuation]
    exact hasks old hold (hid.symm.trans hfetchId)

theorem PanelSound.erase (h : PanelSound setting panel) (index : Nat) :
    PanelSound setting { panel with fetches := panel.fetches.eraseIdx index } := by
  have hsublist := List.eraseIdx_sublist panel.fetches index
  exact h.refetch (h.distinct.sublist (hsublist.map _)) fun fetch hfetch =>
    ⟨h.fetches fetch (hsublist.subset hfetch), fetch, hsublist.subset hfetch, rfl, rfl⟩

theorem PanelSound.gone (h : PanelSound setting panel) {index : Nat} {fetch : Fetch}
    (hget : panel.fetches[index]? = some fetch) :
    ∀ other ∈ panel.fetches.eraseIdx index, other.requestId ≠ fetch.requestId := by
  obtain ⟨hindex, rfl⟩ := List.getElem?_eq_some_iff.mp hget
  have hperm := (List.getElem_cons_eraseIdx_perm hindex).map Fetch.requestId
  have hdistinct := hperm.nodup_iff.mpr h.distinct
  rw [List.map_cons, List.nodup_cons] at hdistinct
  intro other hother heq
  exact hdistinct.1 (heq ▸ List.mem_map_of_mem hother)

theorem PanelSound.answer (h : PanelSound setting panel) {index : Nat} {fetch : Fetch}
    (hget : panel.fetches[index]? = some fetch) {input : ReconcileInput}
    (hfilter : input.filter = fetch.filter) :
    PanelSound setting (panel.answer setting index fetch input) := by
  rw [Panel.answer]
  cases hbody : respond setting panel.service fetch input with
  | none => exact h.erase index
  | some body =>
      have hmem := List.mem_of_getElem? hget
      have hserved := h.serve input
      refine hserved.refetch ?_ fun other hother => ?_
      · have hids : (panel.fetches.set index { fetch with body := some body }).map
            Fetch.requestId = panel.fetches.map Fetch.requestId := by
          obtain ⟨hindex, rfl⟩ := List.getElem?_eq_some_iff.mp hget
          have hlength : index < (panel.fetches.map Fetch.requestId).length := by simpa using hindex
          have hid : (panel.fetches.map Fetch.requestId)[index] =
              (panel.fetches[index]).requestId := List.getElem_map _
          have hset := List.set_getElem_self hlength
          rw [hid] at hset
          rw [List.map_set]
          exact hset
        rw [hids]
        exact h.distinct
      · rcases List.mem_or_eq_of_mem_set hother with hold | rfl
        · exact ⟨hserved.fetches other hold, other, hold, rfl, rfl⟩
        · have hfetch := hserved.fetches fetch hmem
          refine ⟨⟨hfetch.drained, hfetch.bootstrapped, ?_⟩, fetch, hmem, rfl, rfl⟩
          rintro _ ⟨⟩
          exact @answered_respond setting panel.service h.service { fetch with body := some body }
            input hfilter body hbody

/-! ## Deliveries -/

/-- A difference that will be folded starts at or before the watermark it is folded onto. -/
def Covered (setting : PanelSetting) (panel : Panel) : PanelEvent → Prop
  | .deliver index => ∀ fetch body epoch after, panel.fetches[index]? = some fetch →
      fetch.body = some body → fetch.params = .difference epoch after →
      isTrue (body.read (js "snapshotRequired")) = false →
      panel.consumer.outstanding.get (setting.scopeId fetch.filter) = some fetch.requestId →
      Reaches (panel.consumer.core.scopeEntry (createActivityDomain setting.numberText)
        (setting.scopeId fetch.filter)) epoch after
  | .reconcile _ | .push _ _ | .drain | .bootstrap _ | .answer _ _ => True

theorem PanelSound.bootstrapped (h : PanelSound setting panel) {fetch : Fetch} {body : JsValue}
    (hfetch : FetchSound setting panel.service panel.consumer.core fetch)
    (hbody : fetch.body = some body) (hbootstrap : fetch.continuation = .bootstrap)
    (hissued : ∃ number ≤ panel.requestCounter, fetch.requestId = nextRequestId number)
    (hgone : ∀ other ∈ panel.fetches, other.requestId ≠ fetch.requestId) :
    PanelSound setting (panel.receive setting fetch body) := by
  have hanswered := hfetch.answered body hbody
  have hparams := hfetch.bootstrapped hbootstrap
  simp only [Panel.receive, hbootstrap]
  generalize hconsumer : panel.consumer.issueRequest
    (encodeActivityScopeId (body.read (js "scope")))
    fetch.requestId = issued
  have hsound : PanelSound setting { panel with consumer := issued } := by
    subst hconsumer
    refine ⟨h.service, ⟨h.consumer.registered, h.consumer.keyed, h.consumer.known,
      h.consumer.exact⟩, h.fetches, h.issued, h.distinct, fun scopeId requestId hget => ?_⟩
    rw [ActivityConsumer.issueRequest, InsertionMap.get_set] at hget
    split at hget
    · cases hget
      exact ⟨hissued, fun other hother hid => absurd hid (hgone other hother)⟩
    · exact h.outstanding scopeId requestId hget
  cases hanswered with
  | snapshot asked recorded reached =>
      obtain ⟨number, -, hnumber⟩ := hissued
      obtain ⟨answer, next, haccept, hsettled⟩ := hsound.consumer.acceptSnapshot recorded reached
        (hnumber ▸ nextRequestId_ne_nil number) rfl
      simp only at haccept
      rw [haccept]
      exact hsound.settle hsettled
  | conflict asked | notModified asked _ | difference asked _ _ _ _ =>
      rw [asked] at hparams
      cases hparams

theorem PanelSound.drained (h : PanelSound setting panel) {fetch : Fetch} {body : JsValue}
    (hfetch : FetchSound setting panel.service panel.consumer.core fetch)
    (hbody : fetch.body = some body) {request : SyncRequestDescription}
    {rest : List SyncRequestDescription} (hdrain : fetch.continuation = .drain request rest)
    (hid : fetch.requestId ≠ [])
    (hasks : ∀ scopeId, panel.consumer.outstanding.get scopeId = some fetch.requestId →
      request.scopeId = scopeId)
    (hcovered : ∀ epoch after, fetch.params = .difference epoch after →
      isTrue (body.read (js "snapshotRequired")) = false →
      panel.consumer.outstanding.get (setting.scopeId fetch.filter) = some fetch.requestId →
      Reaches (panel.consumer.core.scopeEntry (createActivityDomain setting.numberText)
        (setting.scopeId fetch.filter)) epoch after) :
    PanelSound setting (panel.receive setting fetch body) := by
  have hanswered := hfetch.answered body hbody
  have hasked := hfetch.drained request rest hdrain
  have haccepted : ∃ answer next, (if request.isSnapshot then panel.consumer.acceptSnapshot body
      else panel.consumer.acceptDifference body) = .ok (answer, next) ∧
        Settled setting panel.service panel.consumer next := by
    generalize hparams : fetch.params = params at hasked
    cases hasked with
    | snapshot domain scopeId reason =>
        cases hanswered with
        | snapshot asked recorded reached =>
            exact h.consumer.acceptSnapshot recorded reached hid rfl
        | conflict asked | notModified asked _ | difference asked _ _ _ _ =>
            rw [asked] at hparams
            cases hparams
    | difference domain scopeId sinceSeq captured epoch held =>
        exact h.consumer.acceptDifference h.service hid hparams hanswered
          (fun houtstanding => (hasks _ houtstanding) ▸ held)
          fun houtstanding hrequired => hcovered epoch sinceSeq hparams hrequired houtstanding
  obtain ⟨answer, next, haccept, hsettled⟩ := haccepted
  simp only [Panel.receive, hdrain, haccept]
  exact (h.settle hsettled).drain rest

theorem PanelSound.step (h : PanelSound setting panel) (event : PanelEvent)
    (hcovered : Covered setting panel event) :
    PanelSound setting (panelStep setting panel event) := by
  cases event with
  | reconcile input => exact h.serve input
  | push filter index => exact h.push filter index
  | drain => exact h.drain _
  | bootstrap filter =>
      refine h.startFetch ?_ (fun _ => rfl) fun _ _ hget => Or.inl hget
      intro request rest hdrain
      cases hdrain
  | answer index input =>
      rw [panelStep]
      split
      · exact h
      · rename_i fetch hget
        split
        · exact h
        · exact h.answer hget rfl
  | deliver index =>
      rw [panelStep]
      split
      · exact h
      · rename_i fetch hget
        have hmem := List.mem_of_getElem? hget
        split
        · exact h
        · rename_i body hbody
          have herased := h.erase index
          have hfetch := h.fetches fetch hmem
          have hissued := h.issued fetch hmem
          have hgone := h.gone hget
          cases hcontinuation : fetch.continuation with
          | bootstrap => exact herased.bootstrapped hfetch hbody hcontinuation hissued hgone
          | drain request rest =>
              obtain ⟨number, -, hnumber⟩ := hissued
              exact herased.drained hfetch hbody hcontinuation
                (hnumber ▸ nextRequestId_ne_nil number)
                (fun scopeId houtstanding => (h.outstanding scopeId _ houtstanding).2 fetch hmem rfl
                  request rest hcontinuation)
                fun epoch after hparams hrequired houtstanding =>
                  hcovered fetch body epoch after hget hbody hparams hrequired houtstanding

end

end Raft.ActivityPanel
