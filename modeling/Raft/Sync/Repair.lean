import Raft.Sync.Requests

/-!
# Repairs: closing them, and the flag that announces them

An accepted snapshot drops the requests of its scope and the repair flag; a
refused one touches neither.  Everywhere else the flag and the request map are
written apart from each other: a difference of another epoch and a sliced page
file a request and leave the flag as it is, and a scope with the same joined
name edits the same keys.
-/

namespace Raft.Sync

open Raft.Foundation

variable {S E P : Type}

section

variable {core : SyncCore S E P} {config : SyncDomainConfig S E P} {scopeId : SyncScopeId}

/-! ## Closing a repair -/

structure Closed (core : SyncCore S E P) (domain : SyncDomainName) (scopeId : SyncScopeId) :
    Prop where
  no_request : ∀ request ∈ core.pendingRequests,
    ¬(request.domain = domain ∧ request.scopeId = scopeId)
  not_repairPending : ∀ state, core.scopeSyncState domain scopeId = some state →
    state.repairPending = false

/-- The answer to a snapshot request says something the scope does not hold yet: it lies above
the watermark, belongs to another epoch, or is admitted at the same watermark. -/
def AnswersNews (config : SyncDomainConfig S E P) (entry : ScopeEntry S)
    (snapshot : SyncSnapshot P) : Prop :=
  ∀ appliedSeq, entry.appliedSeq = some appliedSeq →
    appliedSeq < snapshot.watermark ∨ sameEpoch entry snapshot.epoch = false ∨
      acceptsSameWatermark config entry snapshot = true

theorem staleSnapshot_eq_false_iff {entry : ScopeEntry S} {snapshot : SyncSnapshot P}
    (hwatermark : ∀ appliedSeq, entry.appliedSeq = some appliedSeq →
      appliedSeq ≤ snapshot.watermark) :
    staleSnapshot config entry snapshot = false ↔ AnswersNews config entry snapshot := by
  rw [← Bool.not_eq_true, staleSnapshot_iff]
  constructor
  · intro hfresh appliedSeq happlied
    by_contra hnews
    push Not at hnews
    obtain ⟨hle, hepoch, haccepts⟩ := hnews
    refine hfresh ⟨appliedSeq, happlied, by simpa using hepoch,
      Or.inr ⟨?_, by simpa using haccepts⟩⟩
    exact le_antisymm hle (hwatermark appliedSeq happlied)
  · rintro hnews ⟨appliedSeq, happlied, hepoch, hlower | ⟨heq, haccepts⟩⟩
    · exact absurd (hwatermark appliedSeq happlied) (not_le.mpr hlower)
    · rcases hnews appliedSeq happlied with hlt | hother | haccepts'
      · exact absurd heq hlt.ne'
      · rw [hother] at hepoch
        cases hepoch
      · rw [haccepts'] at haccepts
        cases haccepts

theorem closed_of_accepted (hkeyed : WellKeyed core.pending)
    (hdomain : core.domainOf config.name = .ok config) {snapshot : SyncSnapshot P}
    (hfresh : staleSnapshot config (core.scopeEntry config snapshot.scopeId) snapshot = false) :
    Closed (step core (.snapshot config.name snapshot)) config.name snapshot.scopeId := by
  have hwrite : snapshotWrite config (core.scopeEntry config snapshot.scopeId) snapshot =
      { outcome := .applied snapshot.scopeId snapshot.watermark
        entry := baselineEntry config snapshot
        requests := [.clearScopeRequests] } := by
    rw [snapshotWrite, if_neg (by simp [hfresh])]
    rfl
  constructor
  · rintro request hrequest ⟨hname, hscope⟩
    have hget := ((wellKeyed_step _ hkeyed).mem_values_iff request).mp hrequest
    rw [requestKey_eq, hname, hscope, step_pending_of_domainOf hdomain] at hget
    simp only [SyncHarnessInput.write, SyncHarnessInput.domain, SyncHarnessInput.scopeId,
      hwrite] at hget
    rw [get_writeRequests_own] at hget
    cases hget
  · intro state hstate
    have haddress : (SyncHarnessInput.snapshot (E := E) config.name snapshot).Addresses
        config.name snapshot.scopeId := ⟨rfl, rfl⟩
    rw [SyncCore.scopeSyncState, step_scopes_of_addresses hdomain haddress] at hstate
    simp only [SyncHarnessInput.write, hwrite, Option.map_some, Option.some.injEq] at hstate
    rw [← hstate]
    rfl

theorem step_pending_of_stale (hdomain : core.domainOf config.name = .ok config)
    {snapshot : SyncSnapshot P}
    (hstale : staleSnapshot config (core.scopeEntry config snapshot.scopeId) snapshot = true) :
    (step core (.snapshot config.name snapshot)).pending = core.pending := by
  have hcalled : core.domainOf
      (SyncHarnessInput.snapshot (E := E) config.name snapshot).domain = .ok config := hdomain
  rw [step_pending_of_domainOf hcalled]
  simp only [SyncHarnessInput.write, SyncHarnessInput.scopeId, snapshotWrite, hstale, if_true,
    List.foldl_nil]

/-- While a snapshot request of the scope is pending, a snapshot at or above its watermark closes
the repair exactly when it says something the scope does not hold yet. -/
theorem snapshot_closes_repair_iff (hfresh : Fresh core)
    (hdomain : core.domainOf config.name = .ok config) (inputs : List (SyncHarnessInput E P))
    (snapshot : SyncSnapshot P) {request : SyncRequestDescription}
    (hpending : request ∈ (run step core inputs).pendingRequests)
    (hrequest : request.isSnapshot = true ∧ request.domain = config.name ∧
      request.scopeId = snapshot.scopeId)
    (hwatermark : ∀ appliedSeq,
      ((run step core inputs).scopeEntry config snapshot.scopeId).appliedSeq = some appliedSeq →
        appliedSeq ≤ snapshot.watermark) :
    Closed (step (run step core inputs) (.snapshot config.name snapshot)) config.name
        snapshot.scopeId ↔
      AnswersNews config ((run step core inputs).scopeEntry config snapshot.scopeId) snapshot := by
  have hregistered : (run step core inputs).domainOf config.name = .ok config := by
    rw [run_domainOf, hdomain]
  rw [← staleSnapshot_eq_false_iff hwatermark]
  constructor
  · intro hclosed
    by_contra hstale
    have hstale : staleSnapshot config
        ((run step core inputs).scopeEntry config snapshot.scopeId) snapshot = true := by
      simpa using hstale
    -- A refused snapshot leaves the request it was meant to answer.
    refine hclosed.no_request request ?_ hrequest.2
    rw [SyncCore.pendingRequests, step_pending_of_stale hregistered hstale]
    exact hpending
  · exact closed_of_accepted (wellKeyed_run hfresh inputs) hregistered

end

def conflictingFacts : List (SyncHarnessInput JsString LogState) :=
  [.frame (js "facts") ⟨js "s", 7, none, js "accepted"⟩,
    .frame (js "facts") ⟨js "s", 7, none, js "conflict"⟩]

theorem snapshot_closes_repair_iff_conflictingFacts :
    Closed
      (step (run step (soleDomainCore (fingerprintedLogDomain (js "facts") .sparse))
        conflictingFacts) (.snapshot (js "facts") ⟨js "s", 8, none, []⟩)) (js "facts") (js "s") :=
  (snapshot_closes_repair_iff (fresh_soleDomainCore _)
    (domainOf_soleDomainCore (fingerprintedLogDomain (js "facts") .sparse)) conflictingFacts
    ⟨js "s", 8, none, []⟩
    (show SyncRequestDescription.snapshot (js "facts") (js "s") .sparseRepull ∈ _ by decide)
    ⟨rfl, rfl, rfl⟩ (by rintro _ ⟨⟩; decide)).mpr (by rintro _ ⟨⟩; exact Or.inl (by decide))

/-- The snapshot at the watermark, which the conflict asked for, is refused. -/
theorem same_watermark_answer_refused :
    ¬∀ (inputs : List (SyncHarnessInput JsString LogState)) (snapshot : SyncSnapshot LogState)
      (request : SyncRequestDescription),
      request ∈ (run step (soleDomainCore (fingerprintedLogDomain (js "facts") .sparse))
        inputs).pendingRequests →
      request.isSnapshot = true ∧ request.domain = js "facts" ∧
        request.scopeId = snapshot.scopeId →
      snapshot.epoch =
        ((run step (soleDomainCore (fingerprintedLogDomain (js "facts") .sparse))
          inputs).scopeEntry (fingerprintedLogDomain (js "facts") .sparse)
            snapshot.scopeId).epoch →
      (∀ appliedSeq,
        ((run step (soleDomainCore (fingerprintedLogDomain (js "facts") .sparse))
          inputs).scopeEntry (fingerprintedLogDomain (js "facts") .sparse)
            snapshot.scopeId).appliedSeq = some appliedSeq → appliedSeq ≤ snapshot.watermark) →
      Closed
        (step (run step (soleDomainCore (fingerprintedLogDomain (js "facts") .sparse)) inputs)
          (.snapshot (js "facts") snapshot)) (js "facts") snapshot.scopeId := by
  intro hclaim
  have hclosed := hclaim conflictingFacts ⟨js "s", 7, none, [(7, js "accepted")]⟩
    (.snapshot (js "facts") (js "s") .sparseRepull) (by decide) ⟨rfl, rfl, rfl⟩ (by decide)
    (by rintro _ ⟨⟩; decide)
  exact hclosed.no_request (.snapshot (js "facts") (js "s") .sparseRepull) (by decide) ⟨rfl, rfl⟩

/-! ## The repair flag -/

section

variable {core : SyncCore S E P} {config : SyncDomainConfig S E P} {entry : ScopeEntry S}

/-- The flag of every scope announces its pending requests, and nothing else. -/
def RepairMirrored (core : SyncCore S E P) : Prop :=
  ∀ domain scopeId,
    (core.scopeSyncState domain scopeId).any (·.repairPending) = true ↔
      ∃ request ∈ core.pendingRequests, request.domain = domain ∧ request.scopeId = scopeId

/-- The two calls that file a request for the scope without setting its flag. -/
def leavesFlag (entry : ScopeEntry S) : SyncHarnessInput E P → Bool
  | .frame _ _ | .snapshot _ _ => false
  | .difference _ response =>
      epochMismatch entry response.epoch ||
        (acceptsDifference entry response && response.partialPage)

def settles (config : SyncDomainConfig S E P) (entry : ScopeEntry S) :
    SyncHarnessInput E P → Bool
  | .frame _ _ => false
  | .snapshot _ taken => !staleSnapshot config entry taken
  | .difference _ response => !epochMismatch entry response.epoch

def asksSnapshot (config : SyncDomainConfig S E P) (entry : ScopeEntry S)
    (input : SyncHarnessInput E P) : Bool :=
  match input with
  | .frame _ frame =>
      epochMismatch entry frame.epoch ||
        (entry.appliedSeq = none && config.density = .contiguous) || accuses config entry input
  | .snapshot _ _ => false
  | .difference _ response => epochMismatch entry response.epoch

def asksDifference (config : SyncDomainConfig S E P) (entry : ScopeEntry S) :
    SyncHarnessInput E P → Bool
  | .frame _ frame =>
      !epochMismatch entry frame.epoch && config.density = .contiguous &&
        entry.appliedSeq.any fun appliedSeq => appliedSeq + 1 < frame.seq
  | .snapshot _ _ | .difference _ _ => false

def editsRequest (config : SyncDomainConfig S E P) (entry : ScopeEntry S)
    (input : SyncHarnessInput E P) (isSnapshot : Bool) : Bool :=
  settles config entry input ||
    if isSnapshot then asksSnapshot config entry input else asksDifference config entry input

theorem any_edits_frame (name : SyncDomainName) (frame : SyncFrame E) (isSnapshot : Bool) :
    (frameWrite config entry frame).requests.any (·.edits isSnapshot) =
      editsRequest (P := P) config entry (.frame name frame) isSnapshot := by
  apply frameWrite_cases (motive := fun write => write.requests.any (·.edits isSnapshot) =
    editsRequest (P := P) config entry (.frame name frame) isSnapshot)
  case mismatched =>
    intro hepoch
    cases isSnapshot <;>
      simp [editsRequest, settles, asksSnapshot, asksDifference, hepoch, RequestWrite.edits]
  case unbased | adopted =>
    intro hepoch hnone hdensity
    cases isSnapshot <;>
      simp [editsRequest, settles, asksSnapshot, asksDifference, accuses, hepoch, hnone, hdensity,
        RequestWrite.edits]
  case regressed =>
    intro hepoch appliedSeq happlied hlt
    cases isSnapshot <;>
      simp [editsRequest, settles, asksSnapshot, asksDifference, accuses, hepoch, happlied,
        hlt.ne']
    omega
  case replayed =>
    intro hepoch happlied hequal
    have hclear : accuses (P := P) config entry (.frame name frame) = false := by
      cases hfingerprint : config.eventFingerprint with
      | none => simp [accuses, hfingerprint]
      | some fingerprint => simp [accuses, hfingerprint, hequal fingerprint hfingerprint]
    cases isSnapshot <;>
      simp [editsRequest, settles, asksSnapshot, asksDifference, hclear, hepoch, happlied]
  case conflicted =>
    intro hepoch happlied fingerprint hfingerprint hne
    cases isSnapshot <;>
      simp [editsRequest, settles, asksSnapshot, asksDifference, accuses, hepoch, happlied,
        hfingerprint, hne, RequestWrite.edits]
  case advanced =>
    intro hepoch appliedSeq happlied hlt hdensity
    cases isSnapshot <;>
      simp [editsRequest, settles, asksSnapshot, asksDifference, accuses, hepoch, happlied,
        hdensity, hlt.ne]
  case succeeded =>
    intro hepoch appliedSeq happlied hnext hdensity
    cases isSnapshot <;>
      simp [editsRequest, settles, asksSnapshot, asksDifference, accuses, hepoch, happlied,
        hdensity, hnext]
  case gapped =>
    intro hepoch appliedSeq happlied hgap hdensity
    have hne : appliedSeq ≠ frame.seq := by omega
    cases isSnapshot <;>
      simp [editsRequest, settles, asksSnapshot, asksDifference, accuses, hepoch, happlied,
        hdensity, hgap, hne, RequestWrite.edits]

theorem any_edits_write (config : SyncDomainConfig S E P) (entry : ScopeEntry S)
    (input : SyncHarnessInput E P) (isSnapshot : Bool) :
    (input.write config entry).requests.any (·.edits isSnapshot) =
      editsRequest config entry input isSnapshot := by
  cases input with
  | frame name pushed => exact any_edits_frame name pushed isSnapshot
  | snapshot name taken =>
      simp only [SyncHarnessInput.write]
      apply snapshotWrite_cases (motive := fun write =>
        write.requests.any (·.edits isSnapshot) =
          editsRequest (E := E) config entry (.snapshot name taken) isSnapshot)
      all_goals
        intro hstale
        cases isSnapshot <;>
          simp [editsRequest, settles, asksSnapshot, asksDifference, hstale, RequestWrite.edits]
  | difference name response =>
      simp only [SyncHarnessInput.write]
      have haccepted : acceptsDifference entry response = true →
          epochMismatch entry response.epoch = false := by
        simp only [acceptsDifference, Bool.and_eq_true, Bool.not_eq_true']
        exact And.left
      apply differenceWrite_cases (motive := fun write =>
        write.requests.any (·.edits isSnapshot) =
          editsRequest (P := P) config entry (.difference name response) isSnapshot)
      case mismatched =>
        intro hepoch
        cases isSnapshot <;>
          simp [editsRequest, settles, asksSnapshot, asksDifference, hepoch, RequestWrite.edits]
      case refused =>
        intro hepoch _
        simp [editsRequest, settles, hepoch, RequestWrite.edits]
      case sliced | completed =>
        intro haccepts _
        simp [editsRequest, settles, haccepted haccepts, RequestWrite.edits]

def Asking (domain : SyncDomainName) (scopeId : SyncScopeId) (writes : List RequestWrite)
    (slots : Bool → Option SyncRequestDescription) : Prop :=
  ∃ isSnapshot request, slotAfter isSnapshot domain scopeId writes (slots isSnapshot) =
    some request ∧ request.domain = domain ∧ request.scopeId = scopeId

theorem asking_of_last {domain : SyncDomainName} {scopeId : SyncScopeId}
    {slots : Bool → Option SyncRequestDescription} (writes : List RequestWrite)
    {write : RequestWrite} (h : write ≠ .clearScopeRequests) :
    Asking domain scopeId (writes ++ [write]) slots := by
  cases write with
  | requestSnapshot reason =>
      refine ⟨true, .snapshot domain scopeId reason, ?_, rfl, rfl⟩
      rw [slotAfter, List.foldl_append]
      rfl
  | requestDifference sinceSeq epoch =>
      refine ⟨false, .difference domain scopeId sinceSeq epoch, ?_, rfl, rfl⟩
      rw [slotAfter, List.foldl_append]
      rfl
  | clearScopeRequests => exact absurd rfl h

theorem not_asking_clear {domain : SyncDomainName} {scopeId : SyncScopeId}
    {slots : Bool → Option SyncRequestDescription} :
    ¬Asking domain scopeId [.clearScopeRequests] slots := by
  rintro ⟨_, _, hslot, -⟩
  cases hslot

section Flag

variable {domain : SyncDomainName} {scopeId : SyncScopeId}
  {slots : Bool → Option SyncRequestDescription} {input : SyncHarnessInput E P}

theorem flag_iff_asking_of_loud (hloud : leavesFlag entry input = false)
    (h : entry.repairPending = true ↔ Asking domain scopeId [] slots) :
    (input.write config entry).entry.repairPending = true ↔
      Asking domain scopeId (input.write config entry).requests slots := by
  cases input with
  | frame name pushed =>
      simp only [SyncHarnessInput.write]
      apply frameWrite_cases (motive := fun write =>
        write.entry.repairPending = true ↔ Asking domain scopeId write.requests slots)
      case mismatched | unbased | conflicted | gapped =>
        intros
        exact iff_of_true rfl (asking_of_last [] (by simp))
      case adopted | regressed | replayed | advanced | succeeded =>
        intros
        exact h
  | snapshot name taken =>
      simp only [SyncHarnessInput.write]
      apply snapshotWrite_cases (motive := fun write =>
        write.entry.repairPending = true ↔ Asking domain scopeId write.requests slots)
      case dropped => exact fun _ => h
      case accepted => exact fun _ => iff_of_false (by simp [baselineEntry]) not_asking_clear
  | difference name response =>
      simp only [leavesFlag, Bool.or_eq_false_iff, Bool.and_eq_false_iff] at hloud
      simp only [SyncHarnessInput.write]
      apply differenceWrite_cases (motive := fun write =>
        write.entry.repairPending = true ↔ Asking domain scopeId write.requests slots)
      case mismatched =>
        intro hepoch
        rw [hloud.1] at hepoch
        cases hepoch
      case refused =>
        intro _ _
        exact iff_of_true rfl (asking_of_last [.clearScopeRequests] (by simp))
      case sliced =>
        intro haccepts hpartial
        simp [haccepts, hpartial] at hloud
      case completed =>
        intro _ _
        exact iff_of_false (by simp) not_asking_clear

theorem foldl_acceptEvent_repairPending (items : List (SyncDifferenceItem E)) :
    (items.foldl (fun entry item => acceptEvent config scopeId entry item.seq item.event)
      entry).repairPending = entry.repairPending := by
  induction items generalizing entry with
  | nil => rfl
  | cons item items ih => rw [List.foldl_cons, ih]; rfl

theorem applyDifference_repairPending (response : SyncDifferenceResponse E) :
    (applyDifference config entry response).2.repairPending = entry.repairPending := by
  rw [applyDifference, jumpToSeq]
  split
  · rw [foldl_applyDifferenceItem, foldl_acceptEvent_repairPending]
  · split <;> rw [foldl_applyDifferenceItem, foldl_acceptEvent_repairPending]

theorem asking_of_silent (hsilent : leavesFlag entry input = true) :
    (input.write config entry).entry.repairPending = entry.repairPending ∧
      Asking domain scopeId (input.write config entry).requests slots := by
  cases input with
  | frame name pushed | snapshot name taken => cases hsilent
  | difference name response =>
      simp only [leavesFlag, Bool.or_eq_true, Bool.and_eq_true] at hsilent
      simp only [SyncHarnessInput.write]
      apply differenceWrite_cases (motive := fun write =>
        write.entry.repairPending = entry.repairPending ∧
          Asking domain scopeId write.requests slots)
      case mismatched => exact fun _ => ⟨rfl, asking_of_last [] (by simp)⟩
      case refused =>
        intro hepoch hrequired
        simp [hepoch, acceptsDifference, hrequired] at hsilent
      case sliced =>
        intro _ _
        exact ⟨applyDifference_repairPending response,
          asking_of_last [.clearScopeRequests] (by simp)⟩
      case completed =>
        intro haccepts hpartial
        simp only [acceptsDifference, Bool.and_eq_true, Bool.not_eq_true'] at haccepts
        simp [haccepts.1, hpartial] at hsilent

theorem flag_iff_asking (config : SyncDomainConfig S E P) (input : SyncHarnessInput E P)
    (h : entry.repairPending = true ↔ Asking domain scopeId [] slots) :
    ((input.write config entry).entry.repairPending = true ↔
        Asking domain scopeId (input.write config entry).requests slots) ↔
      (leavesFlag entry input = true → entry.repairPending = true) := by
  cases hsilent : leavesFlag entry input with
  | false => exact iff_of_true (flag_iff_asking_of_loud hsilent h) (by simp)
  | true =>
      have hboth : (input.write config entry).entry.repairPending = entry.repairPending ∧
          Asking domain scopeId (input.write config entry).requests slots :=
        asking_of_silent hsilent
      rw [hboth.1]
      simp [hboth.2]

end Flag

/-- A call files no request silently, and no other scope that waits for a repair has its last
request under a key the call edits. -/
def KeepsMirror (core : SyncCore S E P) (input : SyncHarnessInput E P) : Prop :=
  ∀ config, core.domainOf input.domain = .ok config →
    (leavesFlag (core.scopeEntry config input.scopeId) input = true →
      (core.scopeEntry config input.scopeId).repairPending = true) ∧
    ∀ domain scopeId, ¬input.Addresses domain scopeId →
      (∃ isSnapshot, Asks core.pending isSnapshot domain scopeId) →
      ∃ isSnapshot, Asks core.pending isSnapshot domain scopeId ∧
        (joinedName domain scopeId ≠ joinedName input.domain input.scopeId ∨
          editsRequest config (core.scopeEntry config input.scopeId) input isSnapshot = false)

theorem repairMirrored_iff (hkeyed : WellKeyed core.pending) :
    RepairMirrored core ↔ ∀ domain scopeId,
      (core.scopeSyncState domain scopeId).any (·.repairPending) = true ↔
        ∃ isSnapshot, Asks core.pending isSnapshot domain scopeId := by
  refine forall_congr' fun domain => forall_congr' fun scopeId => ?_
  rw [SyncCore.pendingRequests, hkeyed.exists_mem_values_iff]

theorem flag_eq_repairPending (scopeId : SyncScopeId) :
    (core.scopeSyncState config.name scopeId).any (·.repairPending) =
      (core.scopeEntry config scopeId).repairPending := by
  rw [SyncCore.scopeSyncState, SyncCore.scopeEntry]
  cases core.scopes config.name scopeId <;> rfl

theorem asks_other_iff {input : SyncHarnessInput E P}
    (hdomain : core.domainOf input.domain = .ok config) {domain : SyncDomainName}
    {scopeId : SyncScopeId} (hother : ¬input.Addresses domain scopeId) (isSnapshot : Bool) :
    Asks (step core input).pending isSnapshot domain scopeId ↔
      Asks core.pending isSnapshot domain scopeId ∧
        (joinedName domain scopeId ≠ joinedName input.domain input.scopeId ∨
          editsRequest config (core.scopeEntry config input.scopeId) input isSnapshot =
            false) := by
  unfold Asks
  rw [step_pending_of_domainOf hdomain]
  by_cases hjoined : joinedName domain scopeId = joinedName input.domain input.scopeId
  · have hkey : scopeKey isSnapshot domain scopeId =
        scopeKey isSnapshot input.domain input.scopeId := scopeKey_eq_iff.mpr ⟨rfl, hjoined⟩
    rw [hkey, get_writeRequests_own]
    have hany := any_edits_write config (core.scopeEntry config input.scopeId) input isSnapshot
    cases hedits : editsRequest config (core.scopeEntry config input.scopeId) input isSnapshot with
    | false =>
        rw [slotAfter_of_not_edits (hany.trans hedits)]
        simp
    | true =>
        rw [slotAfter_of_edits (hany.trans hedits) _ none]
        refine iff_of_false ?_ (by simp [hjoined])
        rintro ⟨request, hslot, hname, hscope⟩
        rcases slotAfter_names hslot with hnone | ⟨hname', hscope', -⟩
        · cases hnone
        · exact hother ⟨hname'.symm.trans hname, hscope'.symm.trans hscope⟩
  · rw [get_writeRequests_other _ fun isSnapshot' heq => hjoined (scopeKey_eq_iff.mp heq).2]
    simp [hjoined]

theorem asks_own_iff {input : SyncHarnessInput E P}
    (hdomain : core.domainOf input.domain = .ok config) :
    (∃ isSnapshot, Asks (step core input).pending isSnapshot input.domain input.scopeId) ↔
      Asking input.domain input.scopeId
        (input.write config (core.scopeEntry config input.scopeId)).requests
        fun isSnapshot => core.pending.get (scopeKey isSnapshot input.domain input.scopeId) := by
  refine exists_congr fun isSnapshot => ?_
  unfold Asks
  rw [step_pending_of_domainOf hdomain, get_writeRequests_own]

theorem repairMirrored_step_iff (hkeyed : WellKeyed core.pending) (h : RepairMirrored core)
    (input : SyncHarnessInput E P) :
    RepairMirrored (step core input) ↔ KeepsMirror core input := by
  cases hdomain : core.domainOf input.domain with
  | error message =>
      rw [step_of_error hdomain]
      refine iff_of_true h fun config hregistered => ?_
      rw [hdomain] at hregistered
      cases hregistered
  | ok config =>
      have hname := name_of_domainOf hdomain
      have hmirror := (repairMirrored_iff hkeyed).mp h
      rw [repairMirrored_iff (wellKeyed_step input hkeyed)]
      have hown : ((step core input).scopeSyncState input.domain input.scopeId).any
            (·.repairPending) = true ↔
          (input.write config (core.scopeEntry config input.scopeId)).entry.repairPending =
            true := by
        rw [SyncCore.scopeSyncState, ← hname, step_scopes_of_addresses
          (by rw [hname, hdomain]) ⟨hname.symm, rfl⟩]
        rfl
      have hbefore : (core.scopeEntry config input.scopeId).repairPending = true ↔
          Asking input.domain input.scopeId [] fun isSnapshot =>
            core.pending.get (scopeKey isSnapshot input.domain input.scopeId) := by
        rw [← flag_eq_repairPending, hname]
        exact hmirror input.domain input.scopeId
      have hflag := flag_iff_asking config input hbefore
      constructor
      · intro hafter config' hregistered
        cases hdomain.symm.trans hregistered
        refine ⟨hflag.mp ?_, fun domain scopeId hother hasks => ?_⟩
        · rw [← hown, ← asks_own_iff hdomain]
          exact hafter input.domain input.scopeId
        · have hstill := (hafter domain scopeId).mp (by
            rw [SyncCore.scopeSyncState, step_scopes_of_not_addresses hother,
              ← SyncCore.scopeSyncState]
            exact (hmirror domain scopeId).mpr hasks)
          obtain ⟨isSnapshot, hstill⟩ := hstill
          exact ⟨isSnapshot, (asks_other_iff hdomain hother isSnapshot).mp hstill⟩
      · intro hkeeps domain scopeId
        obtain ⟨hloud, hothers⟩ := hkeeps config hdomain
        by_cases haddress : input.Addresses domain scopeId
        · obtain ⟨rfl, rfl⟩ := haddress
          rw [hown, asks_own_iff hdomain]
          exact hflag.mpr hloud
        · rw [SyncCore.scopeSyncState, step_scopes_of_not_addresses haddress,
            ← SyncCore.scopeSyncState, hmirror domain scopeId]
          constructor
          · intro hasks
            obtain ⟨isSnapshot, hstill⟩ := hothers domain scopeId haddress hasks
            exact ⟨isSnapshot, (asks_other_iff hdomain haddress isSnapshot).mpr hstill⟩
          · rintro ⟨isSnapshot, hstill⟩
            exact ⟨isSnapshot, ((asks_other_iff hdomain haddress isSnapshot).mp hstill).1⟩

theorem repairMirrored_of_fresh (hfresh : Fresh core) : RepairMirrored core := by
  intro domain scopeId
  rw [SyncCore.scopeSyncState, hfresh.scopes, SyncCore.pendingRequests, hfresh.pending]
  simp

/-- Flag and requests agree in every state of a run exactly when no call of the run breaks the
agreement: silently, or through the keys of a scope with the same joined name. -/
theorem repair_mirrored_run_iff (hfresh : Fresh core) (inputs : List (SyncHarnessInput E P)) :
    (∀ before, before <+: inputs → RepairMirrored (run step core before)) ↔
      Admitted step KeepsMirror core inputs := by
  constructor
  · intro hmirrored
    refine admitted_iff_forall_step.mpr fun before next hstart => ?_
    have hbefore := hmirrored before ((List.prefix_append before [next]).trans hstart)
    have hafter := hmirrored (before ++ [next]) hstart
    rw [run_concat] at hafter
    exact (repairMirrored_step_iff (wellKeyed_run hfresh before) hbefore next).mp hafter
  · intro hkeeps before hstart
    have hrun := hkeeps.of_initial hstart
    clear hstart
    induction before using List.reverseRecOn with
    | nil => exact repairMirrored_of_fresh hfresh
    | append_singleton before last ih =>
        obtain ⟨hbefore, hlast⟩ := admitted_concat.mp hrun
        rw [run_concat]
        exact (repairMirrored_step_iff (wellKeyed_run hfresh before) (ih hbefore) last).mpr hlast

end

def unbasedFrame : List (SyncHarnessInput JsString LogState) :=
  [.frame (js "log") ⟨js "s", 3, some (js "e1"), js "c"⟩]

theorem keepsMirror_unbasedFrame :
    Admitted step KeepsMirror (soleDomainCore (logDomain (js "log") .contiguous))
      unbasedFrame := by
  refine ⟨fun config _ => ⟨nofun, ?_⟩, trivial⟩
  rintro domain scopeId - ⟨_, _, hget, -⟩
  cases hget

theorem repair_mirrored_run_iff_unbasedFrame :
    RepairMirrored (run step (soleDomainCore (logDomain (js "log") .contiguous)) unbasedFrame) :=
  (repair_mirrored_run_iff (fresh_soleDomainCore _) unbasedFrame).mpr keepsMirror_unbasedFrame _
    (List.prefix_refl _)

/-- A difference of another epoch files a snapshot request and leaves the flag down. -/
theorem foreign_difference_unannounced :
    ¬∀ inputs : List (SyncHarnessInput JsString LogState),
      RepairMirrored (run step (soleDomainCore (logDomain (js "log") .contiguous)) inputs) := by
  intro hclaim
  have hmirror := (hclaim
    [.snapshot (js "log") ⟨js "s", 0, some (js "e1"), []⟩,
      .difference (js "log")
        { scopeId := js "s", epoch := some (js "e2"), fromSeq := 0, toSeq := 1
          events := [⟨1, js "a"⟩] }] (js "log") (js "s")).mpr
    ⟨.snapshot (js "log") (js "s") .epochMismatch, by decide, rfl, rfl⟩
  revert hmirror
  decide

end Raft.Sync
