import Raft.Sync.Requests

/-!
# Independence of scopes

Calls to two scopes write disjoint entries whatever the scopes are called.
Their requests are disjoint exactly when the joined names differ, since the
request map is flat while the entries live in nested maps.
-/

namespace Raft.Sync

open Raft.Foundation

variable {S E P : Type}

/-- The two calls commute on everything a host reads, and neither touches the requests of the
scope of the other. -/
structure Independent (core : SyncCore S E P) (first second : SyncHarnessInput E P) : Prop where
  state_comm : ∀ domain scopeId,
    (step (step core first) second).state domain scopeId =
      (step (step core second) first).state domain scopeId
  scopeSyncState_comm : ∀ domain scopeId,
    (step (step core first) second).scopeSyncState domain scopeId =
      (step (step core second) first).scopeSyncState domain scopeId
  pending_comm : ∀ request,
    request ∈ (step (step core first) second).pendingRequests ↔
      request ∈ (step (step core second) first).pendingRequests
  first_frame : ∀ request, request.domain = second.domain → request.scopeId = second.scopeId →
    (request ∈ (step core first).pendingRequests ↔ request ∈ core.pendingRequests)
  second_frame : ∀ request, request.domain = first.domain → request.scopeId = first.scopeId →
    (request ∈ (step core second).pendingRequests ↔ request ∈ core.pendingRequests)

def Registered (core : SyncCore S E P) (domain : SyncDomainName) : Prop :=
  ∃ config, core.domainOf domain = .ok config

section

variable {core other : SyncCore S E P} {input first second : SyncHarnessInput E P}

/-! ## What a call depends on -/

theorem step_scopes_congr (hdomains : ∀ name, core.domainOf name = other.domainOf name)
    (hscopes : core.scopes input.domain input.scopeId =
      other.scopes input.domain input.scopeId) :
    (step core input).scopes input.domain input.scopeId =
      (step other input).scopes input.domain input.scopeId := by
  cases hdomain : core.domainOf input.domain with
  | error message =>
      rw [step_of_error hdomain, step_of_error (by rw [← hdomains, hdomain]), hscopes]
  | ok config =>
      have hname := name_of_domainOf hdomain
      rw [step_of_domainOf hdomain, step_of_domainOf (by rw [← hdomains, hdomain])]
      simp only [SyncCore.commit, SyncCore.scopeEntry, hname, hscopes, and_self, if_true]

theorem step_pending_congr (hdomains : ∀ name, core.domainOf name = other.domainOf name)
    (hscopes : core.scopes input.domain input.scopeId = other.scopes input.domain input.scopeId)
    {isSnapshot : Bool}
    (hpending : core.pending.get (scopeKey isSnapshot input.domain input.scopeId) =
      other.pending.get (scopeKey isSnapshot input.domain input.scopeId)) :
    (step core input).pending.get (scopeKey isSnapshot input.domain input.scopeId) =
      (step other input).pending.get (scopeKey isSnapshot input.domain input.scopeId) := by
  cases hdomain : core.domainOf input.domain with
  | error message =>
      rw [step_of_error hdomain, step_of_error (by rw [← hdomains, hdomain]), hpending]
  | ok config =>
      have hname := name_of_domainOf hdomain
      rw [step_pending_of_domainOf hdomain,
        step_pending_of_domainOf (by rw [← hdomains, hdomain]), get_writeRequests_own,
        get_writeRequests_own, hpending, SyncCore.scopeEntry, SyncCore.scopeEntry, hname, hscopes]

theorem step_pending_other {key : JsString}
    (hkey : ∀ isSnapshot, key ≠ scopeKey isSnapshot input.domain input.scopeId) :
    (step core input).pending.get key = core.pending.get key := by
  cases hdomain : core.domainOf input.domain with
  | error message => rw [step_of_error hdomain]
  | ok config => rw [step_pending_of_domainOf hdomain, get_writeRequests_other _ hkey]

/-! ## Two scopes -/

def Apart (first second : SyncHarnessInput E P) : Prop :=
  ¬(first.domain = second.domain ∧ first.scopeId = second.scopeId)

theorem Apart.symm (h : Apart first second) : Apart second first :=
  fun ⟨hdomain, hscope⟩ => h ⟨hdomain.symm, hscope.symm⟩

theorem scopes_comm_own (hapart : Apart first second) :
    (step (step core first) second).scopes first.domain first.scopeId =
      (step (step core second) first).scopes first.domain first.scopeId := by
  rw [step_scopes_of_not_addresses hapart.symm]
  exact step_scopes_congr (fun name => (step_domainOf core second name).symm)
    (step_scopes_of_not_addresses hapart.symm).symm

theorem scopes_comm (hapart : Apart first second) (domain : SyncDomainName)
    (scopeId : SyncScopeId) :
    (step (step core first) second).scopes domain scopeId =
      (step (step core second) first).scopes domain scopeId := by
  by_cases hfirst : first.Addresses domain scopeId
  · obtain ⟨rfl, rfl⟩ := hfirst
    exact scopes_comm_own hapart
  · by_cases hsecond : second.Addresses domain scopeId
    · obtain ⟨rfl, rfl⟩ := hsecond
      exact (scopes_comm_own hapart.symm).symm
    · rw [step_scopes_of_not_addresses hsecond, step_scopes_of_not_addresses hfirst,
        step_scopes_of_not_addresses hfirst, step_scopes_of_not_addresses hsecond]

theorem scopeKey_ne (hjoined : joinedName first.domain first.scopeId ≠
    joinedName second.domain second.scopeId) (isSnapshot isSnapshot' : Bool) :
    scopeKey isSnapshot first.domain first.scopeId ≠
      scopeKey isSnapshot' second.domain second.scopeId :=
  fun heq => hjoined (scopeKey_eq_iff.mp heq).2

theorem pending_comm_own (hapart : Apart first second)
    (hjoined : joinedName first.domain first.scopeId ≠
      joinedName second.domain second.scopeId) (isSnapshot : Bool) :
    (step (step core first) second).pending.get
        (scopeKey isSnapshot first.domain first.scopeId) =
      (step (step core second) first).pending.get
        (scopeKey isSnapshot first.domain first.scopeId) := by
  rw [step_pending_other (scopeKey_ne hjoined isSnapshot)]
  exact step_pending_congr (fun name => (step_domainOf core second name).symm)
    (step_scopes_of_not_addresses hapart.symm).symm
    (step_pending_other (scopeKey_ne hjoined isSnapshot)).symm

theorem pending_comm (hapart : Apart first second)
    (hjoined : joinedName first.domain first.scopeId ≠
      joinedName second.domain second.scopeId) (key : JsString) :
    (step (step core first) second).pending.get key =
      (step (step core second) first).pending.get key := by
  by_cases hfirst : ∃ isSnapshot, key = scopeKey isSnapshot first.domain first.scopeId
  · obtain ⟨isSnapshot, rfl⟩ := hfirst
    exact pending_comm_own hapart hjoined isSnapshot
  · by_cases hsecond : ∃ isSnapshot, key = scopeKey isSnapshot second.domain second.scopeId
    · obtain ⟨isSnapshot, rfl⟩ := hsecond
      exact (pending_comm_own hapart.symm hjoined.symm isSnapshot).symm
    · push Not at hfirst hsecond
      rw [step_pending_other hsecond, step_pending_other hfirst, step_pending_other hfirst,
        step_pending_other hsecond]

theorem frame_of_joinedName_ne (hkeyed : WellKeyed core.pending)
    (hjoined : joinedName first.domain first.scopeId ≠
      joinedName second.domain second.scopeId) (request : SyncRequestDescription)
    (hdomain : request.domain = second.domain) (hscope : request.scopeId = second.scopeId) :
    request ∈ (step core first).pendingRequests ↔ request ∈ core.pendingRequests := by
  rw [SyncCore.pendingRequests, SyncCore.pendingRequests,
    (wellKeyed_step first hkeyed).mem_values_iff, hkeyed.mem_values_iff, requestKey_eq, hdomain,
    hscope, step_pending_other (scopeKey_ne hjoined.symm request.isSnapshot)]

theorem independent_of_joinedName_ne (hkeyed : WellKeyed core.pending)
    (hapart : Apart first second)
    (hjoined : joinedName first.domain first.scopeId ≠
      joinedName second.domain second.scopeId) : Independent core first second where
  state_comm domain scopeId := by
    rw [SyncCore.state, SyncCore.state, scopes_comm hapart]
  scopeSyncState_comm domain scopeId := by
    rw [SyncCore.scopeSyncState, SyncCore.scopeSyncState, scopes_comm hapart]
  pending_comm request := by
    rw [SyncCore.pendingRequests, SyncCore.pendingRequests, InsertionMap.mem_values_iff,
      InsertionMap.mem_values_iff]
    exact exists_congr fun key => by rw [pending_comm hapart hjoined]
  first_frame := frame_of_joinedName_ne hkeyed hjoined
  second_frame := frame_of_joinedName_ne hkeyed hjoined.symm

theorem step_of_not_registered (h : ¬Registered core input.domain) : step core input = core := by
  cases hdomain : core.domainOf input.domain with
  | error message => exact step_of_error hdomain
  | ok config => exact absurd ⟨config, hdomain⟩ h

theorem registered_step (domain : SyncDomainName) :
    Registered (step core input) domain ↔ Registered core domain := by
  unfold Registered
  rw [step_domainOf]

def RequestsRegistered (core : SyncCore S E P) : Prop :=
  ∀ key request, core.pending.get key = some request → Registered core request.domain

theorem requestsRegistered_step (input : SyncHarnessInput E P) (h : RequestsRegistered core) :
    RequestsRegistered (step core input) := by
  intro key request hget
  rw [registered_step]
  cases hdomain : core.domainOf input.domain with
  | error message =>
      rw [step_of_error hdomain] at hget
      exact h key request hget
  | ok config =>
      by_cases hown : ∃ isSnapshot, key = scopeKey isSnapshot input.domain input.scopeId
      · obtain ⟨isSnapshot, rfl⟩ := hown
        rw [step_pending_of_domainOf hdomain, get_writeRequests_own] at hget
        rcases slotAfter_names hget with hold | ⟨hname, -⟩
        · exact h _ request hold
        · exact ⟨config, by rw [hname, hdomain]⟩
      · push Not at hown
        rw [step_pending_other hown] at hget
        exact h key request hget

theorem requestsRegistered_run (hfresh : Fresh core) (inputs : List (SyncHarnessInput E P)) :
    RequestsRegistered (run step core inputs) := by
  refine run_invariant RequestsRegistered inputs
    (fun core input h => requestsRegistered_step input h) ?_
  intro key request hget
  rw [hfresh.pending] at hget
  cases hget

theorem frame_of_not_registered (hrequests : RequestsRegistered core)
    (h : ¬Registered core first.domain) (request : SyncRequestDescription)
    (hdomain : request.domain = first.domain) :
    request ∈ (step core second).pendingRequests ↔ request ∈ core.pendingRequests := by
  rw [SyncCore.pendingRequests, SyncCore.pendingRequests, InsertionMap.mem_values_iff,
    InsertionMap.mem_values_iff]
  refine iff_of_false ?_ ?_
  · rintro ⟨key, hget⟩
    have hregistered := requestsRegistered_step second hrequests key request hget
    rw [registered_step, hdomain] at hregistered
    exact h hregistered
  · rintro ⟨key, hget⟩
    exact h (hdomain ▸ hrequests key request hget)

theorem independent_of_not_registered (hrequests : RequestsRegistered core)
    (h : ¬Registered core first.domain) : Independent core first second := by
  have hfirst : step core first = core := step_of_not_registered h
  have hafter : step (step core second) first = step core second :=
    step_of_not_registered ((registered_step _).not.mpr h)
  exact ⟨by simp [hfirst, hafter], by simp [hfirst, hafter], by simp [hfirst, hafter],
    by simp [hfirst], fun request hdomain _ => frame_of_not_registered hrequests h request hdomain⟩

theorem Independent.symm (h : Independent core first second) : Independent core second first :=
  ⟨fun domain scopeId => (h.state_comm domain scopeId).symm,
    fun domain scopeId => (h.scopeSyncState_comm domain scopeId).symm,
    fun request => (h.pending_comm request).symm, h.second_frame, h.first_frame⟩

/-! ## Scopes that share a joined name -/

def snapshotVerdict (domain : SyncDomainName) (scopeId : SyncScopeId) : SyncHarnessInput E P :=
  .difference domain
    { scopeId := scopeId, epoch := none, fromSeq := 0, toSeq := 0, events := []
      snapshotRequired := true }

theorem snapshotVerdict_pending (core : SyncCore S E P) {domain : SyncDomainName}
    (scopeId : SyncScopeId)
    (h : Registered core domain) :
    (step core (snapshotVerdict domain scopeId)).pending.get (scopeKey true domain scopeId) =
      some (.snapshot domain scopeId .snapshotRequired) := by
  obtain ⟨config, hdomain⟩ := h
  have hcalled : core.domainOf (snapshotVerdict (E := E) (P := P) domain scopeId).domain =
      .ok config := hdomain
  have hwrite : ((snapshotVerdict domain scopeId : SyncHarnessInput E P).write config
      (core.scopeEntry config scopeId)).requests =
        [.clearScopeRequests, .requestSnapshot .snapshotRequired] := by
    simp [SyncHarnessInput.write, snapshotVerdict, differenceWrite, epochMismatch]
  rw [step_pending_of_domainOf hcalled]
  exact (congrArg (fun writes => (writes.foldl (writeRequest domain scopeId) core.pending).get
    (scopeKey true domain scopeId)) hwrite).trans (get_writeRequests_own _ true)

/-- Calls to two scopes are independent exactly when the joined names differ, or when one of the
domains is not registered at all. -/
theorem scopes_independent_iff (hfresh : Fresh core) {domain domain' : SyncDomainName}
    {scopeId scopeId' : SyncScopeId} (hapart : ¬(domain = domain' ∧ scopeId = scopeId')) :
    (∀ (inputs : List (SyncHarnessInput E P)) (first second : SyncHarnessInput E P),
      first.Addresses domain scopeId → second.Addresses domain' scopeId' →
      Independent (run step core inputs) first second) ↔
      (joinedName domain scopeId ≠ joinedName domain' scopeId' ∨
        ¬(Registered core domain ∧ Registered core domain')) := by
  constructor
  · intro hindependent
    by_contra hcollide
    push Not at hcollide
    obtain ⟨hjoined, hdomain, hdomain'⟩ := hcollide
    -- The verdict on the second scope is pending, then the verdict on the first replaces it.
    have hframe := (hindependent [snapshotVerdict domain' scopeId']
      (snapshotVerdict domain scopeId) (snapshotVerdict domain' scopeId') ⟨rfl, rfl⟩
      ⟨rfl, rfl⟩).first_frame (.snapshot domain' scopeId' .snapshotRequired) rfl rfl
    have hkeyed := wellKeyed_run hfresh
      [(snapshotVerdict domain' scopeId' : SyncHarnessInput E P)]
    have hkey : scopeKey true domain' scopeId' = scopeKey true domain scopeId :=
      scopeKey_eq_iff.mpr ⟨rfl, hjoined.symm⟩
    rw [SyncCore.pendingRequests, SyncCore.pendingRequests,
      (wellKeyed_step _ hkeyed).mem_values_iff, hkeyed.mem_values_iff, requestKey_eq] at hframe
    have hafter : (step (run step core [snapshotVerdict domain' scopeId'])
        (snapshotVerdict domain scopeId)).pending.get (scopeKey true domain' scopeId') =
          some (.snapshot domain' scopeId' .snapshotRequired) :=
      hframe.mpr (snapshotVerdict_pending core scopeId' hdomain')
    have hregistered : Registered (run step core
        [(snapshotVerdict domain' scopeId' : SyncHarnessInput E P)]) domain :=
      (registered_step domain).mpr hdomain
    rw [hkey, snapshotVerdict_pending _ scopeId hregistered] at hafter
    simp only [Option.some.injEq, SyncRequestDescription.snapshot.injEq, and_true] at hafter
    exact hapart hafter
  · rintro hcondition inputs first second ⟨rfl, rfl⟩ ⟨rfl, rfl⟩
    have hrequests := requestsRegistered_run hfresh inputs
    have hregistered : ∀ name, Registered (run step core inputs) name ↔ Registered core name := by
      intro name
      unfold Registered
      rw [run_domainOf]
    rcases hcondition with hjoined | hmissing
    · exact independent_of_joinedName_ne (wellKeyed_run hfresh inputs) hapart hjoined
    · by_cases hfirst : Registered core first.domain
      · have hsecond : ¬Registered core second.domain := fun h => hmissing ⟨hfirst, h⟩
        exact (independent_of_not_registered hrequests
          ((hregistered _).not.mpr hsecond)).symm
      · exact independent_of_not_registered hrequests ((hregistered _).not.mpr hfirst)

end

def nestedNames : List (SyncDomainConfig LogState JsString LogState) :=
  [logDomain (js "log") .contiguous, logDomain (js "log:a") .contiguous]

theorem scopes_independent_iff_plainNames :
    Independent (coreOfDomains nestedNames)
      (.frame (js "log") ⟨js "s", 3, none, js "c"⟩)
      (.frame (js "log:a") ⟨js "s", 5, none, js "e"⟩) :=
  (scopes_independent_iff (fresh_coreOfDomains nestedNames)
    (show ¬(js "log" = js "log:a" ∧ js "s" = js "s") by decide)).mpr (Or.inl (by decide)) []
    (.frame (js "log") ⟨js "s", 3, none, js "c"⟩) (.frame (js "log:a") ⟨js "s", 5, none, js "e"⟩)
    ⟨rfl, rfl⟩ ⟨rfl, rfl⟩

/-- A call to scope `s` of domain `log:a` replaces the request of scope `a:s` of domain `log`. -/
theorem joined_names_collide :
    ¬∀ (inputs : List (SyncHarnessInput JsString LogState))
      (first second : SyncHarnessInput JsString LogState), Apart first second →
      Independent (run step (coreOfDomains nestedNames) inputs) first second := by
  intro hclaim
  have hframe := ((hclaim [.frame (js "log") ⟨js "a:s", 3, none, js "c"⟩]
    (.frame (js "log:a") ⟨js "s", 5, none, js "e"⟩) (.frame (js "log") ⟨js "a:s", 3, none, js "c"⟩)
    (by unfold Apart; decide)).first_frame (.snapshot (js "log") (js "a:s") .initial) rfl rfl).mpr
      (by decide)
  revert hframe
  decide

end Raft.Sync
