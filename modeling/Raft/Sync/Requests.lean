import Raft.Sync.Decisions

/-!
# The keyed request map

Every pending request sits under the key built from its own kind, domain and
scope.  The two parts after the kind are joined with a colon that nothing
escapes, so two scopes share their keys exactly when their joined names are
equal.
-/

namespace Raft.Sync

open Raft.Foundation

variable {S E P : Type}

/-! ## Keys -/

/-- `${domain}:${scopeId}`, the part of a request key that names the scope. -/
def joinedName (domain : SyncDomainName) (scopeId : SyncScopeId) : JsString :=
  domain ++ js ":" ++ scopeId

def scopeKey (isSnapshot : Bool) (domain : SyncDomainName) (scopeId : SyncScopeId) : JsString :=
  joinKey (if isSnapshot then js "snapshot" else js "difference") domain scopeId

theorem scopeKey_eq_iff {isSnapshot isSnapshot' : Bool} {domain domain' : SyncDomainName}
    {scopeId scopeId' : SyncScopeId} :
    scopeKey isSnapshot domain scopeId = scopeKey isSnapshot' domain' scopeId' ↔
      isSnapshot = isSnapshot' ∧ joinedName domain scopeId = joinedName domain' scopeId' := by
  have hkinds : ∀ first second : JsString,
      js "snapshot" ++ first ≠ js "difference" ++ second := by
    intro first second h
    have hhead := congrArg List.head? h
    rw [List.head?_append_of_ne_nil _ (by decide), List.head?_append_of_ne_nil _ (by decide)]
      at hhead
    revert hhead
    decide
  cases isSnapshot <;> cases isSnapshot' <;>
    simp only [scopeKey, joinKey, joinedName, List.append_assoc, List.append_cancel_left_eq,
      Bool.false_eq_true, if_true, if_false, true_and, reduceCtorEq, false_and, iff_false]
  · exact fun h => hkinds _ _ h.symm
  · exact hkinds _ _

theorem requestKey_eq (request : SyncRequestDescription) :
    requestKey request = scopeKey request.isSnapshot request.domain request.scopeId := by
  cases request <;> rfl

/-! ## Writes -/

namespace RequestWrite

def edits (isSnapshot : Bool) : RequestWrite → Bool
  | .requestSnapshot _ => isSnapshot
  | .requestDifference _ _ => !isSnapshot
  | .clearScopeRequests => true

def leaves (isSnapshot : Bool) (domain : SyncDomainName) (scopeId : SyncScopeId)
    (slot : Option SyncRequestDescription) : RequestWrite → Option SyncRequestDescription
  | .requestSnapshot reason => if isSnapshot then some (.snapshot domain scopeId reason) else slot
  | .requestDifference sinceSeq epoch =>
      if isSnapshot then slot else some (.difference domain scopeId sinceSeq epoch)
  | .clearScopeRequests => none

theorem leaves_of_edits {isSnapshot : Bool} {write : RequestWrite}
    (h : write.edits isSnapshot = true) (domain : SyncDomainName) (scopeId : SyncScopeId)
    (slot slot' : Option SyncRequestDescription) :
    write.leaves isSnapshot domain scopeId slot = write.leaves isSnapshot domain scopeId slot' := by
  cases write <;> cases isSnapshot <;> simp_all [edits, leaves]

theorem leaves_of_not_edits {isSnapshot : Bool} {write : RequestWrite}
    (h : write.edits isSnapshot = false) (domain : SyncDomainName) (scopeId : SyncScopeId)
    (slot : Option SyncRequestDescription) :
    write.leaves isSnapshot domain scopeId slot = slot := by
  cases write <;> cases isSnapshot <;> simp_all [edits, leaves]

end RequestWrite

section Pending

variable {domain : SyncDomainName} {scopeId : SyncScopeId}
  {pending : InsertionMap JsString SyncRequestDescription}

theorem get_writeRequest_own (write : RequestWrite) (isSnapshot : Bool) :
    (writeRequest domain scopeId pending write).get (scopeKey isSnapshot domain scopeId) =
      write.leaves isSnapshot domain scopeId
        (pending.get (scopeKey isSnapshot domain scopeId)) := by
  have hkinds : scopeKey true domain scopeId ≠ scopeKey false domain scopeId := fun h => by
    simpa using (scopeKey_eq_iff.mp h).1
  cases write with
  | requestSnapshot reason =>
      have hkey : requestKey (.snapshot domain scopeId reason) = scopeKey true domain scopeId := rfl
      cases isSnapshot with
      | false =>
          simp only [writeRequest, RequestWrite.leaves, Bool.false_eq_true, if_false]
          rw [InsertionMap.get_set_of_ne _ _ (by rw [hkey]; exact hkinds.symm)]
      | true =>
          simp only [writeRequest, RequestWrite.leaves, if_true]
          rw [hkey, InsertionMap.get_set_self]
  | requestDifference sinceSeq epoch =>
      have hkey : requestKey (.difference domain scopeId sinceSeq epoch) =
          scopeKey false domain scopeId := rfl
      cases isSnapshot with
      | false =>
          simp only [writeRequest, RequestWrite.leaves, Bool.false_eq_true, if_false]
          rw [hkey, InsertionMap.get_set_self]
      | true =>
          simp only [writeRequest, RequestWrite.leaves, if_true]
          rw [InsertionMap.get_set_of_ne _ _ (by rw [hkey]; exact hkinds)]
  | clearScopeRequests =>
      change ((pending.delete (scopeKey false domain scopeId)).delete
        (scopeKey true domain scopeId)).get _ = none
      cases isSnapshot with
      | false => rw [InsertionMap.get_delete_of_ne _ hkinds.symm, InsertionMap.get_delete_self]
      | true => rw [InsertionMap.get_delete_self]

theorem get_writeRequest_other (write : RequestWrite) {key : JsString}
    (hkey : ∀ isSnapshot, key ≠ scopeKey isSnapshot domain scopeId) :
    (writeRequest domain scopeId pending write).get key = pending.get key := by
  cases write with
  | requestSnapshot reason => exact InsertionMap.get_set_of_ne _ _ (hkey true)
  | requestDifference sinceSeq epoch => exact InsertionMap.get_set_of_ne _ _ (hkey false)
  | clearScopeRequests =>
      rw [writeRequest]
      exact (InsertionMap.get_delete_of_ne _ (hkey true)).trans
        (InsertionMap.get_delete_of_ne _ (hkey false))

def slotAfter (isSnapshot : Bool) (domain : SyncDomainName) (scopeId : SyncScopeId)
    (writes : List RequestWrite) (slot : Option SyncRequestDescription) :
    Option SyncRequestDescription :=
  writes.foldl (fun slot write => write.leaves isSnapshot domain scopeId slot) slot

theorem get_writeRequests_own (writes : List RequestWrite) (isSnapshot : Bool) :
    (writes.foldl (writeRequest domain scopeId) pending).get
        (scopeKey isSnapshot domain scopeId) =
      slotAfter isSnapshot domain scopeId writes
        (pending.get (scopeKey isSnapshot domain scopeId)) := by
  induction writes generalizing pending with
  | nil => rfl
  | cons write writes ih =>
      rw [List.foldl_cons, ih, get_writeRequest_own]
      rfl

theorem get_writeRequests_other (writes : List RequestWrite) {key : JsString}
    (hkey : ∀ isSnapshot, key ≠ scopeKey isSnapshot domain scopeId) :
    (writes.foldl (writeRequest domain scopeId) pending).get key = pending.get key := by
  induction writes generalizing pending with
  | nil => rfl
  | cons write writes ih => rw [List.foldl_cons, ih, get_writeRequest_other write hkey]

theorem slotAfter_of_not_edits {isSnapshot : Bool} {writes : List RequestWrite}
    (h : writes.any (·.edits isSnapshot) = false) (slot : Option SyncRequestDescription) :
    slotAfter isSnapshot domain scopeId writes slot = slot := by
  induction writes generalizing slot with
  | nil => rfl
  | cons write writes ih =>
      simp only [List.any_cons, Bool.or_eq_false_iff] at h
      rw [slotAfter, List.foldl_cons, RequestWrite.leaves_of_not_edits h.1]
      exact ih h.2 slot

theorem slotAfter_of_edits {isSnapshot : Bool} {writes : List RequestWrite}
    (h : writes.any (·.edits isSnapshot) = true) (slot slot' : Option SyncRequestDescription) :
    slotAfter isSnapshot domain scopeId writes slot =
      slotAfter isSnapshot domain scopeId writes slot' := by
  induction writes generalizing slot slot' with
  | nil => cases h
  | cons write writes ih =>
      simp only [slotAfter, List.foldl_cons]
      by_cases hrest : writes.any (·.edits isSnapshot) = true
      · exact ih hrest _ _
      · have hwrite : write.edits isSnapshot = true := by simpa [hrest] using h
        rw [RequestWrite.leaves_of_edits hwrite domain scopeId slot slot']

theorem slotAfter_names {isSnapshot : Bool} {writes : List RequestWrite}
    {slot : Option SyncRequestDescription} {request : SyncRequestDescription}
    (h : slotAfter isSnapshot domain scopeId writes slot = some request) :
    slot = some request ∨
      (request.domain = domain ∧ request.scopeId = scopeId ∧ request.isSnapshot = isSnapshot) := by
  induction writes generalizing slot with
  | nil => exact Or.inl h
  | cons write writes ih =>
      rw [slotAfter, List.foldl_cons] at h
      rcases ih h with hwrite | hnames
      · cases write <;> cases isSnapshot <;> simp [RequestWrite.leaves] at hwrite
        all_goals first
          | exact Or.inl hwrite
          | (subst hwrite; exact Or.inr ⟨rfl, rfl, rfl⟩)
      · exact Or.inr hnames

end Pending

/-! ## Requests of one scope -/

def WellKeyed (pending : InsertionMap JsString SyncRequestDescription) : Prop :=
  ∀ key request, pending.get key = some request → key = requestKey request

def Asks (pending : InsertionMap JsString SyncRequestDescription) (isSnapshot : Bool)
    (domain : SyncDomainName) (scopeId : SyncScopeId) : Prop :=
  ∃ request, pending.get (scopeKey isSnapshot domain scopeId) = some request ∧
    request.domain = domain ∧ request.scopeId = scopeId

theorem wellKeyed_writeRequests {domain : SyncDomainName} {scopeId : SyncScopeId}
    {pending : InsertionMap JsString SyncRequestDescription} (h : WellKeyed pending)
    (writes : List RequestWrite) :
    WellKeyed (writes.foldl (writeRequest domain scopeId) pending) := by
  intro key request hget
  by_cases hown : ∃ isSnapshot, key = scopeKey isSnapshot domain scopeId
  · obtain ⟨isSnapshot, rfl⟩ := hown
    rw [get_writeRequests_own] at hget
    rcases slotAfter_names hget with hold | ⟨hdomain, hscope, hkind⟩
    · exact h _ _ hold
    · rw [requestKey_eq, hdomain, hscope, hkind]
  · rw [get_writeRequests_other writes fun isSnapshot heq => hown ⟨isSnapshot, heq⟩] at hget
    exact h key request hget

theorem WellKeyed.mem_values_iff {pending : InsertionMap JsString SyncRequestDescription}
    (h : WellKeyed pending) (request : SyncRequestDescription) :
    request ∈ pending.values ↔ pending.get (requestKey request) = some request := by
  rw [InsertionMap.mem_values_iff]
  constructor
  · rintro ⟨key, hget⟩
    rw [← h key request hget, hget]
  · exact fun hget => ⟨_, hget⟩

theorem WellKeyed.exists_mem_values_iff
    {pending : InsertionMap JsString SyncRequestDescription} (h : WellKeyed pending)
    (domain : SyncDomainName) (scopeId : SyncScopeId) :
    (∃ request ∈ pending.values, request.domain = domain ∧ request.scopeId = scopeId) ↔
      ∃ isSnapshot, Asks pending isSnapshot domain scopeId := by
  constructor
  · rintro ⟨request, hmem, rfl, rfl⟩
    rw [h.mem_values_iff, requestKey_eq] at hmem
    exact ⟨request.isSnapshot, request, hmem, rfl, rfl⟩
  · rintro ⟨isSnapshot, request, hget, hdomain, hscope⟩
    exact ⟨request, (pending.mem_values_iff request).mpr ⟨_, hget⟩, hdomain, hscope⟩

theorem WellKeyed.nodup_values {pending : InsertionMap JsString SyncRequestDescription}
    (h : WellKeyed pending) : pending.values.Nodup := by
  have hkeys : pending.values.map requestKey = pending.keys := by
    rw [InsertionMap.values, InsertionMap.keys, List.map_map]
    apply List.map_congr_left
    rintro ⟨key, request⟩ hmem
    exact (h key request ((pending.mem_entries_iff key request).mp hmem)).symm
  exact List.Nodup.of_map requestKey (hkeys ▸ pending.nodup)

theorem WellKeyed.sole_snapshot {pending : InsertionMap JsString SyncRequestDescription}
    (h : WellKeyed pending) {domain : SyncDomainName} {scopeId : SyncScopeId}
    {request : SyncRequestDescription}
    (hdifference : pending.get (scopeKey false domain scopeId) = none)
    (hsnapshot : pending.get (scopeKey true domain scopeId) = some request)
    (hdomain : request.domain = domain) (hscope : request.scopeId = scopeId) :
    pending.values.filter (fun request => request.domain = domain ∧ request.scopeId = scopeId) =
      [request] := by
  refine List.perm_singleton.mp ((List.perm_ext_iff_of_nodup (h.nodup_values.filter _)
    (List.nodup_singleton _)).mpr fun other => ?_)
  rw [List.mem_filter, decide_eq_true_eq, List.mem_singleton, h.mem_values_iff, requestKey_eq]
  constructor
  · rintro ⟨hget, rfl, rfl⟩
    cases hkind : other.isSnapshot with
    | false =>
        rw [hkind, hdifference] at hget
        cases hget
    | true =>
        rw [hkind, hsnapshot] at hget
        exact (Option.some.inj hget).symm
  · rintro rfl
    have hkind : other.isSnapshot = true := by
      have hkey := h _ _ hsnapshot
      rw [requestKey_eq] at hkey
      exact (scopeKey_eq_iff.mp hkey).1.symm
    rw [hkind, hdomain, hscope]
    exact ⟨hsnapshot, rfl, rfl⟩

section Step

variable {core : SyncCore S E P} {config : SyncDomainConfig S E P}
  {input : SyncHarnessInput E P}

theorem step_pending_of_domainOf (h : core.domainOf input.domain = .ok config) :
    (step core input).pending =
      (input.write config (core.scopeEntry config input.scopeId)).requests.foldl
        (writeRequest input.domain input.scopeId) core.pending := by
  rw [step_of_domainOf h]
  rfl

theorem wellKeyed_step (input : SyncHarnessInput E P) (h : WellKeyed core.pending) :
    WellKeyed (step core input).pending := by
  rcases step_cases core input with hstep | ⟨config, hdomain, -, -⟩
  · rwa [hstep]
  · rw [step_pending_of_domainOf hdomain]
    exact wellKeyed_writeRequests h _

theorem wellKeyed_run (hfresh : Fresh core) (inputs : List (SyncHarnessInput E P)) :
    WellKeyed (run step core inputs).pending := by
  refine run_invariant (fun core : SyncCore S E P => WellKeyed core.pending) inputs
    (fun core input h => wellKeyed_step input h) ?_
  rw [hfresh.pending]
  intro key request hget
  cases hget

end Step

end Raft.Sync
