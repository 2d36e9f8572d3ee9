import Raft.AgentOps.StateSession

/-!
# Saves that race with updates

A save that succeeds clears the dirty flag whatever happened while it was
awaited.  The clients that lose no update are those whose saves succeed only
while the snapshot they took still stands.
-/

namespace Raft.AgentOps

open Raft.Foundation Raft.SeenPolicy

/-- Nothing is in flight and nothing is marked: the store holds what the session holds. -/
structure NoLostUpdate (client : Client) : Prop where
  clean : client.saving = [] → client.session.dirty = false →
    SameUpToVersion client.stored client.session.snapshot
  returnsTrue : client.saving = [] → ∀ force, client.session.save force = none →
    SameUpToVersion client.stored client.session.snapshot

def LoadsWhatIsStored (frontier : SeenFrontier) (loaded : Option RaftState) : Prop :=
  let client := openClient frontier loaded
  SameUpToVersion client.stored client.session.snapshot

/-- A save that succeeds carries the session's snapshot as it stands then. -/
def SavesWhatStands (client : Client) : ClientEvent → Prop
  | .settled index true =>
      ∀ call, client.saving[index]? = some call →
        SameUpToVersion call.state client.session.snapshot
  | _ => True

def ClientEvent.throws : ClientEvent → Bool
  | .settled _ false => true
  | _ => false

def InStep (client : Client) : Prop :=
  client.session.dirty = false → SameUpToVersion client.stored client.session.snapshot

theorem InStep.noLostUpdate {client : Client} (h : InStep client) : NoLostUpdate client where
  clean := fun _ hclean => h hclean
  returnsTrue := fun _ force hsave => h (by
    simp only [RaftStateSession.save] at hsave
    split at hsave
    · next hskip => simpa using (Bool.and_eq_true_iff.mp hskip).1
    · cases hsave)

/-! ## What an operation does to the session -/

def Marks (before after : RaftStateSession) : Prop := after = before ∨ after.dirty = true

theorem marks_setPending (session : RaftStateSession) (cursor : Option JsNumber) :
    Marks session (session.setPending cursor) := by
  cases cursor with
  | none => exact .inl rfl
  | some cursor =>
      rw [RaftStateSession.setPending]
      split
      · exact .inl rfl
      · exact .inr rfl

theorem marks_commit (session : RaftStateSession) (cursor : Option (Option JsNumber)) :
    Marks session (session.commit cursor).2 := by
  rw [RaftStateSession.commit]
  cases cursor.getD session.pendingCursor with
  | none => exact .inl rfl
  | some next => exact .inr rfl

theorem marks_forgetContinuation (session : RaftStateSession) (target contentHash : JsString) :
    Marks session (session.forgetContinuation target contentHash) := by
  simp only [RaftStateSession.forgetContinuation]
  generalize hfiltered : session.continuations.filter (fun held =>
    !(held.target = target && held.contentHash = contentHash)) = filtered
  by_cases hlength : filtered.length = session.continuations.length
  · have hsame : filtered = session.continuations := by
      rw [← hfiltered] at hlength ⊢
      exact List.filter_eq_self.mpr (List.length_filter_eq_length_iff.mp hlength)
    simp [Marks, hsame]
  · simp [Marks, hlength]

theorem InStep.of_marks {client : Client} {session : RaftStateSession} (h : InStep client)
    (hmarks : Marks client.session session) : InStep { client with session } := by
  intro hclean
  obtain rfl | hdirty := hmarks
  · exact h hclean
  · rw [hdirty] at hclean
    cases hclean

theorem sameUpToVersion_saved {state : RaftState} {session : RaftStateSession} (call : SaveCall) :
    SameUpToVersion state (session.saved call).snapshot ↔
      SameUpToVersion state session.snapshot := by
  simp [SameUpToVersion, RaftStateSession.saved, RaftStateSession.snapshot]

theorem InStep.settle {client : Client} (h : InStep client) {index : Nat} {succeeds : Bool}
    (hstands : SavesWhatStands client (.settled index succeeds)) :
    InStep (client.settle index succeeds) := by
  rw [Client.settle]
  cases hcall : client.saving[index]? with
  | none => exact h
  | some call =>
      cases succeeds with
      | false => exact h
      | true => exact fun _ => (sameUpToVersion_saved call).mpr (hstands call hcall)

theorem InStep.start {client : Client} (h : InStep client) (force : Bool) :
    InStep (client.start force) := by
  rw [Client.start]
  cases client.session.save force with
  | none => exact h
  | some call => exact h

theorem InStep.step {client : Client} {event : ClientEvent} (h : InStep client)
    (hstands : SavesWhatStands client event) : InStep (clientStep client event) := by
  cases event with
  | setPending cursor => exact h.of_marks (marks_setPending _ cursor)
  | commit cursor => exact h.of_marks (marks_commit _ cursor)
  | rememberContinuation entry => exact h.of_marks (.inr rfl)
  | forgetContinuation target contentHash =>
      exact h.of_marks (marks_forgetContinuation _ target contentHash)
  | markDirty bookings => exact h.of_marks (.inr rfl)
  | save force => exact h.start force
  | settled index succeeds => exact h.settle hstands

/-! ## Saves that all throw -/

theorem SavesWhatStands.of_throws {client : Client} {event : ClientEvent}
    (h : event.throws = true) : SavesWhatStands client event := by
  cases event with
  | settled index succeeds =>
      cases succeeds with
      | false => trivial
      | true => cases h
  | _ => trivial

theorem run_throws (client : Client) :
    run clientStep client (List.replicate client.saving.length (.settled 0 false)) =
      { client with saving := [] } := by
  obtain ⟨session, saving, stored⟩ := client
  induction saving with
  | nil => rfl
  | cons call saving ih =>
      rw [List.length_cons, List.replicate_succ, run_cons]
      exact ih

/-- A save that succeeds with an outdated snapshot hides the update from every later save. -/
theorem not_noLostUpdate_of_outdated {client : Client} {index : Nat} {call : SaveCall}
    (hcall : client.saving[index]? = some call)
    (houtdated : ¬ SameUpToVersion call.state client.session.snapshot) :
    let reached := clientStep client (.settled index true)
    ¬ NoLostUpdate (run clientStep reached
      (List.replicate reached.saving.length (.settled 0 false))) := by
  intro reached hkept
  have hreached : reached =
      ⟨client.session.saved call, client.saving.eraseIdx index, call.state⟩ := by
    simp only [reached, clientStep, Client.settle, hcall, if_true]
  rw [run_throws] at hkept
  have hsame := hkept.clean rfl (by rw [hreached]; rfl)
  rw [hreached] at hsame
  exact houtdated ((sameUpToVersion_saved call).mp hsame)

/-! ## The updates of a client's runs -/

theorem saves_lose_no_update (frontier : SeenFrontier) (loaded : Option RaftState)
    (events : List ClientEvent) :
    (∀ before rest, before <+: events → (∀ event ∈ rest, event.throws = true) →
      NoLostUpdate (run clientStep (openClient frontier loaded) (before ++ rest))) ↔
      LoadsWhatIsStored frontier loaded ∧
        Admitted clientStep SavesWhatStands (openClient frontier loaded) events := by
  constructor
  · intro hkept
    have hstart := hkept [] [] List.nil_prefix (by simp)
    refine ⟨hstart.clean ?_ ?_, admitted_iff_forall_step.mpr fun before next hstart => ?_⟩
    · rfl
    · rw [List.append_nil, run_nil, openClient, RaftStateSession.ensureLoaded]
      split <;> rfl
    · cases next with
      | settled index succeeds =>
          cases succeeds with
          | false => trivial
          | true =>
              intro call hcall
              by_contra houtdated
              refine not_noLostUpdate_of_outdated hcall houtdated ?_
              have hlater := hkept (before ++ [.settled index true])
                (List.replicate (run clientStep (openClient frontier loaded)
                  (before ++ [.settled index true])).saving.length (.settled 0 false))
                hstart (by simp [ClientEvent.throws])
              rwa [run_append, run_concat] at hlater
      | _ => trivial
  · rintro ⟨hloaded, hrun⟩ before rest hstart hthrows
    have hadmitted : Admitted clientStep SavesWhatStands (openClient frontier loaded)
        (before ++ rest) := by
      refine admitted_append.mpr ⟨hrun.of_initial hstart, ?_⟩
      generalize run clientStep (openClient frontier loaded) before = client
      induction rest generalizing client with
      | nil => trivial
      | cons event rest ih =>
          exact ⟨.of_throws (hthrows event List.mem_cons_self),
            ih (fun other hother => hthrows other (List.mem_cons_of_mem _ hother)) _⟩
    exact (hadmitted.invariant InStep (fun _ _ h hstands => h.step hstands)
      (fun _ => hloaded)).noLostUpdate

def racingSave : List ClientEvent :=
  [.setPending (some (.ofNat 1)), .save false, .setPending (some (.ofNat 2)), .settled 0 true]

theorem save_loses_update :
    let client := run clientStep (openClient .fresh none) racingSave
    client.saving = [] ∧ client.session.dirty = false ∧ client.session.save false = none ∧
      client.stored.pendingCursor = some (.ofNat 1) ∧
      client.session.snapshot.pendingCursor = some (.ofNat 2) ∧ ¬ NoLostUpdate client := by
  have hsaving : (run clientStep (openClient .fresh none) racingSave).saving = [] := by
    decide +kernel
  have hclean : (run clientStep (openClient .fresh none) racingSave).session.dirty = false := by
    decide +kernel
  have hstored : (run clientStep (openClient .fresh none) racingSave).stored.pendingCursor =
      some (.ofNat 1) := by
    decide +kernel
  have hheld : (run clientStep (openClient .fresh none) racingSave).session.snapshot.pendingCursor =
      some (.ofNat 2) := by
    decide +kernel
  refine ⟨hsaving, hclean, ?_, hstored, hheld, fun hkept => ?_⟩
  · rw [RaftStateSession.save, hclean]
    rfl
  · have hsame := congrArg RaftState.pendingCursor (hkept.clean hsaving hclean)
    change (run clientStep (openClient .fresh none) racingSave).stored.pendingCursor =
      (run clientStep (openClient .fresh none) racingSave).session.snapshot.pendingCursor at hsame
    rw [hstored, hheld] at hsame
    exact absurd hsame (by decide +kernel)

end Raft.AgentOps
