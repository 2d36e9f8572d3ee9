import Raft.SeenPolicy.ConsumedSeqs

/-!
# Where evidence comes from

A predicate on (key, context, seq) that every booking satisfies holds of every
stored seq, because replacing, retiring and capping only ever drop seqs.  It is
instantiated with "some earlier call passed this seq in this context for a
spelling of this key".
-/

namespace Raft.SeenPolicy

open Raft.Foundation

/-! ## Sourced stores -/

structure Sourced (Read : JsString → Option JsString → PositiveNumber → Prop)
    (Exact : JsString → Option JsString → ℕ+ → Prop) (store : MemoryStore) : Prop where
  read : ∀ key row value, store.streams.get key = some row → row.seq = some value →
    Read key row.contextId value
  exact : ∀ key row seq, store.exact.get key = some row → seq ∈ row.seqs →
    Exact key row.contextId seq

theorem sourced_create {Read : JsString → Option JsString → PositiveNumber → Prop}
    {Exact : JsString → Option JsString → ℕ+ → Prop} (contextId : Option JsString) :
    Sourced Read Exact (createMemoryCommandStateStore contextId) where
  read := fun _ _ _ hget => by cases hget
  exact := fun _ _ _ hget => by cases hget

theorem StreamRow.nextSeq_eq_some {prior : Option StreamRow} {seq : Option PositiveNumber}
    {bookedContextId : Option JsString} {value : PositiveNumber}
    (h : StreamRow.nextSeq prior seq bookedContextId = some value) :
    seq = some value ∨
      ∃ row, prior = some row ∧ row.contextId = bookedContextId ∧ row.seq = some value := by
  cases prior with
  | none => exact Or.inl h
  | some row =>
      simp only [nextSeq.eq_def] at h
      split at h
      · exact Or.inl h
      · next hcontext =>
          have hkept : row.seq = some value → ∃ kept, some row = some kept ∧
              kept.contextId = bookedContextId ∧ kept.seq = some value :=
            fun hseq => ⟨row, rfl, not_not.mp hcontext, hseq⟩
          split at h
          · exact Or.inr (hkept h)
          · exact Or.inl h
          · split at h
            · exact Or.inl h
            · next hrow _ => exact Or.inr (hkept (hrow.trans h))

theorem ExactRow.mem_of_dropOtherContext {existing : Option ExactRow}
    {bookedContextId : Option JsString} {row : ExactRow}
    (h : ExactRow.dropOtherContext existing bookedContextId = some row) :
    existing = some row := by
  cases existing with
  | none => cases h
  | some existing =>
      rw [dropOtherContext] at h
      split at h
      · exact h
      · cases h

theorem ExactRow.mem_of_retire {kept : Option ExactRow} {floor : ℚ} {row : ExactRow}
    (h : ExactRow.retire kept floor = some row) :
    ∃ old, kept = some old ∧ row.contextId = old.contextId ∧
      ∀ seq ∈ row.seqs, seq ∈ old.seqs := by
  cases kept with
  | none => cases h
  | some old =>
      rw [retire] at h
      split at h
      · simp only at h
        split at h
        · cases h
        · rw [← Option.some.inj h]
          exact ⟨old, rfl, rfl, fun seq hseq => (mem_of_mem_normalizeSeqs hseq).1⟩
      · exact ⟨old, rfl, by rw [Option.some.inj h], fun _ hseq => by rwa [Option.some.inj h]⟩

theorem ExactRow.mem_of_merge {existing : Option ExactRow} {seqs : List ℕ+} {floor : ℚ}
    {bookedContextId : Option JsString} {row : ExactRow}
    (h : ExactRow.merge existing seqs floor bookedContextId = some row) {seq : ℕ+}
    (hseq : seq ∈ row.seqs) :
    (row.contextId = bookedContextId ∧ seq ∈ seqs) ∨
      ∃ old, existing = some old ∧ old.contextId = row.contextId ∧ seq ∈ old.seqs := by
  rw [merge] at h
  split at h
  · exact Or.inr ⟨row, h, rfl, hseq⟩
  · rw [← Option.some.inj h] at hseq ⊢
    rcases List.mem_append.mp (mem_of_mem_normalizeSeqs hseq).1 with hheld | hnew
    · cases existing with
      | none => cases hheld
      | some old =>
          rw [heldSeqs] at hheld
          split at hheld
          · next hcontext => exact Or.inr ⟨old, rfl, hcontext, hheld⟩
          · cases hheld
    · exact Or.inl ⟨rfl, hnew⟩

section Bookings

variable {Read : JsString → Option JsString → PositiveNumber → Prop}
  {Exact : JsString → Option JsString → ℕ+ → Prop} {store : MemoryStore}
  {bookedContextId : Option JsString}

theorem Sourced.bookStreamEntry (h : Sourced Read Exact store) {target : JsString}
    {rawSeq : Option JsNumber}
    (hbooked : ∀ value, rawSeq.bind JsNumber.positiveFinite = some value →
      Read target bookedContextId value) :
    Sourced Read Exact (store.bookStreamEntry bookedContextId target rawSeq) := by
  by_cases htarget : target = []
  · rwa [MemoryStore.bookStreamEntry, if_pos htarget]
  constructor
  · intro key row value hget hseq
    rw [MemoryStore.get_streams_bookStreamEntry _ htarget] at hget
    split at hget
    · next hkey =>
        cases hget
        rw [hkey]
        rcases StreamRow.nextSeq_eq_some hseq with hnew | ⟨prior, hprior, hcontext, hold⟩
        · exact hbooked value hnew
        · exact hcontext ▸ h.read target prior value hprior hold
    · exact h.read key row value hget hseq
  · intro key row seq hget hseq
    rw [MemoryStore.get_exact_bookStreamEntry _ htarget] at hget
    split at hget
    · next hkey =>
        obtain ⟨old, hkept, hcontext, hsubset⟩ := ExactRow.mem_of_retire hget
        rw [hkey, hcontext]
        exact h.exact target old seq (ExactRow.mem_of_dropOtherContext hkept) (hsubset seq hseq)
    · exact h.exact key row seq hget hseq

theorem Sourced.bookStreamEntries (h : Sourced Read Exact store)
    {entries : List (JsString × Option JsNumber)}
    (hbooked : ∀ entry ∈ entries, ∀ value, entry.2.bind JsNumber.positiveFinite = some value →
      Read entry.1 bookedContextId value) :
    Sourced Read Exact (store.bookStreamEntries entries bookedContextId) := by
  rw [MemoryStore.bookStreamEntries]
  induction entries generalizing store with
  | nil => exact h
  | cons entry entries ih =>
      exact ih (h.bookStreamEntry (hbooked entry List.mem_cons_self))
        fun other hother => hbooked other (List.mem_cons_of_mem _ hother)

theorem Sourced.bookExactSeq (h : Sourced Read Exact store) {target : JsString}
    {rawSeqs : List JsNumber}
    (hbooked : ∀ seq ∈ normalizeExactSeqs rawSeqs 0, Exact target bookedContextId seq) :
    Sourced Read Exact (store.bookExactSeq bookedContextId target rawSeqs) := by
  by_cases hskip : target = [] ∨ normalizeExactSeqs rawSeqs 0 = []
  · rwa [MemoryStore.bookExactSeq, if_pos hskip]
  obtain ⟨htarget, hseqs⟩ := not_or.mp hskip
  constructor
  · rw [MemoryStore.streams_bookExactSeq]
    exact h.read
  · intro key row seq hget hseq
    rw [MemoryStore.get_exact_bookExactSeq _ htarget hseqs] at hget
    split at hget
    · next hkey =>
        rw [hkey]
        rcases ExactRow.mem_of_merge hget hseq with ⟨hcontext, hnew⟩ | ⟨old, hold, hcontext, hmem⟩
        · exact hcontext ▸ hbooked seq hnew
        · exact hcontext ▸ h.exact target old seq hold hmem
    · exact h.exact key row seq hget hseq

theorem Sourced.bookExactSeqs (h : Sourced Read Exact store)
    {entries : List (JsString × List JsNumber)}
    (hbooked : ∀ entry ∈ entries, ∀ seq ∈ normalizeExactSeqs entry.2 0,
      Exact entry.1 bookedContextId seq) :
    Sourced Read Exact (store.bookExactSeqs entries bookedContextId) := by
  rw [MemoryStore.bookExactSeqs]
  induction entries generalizing store with
  | nil => exact h
  | cons entry entries ih =>
      exact ih (h.bookExactSeq (hbooked entry List.mem_cons_self))
        fun other hother => hbooked other (List.mem_cons_of_mem _ hother)

end Bookings

/-! ## Passed seqs -/

namespace LedgerCall

/-- The seqs a call passes as high-water marks, each with its spelling. -/
def passedSeqs : LedgerCall → List (JsString × JsNumber)
  | .recordConsumedRead target (some seq) => [(target, seq)]
  | .recordConsumedSeqs entries => entries
  | .setContextId _ | .recordTargetAlias _ _ | .recordConsumedRead _ none
  | .recordConsumedExactSeqs _ => []

def passedExactSeqs : LedgerCall → List (JsString × List JsNumber)
  | .recordConsumedExactSeqs entries => entries
  | .setContextId _ | .recordTargetAlias _ _ | .recordConsumedRead _ _
  | .recordConsumedSeqs _ => []

def readTargets : LedgerCall → List JsString
  | .recordConsumedRead target _ => [target]
  | .recordConsumedSeqs entries => (MemoryStore.readCandidates entries).map Prod.fst
  | .setContextId _ | .recordTargetAlias _ _ | .recordConsumedExactSeqs _ => []

end LedgerCall

def PassedRead (initial : MemoryStore) (calls : List LedgerCall) (key : JsString)
    (contextId : Option JsString) (value : PositiveNumber) : Prop :=
  ∃ before call, before ++ [call] <+: calls ∧
    (run ledgerStep initial before).contextId = contextId ∧
    ∃ spelling seq, (spelling, seq) ∈ call.passedSeqs ∧
      (run ledgerStep initial before).canonicalTargetKey spelling = key ∧
      seq.positiveFinite = some value

def PassedExact (initial : MemoryStore) (calls : List LedgerCall) (key : JsString)
    (contextId : Option JsString) (seq : ℕ+) : Prop :=
  ∃ before call, before ++ [call] <+: calls ∧
    (run ledgerStep initial before).contextId = contextId ∧
    ∃ spelling seqs, (spelling, seqs) ∈ call.passedExactSeqs ∧
      (run ledgerStep initial before).canonicalTargetKey spelling = key ∧
      ∃ number ∈ seqs, number.positiveInteger = some seq

theorem PassedRead.mono {initial : MemoryStore} {first second : List LedgerCall}
    (hstart : first <+: second) {key : JsString} {contextId : Option JsString}
    {value : PositiveNumber} (h : PassedRead initial first key contextId value) :
    PassedRead initial second key contextId value := by
  obtain ⟨before, call, hstarts, hpassed⟩ := h
  exact ⟨before, call, hstarts.trans hstart, hpassed⟩

theorem PassedExact.mono {initial : MemoryStore} {first second : List LedgerCall}
    (hstart : first <+: second) {key : JsString} {contextId : Option JsString} {seq : ℕ+}
    (h : PassedExact initial first key contextId seq) :
    PassedExact initial second key contextId seq := by
  obtain ⟨before, call, hstarts, hpassed⟩ := h
  exact ⟨before, call, hstarts.trans hstart, hpassed⟩

theorem keyedUpdates_spec (store : MemoryStore) {α : Type} {candidates : List (JsString × α)}
    {key : JsString} {value : α} (h : (key, value) ∈ ownEntries (store.keyedUpdates candidates)) :
    ∃ spelling, (spelling, value) ∈ candidates ∧ store.canonicalTargetKey spelling = key := by
  rw [mem_ownEntries, InsertionMap.mem_entries_iff] at h
  induction candidates using List.reverseRecOn generalizing key value with
  | nil => cases h
  | append_singleton candidates candidate ih =>
      have hearlier : (store.keyedUpdates candidates).get key = some value →
          ∃ spelling, (spelling, value) ∈ candidates ++ [candidate] ∧
            store.canonicalTargetKey spelling = key := fun hold => by
        obtain ⟨spelling, hmem, hkey⟩ := ih hold
        exact ⟨spelling, List.mem_append_left _ hmem, hkey⟩
      rw [MemoryStore.keyedUpdates, List.foldl_concat] at h
      simp only at h
      split at h
      · exact hearlier h
      · rcases get_assignOwn_eq_some h with ⟨hkey, hvalue⟩ | hold
        · exact ⟨candidate.1, by simp [hvalue], hkey.symm⟩
        · exact hearlier hold

section Calls

variable {initial : MemoryStore} {calls : List LedgerCall} {call : LedgerCall}

theorem passedRead_now {spelling : JsString} {seq : JsNumber} {value : PositiveNumber}
    (hpassed : (spelling, seq) ∈ call.passedSeqs) (hvalue : seq.positiveFinite = some value) :
    PassedRead initial (calls ++ [call])
      ((run ledgerStep initial calls).canonicalTargetKey spelling)
      (run ledgerStep initial calls).contextId value :=
  ⟨calls, call, List.prefix_refl _, rfl, spelling, seq, hpassed, rfl, hvalue⟩

theorem passedExact_now {spelling : JsString} {seqs : List JsNumber} {seq : ℕ+}
    (hpassed : (spelling, seqs) ∈ call.passedExactSeqs) (hseq : seq ∈ normalizeExactSeqs seqs 0) :
    PassedExact initial (calls ++ [call])
      ((run ledgerStep initial calls).canonicalTargetKey spelling)
      (run ledgerStep initial calls).contextId seq := by
  obtain ⟨number, hnumber, hvalue⟩ :=
    List.mem_filterMap.mp (mem_of_mem_normalizeSeqs hseq).1
  exact ⟨calls, call, List.prefix_refl _, rfl, spelling, seqs, hpassed, rfl, number, hnumber,
    hvalue⟩

theorem Sourced.mono {store : MemoryStore}
    (h : Sourced (PassedRead initial calls) (PassedExact initial calls) store) :
    Sourced (PassedRead initial (calls ++ [call])) (PassedExact initial (calls ++ [call]))
      store where
  read := fun key row value hget hseq =>
    (h.read key row value hget hseq).mono (List.prefix_append _ _)
  exact := fun key row seq hget hseq =>
    (h.exact key row seq hget hseq).mono (List.prefix_append _ _)

theorem positiveFinite_finite (value : PositiveNumber) :
    (JsNumber.finite value.1).positiveFinite = some value := by
  rw [JsNumber.positiveFinite, dif_pos value.2]

theorem sourced_step
    (h : Sourced (PassedRead initial calls) (PassedExact initial calls)
      (run ledgerStep initial calls)) :
    Sourced (PassedRead initial (calls ++ [call])) (PassedExact initial (calls ++ [call]))
      (run ledgerStep initial (calls ++ [call])) := by
  rw [run_concat]
  have hold : Sourced (PassedRead initial (calls ++ [call]))
      (PassedExact initial (calls ++ [call])) (run ledgerStep initial calls) := h.mono
  cases call with
  | setContextId next => exact ⟨hold.read, hold.exact⟩
  | recordTargetAlias rawSpelling canonicalTarget =>
      rw [ledgerStep, MemoryStore.recordTargetAlias]
      split
      · split
        · exact hold
        · rw [MemoryStore.bookTargetAlias]
          split
          · exact hold
          · exact ⟨hold.read, hold.exact⟩
      · exact hold
  | recordConsumedRead target seq =>
      rw [ledgerStep, MemoryStore.recordConsumedRead]
      split
      · exact hold
      · refine hold.bookStreamEntries fun entry hentry value hvalue => ?_
        rw [List.mem_singleton.mp hentry] at hvalue ⊢
        cases seq with
        | none => cases hvalue
        | some seq =>
            cases hseq : seq.positiveFinite with
            | none => simp [hseq] at hvalue
            | some passed =>
                simp only [Option.bind_some, hseq, Option.map_some,
                  positiveFinite_finite] at hvalue
                exact passedRead_now (List.mem_singleton.mpr rfl) (hseq.trans hvalue)
  | recordConsumedSeqs entries =>
      rw [ledgerStep, MemoryStore.recordConsumedSeqs]
      split
      · exact hold
      · refine hold.bookStreamEntries fun entry hentry value hvalue => ?_
        obtain ⟨update, hupdate, rfl⟩ := List.mem_map.mp hentry
        obtain ⟨spelling, hmem, hkey⟩ := keyedUpdates_spec _ hupdate
        simp only at hvalue ⊢
        rw [← hkey]
        exact passedRead_now (List.mem_of_mem_filter hmem) hvalue
  | recordConsumedExactSeqs entries =>
      rw [ledgerStep, MemoryStore.recordConsumedExactSeqs]
      split
      · exact hold
      · refine hold.bookExactSeqs fun entry hentry seq hseq => ?_
        obtain ⟨spelling, hmem, hkey⟩ := keyedUpdates_spec _ hentry
        rw [← hkey]
        exact passedExact_now (List.mem_of_mem_filter hmem) hseq

theorem sourced_run (contextId : Option JsString) (calls : List LedgerCall) :
    let initial := createMemoryCommandStateStore contextId
    Sourced (PassedRead initial calls) (PassedExact initial calls)
      (run ledgerStep initial calls) := by
  induction calls using List.reverseRecOn with
  | nil => exact sourced_create contextId
  | append_singleton calls call ih => exact sourced_step ih

end Calls

/-! ## The high-water mark -/

def MemoryStore.highWater (store : MemoryStore) (key : JsString) (contextId : Option JsString) :
    Option PositiveNumber :=
  (store.streams.get key).bind fun row => if row.contextId = contextId then row.seq else none

def Rises (key : JsString) (contextId : Option JsString) (store next : MemoryStore) : Prop :=
  ∀ value, store.highWater key contextId = some value →
    ∃ raised, next.highWater key contextId = some raised ∧ value ≤ raised

theorem Rises.refl (key : JsString) (contextId : Option JsString) (store : MemoryStore) :
    Rises key contextId store store :=
  fun value hvalue => ⟨value, hvalue, le_refl _⟩

theorem Rises.trans {key : JsString} {contextId : Option JsString}
    {first second third : MemoryStore} (h : Rises key contextId first second)
    (h' : Rises key contextId second third) : Rises key contextId first third := by
  intro value hvalue
  obtain ⟨middle, hmiddle, hle⟩ := h value hvalue
  obtain ⟨raised, hraised, hle'⟩ := h' middle hmiddle
  exact ⟨raised, hraised, hle.trans hle'⟩

theorem rises_of_streams_eq {key : JsString} {contextId : Option JsString}
    {store next : MemoryStore} (h : next.streams = store.streams) :
    Rises key contextId store next := by
  intro value hvalue
  rw [MemoryStore.highWater, ← h] at hvalue
  exact ⟨value, hvalue, le_refl _⟩

section Rising

variable {store : MemoryStore} {key : JsString} {contextId bookedContextId : Option JsString}

theorem rises_bookStreamEntry {target : JsString} (rawSeq : Option JsNumber)
    (hcontext : target = key → bookedContextId = contextId) :
    Rises key contextId store (store.bookStreamEntry bookedContextId target rawSeq) := by
  by_cases htarget : target = []
  · rw [MemoryStore.bookStreamEntry, if_pos htarget]
    exact Rises.refl _ _ _
  intro value hvalue
  by_cases hkey : key = target
  · obtain ⟨row, hget, hrow⟩ := Option.bind_eq_some_iff.mp hvalue
    split at hrow
    · next hsame =>
        have hbooked : row.contextId = bookedContextId := hsame.trans (hcontext hkey.symm).symm
        rw [MemoryStore.highWater, MemoryStore.get_streams_bookStreamEntry _ htarget, if_pos hkey,
          ← hkey, hget, Option.bind_some, if_pos (hcontext hkey.symm)]
        simp only [StreamRow.nextSeq.eq_def, hbooked, ne_eq, not_true_eq_false, if_false, hrow]
        cases rawSeq.bind JsNumber.positiveFinite with
        | none => exact ⟨value, rfl, le_refl _⟩
        | some seq =>
            by_cases hgreater : seq > value
            · exact ⟨seq, if_pos hgreater, hgreater.le⟩
            · exact ⟨value, if_neg hgreater, le_refl _⟩
    · cases hrow
  · refine ⟨value, ?_, le_refl _⟩
    rw [MemoryStore.highWater, MemoryStore.get_streams_bookStreamEntry _ htarget, if_neg hkey]
    exact hvalue

theorem rises_bookStreamEntries {entries : List (JsString × Option JsNumber)}
    (hcontext : ∀ entry ∈ entries, entry.1 = key → bookedContextId = contextId) :
    Rises key contextId store (store.bookStreamEntries entries bookedContextId) := by
  rw [MemoryStore.bookStreamEntries]
  induction entries generalizing store with
  | nil => exact Rises.refl _ _ _
  | cons entry entries ih =>
      exact (rises_bookStreamEntry _ (hcontext entry List.mem_cons_self)).trans
        (ih fun other hother => hcontext other (List.mem_cons_of_mem _ hother))

@[simp] theorem streams_bookExactSeqs (entries : List (JsString × List JsNumber)) :
    (store.bookExactSeqs entries bookedContextId).streams = store.streams := by
  rw [MemoryStore.bookExactSeqs]
  induction entries generalizing store with
  | nil => rfl
  | cons entry entries ih => rw [List.foldl_cons, ih, MemoryStore.streams_bookExactSeq]

def Uninterrupted (key : JsString) (contextId : Option JsString) (store : MemoryStore)
    (call : LedgerCall) : Prop :=
  ∀ spelling ∈ call.readTargets, store.canonicalTargetKey spelling = key →
    store.contextId = contextId

theorem rises_step {call : LedgerCall} (h : Uninterrupted key contextId store call) :
    Rises key contextId store (ledgerStep store call) := by
  cases call with
  | setContextId next => exact rises_of_streams_eq rfl
  | recordTargetAlias rawSpelling canonicalTarget =>
      refine rises_of_streams_eq ?_
      rw [ledgerStep, MemoryStore.recordTargetAlias]
      split
      · split
        · rfl
        · rw [MemoryStore.bookTargetAlias]
          split <;> rfl
      · rfl
  | recordConsumedRead target seq =>
      rw [ledgerStep, MemoryStore.recordConsumedRead]
      split
      · exact Rises.refl _ _ _
      · refine rises_bookStreamEntries fun entry hentry hkey => ?_
        rw [List.mem_singleton.mp hentry] at hkey
        exact h target (List.mem_singleton.mpr rfl) hkey
  | recordConsumedSeqs entries =>
      rw [ledgerStep, MemoryStore.recordConsumedSeqs]
      split
      · exact Rises.refl _ _ _
      · refine rises_bookStreamEntries fun entry hentry hkey => ?_
        obtain ⟨update, hupdate, rfl⟩ := List.mem_map.mp hentry
        obtain ⟨spelling, hmem, hspelling⟩ := keyedUpdates_spec _ hupdate
        exact h spelling (List.mem_map_of_mem (f := Prod.fst) hmem) (hspelling.trans hkey)
  | recordConsumedExactSeqs entries =>
      refine rises_of_streams_eq ?_
      rw [ledgerStep, MemoryStore.recordConsumedExactSeqs]
      split
      · rfl
      · exact streams_bookExactSeqs _

theorem rises_run {calls : List LedgerCall}
    (h : Admitted ledgerStep (Uninterrupted key contextId) store calls) :
    Rises key contextId store (run ledgerStep store calls) :=
  h.chain (fun _ => True) (Rises key contextId) (Rises.refl key contextId) Rises.trans
    (fun _ _ _ hcall => ⟨trivial, rises_step hcall⟩) trivial

end Rising

/-! ## Answers -/

section Answers

variable {store : MemoryStore} {contextId : JsString}

theorem getConsumedSeq_eq (ledger : ConsumedSeqLedger) (target : JsString)
    (hcontext : store.contextId = some contextId) :
    (ledger.getConsumedSeq store target).1 =
      if store.canonicalTargetKey target = [] then none
      else store.highWater (store.canonicalTargetKey target) (some contextId) := by
  rw [ConsumedSeqLedger.getConsumedSeq]
  split
  · rfl
  · rw [MemoryStore.readStreamEntry, MemoryStore.highWater]
    cases store.streams.get (store.canonicalTargetKey target) with
    | none => rfl
    | some row =>
        simp only [Option.bind_some, StreamRow.toEntry]
        by_cases hempty : row.seq = none ∧ row.readOrder = none
        · simp [hempty, ConsumedSeqLedger.inThisContext]
        · by_cases hrow : row.contextId = some contextId
          · simp [hempty, ConsumedSeqLedger.inThisContext, hcontext, hrow]
          · simp [hempty, ConsumedSeqLedger.inThisContext, hcontext, hrow]

theorem mem_inThisContext {ledger : ConsumedSeqLedger} {key : JsString}
    {entryContextId : Option JsString} {seqs : List ℕ+} {seq : ℕ+}
    (h : seq ∈ (ledger.inThisContext store key entryContextId
      (if seqs = [] then none else some seqs)).1.getD []) :
    seq ∈ seqs ∧ (store.contextId = none ∨ entryContextId = store.contextId) := by
  by_cases hseqs : seqs = []
  · simp [hseqs, ConsumedSeqLedger.inThisContext] at h
  · rw [if_neg hseqs, ConsumedSeqLedger.inThisContext] at h
    split at h
    · next hcontext => exact ⟨h, hcontext⟩
    · cases h

theorem mem_getConsumedExactSeqs (ledger : ConsumedSeqLedger) {target : JsString} {seq : ℕ+}
    (hcontext : store.contextId = some contextId)
    (h : seq ∈ (ledger.getConsumedExactSeqs store target).1) :
    ∃ row, store.exact.get (store.canonicalTargetKey target) = some row ∧
      row.contextId = some contextId ∧ seq ∈ row.seqs ∧
      store.exactFloor (store.canonicalTargetKey target) (some contextId) < (seq : ℕ) := by
  rw [ConsumedSeqLedger.getConsumedExactSeqs] at h
  split at h
  · cases h
  · obtain ⟨hmem, hentry⟩ := mem_inThisContext h
    have hrowContext := hentry.resolve_left (by simp [hcontext])
    rw [hcontext] at hrowContext
    rw [MemoryStore.readExactSeqsWithContext] at hmem hrowContext
    cases hget : store.exact.get (store.canonicalTargetKey target) with
    | none => simp [hget] at hrowContext
    | some row =>
        simp only [hget, Option.bind_some, Option.map_some, Option.getD_some] at hmem hrowContext
        rw [hrowContext] at hmem
        have hseq := mem_of_mem_normalizeSeqs hmem
        exact ⟨row, rfl, hrowContext, hseq.1, hseq.2⟩

theorem exactFloor_of_highWater {key : JsString} {context : Option JsString}
    {value : PositiveNumber} (h : store.highWater key context = some value) :
    store.exactFloor key context = value := by
  obtain ⟨row, hget, hrow⟩ := Option.bind_eq_some_iff.mp h
  split at hrow
  · next hcontext => simp [MemoryStore.exactFloor, hget, hcontext, hrow, StreamRow.floor]
  · cases hrow

end Answers

theorem evidence_passed_in_context (initialContextId : Option JsString)
    (calls : List LedgerCall) (ledger : ConsumedSeqLedger) (contextId target : JsString) :
    let initial := createMemoryCommandStateStore initialContextId
    let asked := (run ledgerStep initial calls).setContextId (some contextId)
    let key := asked.canonicalTargetKey target
    (∀ value, (ledger.getConsumedSeq asked target).1 = some value →
      PassedRead initial calls key (some contextId) value) ∧
    (∀ seq ∈ (ledger.getConsumedExactSeqs asked target).1,
      PassedExact initial calls key (some contextId) seq ∧
        ∀ value, (ledger.getConsumedSeq asked target).1 = some value →
          (value : ℚ) < (seq : ℕ)) ∧
    (∀ first stretch earlierTarget, first ++ stretch = calls →
      let earlier := (run ledgerStep initial first).setContextId (some contextId)
      Admitted ledgerStep (Uninterrupted key (some contextId)) (run ledgerStep initial first)
        stretch →
      earlier.canonicalTargetKey earlierTarget = key →
      ∀ value, (ledger.getConsumedSeq earlier earlierTarget).1 = some value →
        ∃ raised, (ledger.getConsumedSeq asked target).1 = some raised ∧ value ≤ raised) := by
  intro initial asked key
  have hsourced := sourced_run initialContextId calls
  have hmark := @getConsumedSeq_eq asked _ ledger target rfl
  refine ⟨?_, ?_, ?_⟩
  · intro value hvalue
    rw [hmark] at hvalue
    split at hvalue
    · cases hvalue
    · obtain ⟨row, hget, hrow⟩ := Option.bind_eq_some_iff.mp hvalue
      split at hrow
      · next hcontext => exact hcontext ▸ hsourced.read key row value hget hrow
      · cases hrow
  · intro seq hseq
    obtain ⟨row, hget, hcontext, hmem, hfloor⟩ := mem_getConsumedExactSeqs ledger rfl hseq
    refine ⟨hcontext ▸ hsourced.exact key row seq hget hmem, fun value hvalue => ?_⟩
    rw [hmark] at hvalue
    split at hvalue
    · cases hvalue
    · rwa [show asked.exactFloor key (some contextId) = value from
        exactFloor_of_highWater hvalue] at hfloor
  · rintro first stretch earlierTarget rfl earlier hstretch hkey value hvalue
    have hearlier := @getConsumedSeq_eq earlier _ ledger earlierTarget rfl
    rw [hearlier, hkey] at hvalue
    split at hvalue
    · cases hvalue
    · next hne =>
        rw [hmark, if_neg hne]
        have hrises := rises_run hstretch
        rw [← run_append] at hrises
        exact hrises value hvalue

end Raft.SeenPolicy
