import Mathlib.Data.List.Infix
import Mathlib.Data.List.Nodup
import Mathlib.Logic.Function.Basic
import Raft.Foundation.Run

/-!
# Optimistic updates of one shared record

Any number of callers read a versioned record, compute a transition of it, and
store the outcome if the version is still the one they read; on a conflict they
read again.  Every access to the store is a step of its own, so the steps of
different callers interleave at will.  The record is then at any time the fold
of the transitions that were stored, each on the state that the ones before it
left, in an order that respects the calls.
-/

namespace Raft.Foundation

structure Versioned (σ : Type*) where
  state : σ
  version : Nat
  deriving DecidableEq

/-- What a transition makes of a state, and whether that is to be stored. -/
structure Proposal (σ ρ : Type*) where
  state : σ
  result : ρ
  write : Bool

inductive CallPhase (σ ρ : Type*) where
  | idle
  | reading (attempt : Nat)
  | fetched (attempt : Nat) (record : Versioned σ)
  | storing (attempt : Nat) (expectedVersion : Nat) (next : Proposal σ ρ)
  | answered (attempt : Nat) (next : Proposal σ ρ) (written : Bool)
  | resolved (result : ρ) (written : Bool)
  | threw

/-- The record that is read where none is stored, the bound on attempts, and each call's
transition. -/
structure OptimisticStore (ι σ ρ : Type*) where
  fresh : σ
  maxAttempts : Nat
  transition : ι → σ → Proposal σ ρ

structure SharedRecord (ι σ ρ : Type*) where
  record : Option (Versioned σ)
  phase : ι → CallPhase σ ρ

namespace SharedRecord

variable {ι σ ρ : Type*}

def initial (record : Option (Versioned σ)) : SharedRecord ι σ ρ := ⟨record, fun _ => .idle⟩

def version (shared : SharedRecord ι σ ρ) : Nat := shared.record.elim 0 Versioned.version

def stored (fresh : σ) (shared : SharedRecord ι σ ρ) : σ := shared.record.elim fresh Versioned.state

def enter [DecidableEq ι] (shared : SharedRecord ι σ ρ) (call : ι) (phase : CallPhase σ ρ) :
    SharedRecord ι σ ρ :=
  { shared with phase := Function.update shared.phase call phase }

end SharedRecord

namespace OptimisticStore

variable {ι σ ρ : Type*} (store : OptimisticStore ι σ ρ)

def tryAgain (attempt : Nat) : CallPhase σ ρ :=
  if attempt < store.maxAttempts then .reading attempt else .threw

def applied (start : σ) (calls : List ι) : σ :=
  calls.foldl (fun state call => (store.transition call state).state) start

theorem applied_concat (start : σ) (calls : List ι) (call : ι) :
    store.applied start (calls ++ [call]) =
      (store.transition call (store.applied start calls)).state := by
  rw [applied, List.foldl_append]
  rfl

variable [DecidableEq ι]

def step (shared : SharedRecord ι σ ρ) (call : ι) : SharedRecord ι σ ρ :=
  match shared.phase call with
  | .idle => shared.enter call (store.tryAgain 0)
  | .reading attempt =>
      shared.enter call (.fetched attempt ⟨shared.stored store.fresh, shared.version⟩)
  | .fetched attempt record =>
      let next := store.transition call record.state
      shared.enter call
        (if next.write then .storing attempt record.version next else .resolved next.result false)
  | .storing attempt expectedVersion next =>
      if shared.version = expectedVersion then
        { shared with record := some ⟨next.state, shared.version + 1⟩ }.enter call
          (.answered attempt next true)
      else shared.enter call (.answered attempt next false)
  | .answered attempt next written =>
      shared.enter call
        (if written then .resolved next.result true else store.tryAgain (attempt + 1))
  | .resolved _ _ | .threw => shared

/-- The calls that stored their transition, in that order, and how many had when each began. -/
structure History (ι : Type*) where
  writers : List ι
  began : ι → Nat

def History.empty : History ι := ⟨[], fun _ => 0⟩

def remember (shared : SharedRecord ι σ ρ) (history : History ι) (call : ι) : History ι :=
  match shared.phase call with
  | .idle => { history with began := Function.update history.began call history.writers.length }
  | .storing _ expectedVersion _ =>
      if shared.version = expectedVersion then
        { history with writers := history.writers ++ [call] }
      else history
  | .reading _ | .fetched _ _ | .answered _ _ _ | .resolved _ _ | .threw => history

end OptimisticStore

def CallPhase.wrote {σ ρ : Type*} : CallPhase σ ρ → Bool
  | .answered _ _ written => written
  | .resolved _ written => written
  | .idle | .reading _ | .fetched _ _ | .storing _ _ _ | .threw => false

def CallPhase.isIdle {σ ρ : Type*} : CallPhase σ ρ → Bool
  | .idle => true
  | .reading _ | .fetched _ _ | .storing _ _ _ | .answered _ _ _ | .resolved _ _ | .threw => false

theorem CallPhase.isIdle_of_wrote {σ ρ : Type*} {phase : CallPhase σ ρ}
    (h : phase.wrote = true) : phase.isIdle = false := by
  cases phase with
  | idle => cases h
  | reading | fetched | storing | answered | resolved | threw => rfl

def CallPhase.isSettled {σ ρ : Type*} : CallPhase σ ρ → Bool
  | .idle | .resolved _ _ | .threw => true
  | .reading _ | .fetched _ _ | .storing _ _ _ | .answered _ _ _ => false

namespace OptimisticStore

variable {ι σ ρ : Type*} (store : OptimisticStore ι σ ρ) (record : Option (Versioned σ))

section

variable [DecidableEq ι] (schedule : List ι)

def reached : SharedRecord ι σ ρ := run store.step (.initial record) schedule

/-- The stored state is the fold of the transitions in the order given, every result is the one of
its transition on the state it met, and the order respects which calls returned before others were
made. -/
structure Linearizes (order : List ι) : Prop where
  nodup : order.Nodup
  stored : (store.reached record schedule).stored store.fresh =
    store.applied (record.elim store.fresh Versioned.state) order
  members : ∀ call, ((store.reached record schedule).phase call).isSettled = true →
    (call ∈ order ↔ ∃ result, (store.reached record schedule).phase call = .resolved result true)
  written : ∀ call result, (store.reached record schedule).phase call = .resolved result true →
    ∃ before after, order = before ++ call :: after ∧
      let next := store.transition call
        (store.applied (record.elim store.fresh Versioned.state) before)
      next.result = result ∧ next.write = true
  unwritten : ∀ call result, (store.reached record schedule).phase call = .resolved result false →
    ∃ before after, order = before ++ after ∧
      (let next := store.transition call
        (store.applied (record.elim store.fresh Versioned.state) before)
      next.result = result ∧ next.write = false) ∧
      ∀ earlier, earlier <+: schedule → ((store.reached record earlier).phase call).isIdle = true →
        ∀ first, ((store.reached record earlier).phase first).wrote = true → first ∈ before
  threw : ∀ call, (store.reached record schedule).phase call = .threw → call ∉ order
  respects : ∀ earlier, earlier <+: schedule → ∀ first second,
    ((store.reached record earlier).phase first).wrote = true →
    ((store.reached record earlier).phase second).isIdle = true → second ∈ order →
      [first, second].Sublist order

end

/-! ## The history explains every phase -/

/-- The state that the call read is the one that these calls left, and it was current at some time
since the call began. -/
structure ReadAfter (history : History ι) (call : ι) (before : List ι) : Prop where
  current : before <+: history.writers
  began : history.began call ≤ before.length

def Explains (start : SharedRecord ι σ ρ) (history : History ι) (call : ι) :
    CallPhase σ ρ → Prop
  | .idle | .threw => call ∉ history.writers
  | .reading _ => call ∉ history.writers ∧ history.began call ≤ history.writers.length
  | .fetched _ record => call ∉ history.writers ∧ ∃ before, ReadAfter history call before ∧
      record = ⟨store.applied (start.stored store.fresh) before, start.version + before.length⟩
  | .storing _ expectedVersion next => call ∉ history.writers ∧
      ∃ before, ReadAfter history call before ∧ expectedVersion = start.version + before.length ∧
        next = store.transition call (store.applied (start.stored store.fresh) before) ∧
        next.write = true
  | .answered _ next written =>
      if written then
        ∃ before, before ++ [call] <+: history.writers ∧ history.began call ≤ before.length ∧
          next = store.transition call (store.applied (start.stored store.fresh) before) ∧
          next.write = true
      else call ∉ history.writers ∧ history.began call ≤ history.writers.length
  | .resolved result written =>
      ∃ before, history.began call ≤ before.length ∧
        (let next := store.transition call (store.applied (start.stored store.fresh) before)
        next.result = result ∧ next.write = written) ∧
        if written then before ++ [call] <+: history.writers
        else before <+: history.writers ∧ call ∉ history.writers

structure Explained (start : SharedRecord ι σ ρ) (watched : SharedRecord ι σ ρ × History ι) :
    Prop where
  nodup : watched.2.writers.Nodup
  stored : watched.1.stored store.fresh =
    store.applied (start.stored store.fresh) watched.2.writers
  version : watched.1.version = start.version + watched.2.writers.length
  phases : ∀ call, store.Explains start watched.2 call (watched.1.phase call)

theorem explained_initial :
    store.Explained (.initial record) ((.initial record : SharedRecord ι σ ρ), History.empty) where
  nodup := .nil
  stored := rfl
  version := rfl
  phases _ := List.not_mem_nil

variable {store} {record} {start : SharedRecord ι σ ρ} {shared : SharedRecord ι σ ρ}
  {history : History ι}

theorem Explains.mono {call : ι} {phase : CallPhase σ ρ} {later : History ι}
    (h : store.Explains start history call phase) (hwriters : history.writers <+: later.writers)
    (hbegan : later.began call = history.began call)
    (hmem : call ∈ later.writers → call ∈ history.writers) :
    store.Explains start later call phase := by
  have hlength := hwriters.length_le
  cases phase with
  | idle => exact fun hlater => h (hmem hlater)
  | threw => exact fun hlater => h (hmem hlater)
  | reading attempt =>
    exact ⟨fun hlater => h.1 (hmem hlater), by rw [hbegan]; exact h.2.trans hlength⟩
  | fetched attempt record =>
      obtain ⟨hnot, before, hread, hrecord⟩ := h
      exact ⟨fun hlater => hnot (hmem hlater), before,
        ⟨hread.current.trans hwriters, by rw [hbegan]; exact hread.began⟩, hrecord⟩
  | storing attempt expectedVersion next =>
      obtain ⟨hnot, before, hread, hnext⟩ := h
      exact ⟨fun hlater => hnot (hmem hlater), before,
        ⟨hread.current.trans hwriters, by rw [hbegan]; exact hread.began⟩, hnext⟩
  | answered attempt next written =>
      cases written with
      | true =>
          obtain ⟨before, hbefore, hbegun, hnext⟩ := h
          exact ⟨before, hbefore.trans hwriters, by rw [hbegan]; exact hbegun, hnext⟩
      | false => exact ⟨fun hlater => h.1 (hmem hlater), by rw [hbegan]; exact h.2.trans hlength⟩
  | resolved result written =>
      obtain ⟨before, hbegun, hnext, hplace⟩ := h
      refine ⟨before, by rw [hbegan]; exact hbegun, hnext, ?_⟩
      cases written with
      | true => exact hplace.trans hwriters
      | false => exact ⟨hplace.1.trans hwriters, fun hlater => hplace.2 (hmem hlater)⟩

theorem Explains.mem_iff {call : ι} {phase : CallPhase σ ρ}
    (h : store.Explains start history call phase) :
    call ∈ history.writers ↔ phase.wrote = true := by
  have hlast {before : List ι} (hbefore : before ++ [call] <+: history.writers) :
      call ∈ history.writers := hbefore.subset (by simp)
  cases phase with
  | idle => exact iff_of_false h nofun
  | threw => exact iff_of_false h nofun
  | reading attempt => exact iff_of_false h.1 nofun
  | fetched attempt record => exact iff_of_false h.1 nofun
  | storing attempt expectedVersion next => exact iff_of_false h.1 nofun
  | answered attempt next written =>
      cases written with
      | true => exact iff_of_true (hlast h.choose_spec.1) rfl
      | false => exact iff_of_false h.1 nofun
  | resolved result written =>
      cases written with
      | true => exact iff_of_true (hlast h.choose_spec.2.2) rfl
      | false => exact iff_of_false h.choose_spec.2.2.2 nofun

theorem Explains.place {call : ι} {phase : CallPhase σ ρ}
    (h : store.Explains start history call phase) (hwrote : phase.wrote = true) :
    ∃ before, before ++ [call] <+: history.writers ∧ history.began call ≤ before.length := by
  cases phase with
  | answered attempt next written =>
      obtain rfl : written = true := hwrote
      obtain ⟨before, hplace, hbegan, -⟩ := h
      exact ⟨before, hplace, hbegan⟩
  | resolved result written =>
      obtain rfl : written = true := hwrote
      obtain ⟨before, hbegan, -, hplace⟩ := h
      exact ⟨before, hplace, hbegan⟩
  | idle | reading | fetched | storing | threw => cases hwrote

theorem explains_tryAgain {call : ι} (attempt : Nat) (hnot : call ∉ history.writers)
    (hbegan : history.began call ≤ history.writers.length) :
    store.Explains start history call (store.tryAgain attempt) := by
  rw [tryAgain]
  split
  · exact ⟨hnot, hbegan⟩
  · exact hnot

variable [DecidableEq ι]

theorem Explained.enter (h : store.Explained start (shared, history)) {call : ι}
    {phase : CallPhase σ ρ} (hphase : store.Explains start history call phase) :
    store.Explained start (shared.enter call phase, history) where
  nodup := h.nodup
  stored := h.stored
  version := h.version
  phases other := by
    by_cases hother : other = call
    · subst hother
      simpa [SharedRecord.enter] using hphase
    · simpa [SharedRecord.enter, hother] using h.phases other

theorem Explained.write (h : store.Explained start (shared, history)) {call : ι} {attempt : Nat}
    (hnot : call ∉ history.writers) (hbegan : history.began call ≤ history.writers.length)
    (hwrite : (store.transition call
      (store.applied (start.stored store.fresh) history.writers)).write = true) :
    let next := store.transition call (store.applied (start.stored store.fresh) history.writers)
    store.Explained start
      ({ shared with
          record := some ⟨next.state, start.version + history.writers.length + 1⟩ }.enter call
        (.answered attempt next true), { history with writers := history.writers ++ [call] }) where
  nodup := by
    rw [List.nodup_append]
    refine ⟨h.nodup, List.nodup_singleton call, ?_⟩
    rintro first hfirst second hsecond rfl
    rw [List.mem_singleton] at hsecond
    subst hsecond
    exact hnot hfirst
  stored := (store.applied_concat _ _ _).symm
  version := by
    rw [List.length_append]
    rfl
  phases other := by
    by_cases hother : other = call
    · subst hother
      simp only [SharedRecord.enter, Function.update_self]
      exact ⟨history.writers, List.prefix_refl _, hbegan, rfl, hwrite⟩
    · simp only [SharedRecord.enter, Function.update_of_ne hother]
      refine (h.phases other).mono (List.prefix_append _ _) rfl fun hmem => ?_
      exact (List.mem_append.mp hmem).resolve_right fun hlast =>
        hother (List.mem_singleton.mp hlast)

theorem Explained.step (h : store.Explained start (shared, history)) (call : ι) :
    store.Explained start (instrument store.step remember (shared, history) call) := by
  have hphase := h.phases call
  simp only at hphase
  rw [instrument, OptimisticStore.step, remember]
  cases hcall : shared.phase call with
  | idle =>
      rw [hcall] at hphase
      have hbegun : store.Explained start
          (shared, { history with
            began := Function.update history.began call history.writers.length }) := by
        refine ⟨h.nodup, h.stored, h.version, fun other => ?_⟩
        by_cases hother : other = call
        · subst hother
          simp only [hcall]
          exact hphase
        · exact (h.phases other).mono (List.prefix_refl _) (by simp [hother]) id
      exact hbegun.enter (explains_tryAgain 0 hphase (by simp))
  | reading attempt =>
      rw [hcall] at hphase
      refine h.enter ⟨hphase.1, history.writers, ⟨List.prefix_refl _, hphase.2⟩, ?_⟩
      rw [← h.stored, ← h.version]
  | fetched attempt record =>
      rw [hcall] at hphase
      obtain ⟨hnot, before, hread, rfl⟩ := hphase
      refine h.enter ?_
      simp only
      split
      · next hwrite => exact ⟨hnot, before, hread, rfl, rfl, hwrite⟩
      · next hwrite =>
          exact ⟨before, hread.began, ⟨rfl, by simpa using hwrite⟩, hread.current, hnot⟩
  | storing attempt expectedVersion next =>
      rw [hcall] at hphase
      obtain ⟨hnot, before, hread, rfl, rfl, hwrite⟩ := hphase
      by_cases hsame : shared.version = start.version + before.length
      · -- The version tells that nothing was stored since the read.
        have hall : before = history.writers := by
          refine hread.current.eq_of_length ?_
          have hversion := h.version
          simp only at hversion
          omega
        subst hall
        simp only [hsame, if_true]
        exact h.write hnot hread.began hwrite
      · simp only [hsame, if_false]
        exact h.enter ⟨hnot, hread.began.trans hread.current.length_le⟩
  | answered attempt next written =>
      rw [hcall] at hphase
      cases written with
      | true =>
          obtain ⟨before, hbefore, hbegun, rfl, hwrite⟩ := hphase
          exact h.enter ⟨before, hbegun, ⟨rfl, hwrite⟩, hbefore⟩
      | false => exact h.enter (explains_tryAgain (attempt + 1) hphase.1 hphase.2)
  | resolved result written => exact h
  | threw => exact h

/-! ## The order of the writes -/

variable (store record) in
def watched (schedule : List ι) : SharedRecord ι σ ρ × History ι :=
  run (instrument store.step remember) (.initial record, .empty) schedule

variable {schedule : List ι}

theorem watched_fst : (store.watched record schedule).1 = store.reached record schedule :=
  run_instrument_fst _ _ _

theorem explained_watched : store.Explained (.initial record) (store.watched record schedule) :=
  run_invariant (store.Explained (.initial record)) schedule (fun _ call h => h.step call)
    (store.explained_initial record)

theorem phase_step_of_ne (shared : SharedRecord ι σ ρ) {call other : ι} (hother : other ≠ call) :
    (store.step shared call).phase other = shared.phase other := by
  rw [step]
  cases shared.phase call with
  | storing attempt expectedVersion next =>
      simp only
      split <;> simp [SharedRecord.enter, hother]
  | idle | reading | fetched | answered => simp [SharedRecord.enter, hother]
  | resolved | threw => rfl

theorem writers_remember (shared : SharedRecord ι σ ρ) (history : History ι) (call : ι) :
    history.writers <+: (remember shared history call).writers := by
  rw [remember]
  cases shared.phase call with
  | storing attempt expectedVersion next =>
      simp only
      split
      · exact List.prefix_append _ _
      · exact List.prefix_refl _
  | idle | reading | fetched | answered | resolved | threw => exact List.prefix_refl _

theorem began_remember (shared : SharedRecord ι σ ρ) (history : History ι) (call other : ι) :
    (remember shared history call).began other =
      if other = call ∧ (shared.phase call).isIdle = true then history.writers.length
      else history.began other := by
  rw [remember]
  cases shared.phase call with
  | idle => simp [CallPhase.isIdle, Function.update_apply]
  | storing attempt expectedVersion next =>
      simp only [CallPhase.isIdle, Bool.false_eq_true, and_false, if_false]
      split <;> rfl
  | reading | fetched | answered | resolved | threw => simp [CallPhase.isIdle]

variable (store record) in
theorem begins_after {earlier : List ι} (hearlier : earlier <+: schedule) :
    (store.watched record earlier).2.writers <+: (store.watched record schedule).2.writers ∧
      ∀ call, ((store.reached record earlier).phase call).isIdle = true →
        ((store.reached record schedule).phase call).isIdle = true ∨
          (store.watched record earlier).2.writers.length ≤
            (store.watched record schedule).2.began call := by
  obtain ⟨rest, rfl⟩ := hearlier
  rw [← watched_fst, ← watched_fst]
  have hrun : store.watched record (earlier ++ rest) =
      run (instrument store.step remember) (store.watched record earlier) rest := run_append _ _ _ _
  rw [hrun]
  generalize store.watched record earlier = first
  refine run_invariant (fun later : SharedRecord ι σ ρ × History ι =>
    first.2.writers <+: later.2.writers ∧
      ∀ call, (first.1.phase call).isIdle = true → (later.1.phase call).isIdle = true ∨
        first.2.writers.length ≤ later.2.began call) rest (fun later call h => ?_)
    ⟨List.prefix_refl _, fun _ hidle => .inl hidle⟩
  refine ⟨h.1.trans (writers_remember _ _ _), fun other hidle => ?_⟩
  simp only [instrument, began_remember]
  by_cases hother : other = call
  · subst hother
    cases hcall : (later.1.phase other).isIdle with
    | true =>
        simp only [and_self, if_true]
        exact .inr h.1.length_le
    | false =>
        simp only [Bool.false_eq_true, and_false, if_false]
        exact .inr ((h.2 other hidle).resolve_left (by simp [hcall]))
  · simp only [hother, false_and, if_false, phase_step_of_ne _ hother]
    exact h.2 other hidle

theorem mem_of_began {earlier : List ι} (hearlier : earlier <+: schedule) {first call : ι}
    (hfirst : ((store.reached record earlier).phase first).wrote = true)
    (hidle : ((store.reached record earlier).phase call).isIdle = true)
    (hmade : ((store.reached record schedule).phase call).isIdle = false) {before : List ι}
    (hbefore : before <+: (store.watched record schedule).2.writers)
    (hbegan : (store.watched record schedule).2.began call ≤ before.length) : first ∈ before := by
  obtain ⟨hwriters, hbegins⟩ := begins_after store record hearlier
  have hlength := (hbegins call hidle).resolve_left (by rw [hmade]; exact nofun)
  have hstarts := List.prefix_of_prefix_length_le hwriters hbefore (hlength.trans hbegan)
  have hmem := ((@explained_watched ι σ ρ store record _ earlier).phases first).mem_iff
  rw [watched_fst] at hmem
  exact hstarts.subset (hmem.mpr hfirst)

/-- Any schedule of the calls' steps is linearized by the order in which they stored. -/
theorem linearizes_watched (schedule : List ι) :
    store.Linearizes record schedule (store.watched record schedule).2.writers := by
  have h := @explained_watched ι σ ρ store record _ schedule
  have hphase (call : ι) := h.phases call
  simp only [watched_fst] at hphase
  refine ⟨h.nodup, ?_, fun call hsettled => ?_, fun call result hcall => ?_,
    fun call result hcall => ?_, fun call hcall => ?_,
    fun earlier hearlier first second hfirst hsecond hmem => ?_⟩
  · rw [← watched_fst]
    exact h.stored
  · rw [(hphase call).mem_iff]
    cases hcall : (store.reached record schedule).phase call with
    | resolved result written => cases written <;> simp [CallPhase.wrote]
    | idle | threw => simp [CallPhase.wrote]
    | reading | fetched | storing | answered => simp [hcall, CallPhase.isSettled] at hsettled
  · have hexplained := hphase call
    rw [hcall] at hexplained
    obtain ⟨before, -, hnext, hplace⟩ := hexplained
    obtain ⟨after, hafter⟩ := hplace
    exact ⟨before, after, by rw [← hafter, List.append_assoc]; rfl, hnext⟩
  · have hexplained := hphase call
    rw [hcall] at hexplained
    obtain ⟨before, hbegan, hnext, hplace, -⟩ := hexplained
    obtain ⟨after, hafter⟩ := hplace
    refine ⟨before, after, hafter.symm, hnext, fun earlier hearlier hidle first hfirst => ?_⟩
    exact mem_of_began hearlier hfirst hidle (by rw [hcall]; rfl) ⟨after, hafter⟩ hbegan
  · have hexplained := hphase call
    rw [hcall] at hexplained
    exact hexplained
  · have hwrote := (hphase second).mem_iff.mp hmem
    obtain ⟨before, hplace, hbegan⟩ := (hphase second).place hwrote
    have hbefore := mem_of_began hearlier hfirst hsecond (CallPhase.isIdle_of_wrote hwrote)
      ((List.prefix_append _ _).trans hplace) hbegan
    have hpair : [first, second].Sublist (before ++ [second]) :=
      (List.singleton_sublist.mpr hbefore).append (List.Sublist.refl [second])
    exact hpair.trans hplace.sublist

end OptimisticStore

end Raft.Foundation
