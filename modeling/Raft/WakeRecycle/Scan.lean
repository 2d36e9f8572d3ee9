import Mathlib.Data.Finset.Card
import Raft.WakeRecycle.Markers

/-!
# Scans of a growing transcript

Every call carries a scan state from call to call: how far the transcript was
read, and which tasks are live.  A call reads chunks from a little before that
place to the size it found, one after the other and without an overlap between
them.  Calls and the growth of the transcript interleave at every `await`.
-/

namespace Raft.WakeRecycle

open Raft.Foundation

structure BackgroundTaskScanState where
  scannedBytes : Nat
  live : Finset TaskId

def BackgroundTaskScanState.fresh : BackgroundTaskScanState := ⟨0, ∅⟩

/-- What a call awaits; `chunks` counts the chunks it has read. -/
inductive CallPhase where
  | stat
  | opening (size : Nat)
  | reading (size position chunks : Nat)
  | closing
  | done

structure ScanCall where
  state : Nat
  phase : CallPhase

structure World where
  transcript : Transcript
  states : List BackgroundTaskScanState
  backgroundTaskScans : Option Nat
  calls : List ScanCall

def World.start : World := ⟨[], [], none, []⟩

structure Answer where
  state : Nat
  outstanding : Option Nat

inductive Event where
  | append (bytes : Transcript)
  | call
  | stated (call : Nat)
  | opened (call : Nat)
  | read (call available : Nat)
  | closed (call : Nat)
  | failed (call : Nat)

namespace World

def setPhase (world : World) (call : Nat) (state : Nat) (phase : CallPhase) : World :=
  { world with calls := world.calls.set call ⟨state, phase⟩ }

def setState (world : World) (place : Nat) (state : BackgroundTaskScanState) : World :=
  { world with states := world.states.set place state }

def advance (world : World) (call place : Nat) (state : BackgroundTaskScanState)
    (size position chunks : Nat) (more : Bool) : World :=
  if more && position < size then
    (world.setState place state).setPhase call place (.reading size position chunks)
  else
    let scannedBytes := max state.scannedBytes (min position size)
    (world.setState place ⟨scannedBytes, state.live⟩).setPhase call place .closing

def step (chunk overlap : Nat) (world : World) : Event → Option (World × Option Answer)
  | .append bytes => some ({ world with transcript := world.transcript ++ bytes }, none)
  | .call =>
      match world.backgroundTaskScans with
      | some place => some ({ world with calls := world.calls ++ [⟨place, .stat⟩] }, none)
      | none =>
          some ({ world with
            states := world.states ++ [.fresh]
            calls := world.calls ++ [⟨world.states.length, .stat⟩] }, none)
  | .stated call => do
      let ⟨place, phase⟩ ← world.calls[call]?
      let state ← world.states[place]?
      match phase with
      | .stat =>
          if world.transcript.length ≤ state.scannedBytes then
            some (world.setPhase call place .done, some ⟨place, some state.live.card⟩)
          else some (world.setPhase call place (.opening world.transcript.length), none)
      | _ => none
  | .opened call => do
      let ⟨place, phase⟩ ← world.calls[call]?
      let state ← world.states[place]?
      match phase with
      | .opening size =>
          some (world.advance call place state size (state.scannedBytes - overlap) 0 true, none)
      | _ => none
  | .read call available => do
      let ⟨place, phase⟩ ← world.calls[call]?
      let state ← world.states[place]?
      match phase with
      | .reading size position chunks =>
          let text := window world.transcript position (min chunk available)
          if text = [] then some (world.advance call place state size position chunks false, none)
          else
            some (world.advance call place ⟨state.scannedBytes, scanWindow state.live text⟩ size
              (position + text.length) (chunks + 1) true, none)
      | _ => none
  | .closed call => do
      let ⟨place, phase⟩ ← world.calls[call]?
      let state ← world.states[place]?
      match phase with
      | .closing =>
          some ({ world.setPhase call place .done with backgroundTaskScans := some place },
            some ⟨place, some state.live.card⟩)
      | _ => none
  | .failed call => do
      let ⟨place, phase⟩ ← world.calls[call]?
      match phase with
      | .done => none
      | _ => some (world.setPhase call place .done, some ⟨place, none⟩)

def run (chunk overlap : Nat) : World → List Event → Option World
  | world, [] => some world
  | world, event :: events => do
      let (next, _) ← world.step chunk overlap event
      run chunk overlap next events

end World

/-! ## What a scan state must know -/

def Created (transcript : Transcript) (bound : Nat) (id : TaskId) : Prop :=
  ∃ marker ∈ creationMarkers, ∃ start stop, marker.At transcript start stop id ∧ stop ≤ bound

def Recorded (transcript : Transcript) (bound : Nat) (live : Finset TaskId) : Prop :=
  ∀ id, Created transcript bound id → ¬ Terminated transcript id → id ∈ live

def Apart (transcript : Transcript) : Prop :=
  ∀ marker ∈ creationMarkers, ∀ start stop id start' stop' id',
    marker.At transcript start stop id → marker.At transcript start' stop' id' →
      start' < start → stop' ≤ start

/-- The overlap is at least the length of any creation marker. -/
def Overlaps (transcript : Transcript) (overlap : Nat) : Prop :=
  ∀ marker ∈ creationMarkers, ∀ start stop id, marker.At transcript start stop id →
    stop ≤ start + overlap

/-- A chunk cuts no marker: none that creates a task and ends in it starts in the chunk before, and
none that ends a task goes on behind it with its id begun. -/
structure ChunkCutsNoMarker (transcript : Transcript)
    (scannedBytes size position length chunks : Nat) :
    Prop where
  creation : 0 < chunks → ∀ marker ∈ creationMarkers, ∀ start stop id,
    marker.At transcript start stop id → start < position → position < stop →
      stop ≤ min (position + length) size → stop ≤ scannedBytes
  ending : ∀ start stop id, successfullyStopped.At transcript start stop id →
    start + successfullyStopped.opening.length < position + length → stop ≤ position + length

/-- The condition on one step, for the transcript as it will be. -/
def Meets (transcript : Transcript) (chunk : Nat) (world : World) : Event → Prop
  | .read call available =>
      ∀ place state size position chunks,
        world.calls[call]? = some ⟨place, .reading size position chunks⟩ →
          world.states[place]? = some state →
            ChunkCutsNoMarker transcript state.scannedBytes size position
              (window world.transcript position (min chunk available)).length chunks
  | _ => True

def RunMeets (transcript : Transcript) (chunk overlap : Nat) : World → List Event → Prop
  | _, [] => True
  | world, event :: events => Meets transcript chunk world event ∧
      ∀ next answer, world.step chunk overlap event = some (next, answer) →
        RunMeets transcript chunk overlap next events

/-! ## One chunk -/

theorem terminated_of_erased {transcript : Transcript} {live : Finset TaskId}
    {position length : Nat} {id : TaskId}
    (hending : ∀ start stop id, successfullyStopped.At transcript start stop id →
      start + successfullyStopped.opening.length < position + length → stop ≤ position + length)
    (hlive : id ∈ live ∨ ∃ marker ∈ creationMarkers,
      id ∈ taskIds marker.pattern (window transcript position length))
    (herased : id ∉ scanWindow live (window transcript position length)) :
    Terminated transcript id := by
  rw [mem_scanWindow] at herased
  by_contra hnot
  refine herased ⟨hlive, fun hnotified => ?_, fun hstopped => ?_⟩
  · exact hnot (.inl (notifies_of_mem_taskIds hnotified).of_window)
  · rcases Marker.at_of_mem_taskIds hstopped with hat | ⟨start, stop, whole, hat, hshown, hbehind⟩
    · exact hnot (.inr hat)
    · have hstop := hending start stop whole hat hshown
      omega

theorem Recorded.after_window {transcript : Transcript} {live : Finset TaskId}
    {bound position length : Nat} (h : Recorded transcript bound live)
    (hending : ∀ start stop id, successfullyStopped.At transcript start stop id →
      start + successfullyStopped.opening.length < position + length →
        stop ≤ position + length) :
    Recorded transcript bound (scanWindow live (window transcript position length)) := by
  intro id hcreated hnot
  by_contra herased
  exact hnot (terminated_of_erased hending (.inl (h id hcreated hnot)) herased)

theorem Recorded.mono {transcript : Transcript} {live : Finset TaskId} {bound lower : Nat}
    (h : Recorded transcript bound live) (hle : lower ≤ bound) :
    Recorded transcript lower live := by
  rintro id ⟨marker, hmarker, start, stop, hat, hstop⟩ hnot
  exact h id ⟨marker, hmarker, start, stop, hat, Nat.le_trans hstop hle⟩ hnot

theorem Recorded.chunk {transcript : Transcript} {overlap : Nat}
    (hoverlaps : Overlaps transcript overlap) (hapart : Apart transcript) {live : Finset TaskId}
    {scannedBytes size position length chunks : Nat}
    (hscanned : Recorded transcript scannedBytes live)
    (hread : Recorded transcript (min position size) live)
    (hfirst : chunks = 0 → position ≤ scannedBytes - overlap)
    (hcuts : ChunkCutsNoMarker transcript scannedBytes size position length chunks) :
    Recorded transcript (min (position + length) size)
      (scanWindow live (window transcript position length)) := by
  rintro id ⟨marker, hmarker, start, stop, hat, hstop⟩ hnot
  by_contra herased
  refine hnot (terminated_of_erased hcuts.ending ?_ herased)
  by_cases hinside : position ≤ start
  · exact .inr ⟨marker, hmarker, Marker.mem_taskIds_of_at hat hinside (by omega)
      fun start' stop' id' hat' => hapart marker hmarker start stop id start' stop' id' hat hat'⟩
  · left
    by_cases hbefore : stop ≤ position
    · exact hread id ⟨marker, hmarker, start, stop, hat, by omega⟩ hnot
    · refine hscanned id ⟨marker, hmarker, start, stop, hat, ?_⟩ hnot
      rcases Nat.eq_zero_or_pos chunks with hzero | hpos
      · have hlength := hoverlaps marker hmarker start stop id hat
        have hposition := hfirst hzero
        omega
      · exact hcuts.creation hpos marker hmarker start stop id hat (by omega) (by omega) hstop

/-! ## Every step -/

structure Kept (transcript : Transcript) (overlap : Nat) (world : World) : Prop where
  scanned : ∀ (place : Nat) (state : BackgroundTaskScanState), world.states[place]? = some state →
    Recorded transcript state.scannedBytes state.live
  read : ∀ (call place size position chunks : Nat),
    world.calls[call]? = some ⟨place, .reading size position chunks⟩ →
      ∀ state : BackgroundTaskScanState, world.states[place]? = some state →
        Recorded transcript (min position size) state.live ∧
          (chunks = 0 → position ≤ state.scannedBytes - overlap)
  held : ∀ scan ∈ world.calls, scan.state < world.states.length
  entry : ∀ place, world.backgroundTaskScans = some place → place < world.states.length

theorem kept_start (transcript : Transcript) (overlap : Nat) :
    Kept transcript overlap World.start := by
  constructor <;> simp [World.start]

theorem recorded_zero (transcript : Transcript) (live : Finset TaskId) :
    Recorded transcript 0 live := by
  rintro id ⟨marker, -, start, stop, hat, hstop⟩
  have hlt := hat.lt
  omega

section Keep

variable {transcript : Transcript} {overlap : Nat} {world : World}

theorem Kept.setPhase (h : Kept transcript overlap world) (call : Nat) {place : Nat}
    (hplace : place < world.states.length) {phase : CallPhase}
    (hphase : ∀ size position chunks, phase ≠ .reading size position chunks) :
    Kept transcript overlap (world.setPhase call place phase) := by
  refine ⟨h.scanned, ?_, ?_, h.entry⟩
  · intro other place' size position chunks hother state hstate
    rw [World.setPhase, List.getElem?_set] at hother
    split_ifs at hother with hsame hin
    · cases hother
      exact absurd rfl (hphase size position chunks)
    · exact h.read other place' size position chunks hother state hstate
  · intro scan hscan
    rcases List.mem_or_eq_of_mem_set hscan with hold | rfl
    · exact h.held scan hold
    · exact hplace

theorem Kept.addCall (h : Kept transcript overlap world) {place : Nat}
    (hplace : place < world.states.length) :
    Kept transcript overlap { world with calls := world.calls ++ [⟨place, .stat⟩] } := by
  refine ⟨h.scanned, ?_, ?_, h.entry⟩
  · intro other place' size position chunks hother state hstate
    rcases List.mem_append.mp (List.mem_of_getElem? hother) with hold | hnew
    · rw [List.getElem?_append] at hother
      split_ifs at hother with hlt
      · exact h.read other place' size position chunks hother state hstate
      · have hlast := List.mem_of_getElem? hother
        simp at hlast
    · simp at hnew
  · intro scan hscan
    rcases List.mem_append.mp hscan with hold | hnew
    · exact h.held scan hold
    · rw [List.mem_singleton.mp hnew]
      exact hplace

theorem Kept.addState (h : Kept transcript overlap world) :
    Kept transcript overlap { world with states := world.states ++ [.fresh] } := by
  have hold : ∀ {place : Nat} {state : BackgroundTaskScanState},
      (world.states ++ [.fresh])[place]? = some state →
        world.states[place]? = some state ∨
          place = world.states.length ∧ state = .fresh := by
    intro place state hstate
    rw [List.getElem?_append] at hstate
    split_ifs at hstate with hlt
    · exact .inl hstate
    · obtain ⟨hlast, heq⟩ := List.getElem?_eq_some_iff.mp hstate
      rw [List.length_singleton] at hlast
      simp only [List.getElem_singleton] at heq
      exact .inr ⟨by omega, heq.symm⟩
  constructor
  · intro place state hstate
    rcases hold hstate with hstate | ⟨-, rfl⟩
    · exact h.scanned place state hstate
    · exact recorded_zero _ _
  · intro call place size position chunks hcall state hstate
    rcases hold hstate with hstate | ⟨rfl, -⟩
    · exact h.read call place size position chunks hcall state hstate
    · exact absurd (h.held _ (List.mem_of_getElem? hcall)) (Nat.lt_irrefl _)
  · intro scan hscan
    have hlt := h.held scan hscan
    rw [List.length_append]
    omega
  · intro place hplace
    have hlt := h.entry place hplace
    rw [List.length_append]
    omega

/-- A scan state may be replaced by one that is at least as far and still knows what is needed. -/
theorem Kept.setState (h : Kept transcript overlap world) {place : Nat}
    {state next : BackgroundTaskScanState} (hstate : world.states[place]? = some state)
    (hfurther : state.scannedBytes ≤ next.scannedBytes)
    (hscanned : Recorded transcript next.scannedBytes next.live)
    (hlive : ∀ bound, Recorded transcript bound state.live → Recorded transcript bound next.live) :
    Kept transcript overlap (world.setState place next) := by
  have hlength : (world.setState place next).states.length = world.states.length := by
    rw [World.setState, List.length_set]
  refine ⟨?_, ?_, ?_, ?_⟩
  · intro other found hfound
    rw [World.setState, List.getElem?_set] at hfound
    split_ifs at hfound with hsame hin
    · cases hfound
      exact hscanned
    · exact h.scanned other found hfound
  · intro call place' size position chunks hcall found hfound
    rw [World.setState, List.getElem?_set] at hfound
    split_ifs at hfound with hsame hin
    · cases hfound
      subst hsame
      obtain ⟨hrecorded, hfirst⟩ := h.read call place size position chunks hcall state hstate
      exact ⟨hlive _ hrecorded, fun hzero => Nat.le_trans (hfirst hzero) (by omega)⟩
    · exact h.read call place' size position chunks hcall found hfound
  · rw [hlength]
    exact h.held
  · rw [hlength]
    exact h.entry

end Keep

theorem Recorded.max {transcript : Transcript} {live : Finset TaskId} {first second : Nat}
    (hfirst : Recorded transcript first live) (hsecond : Recorded transcript second live) :
    Recorded transcript (max first second) live := by
  rintro id ⟨marker, hmarker, start, stop, hat, hstop⟩ hnot
  rcases le_max_iff.mp hstop with hle | hle
  · exact hfirst id ⟨marker, hmarker, start, stop, hat, hle⟩ hnot
  · exact hsecond id ⟨marker, hmarker, start, stop, hat, hle⟩ hnot

theorem Kept.advance {transcript : Transcript} {overlap : Nat} {world : World}
    (h : Kept transcript overlap world) (call : Nat) {place : Nat}
    {state : BackgroundTaskScanState} {live : Finset TaskId} {size position chunks : Nat}
    (more : Bool) (hstate : world.states[place]? = some state)
    (hlive : ∀ bound, Recorded transcript bound state.live → Recorded transcript bound live)
    (hread : Recorded transcript (min position size) live)
    (hfirst : chunks = 0 → position ≤ state.scannedBytes - overlap) :
    Kept transcript overlap
      (world.advance call place ⟨state.scannedBytes, live⟩ size position chunks more) := by
  have hscanned := hlive _ (h.scanned place state hstate)
  obtain ⟨hplace, -⟩ := List.getElem?_eq_some_iff.mp hstate
  rw [World.advance]
  split_ifs
  · have hset : Kept transcript overlap (world.setState place ⟨state.scannedBytes, live⟩) :=
      h.setState hstate (Nat.le_refl _) hscanned hlive
    refine ⟨hset.scanned, ?_, ?_, hset.entry⟩
    · intro other place' size' position' chunks' hother found hfound
      rw [World.setPhase, List.getElem?_set] at hother
      split_ifs at hother with hsame hin
      · cases hother
        simp only [World.setPhase, World.setState] at hfound
        rw [List.getElem?_set_self hplace] at hfound
        cases hfound
        exact ⟨hread, hfirst⟩
      · exact hset.read other place' size' position' chunks' hother found hfound
    · intro scan hscan
      rcases List.mem_or_eq_of_mem_set hscan with hold | rfl
      · exact hset.held scan hold
      · simpa [World.setPhase, World.setState] using hplace
  · refine Kept.setPhase ?_ call ?_ (by simp)
    · exact h.setState hstate (le_max_left _ _) (hscanned.max hread) hlive
    · simpa [World.setState] using hplace

theorem window_of_prefix {transcript whole : Transcript} (h : transcript <+: whole)
    (position length : Nat) :
    window transcript position length =
      window whole position (window transcript position length).length := by
  obtain ⟨grown, rfl⟩ := h
  have hlength : (window transcript position length).length ≤
    (transcript.drop position).length := by
    rw [window, List.length_take]
    exact Nat.min_le_right _ _
  conv_rhs => rw [window, List.drop_append, List.take_append_of_le_length hlength]
  rw [window, List.length_take, List.take_eq_take_min]

theorem Kept.step {transcript : Transcript} {chunk overlap : Nat} {world next : World}
    {event : Event} {answer : Option Answer} (h : Kept transcript overlap world)
    (hoverlaps : Overlaps transcript overlap) (hapart : Apart transcript)
    (hstarts : world.transcript <+: transcript) (hmeets : Meets transcript chunk world event)
    (hstep : world.step chunk overlap event = some (next, answer)) :
    Kept transcript overlap next := by
  cases event with
  | append bytes =>
      simp only [World.step, Option.some.injEq, Prod.mk.injEq] at hstep
      obtain ⟨rfl, -⟩ := hstep
      exact ⟨h.scanned, h.read, h.held, h.entry⟩
  | call =>
      cases hentry : world.backgroundTaskScans with
      | some place =>
          simp only [World.step, hentry, Option.some.injEq, Prod.mk.injEq] at hstep
          obtain ⟨rfl, -⟩ := hstep
          have hadded := h.addCall (h.entry place hentry)
          rwa [hentry] at hadded
      | none =>
          simp only [World.step, hentry, Option.some.injEq, Prod.mk.injEq] at hstep
          obtain ⟨rfl, -⟩ := hstep
          have hlast : world.states.length <
              (world.states ++ [BackgroundTaskScanState.fresh]).length := by simp
          have hadded := h.addState.addCall hlast
          rwa [hentry] at hadded
  | stated call =>
      simp only [World.step, Option.bind_eq_bind, Option.bind_eq_some_iff] at hstep
      obtain ⟨⟨place, phase⟩, hcall, state, hstate, hstep⟩ := hstep
      have hplace := h.held _ (List.mem_of_getElem? hcall)
      cases phase <;> simp only [reduceCtorEq] at hstep
      split_ifs at hstep <;> obtain ⟨rfl, -⟩ := Prod.mk.inj (Option.some.inj hstep) <;>
        exact h.setPhase call hplace (by simp)
  | opened call =>
      simp only [World.step, Option.bind_eq_bind, Option.bind_eq_some_iff] at hstep
      obtain ⟨⟨place, phase⟩, hcall, state, hstate, hstep⟩ := hstep
      cases phase <;> simp only [reduceCtorEq] at hstep
      obtain ⟨rfl, -⟩ := Prod.mk.inj (Option.some.inj hstep)
      refine h.advance call true hstate (fun _ hbound => hbound) ?_ fun _ => Nat.le_refl _
      exact (h.scanned place state hstate).mono (by omega)
  | read call available =>
      simp only [World.step, Option.bind_eq_bind, Option.bind_eq_some_iff] at hstep
      obtain ⟨⟨place, phase⟩, hcall, state, hstate, hstep⟩ := hstep
      cases phase with
      | reading size position chunks =>
          obtain ⟨hread, hfirst⟩ := h.read call place size position chunks hcall state hstate
          simp only at hstep
          split_ifs at hstep with hempty
          · obtain ⟨rfl, -⟩ := Prod.mk.inj (Option.some.inj hstep)
            exact h.advance call false hstate (fun _ hbound => hbound) hread hfirst
          · obtain ⟨rfl, -⟩ := Prod.mk.inj (Option.some.inj hstep)
            have hcuts := hmeets place state size position chunks hcall hstate
            have hwindow := window_of_prefix hstarts position (min chunk available)
            generalize window world.transcript position (min chunk available) = text
              at hcuts hwindow ⊢
            generalize text.length = length at hcuts hwindow ⊢
            subst hwindow
            refine h.advance call true hstate (fun _ hbound => hbound.after_window hcuts.ending) ?_
              (by simp)
            exact Recorded.chunk hoverlaps hapart (h.scanned place state hstate) hread hfirst hcuts
      | _ => simp only [reduceCtorEq] at hstep
  | closed call =>
      simp only [World.step, Option.bind_eq_bind, Option.bind_eq_some_iff] at hstep
      obtain ⟨⟨place, phase⟩, hcall, state, hstate, hstep⟩ := hstep
      have hplace := h.held _ (List.mem_of_getElem? hcall)
      cases phase <;> simp only [reduceCtorEq] at hstep
      obtain ⟨rfl, -⟩ := Prod.mk.inj (Option.some.inj hstep)
      have hdone : Kept transcript overlap (world.setPhase call place .done) :=
        h.setPhase call hplace (by simp)
      refine ⟨hdone.scanned, hdone.read, hdone.held, fun other hother => ?_⟩
      rw [← Option.some.inj hother]
      exact hplace
  | failed call =>
      simp only [World.step, Option.bind_eq_bind, Option.bind_eq_some_iff] at hstep
      obtain ⟨⟨place, phase⟩, hcall, hstep⟩ := hstep
      have hplace := h.held _ (List.mem_of_getElem? hcall)
      cases phase <;> simp only [reduceCtorEq] at hstep <;>
        obtain ⟨rfl, -⟩ := Prod.mk.inj (Option.some.inj hstep) <;>
          exact h.setPhase call hplace (by simp)

/-! ## Every run -/

theorem transcript_prefix_of_step {chunk overlap : Nat} {world next : World} {event : Event}
    {answer : Option Answer} (hstep : world.step chunk overlap event = some (next, answer)) :
    world.transcript <+: next.transcript := by
  have hadvance : ∀ call place state size position chunks more,
      (world.advance call place state size position chunks more).transcript = world.transcript := by
    intro call place state size position chunks more
    rw [World.advance]
    split_ifs <;> rfl
  cases event with
  | append bytes =>
      simp only [World.step, Option.some.injEq, Prod.mk.injEq] at hstep
      obtain ⟨rfl, -⟩ := hstep
      exact List.prefix_append _ _
  | call =>
      cases hentry : world.backgroundTaskScans <;>
        simp only [World.step, hentry, Option.some.injEq, Prod.mk.injEq] at hstep <;>
          obtain ⟨rfl, -⟩ := hstep <;> exact List.prefix_rfl
  | stated call =>
      simp only [World.step, Option.bind_eq_bind, Option.bind_eq_some_iff] at hstep
      obtain ⟨⟨place, phase⟩, -, state, -, hstep⟩ := hstep
      cases phase <;> simp only [reduceCtorEq] at hstep
      split_ifs at hstep <;> obtain ⟨rfl, -⟩ := Prod.mk.inj (Option.some.inj hstep) <;>
        exact List.prefix_rfl
  | opened call =>
      simp only [World.step, Option.bind_eq_bind, Option.bind_eq_some_iff] at hstep
      obtain ⟨⟨place, phase⟩, -, state, -, hstep⟩ := hstep
      cases phase <;> simp only [reduceCtorEq] at hstep
      obtain ⟨rfl, -⟩ := Prod.mk.inj (Option.some.inj hstep)
      rw [hadvance]
  | read call available =>
      simp only [World.step, Option.bind_eq_bind, Option.bind_eq_some_iff] at hstep
      obtain ⟨⟨place, phase⟩, -, state, -, hstep⟩ := hstep
      cases phase <;> simp only [reduceCtorEq] at hstep
      split_ifs at hstep <;> obtain ⟨rfl, -⟩ := Prod.mk.inj (Option.some.inj hstep) <;>
        rw [hadvance]
  | closed call =>
      simp only [World.step, Option.bind_eq_bind, Option.bind_eq_some_iff] at hstep
      obtain ⟨⟨place, phase⟩, -, state, -, hstep⟩ := hstep
      cases phase <;> simp only [reduceCtorEq] at hstep
      obtain ⟨rfl, -⟩ := Prod.mk.inj (Option.some.inj hstep)
      exact List.prefix_rfl
  | failed call =>
      simp only [World.step, Option.bind_eq_bind, Option.bind_eq_some_iff] at hstep
      obtain ⟨⟨place, phase⟩, -, hstep⟩ := hstep
      cases phase <;> simp only [reduceCtorEq] at hstep <;>
        obtain ⟨rfl, -⟩ := Prod.mk.inj (Option.some.inj hstep) <;> exact List.prefix_rfl

theorem transcript_prefix_of_run {chunk overlap : Nat} {events : List Event} {world last : World}
    (hrun : world.run chunk overlap events = some last) :
    world.transcript <+: last.transcript := by
  induction events generalizing world with
  | nil =>
      obtain rfl := Option.some.inj hrun
      exact List.prefix_rfl
  | cons event events ih =>
      simp only [World.run, Option.bind_eq_bind, Option.bind_eq_some_iff] at hrun
      obtain ⟨⟨next, answer⟩, hstep, hrun⟩ := hrun
      exact (transcript_prefix_of_step hstep).trans (ih hrun)

theorem Kept.run {transcript : Transcript} {chunk overlap : Nat} {events : List Event}
    {world last : World} (h : Kept transcript overlap world)
    (hoverlaps : Overlaps transcript overlap) (hapart : Apart transcript)
    (hmeets : RunMeets transcript chunk overlap world events)
    (hrun : world.run chunk overlap events = some last) (hstarts : last.transcript <+: transcript) :
    Kept transcript overlap last := by
  induction events generalizing world with
  | nil =>
      obtain rfl := Option.some.inj hrun
      exact h
  | cons event events ih =>
      simp only [World.run, Option.bind_eq_bind, Option.bind_eq_some_iff] at hrun
      obtain ⟨⟨next, answer⟩, hstep, hrun⟩ := hrun
      have hworld : world.transcript <+: transcript :=
        ((transcript_prefix_of_step hstep).trans (transcript_prefix_of_run hrun)).trans hstarts
      exact ih (h.step hoverlaps hapart hworld hmeets.1 hstep) (hmeets.2 next answer hstep) hrun

theorem outstanding_eq_card {chunk overlap : Nat} {world next : World} {event : Event}
    {answer : Answer} {outstanding : Nat}
    (hstep : world.step chunk overlap event = some (next, some answer))
    (hanswer : answer.outstanding = some outstanding) :
    ∃ state : BackgroundTaskScanState, next.states[answer.state]? = some state ∧
      outstanding = state.live.card ∧ next.transcript = world.transcript := by
  cases event with
  | append bytes => simp [World.step] at hstep
  | call => cases hentry : world.backgroundTaskScans <;> simp [World.step, hentry] at hstep
  | stated call =>
      simp only [World.step, Option.bind_eq_bind, Option.bind_eq_some_iff] at hstep
      obtain ⟨⟨place, phase⟩, -, state, hstate, hstep⟩ := hstep
      cases phase <;> simp only [reduceCtorEq] at hstep
      split_ifs at hstep
      · simp only [Option.some.injEq, Prod.mk.injEq] at hstep
        obtain ⟨rfl, rfl⟩ := hstep
        exact ⟨state, hstate, (Option.some.inj hanswer).symm, rfl⟩
      · simp at hstep
  | opened call =>
      simp only [World.step, Option.bind_eq_bind, Option.bind_eq_some_iff] at hstep
      obtain ⟨⟨place, phase⟩, -, state, hstate, hstep⟩ := hstep
      cases phase <;> simp at hstep
  | read call available =>
      simp only [World.step, Option.bind_eq_bind, Option.bind_eq_some_iff] at hstep
      obtain ⟨⟨place, phase⟩, -, state, hstate, hstep⟩ := hstep
      cases phase <;> simp only [reduceCtorEq] at hstep
      split_ifs at hstep <;> simp at hstep
  | closed call =>
      simp only [World.step, Option.bind_eq_bind, Option.bind_eq_some_iff] at hstep
      obtain ⟨⟨place, phase⟩, -, state, hstate, hstep⟩ := hstep
      cases phase <;> simp only [reduceCtorEq] at hstep
      simp only [Option.some.injEq, Prod.mk.injEq] at hstep
      obtain ⟨rfl, rfl⟩ := hstep
      exact ⟨state, hstate, (Option.some.inj hanswer).symm, rfl⟩
  | failed call =>
      simp only [World.step, Option.bind_eq_bind, Option.bind_eq_some_iff] at hstep
      obtain ⟨⟨place, phase⟩, -, hstep⟩ := hstep
      cases phase <;> simp only [reduceCtorEq] at hstep <;>
        simp only [Option.some.injEq, Prod.mk.injEq] at hstep <;> obtain ⟨-, rfl⟩ := hstep <;>
          simp at hanswer

theorem meets_of_answer {transcript : Transcript} {chunk overlap : Nat} {world next : World}
    {event : Event} {answer : Answer}
    (hstep : world.step chunk overlap event = some (next, some answer)) :
    Meets transcript chunk world event := by
  cases event with
  | read call available =>
      simp only [World.step, Option.bind_eq_bind, Option.bind_eq_some_iff] at hstep
      obtain ⟨⟨place, phase⟩, -, state, -, hstep⟩ := hstep
      cases phase <;> simp only [reduceCtorEq] at hstep
      split_ifs at hstep <;> simp at hstep
  | _ => trivial

/-- No successful call misses a task, so an answer of zero means that none is outstanding. -/
theorem transcriptOutstandingBackgroundTasks_misses_none {chunk overlap : Nat}
    {events : List Event} {event : Event} {world next : World} {answer : Answer}
    {outstanding : Nat} (hrun : World.start.run chunk overlap events = some world)
    (hstep : world.step chunk overlap event = some (next, some answer))
    (hanswer : answer.outstanding = some outstanding)
    (hoverlaps : Overlaps next.transcript overlap) (hapart : Apart next.transcript)
    (hmeets : RunMeets next.transcript chunk overlap World.start events) :
    ∃ state : BackgroundTaskScanState, next.states[answer.state]? = some state ∧
      outstanding = state.live.card ∧
        (∀ id, Created next.transcript state.scannedBytes id → ¬ Terminated next.transcript id →
          id ∈ state.live) ∧
        (outstanding = 0 → ∀ id, Created next.transcript state.scannedBytes id →
          Terminated next.transcript id) := by
  obtain ⟨state, hstate, hcard, htranscript⟩ := outstanding_eq_card hstep hanswer
  have hstarts : world.transcript <+: next.transcript := by rw [htranscript]
  have hkept : Kept next.transcript overlap next :=
    ((kept_start next.transcript overlap).run hoverlaps hapart hmeets hrun hstarts).step hoverlaps
      hapart hstarts (meets_of_answer hstep) hstep
  have hrecorded := hkept.scanned answer.state state hstate
  refine ⟨state, hstate, hcard, hrecorded, ?_⟩
  rintro rfl id hcreated
  by_contra hnot
  have hlive := hrecorded id hcreated hnot
  rw [Finset.card_eq_zero.mp hcard.symm] at hlive
  exact Finset.notMem_empty id hlive

/-! ## Testing the condition -/

def Marker.places (marker : Marker) (transcript : Transcript) : List (Nat × Nat) :=
  (List.range transcript.length).filterMap fun start =>
    (marker.pattern.matchLength (transcript.drop start)).map fun length => (start, start + length)

theorem Marker.At.mem_places {marker : Marker} {transcript : Transcript} {start stop : Nat}
    {id : TaskId} (h : marker.At transcript start stop id) :
    (start, stop) ∈ marker.places transcript := by
  have hlt := h.lt
  obtain ⟨rest, hheads, hstop⟩ := h
  rw [places, List.mem_filterMap]
  refine ⟨start, List.mem_range.mpr (by omega), ?_⟩
  rw [matchLength_of_heads hheads, Option.map_some, List.length_drop]
  congr 2
  omega

def creationPlaces (transcript : Transcript) : List (Nat × Nat) :=
  creationMarkers.flatMap fun marker => marker.places transcript

theorem Marker.At.mem_creationPlaces {marker : Marker} (hmarker : marker ∈ creationMarkers)
    {transcript : Transcript} {start stop : Nat} {id : TaskId}
    (h : marker.At transcript start stop id) : (start, stop) ∈ creationPlaces transcript :=
  List.mem_flatMap.mpr ⟨marker, hmarker, h.mem_places⟩

def chunkMeets (created stopped : List (Nat × Nat))
    (scannedBytes size position length chunks : Nat) : Bool :=
  (chunks = 0 || created.all fun place =>
    decide (place.1 < position → position < place.2 → place.2 ≤ min (position + length) size →
      place.2 ≤ scannedBytes)) &&
  stopped.all fun place =>
    decide (place.1 + successfullyStopped.opening.length < position + length →
      place.2 ≤ position + length)

theorem chunkCutsNoMarker_of_test {transcript : Transcript}
    {scannedBytes size position length chunks : Nat}
    (h : chunkMeets (creationPlaces transcript) (successfullyStopped.places transcript) scannedBytes
      size position length chunks = true) :
    ChunkCutsNoMarker transcript scannedBytes size position length chunks := by
  simp only [chunkMeets, Bool.and_eq_true, Bool.or_eq_true, decide_eq_true_eq,
    List.all_eq_true] at h
  obtain ⟨hcreation, hending⟩ := h
  refine ⟨fun hpos marker hmarker start stop id hat => ?_, fun start stop id hat => ?_⟩
  · exact hcreation.resolve_left (by omega) (start, stop) (hat.mem_creationPlaces hmarker)
  · exact hending (start, stop) hat.mem_places

def meets (created stopped : List (Nat × Nat)) (chunk : Nat) (world : World) : Event → Bool
  | .read call available =>
      world.calls[call]?.all fun scan =>
        match scan.phase with
        | .reading size position chunks =>
            world.states[scan.state]?.all fun state =>
              chunkMeets created stopped state.scannedBytes size position
                (window world.transcript position (min chunk available)).length chunks
        | _ => true
  | _ => true

theorem meets_of_test {transcript : Transcript} {chunk : Nat} {world : World} {event : Event}
    (h : meets (creationPlaces transcript) (successfullyStopped.places transcript) chunk world
      event = true) : Meets transcript chunk world event := by
  cases event with
  | read call available =>
      intro place state size position chunks hcall hstate
      rw [meets, hcall, Option.all_some] at h
      simp only [hstate, Option.all_some] at h
      exact chunkCutsNoMarker_of_test h
  | _ => trivial

def runMeets (created stopped : List (Nat × Nat)) (chunk overlap : Nat) :
    World → List Event → Bool
  | _, [] => true
  | world, event :: events =>
      meets created stopped chunk world event &&
        (world.step chunk overlap event).all fun result =>
          runMeets created stopped chunk overlap result.1 events

theorem runMeets_of_test {transcript : Transcript} {chunk overlap : Nat} {world : World}
    {events : List Event}
    (h : runMeets (creationPlaces transcript) (successfullyStopped.places transcript) chunk overlap
      world events = true) : RunMeets transcript chunk overlap world events := by
  induction events generalizing world with
  | nil => trivial
  | cons event events ih =>
      rw [runMeets, Bool.and_eq_true] at h
      refine ⟨meets_of_test h.1, fun next answer hstep => ih ?_⟩
      have hrest := h.2
      rw [hstep, Option.all_some] at hrest
      exact hrest

theorem Marker.At.id_eq {marker : Marker} {transcript : Transcript} {start stop : Nat}
    {id : TaskId} (h : marker.At transcript start stop id) :
    id = (transcript.drop (start + marker.opening.length)).take
      (stop - (start + marker.opening.length + marker.closing.length)) := by
  obtain ⟨rest, ⟨htext, -, -, -⟩, hstop⟩ := h
  have hlength := congrArg List.length htext
  simp only [List.length_drop, List.length_append] at hlength
  have hid : stop - (start + marker.opening.length + marker.closing.length) = id.length := by omega
  rw [hid, ← List.drop_drop, htext, List.drop_left, List.take_left]

theorem Marker.created_of_mem_places {marker : Marker} (hmarker : marker ∈ creationMarkers)
    {transcript : Transcript} {start stop bound : Nat} {id : TaskId}
    (h : (start, stop) ∈ marker.places transcript)
    (hid : id = (transcript.drop (start + marker.opening.length)).take
      (stop - (start + marker.opening.length + marker.closing.length))) (hstop : stop ≤ bound) :
    Created transcript bound id := by
  rw [places, List.mem_filterMap] at h
  obtain ⟨place, hplace, hmatch⟩ := h
  obtain ⟨length, hlength, heq⟩ := Option.map_eq_some_iff.mp hmatch
  obtain ⟨rfl, rfl⟩ := Prod.mk.inj heq
  obtain ⟨shown, rest, hheads, rfl⟩ := heads_of_matchLength hlength
  have hrest : rest.length ≤ (transcript.drop place).length := by
    rw [hheads.text_eq]
    simp only [List.length_append]
    omega
  have hat : marker.At transcript place (place + ((transcript.drop place).length - rest.length))
      shown := by
    refine ⟨rest, hheads, ?_⟩
    have hlt := List.mem_range.mp hplace
    rw [List.length_drop] at hrest ⊢
    omega
  obtain rfl := hid.trans hat.id_eq.symm
  exact ⟨marker, hmarker, place, _, hat, hstop⟩

/-! ## Two transcripts -/

theorem Notifies.mem {transcript : Transcript} {id : TaskId} (h : Notifies transcript id) :
    (0x3C : Ascii) ∈ transcript := by
  obtain ⟨before, gap, status, after, rfl, -⟩ := h
  have hopening : (0x3C : Ascii) ∈ ascii "<task-id>" := by decide
  simp [hopening]

theorem not_terminated {transcript : Transcript} {id : TaskId}
    (hnotified : (0x3C : Ascii) ∉ transcript)
    (hstopped : ∀ place ∈ successfullyStopped.places transcript,
      id ≠ (transcript.drop (place.1 + successfullyStopped.opening.length)).take
        (place.2 - (place.1 + successfullyStopped.opening.length +
          successfullyStopped.closing.length))) :
    ¬ Terminated transcript id := by
  rintro (h | ⟨start, stop, h⟩)
  · exact hnotified h.mem
  · exact hstopped (start, stop) h.mem_places h.id_eq

/-- What the call answers, with the transcript and how much of it is scanned by then. -/
def outcome (chunk overlap : Nat) (events : List Event) (call : Nat) :
    Option (Option Nat × Transcript × Nat) :=
  (World.start.run chunk overlap events).bind fun world =>
    (world.step chunk overlap (.closed call)).bind fun result => result.2.bind fun answer =>
      (result.1.states[answer.state]?).map fun state =>
        (answer.outstanding, result.1.transcript, state.scannedBytes)

theorem outcome_eq_some {chunk overlap call : Nat} {events : List Event} {shown : Option Nat}
    {transcript : Transcript} {scanned : Nat}
    (h : outcome chunk overlap events call = some (shown, transcript, scanned)) :
    ∃ world next answer state, World.start.run chunk overlap events = some world ∧
      world.step chunk overlap (.closed call) = some (next, some answer) ∧
      next.states[answer.state]? = some state ∧ answer.outstanding = shown ∧
      next.transcript = transcript ∧ state.scannedBytes = scanned := by
  obtain ⟨world, hrun, h⟩ := Option.bind_eq_some_iff.mp h
  obtain ⟨⟨next, answered⟩, hstep, h⟩ := Option.bind_eq_some_iff.mp h
  obtain ⟨answer, rfl, h⟩ := Option.bind_eq_some_iff.mp h
  obtain ⟨state, hstate, h⟩ := Option.map_eq_some_iff.mp h
  simp only [Prod.mk.injEq] at h
  exact ⟨world, next, answer, state, hrun, hstep, hstate, h⟩

def cutTranscript : Transcript := ascii "....................background with ID: a1"

def cutRun : List Event :=
  [.append cutTranscript, .call, .stated 0, .opened 0, .read 0 42, .read 0 42]

/-- The marker lies across the end of the first of two chunks, and the answer is zero. -/
theorem not_misses_none_acrossChunks :
    24 < 32 ∧ Overlaps cutTranscript 24 ∧
      ∃ world next : World, ∃ answer : Answer, ∃ state : BackgroundTaskScanState,
        World.start.run 32 24 cutRun = some world ∧
        world.step 32 24 (.closed 0) = some (next, some answer) ∧
        answer.outstanding = some 0 ∧ next.transcript = cutTranscript ∧
        next.states[answer.state]? = some state ∧ state.scannedBytes = 42 ∧
        Created cutTranscript state.scannedBytes (ascii "a1") ∧
        ¬ Terminated cutTranscript (ascii "a1") := by
  have hfacts : outcome 32 24 cutRun 0 = some (some 0, cutTranscript, 42) ∧
      (∀ marker ∈ creationMarkers, ∀ place ∈ marker.places cutTranscript,
        place.2 ≤ place.1 + 24) ∧
      (20, 42) ∈ backgroundWithId.places cutTranscript ∧
      ascii "a1" = (cutTranscript.drop (20 + backgroundWithId.opening.length)).take
        (42 - (20 + backgroundWithId.opening.length + backgroundWithId.closing.length)) ∧
      (0x3C : Ascii) ∉ cutTranscript ∧ successfullyStopped.places cutTranscript = [] := by
    decide +kernel
  obtain ⟨houtcome, hplaces, hcreated, hid, hnotified, hstopped⟩ := hfacts
  obtain ⟨world, next, answer, state, hrun, hstep, hstate, hanswer, htranscript, hscanned⟩ :=
    outcome_eq_some houtcome
  refine ⟨by omega, fun marker hmarker start stop id hat =>
    hplaces marker hmarker _ hat.mem_places, world, next, answer, state, hrun, hstep, hanswer,
    htranscript, hstate, hscanned, ?_, not_terminated hnotified (by simp [hstopped])⟩
  exact Marker.created_of_mem_places (by simp [creationMarkers]) hcreated hid (by omega)

def firstTranscript : Transcript :=
  ascii "Monitor started (task b2, timeout 5 s)  background with ID: c3 "

def laterTranscript : Transcript :=
  ascii "..........Successfully stopped task: c3...........background with ID: d4 "

def growingRun : List Event :=
  [.append firstTranscript, .call, .stated 0, .opened 0, .read 0 40, .read 0 40, .closed 0,
    .append laterTranscript, .call, .stated 1, .opened 1, .read 1 40, .read 1 40, .read 1 40]

theorem misses_none_growing :
    ∃ world next : World, ∃ answer : Answer, ∃ state : BackgroundTaskScanState,
      World.start.run 40 30 growingRun = some world ∧
      world.step 40 30 (.closed 1) = some (next, some answer) ∧
      answer.outstanding = some 2 ∧ next.states[answer.state]? = some state ∧
      ascii "b2" ∈ state.live ∧ ascii "d4" ∈ state.live := by
  have hfacts : outcome 40 30 growingRun 1 =
        some (some 2, firstTranscript ++ laterTranscript, 136) ∧
      (0, 24) ∈ monitorStarted.places (firstTranscript ++ laterTranscript) ∧
      (113, 135) ∈ backgroundWithId.places (firstTranscript ++ laterTranscript) ∧
      creationPlaces (firstTranscript ++ laterTranscript) = [(0, 24), (40, 62), (113, 135)] ∧
      successfullyStopped.places (firstTranscript ++ laterTranscript) = [(73, 102)] ∧
      (0x3C : Ascii) ∉ firstTranscript ++ laterTranscript := by
    decide +kernel
  obtain ⟨houtcome, hmonitor, hbackground, hcreated, hstopped, hnotified⟩ := hfacts
  obtain ⟨world, next, answer, state, hrun, hstep, hstate, hanswer, htranscript, hscanned⟩ :=
    outcome_eq_some houtcome
  have hplace : ∀ marker ∈ creationMarkers, ∀ start stop id,
      marker.At next.transcript start stop id →
        (start, stop) ∈ [(0, 24), (40, 62), (113, 135)] := by
    intro marker hmarker start stop id hat
    rw [htranscript] at hat
    exact hcreated ▸ hat.mem_creationPlaces hmarker
  have hlengths : ∀ place ∈ [(0, 24), (40, 62), (113, 135)], place.2 ≤ place.1 + 30 := by decide
  have hapart : ∀ place ∈ [(0, 24), (40, 62), (113, 135)],
      ∀ other ∈ [(0, 24), (40, 62), (113, 135)], other.1 < place.1 → other.2 ≤ place.1 := by
    decide
  obtain ⟨found, hfound, -, hrecorded, -⟩ :=
    transcriptOutstandingBackgroundTasks_misses_none hrun hstep hanswer
      (fun marker hmarker start stop id hat =>
        hlengths _ (hplace marker hmarker start stop id hat))
      (fun marker hmarker start stop id start' stop' id' hat hat' =>
        hapart _ (hplace marker hmarker start stop id hat) _
          (hplace marker hmarker start' stop' id' hat'))
      (by
        rw [htranscript]
        refine runMeets_of_test ?_
        rw [hcreated, hstopped]
        decide +kernel)
  obtain rfl := Option.some.inj (hstate.symm.trans hfound)
  rw [htranscript, hscanned] at hrecorded
  have hids : ascii "b2" = ((firstTranscript ++ laterTranscript).drop
          (0 + monitorStarted.opening.length)).take
        (24 - (0 + monitorStarted.opening.length + monitorStarted.closing.length)) ∧
      ascii "d4" = ((firstTranscript ++ laterTranscript).drop
          (113 + backgroundWithId.opening.length)).take
        (135 - (113 + backgroundWithId.opening.length + backgroundWithId.closing.length)) ∧
      (∀ id ∈ [ascii "b2", ascii "d4"], ∀ place ∈ [(73, 102)],
        id ≠ ((firstTranscript ++ laterTranscript).drop
            (place.1 + successfullyStopped.opening.length)).take
          (place.2 - (place.1 + successfullyStopped.opening.length +
            successfullyStopped.closing.length))) := by
    decide +kernel
  obtain ⟨hb2, hd4, hlive⟩ := hids
  rw [← hstopped] at hlive
  exact ⟨world, next, answer, state, hrun, hstep, hanswer, hstate,
    hrecorded _ (Marker.created_of_mem_places (by simp [creationMarkers]) hmonitor hb2 (by omega))
      (not_terminated hnotified (hlive _ List.mem_cons_self)),
    hrecorded _
      (Marker.created_of_mem_places (by simp [creationMarkers]) hbackground hd4 (by omega))
      (not_terminated hnotified (hlive _ (by simp)))⟩

end Raft.WakeRecycle
