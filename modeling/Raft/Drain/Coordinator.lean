import Mathlib.Data.List.Range
import Mathlib.Data.List.Count
import Raft.Foundation.Run

/-!
# The drain coordinator

Each poll probes every source once and the probes settle in any order, with calls
of `start`, `stop` and `pollOnce` between them.  The first source that reports
the stop fires the drain; a source that fails is reported and polled again.
-/

namespace Raft.Drain

open Raft.Foundation

inductive DrainSignalSourceName where
  | controlPlane
  | metadata
  deriving DecidableEq

/-- What the promise of a probe comes to. -/
inductive Probe where
  | resolved (stopping : Bool)
  | threw
  deriving DecidableEq

def Probe.isResolved : Probe → Bool
  | .resolved _ => true
  | .threw => false

def Probe.stops : Probe → Bool
  | .resolved stopping => stopping
  | .threw => false

inductive Notice where
  | onDrain (source : DrainSignalSourceName)
  | onSourceReadiness (source : DrainSignalSourceName) (ready : Bool)
  /-- Drain callback threw -/
  | warnThrew (source : DrainSignalSourceName)
  | warnFailed (source : DrainSignalSourceName)
  | warnStillFailing (source : DrainSignalSourceName) (failures : Nat)
  deriving DecidableEq

/-- `onSourceReadiness` and `warn` are taken not to throw. -/
structure DrainCoordinatorDeps where
  sources : List DrainSignalSourceName
  warnEvery : Nat
  /-- Whether `onDrain` throws. -/
  throws : Bool

structure DrainCoordinator where
  timer : Bool
  fired : Bool
  firedBy : Option DrainSignalSourceName
  polling : Bool
  ready : DrainSignalSourceName → Option Bool
  consecutiveFailures : DrainSignalSourceName → Nat
  /-- The positions of the sources whose probe of this poll has not settled. -/
  inFlight : List Nat
  /-- The calls of callbacks, newest first. -/
  notices : List Notice
  /-- The number of probes started. -/
  probes : Nat
  /-- What the probes came to, newest first. -/
  settled : List (DrainSignalSourceName × Probe)

inductive DrainEvent where
  | start
  | stop
  /-- The interval elapses. -/
  | tick
  | pollOnce
  | settle (position : Nat) (probe : Probe)
  /-- The `finally` block of a poll runs. -/
  | pollEnds

namespace DrainCoordinator

def createDrainCoordinator : DrainCoordinator :=
  ⟨false, false, none, false, fun _ => none, fun _ => 0, [], [], 0, []⟩

variable (deps : DrainCoordinatorDeps) (coordinator : DrainCoordinator)

def stop : DrainCoordinator := { coordinator with timer := false }

def notify (notice : Notice) : DrainCoordinator :=
  { coordinator with notices := notice :: coordinator.notices }

def fire (source : DrainSignalSourceName) : DrainCoordinator :=
  if coordinator.fired then coordinator
  else
    let stopped := stop { coordinator with fired := true, firedBy := some source }
    let told := stopped.notify (.onDrain source)
    if deps.throws then told.notify (.warnThrew source) else told

def setReady (source : DrainSignalSourceName) (value : Bool) : DrainCoordinator :=
  if coordinator.ready source = some value then coordinator
  else
    { coordinator with ready := Function.update coordinator.ready source (some value) }.notify
      (.onSourceReadiness source value)

def setFailures (source : DrainSignalSourceName) (failures : Nat) : DrainCoordinator :=
  { coordinator with
    consecutiveFailures := Function.update coordinator.consecutiveFailures source failures }

def warnFailure (source : DrainSignalSourceName) (failures : Nat) : DrainCoordinator :=
  if failures = 1 then coordinator.notify (.warnFailed source)
  else if failures % deps.warnEvery = 0 then
    coordinator.notify (.warnStillFailing source failures)
  else coordinator

def noteResult (source : DrainSignalSourceName) (ok : Bool) : DrainCoordinator :=
  if ok then (coordinator.setFailures source 0).setReady source true
  else
    let failures := coordinator.consecutiveFailures source + 1
    ((coordinator.setFailures source failures).setReady source false).warnFailure deps source
      failures

def pollOnce : DrainCoordinator :=
  if coordinator.fired || coordinator.polling then coordinator
  else
    { coordinator with
      polling := true
      inFlight := List.range deps.sources.length
      probes := coordinator.probes + deps.sources.length }

def start : DrainCoordinator :=
  if coordinator.timer then coordinator else pollOnce deps { coordinator with timer := true }

def continueWith (source : DrainSignalSourceName) (probe : Probe) : DrainCoordinator :=
  let noted := coordinator.noteResult deps source probe.isResolved
  if probe.stops then noted.fire deps source else noted

def arrived (position : Nat) (source : DrainSignalSourceName) (probe : Probe) :
    DrainCoordinator :=
  { coordinator with
    inFlight := coordinator.inFlight.erase position
    settled := (source, probe) :: coordinator.settled }

def settle (position : Nat) (probe : Probe) : DrainCoordinator :=
  match deps.sources[position]? with
  | some source =>
      if position ∈ coordinator.inFlight then
        (coordinator.arrived position source probe).continueWith deps source probe
      else coordinator
  | none => coordinator

def step : DrainEvent → DrainCoordinator
  | .start => coordinator.start deps
  | .stop => coordinator.stop
  | .tick => if coordinator.timer then coordinator.pollOnce deps else coordinator
  | .pollOnce => coordinator.pollOnce deps
  | .settle position probe => coordinator.settle deps position probe
  | .pollEnds =>
      if coordinator.inFlight = [] then { coordinator with polling := false } else coordinator

/-! ## What a run has reported -/

def results (source : DrainSignalSourceName) : List Bool :=
  coordinator.settled.filterMap fun entry =>
    if entry.1 = source then some entry.2.isResolved else none

def firstStop : Option DrainSignalSourceName :=
  (coordinator.settled.reverse.find? fun entry => entry.2.stops).map Prod.fst

def drains : List DrainSignalSourceName :=
  coordinator.notices.filterMap fun notice =>
    match notice with
    | .onDrain source => some source
    | .onSourceReadiness _ _ | .warnThrew _ | .warnFailed _ | .warnStillFailing _ _ => none

def reported (source : DrainSignalSourceName) : List Bool :=
  coordinator.notices.filterMap fun notice =>
    match notice with
    | .onSourceReadiness named value => if named = source then some value else none
    | .onDrain _ | .warnThrew _ | .warnFailed _ | .warnStillFailing _ _ => none

variable {deps coordinator}

theorem step_induction {P : DrainCoordinator → Prop}
    (htimer : ∀ (coordinator : DrainCoordinator) (timer : Bool), P coordinator →
      P { coordinator with timer := timer })
    (hpoll : ∀ coordinator, P coordinator → P (coordinator.pollOnce deps))
    (harrived : ∀ (coordinator : DrainCoordinator) (position : Nat) (source : DrainSignalSourceName)
      (probe : Probe), position ∈ coordinator.inFlight → P coordinator →
        P ((coordinator.arrived position source probe).continueWith deps source probe))
    (hends : ∀ coordinator : DrainCoordinator, coordinator.inFlight = [] → P coordinator →
      P { coordinator with polling := false })
    (coordinator : DrainCoordinator) (event : DrainEvent) (h : P coordinator) :
    P (coordinator.step deps event) := by
  cases event with
  | start =>
      unfold DrainCoordinator.step DrainCoordinator.start
      dsimp only
      split
      · exact h
      · exact hpoll _ (htimer coordinator true h)
  | stop => exact htimer coordinator false h
  | tick =>
      unfold DrainCoordinator.step
      dsimp only
      split
      · exact hpoll coordinator h
      · exact h
  | pollOnce => exact hpoll coordinator h
  | settle position probe =>
      unfold DrainCoordinator.step DrainCoordinator.settle
      dsimp only
      split
      · rename_i source _
        split
        · rename_i hmem
          exact harrived coordinator position source probe hmem h
        · exact h
      · exact h
  | pollEnds =>
      unfold DrainCoordinator.step
      dsimp only
      split
      · rename_i hnone
        exact hends coordinator hnone h
      · exact h

/-! ## The latch -/

/-- The drain was called for the source that latched, and for the first that reported the stop. -/
structure Latched (coordinator : DrainCoordinator) : Prop where
  fired : coordinator.fired = coordinator.firedBy.isSome
  drains : coordinator.drains = coordinator.firedBy.toList
  first : coordinator.firedBy = coordinator.firstStop

structure SameLatch (before after : DrainCoordinator) : Prop where
  fired : after.fired = before.fired
  firedBy : after.firedBy = before.firedBy
  drains : after.drains = before.drains
  settled : after.settled = before.settled

structure SameBooks (before after : DrainCoordinator) : Prop where
  settled : after.settled = before.settled
  inFlight : after.inFlight = before.inFlight
  polling : after.polling = before.polling
  probes : after.probes = before.probes

structure OnlyReports (before after : DrainCoordinator) : Prop
    extends SameLatch before after, SameBooks before after

theorem OnlyReports.refl (coordinator : DrainCoordinator) : OnlyReports coordinator coordinator :=
  ⟨⟨rfl, rfl, rfl, rfl⟩, rfl, rfl, rfl⟩

theorem OnlyReports.trans {first second third : DrainCoordinator} (h : OnlyReports first second)
    (hnext : OnlyReports second third) : OnlyReports first third :=
  ⟨⟨hnext.fired.trans h.fired, hnext.firedBy.trans h.firedBy, hnext.drains.trans h.drains,
    hnext.settled.trans h.settled⟩, hnext.inFlight.trans h.inFlight,
    hnext.polling.trans h.polling, hnext.probes.trans h.probes⟩

theorem onlyReports_setFailures (source : DrainSignalSourceName) (failures : Nat) :
    OnlyReports coordinator (coordinator.setFailures source failures) :=
  ⟨⟨rfl, rfl, rfl, rfl⟩, rfl, rfl, rfl⟩

theorem onlyReports_setReady (source : DrainSignalSourceName) (value : Bool) :
    OnlyReports coordinator (coordinator.setReady source value) := by
  unfold setReady
  split
  · exact .refl coordinator
  · exact ⟨⟨rfl, rfl, rfl, rfl⟩, rfl, rfl, rfl⟩

theorem onlyReports_warnFailure (source : DrainSignalSourceName) (failures : Nat) :
    OnlyReports coordinator (coordinator.warnFailure deps source failures) := by
  unfold warnFailure
  split
  · exact ⟨⟨rfl, rfl, rfl, rfl⟩, rfl, rfl, rfl⟩
  · split
    · exact ⟨⟨rfl, rfl, rfl, rfl⟩, rfl, rfl, rfl⟩
    · exact .refl coordinator

theorem onlyReports_noteResult (source : DrainSignalSourceName) (ok : Bool) :
    OnlyReports coordinator (coordinator.noteResult deps source ok) := by
  unfold noteResult
  split
  · exact (onlyReports_setFailures source 0).trans (onlyReports_setReady source true)
  · exact ((onlyReports_setFailures source _).trans (onlyReports_setReady source false)).trans
      (onlyReports_warnFailure source _)

theorem Latched.of_same {before after : DrainCoordinator} (h : Latched before)
    (hsame : SameLatch before after) : Latched after where
  fired := by rw [hsame.fired, hsame.firedBy, h.fired]
  drains := by rw [hsame.drains, hsame.firedBy, h.drains]
  first := by
    rw [hsame.firedBy, h.first, firstStop, firstStop, hsame.settled]

theorem sameLatch_pollOnce : SameLatch coordinator (coordinator.pollOnce deps) := by
  unfold pollOnce
  split
  · exact ⟨rfl, rfl, rfl, rfl⟩
  · exact ⟨rfl, rfl, rfl, rfl⟩

theorem fire_cases (deps : DrainCoordinatorDeps) (coordinator : DrainCoordinator)
    (source : DrainSignalSourceName) :
    (coordinator.fired = true ∧ coordinator.fire deps source = coordinator) ∨
      (coordinator.fired = false ∧ ∃ warnings, (warnings = [] ∨ warnings = [.warnThrew source]) ∧
        coordinator.fire deps source =
          { coordinator with
            timer := false
            fired := true
            firedBy := some source
            notices := warnings ++ .onDrain source :: coordinator.notices }) := by
  unfold fire
  split
  · rename_i h
    exact .inl ⟨h, rfl⟩
  · rename_i h
    refine .inr ⟨eq_false_of_ne_true h, ?_⟩
    dsimp only
    split
    · exact ⟨_, .inr rfl, rfl⟩
    · exact ⟨_, .inl rfl, rfl⟩

theorem latch_fire (hfired : coordinator.fired = coordinator.firedBy.isSome)
    (hdrains : coordinator.drains = coordinator.firedBy.toList) (source : DrainSignalSourceName) :
    (coordinator.fire deps source).firedBy = coordinator.firedBy.or (some source) ∧
      (coordinator.fire deps source).fired = true ∧
      (coordinator.fire deps source).drains = (coordinator.firedBy.or (some source)).toList := by
  rcases fire_cases deps coordinator source with ⟨hclosed, heq⟩ | ⟨hopen, warnings, hwarnings, heq⟩
  · obtain ⟨found, hfound⟩ := Option.isSome_iff_exists.mp (hfired.symm.trans hclosed)
    rw [heq, hdrains, hfound]
    exact ⟨rfl, hclosed, rfl⟩
  · have hnone : coordinator.firedBy = none := by
      rw [hopen] at hfired
      exact Option.isNone_iff_eq_none.mp (Option.isSome_eq_false_iff.mp hfired.symm)
    have hbefore : coordinator.drains = [] := by
      rw [hdrains, hnone]
      rfl
    rw [heq, hnone]
    refine ⟨rfl, rfl, ?_⟩
    have htold : source :: coordinator.drains = [source] := by rw [hbefore]
    rcases hwarnings with rfl | rfl
    · exact htold
    · exact htold

theorem sameBooks_fire (source : DrainSignalSourceName) :
    SameBooks coordinator (coordinator.fire deps source) := by
  rcases fire_cases deps coordinator source with ⟨-, heq⟩ | ⟨-, warnings, -, heq⟩
  · rw [heq]
    exact ⟨rfl, rfl, rfl, rfl⟩
  · rw [heq]
    exact ⟨rfl, rfl, rfl, rfl⟩

theorem firstStop_of_settled {before after : DrainCoordinator} {source : DrainSignalSourceName}
    {probe : Probe} (h : after.settled = (source, probe) :: before.settled) :
    after.firstStop = before.firstStop.or (if probe.stops then some source else none) := by
  rw [firstStop, h, List.reverse_cons, List.find?_append, Option.map_or]
  congr 1
  cases probe with
  | threw => rfl
  | resolved stopping =>
      cases stopping with
      | false => rfl
      | true => rfl

theorem Latched.arrived (h : Latched coordinator) (source : DrainSignalSourceName)
    (probe : Probe) (position : Nat) :
    Latched ((coordinator.arrived position source probe).continueWith deps source probe) := by
  unfold DrainCoordinator.continueWith
  have hnoted : OnlyReports (coordinator.arrived position source probe)
      ((coordinator.arrived position source probe).noteResult deps source probe.isResolved) :=
    onlyReports_noteResult source probe.isResolved
  generalize (coordinator.arrived position source probe).noteResult deps source
    probe.isResolved = noted at hnoted ⊢
  have hfired : noted.fired = noted.firedBy.isSome := by
    rw [hnoted.fired, hnoted.firedBy]
    exact h.fired
  have hdrains : noted.drains = noted.firedBy.toList := by
    rw [hnoted.drains, hnoted.firedBy]
    exact h.drains
  have hby : noted.firedBy = coordinator.firstStop := hnoted.firedBy.trans h.first
  have hfirst : noted.firstStop =
      coordinator.firstStop.or (if probe.stops then some source else none) :=
    firstStop_of_settled hnoted.settled
  dsimp only
  split
  · rename_i hstops
    obtain ⟨hfiredBy, hclosed, htold⟩ :
        (noted.fire deps source).firedBy = noted.firedBy.or (some source) ∧
          (noted.fire deps source).fired = true ∧
          (noted.fire deps source).drains = (noted.firedBy.or (some source)).toList :=
      latch_fire hfired hdrains source
    have hsettled : (noted.fire deps source).settled = noted.settled :=
      (sameBooks_fire source).settled
    refine ⟨?_, ?_, ?_⟩
    · rw [hclosed, hfiredBy, Option.isSome_or, Option.isSome_some, Bool.or_true]
    · rw [htold, hfiredBy]
    · rw [hfiredBy, firstStop, hsettled, ← firstStop, hfirst, if_pos hstops, hby]
  · rename_i hgoes
    refine ⟨hfired, hdrains, ?_⟩
    rw [hfirst, if_neg hgoes, Option.or_none, hby]

theorem latched_step (coordinator : DrainCoordinator) (event : DrainEvent)
    (h : Latched coordinator) : Latched (coordinator.step deps event) := by
  refine step_induction ?_ ?_ ?_ ?_ coordinator event h
  · exact fun _ _ h => h.of_same ⟨rfl, rfl, rfl, rfl⟩
  · exact fun _ h => h.of_same sameLatch_pollOnce
  · exact fun _ position source probe _ h => h.arrived source probe position
  · exact fun _ _ h => h.of_same ⟨rfl, rfl, rfl, rfl⟩

/-! ## What is reported of a source -/

/-- The readiness of a source is that of its last probe, reported where it changed; the failures are
counted since the last success, and every turn to not ready warns once. -/
structure Reported (coordinator : DrainCoordinator) (source : DrainSignalSourceName) : Prop where
  ready : coordinator.ready source = (coordinator.results source).head?
  failures : coordinator.consecutiveFailures source =
    ((coordinator.results source).takeWhile fun ok => !ok).length
  head : (coordinator.reported source).head? = coordinator.ready source
  alternates : (coordinator.reported source).IsChain fun newer older => newer ≠ older
  warned : coordinator.notices.count (.warnFailed source) =
    (coordinator.reported source).count false

structure SameReports (before after : DrainCoordinator) : Prop where
  ready : after.ready = before.ready
  failures : after.consecutiveFailures = before.consecutiveFailures
  settled : after.settled = before.settled
  reported : ∀ source, after.reported source = before.reported source
  warned : ∀ source, after.notices.count (.warnFailed source) =
    before.notices.count (.warnFailed source)

theorem Reported.of_same {before after : DrainCoordinator} {source : DrainSignalSourceName}
    (h : Reported before source) (hsame : SameReports before after) : Reported after source := by
  have hresults : after.results source = before.results source := by
    rw [results, results, hsame.settled]
  refine ⟨?_, ?_, ?_, ?_, ?_⟩
  · rw [hsame.ready, hresults, h.ready]
  · rw [hsame.failures, hresults, h.failures]
  · rw [hsame.ready, hsame.reported, h.head]
  · rw [hsame.reported]
    exact h.alternates
  · rw [hsame.warned, hsame.reported, h.warned]

theorem sameReports_fire (source : DrainSignalSourceName) :
    SameReports coordinator (coordinator.fire deps source) := by
  rcases fire_cases deps coordinator source with ⟨-, heq⟩ | ⟨-, warnings, hwarnings, heq⟩
  · rw [heq]
    exact ⟨rfl, rfl, rfl, fun _ => rfl, fun _ => rfl⟩
  · rw [heq]
    rcases hwarnings with rfl | rfl
    · exact ⟨rfl, rfl, rfl, fun _ => rfl, fun named => by simp⟩
    · exact ⟨rfl, rfl, rfl, fun _ => rfl, fun named => by simp⟩

theorem sameReports_pollOnce : SameReports coordinator (coordinator.pollOnce deps) := by
  unfold pollOnce
  split
  · exact ⟨rfl, rfl, rfl, fun _ => rfl, fun _ => rfl⟩
  · exact ⟨rfl, rfl, rfl, fun _ => rfl, fun _ => rfl⟩

theorem ready_setReady (source : DrainSignalSourceName) (value : Bool) :
    (coordinator.setReady source value).ready =
      Function.update coordinator.ready source (some value) := by
  unfold setReady
  split
  · rename_i h
    rw [← h, Function.update_eq_self]
  · rfl

theorem reported_setReady (source named : DrainSignalSourceName) (value : Bool) :
    (coordinator.setReady source value).reported named =
      if coordinator.ready source ≠ some value ∧ source = named then
        value :: coordinator.reported named
      else coordinator.reported named := by
  unfold setReady
  split
  · rename_i h
    rw [if_neg fun hboth => hboth.1 h]
  · rename_i h
    by_cases hsame : source = named
    · rw [if_pos ⟨h, hsame⟩]
      simp [reported, notify, hsame]
    · rw [if_neg fun hboth => hsame hboth.2]
      simp [reported, notify, hsame]

theorem count_setReady (source named : DrainSignalSourceName) (value : Bool) :
    (coordinator.setReady source value).notices.count (.warnFailed named) =
      coordinator.notices.count (.warnFailed named) := by
  unfold setReady
  split
  · rfl
  · simp [notify]

theorem ready_warnFailure (source : DrainSignalSourceName) (failures : Nat) :
    (coordinator.warnFailure deps source failures).ready = coordinator.ready := by
  unfold warnFailure
  split
  · rfl
  · split
    · rfl
    · rfl

theorem reported_warnFailure (source named : DrainSignalSourceName) (failures : Nat) :
    (coordinator.warnFailure deps source failures).reported named =
      coordinator.reported named := by
  unfold warnFailure
  split
  · rfl
  · split
    · rfl
    · rfl

theorem count_warnFailure (source named : DrainSignalSourceName) (failures : Nat) :
    (coordinator.warnFailure deps source failures).notices.count (.warnFailed named) =
      coordinator.notices.count (.warnFailed named) +
        if failures = 1 ∧ source = named then 1 else 0 := by
  unfold warnFailure
  split
  · rename_i h
    simp [notify, h, List.count_cons]
  · rename_i h
    split
    · simp [notify, h]
    · simp [h]

theorem ready_noteResult (source : DrainSignalSourceName) (ok : Bool) :
    (coordinator.noteResult deps source ok).ready =
      Function.update coordinator.ready source (some ok) := by
  unfold noteResult
  cases ok with
  | true => exact ready_setReady source true
  | false => exact (ready_warnFailure source _).trans (ready_setReady source false)

theorem reported_noteResult (source named : DrainSignalSourceName) (ok : Bool) :
    (coordinator.noteResult deps source ok).reported named =
      if coordinator.ready source ≠ some ok ∧ source = named then
        ok :: coordinator.reported named
      else coordinator.reported named := by
  unfold noteResult
  cases ok with
  | true => exact reported_setReady source named true
  | false =>
      exact (reported_warnFailure source named _).trans (reported_setReady source named false)

theorem failures_setReady (source : DrainSignalSourceName) (value : Bool) :
    (coordinator.setReady source value).consecutiveFailures = coordinator.consecutiveFailures := by
  unfold setReady
  split
  · rfl
  · rfl

theorem failures_warnFailure (source : DrainSignalSourceName) (failures : Nat) :
    (coordinator.warnFailure deps source failures).consecutiveFailures =
      coordinator.consecutiveFailures := by
  unfold warnFailure
  split
  · rfl
  · split
    · rfl
    · rfl

theorem failures_noteResult (source : DrainSignalSourceName) (ok : Bool) :
    (coordinator.noteResult deps source ok).consecutiveFailures =
      Function.update coordinator.consecutiveFailures source
        (if ok then 0 else coordinator.consecutiveFailures source + 1) := by
  unfold noteResult
  cases ok with
  | true => exact failures_setReady source true
  | false => exact (failures_warnFailure source _).trans (failures_setReady source false)

theorem count_noteResult (source named : DrainSignalSourceName) (ok : Bool) :
    (coordinator.noteResult deps source ok).notices.count (.warnFailed named) =
      coordinator.notices.count (.warnFailed named) +
        if ok = false ∧ coordinator.consecutiveFailures source = 0 ∧ source = named then 1
        else 0 := by
  unfold noteResult
  cases ok with
  | true => exact count_setReady source named true
  | false =>
      refine (count_warnFailure source named _).trans ?_
      rw [count_setReady]
      simp [setFailures]

theorem takeWhile_length_eq_zero (results : List Bool) :
    (results.takeWhile fun ok => !ok).length = 0 ↔ results.head? ≠ some false := by
  cases results with
  | nil => simp
  | cons ok results =>
      cases ok with
      | true => simp
      | false => simp

theorem isChain_cons_of_head {value : Bool} {values : List Bool}
    (h : values.IsChain fun newer older => newer ≠ older) (hhead : values.head? ≠ some value) :
    (value :: values).IsChain fun newer older => newer ≠ older := by
  cases values with
  | nil => exact .singleton value
  | cons next values =>
      refine .cons_cons (fun heq => hhead ?_) h
      rw [heq]
      rfl

theorem results_of_settled {before after : DrainCoordinator} {source : DrainSignalSourceName}
    {probe : Probe} (h : after.settled = (source, probe) :: before.settled)
    (named : DrainSignalSourceName) :
    after.results named = if source = named then probe.isResolved :: before.results named
      else before.results named := by
  rw [results, h, List.filterMap_cons]
  by_cases hsame : source = named
  · rw [if_pos hsame, if_pos hsame]
    rfl
  · rw [if_neg hsame, if_neg hsame]
    rfl

theorem Reported.noted {before after : DrainCoordinator} {source named : DrainSignalSourceName}
    {probe : Probe} (h : Reported before named)
    (hsettled : after.settled = (source, probe) :: before.settled)
    (hready : after.ready = Function.update before.ready source (some probe.isResolved))
    (hfailures : after.consecutiveFailures = Function.update before.consecutiveFailures source
      (if probe.isResolved then 0 else before.consecutiveFailures source + 1))
    (hreported : after.reported named =
      if before.ready source ≠ some probe.isResolved ∧ source = named then
        probe.isResolved :: before.reported named
      else before.reported named)
    (hwarned : after.notices.count (.warnFailed named) = before.notices.count (.warnFailed named) +
      if probe.isResolved = false ∧ before.consecutiveFailures source = 0 ∧ source = named then 1
      else 0) : Reported after named := by
  have hresults := results_of_settled hsettled named
  by_cases hsame : source = named
  · subst hsame
    rw [if_pos rfl] at hresults
    have hnow : after.ready source = some probe.isResolved := by
      rw [hready, Function.update_self]
    refine ⟨?_, ?_, ?_, ?_, ?_⟩
    · rw [hnow, hresults]
      rfl
    · rw [hfailures, Function.update_self, hresults, h.failures]
      cases probe.isResolved with
      | true => rfl
      | false => rfl
    · rw [hnow, hreported]
      split
      · rfl
      · rename_i hkept
        rw [h.head]
        exact not_not.mp fun hne => hkept ⟨hne, rfl⟩
    · rw [hreported]
      split
      · rename_i hturned
        exact isChain_cons_of_head h.alternates fun heq => hturned.1 (h.head.symm.trans heq)
      · exact h.alternates
    · -- The first failure is the one that turns the source to not ready.
      have hturns : before.consecutiveFailures source = 0 ↔ before.ready source ≠ some false := by
        rw [h.failures, h.ready]
        exact takeWhile_length_eq_zero _
      rw [hwarned, hreported]
      cases probe.isResolved with
      | true =>
          rw [if_neg (by simp), h.warned]
          split
          · rfl
          · rfl
      | false =>
          by_cases hbefore : before.ready source = some false
          · rw [if_neg fun hboth => hturns.mp hboth.2.1 hbefore, if_neg fun hboth =>
              hboth.1 hbefore,
              h.warned]
            rfl
          · rw [if_pos ⟨rfl, hturns.mpr hbefore, rfl⟩, if_pos ⟨hbefore, rfl⟩, List.count_cons_self,
              h.warned]
  · rw [if_neg hsame] at hresults
    rw [if_neg fun hboth => hsame hboth.2] at hreported
    rw [if_neg fun hboth => hsame hboth.2.2, Nat.add_zero] at hwarned
    have hother : named ≠ source := fun heq => hsame heq.symm
    refine ⟨?_, ?_, ?_, ?_, ?_⟩
    · rw [hready, Function.update_of_ne hother, hresults, h.ready]
    · rw [hfailures, Function.update_of_ne hother, hresults, h.failures]
    · rw [hreported, hready, Function.update_of_ne hother, h.head]
    · rw [hreported]
      exact h.alternates
    · rw [hwarned, hreported, h.warned]

theorem Reported.arrived {named : DrainSignalSourceName} (h : Reported coordinator named)
    (source : DrainSignalSourceName) (probe : Probe) (position : Nat) :
    Reported ((coordinator.arrived position source probe).continueWith deps source probe)
      named := by
  have hnoted : Reported ((coordinator.arrived position source probe).noteResult deps source
      probe.isResolved) named :=
    h.noted (onlyReports_noteResult source probe.isResolved).settled (ready_noteResult _ _)
      (failures_noteResult _ _) (reported_noteResult _ _ _) (count_noteResult _ _ _)
  unfold DrainCoordinator.continueWith
  dsimp only
  split
  · exact hnoted.of_same (sameReports_fire source)
  · exact hnoted

theorem reported_step (source : DrainSignalSourceName) (coordinator : DrainCoordinator)
    (event : DrainEvent) (h : Reported coordinator source) :
    Reported (coordinator.step deps event) source := by
  refine @step_induction deps (fun coordinator => Reported coordinator source) ?_ ?_ ?_ ?_
    coordinator event h
  · exact fun _ _ h => h.of_same ⟨rfl, rfl, rfl, fun _ => rfl, fun _ => rfl⟩
  · exact fun _ h => h.of_same sameReports_pollOnce
  · exact fun _ position found probe _ h => h.arrived found probe position
  · exact fun _ _ h => h.of_same ⟨rfl, rfl, rfl, fun _ => rfl, fun _ => rfl⟩

/-! ## The probes in flight -/

/-- A poll is in flight as long as one of its probes is, and each probe settles once. -/
structure Booked (deps : DrainCoordinatorDeps) (coordinator : DrainCoordinator) : Prop where
  once : coordinator.inFlight.Nodup
  sources : ∀ position ∈ coordinator.inFlight, position < deps.sources.length
  polling : coordinator.inFlight ≠ [] → coordinator.polling = true
  probes : coordinator.probes = coordinator.settled.length + coordinator.inFlight.length

theorem Booked.pollOnce (h : Booked deps coordinator) :
    Booked deps (coordinator.pollOnce deps) := by
  unfold DrainCoordinator.pollOnce
  split
  · exact h
  · rename_i hidle
    have hnone : coordinator.inFlight = [] := by
      by_contra hsome
      rw [h.polling hsome, Bool.or_true] at hidle
      exact hidle rfl
    refine ⟨List.nodup_range, fun position hmem => List.mem_range.mp hmem, fun _ => rfl, ?_⟩
    have hbefore := h.probes
    rw [hnone] at hbefore
    dsimp only
    rw [hbefore, List.length_range]
    rfl

theorem Booked.arrived (h : Booked deps coordinator) (source : DrainSignalSourceName)
    (probe : Probe) {position : Nat} (hmem : position ∈ coordinator.inFlight) :
    Booked deps (coordinator.arrived position source probe) where
  once := h.once.erase position
  sources := fun other hother => h.sources other (List.mem_of_mem_erase hother)
  polling := fun _ => h.polling (List.ne_nil_of_mem hmem)
  probes := by
    have hpos := List.length_pos_of_mem hmem
    rw [DrainCoordinator.arrived]
    dsimp only
    rw [h.probes, List.length_cons, List.length_erase_of_mem hmem]
    omega

theorem Booked.of_same {before after : DrainCoordinator} (h : Booked deps before)
    (hsame : SameBooks before after) : Booked deps after where
  once := hsame.inFlight ▸ h.once
  sources := hsame.inFlight ▸ h.sources
  polling := by
    rw [hsame.inFlight, hsame.polling]
    exact h.polling
  probes := by rw [hsame.probes, hsame.settled, hsame.inFlight, h.probes]

theorem SameBooks.trans {first second third : DrainCoordinator} (h : SameBooks first second)
    (hnext : SameBooks second third) : SameBooks first third :=
  ⟨hnext.settled.trans h.settled, hnext.inFlight.trans h.inFlight, hnext.polling.trans h.polling,
    hnext.probes.trans h.probes⟩

theorem sameBooks_continueWith (source : DrainSignalSourceName) (probe : Probe) :
    SameBooks coordinator (coordinator.continueWith deps source probe) := by
  unfold continueWith
  dsimp only
  split
  · exact (onlyReports_noteResult source _).toSameBooks.trans (sameBooks_fire source)
  · exact (onlyReports_noteResult source _).toSameBooks

theorem booked_step (coordinator : DrainCoordinator) (event : DrainEvent)
    (h : Booked deps coordinator) : Booked deps (coordinator.step deps event) := by
  refine step_induction ?_ ?_ ?_ ?_ coordinator event h
  · exact fun _ _ h => h.of_same ⟨rfl, rfl, rfl, rfl⟩
  · exact fun _ h => h.pollOnce
  · exact fun _ _ source probe hmem h =>
      (h.arrived source probe hmem).of_same (sameBooks_continueWith source probe)
  · exact fun _ hnone h => ⟨h.once, h.sources, fun hsome => absurd hnone hsome, h.probes⟩

/-! ## Every run -/

structure Closed (source : Option DrainSignalSourceName) (probes : Nat)
    (coordinator : DrainCoordinator) : Prop where
  fired : coordinator.fired = true
  firedBy : coordinator.firedBy = source
  probes_eq : coordinator.probes = probes

theorem Closed.pollOnce {source : Option DrainSignalSourceName} {probes : Nat}
    (h : Closed source probes coordinator) : Closed source probes (coordinator.pollOnce deps) := by
  unfold DrainCoordinator.pollOnce
  rw [h.fired, Bool.true_or, if_pos rfl]
  exact h

theorem Closed.arrived {source : Option DrainSignalSourceName} {probes : Nat}
    (h : Closed source probes coordinator) (position : Nat) (found : DrainSignalSourceName)
    (probe : Probe) :
    Closed source probes
      ((coordinator.arrived position found probe).continueWith deps found probe) := by
  have hnoted : OnlyReports (coordinator.arrived position found probe)
      ((coordinator.arrived position found probe).noteResult deps found probe.isResolved) :=
    onlyReports_noteResult found probe.isResolved
  have hkept : (coordinator.arrived position found probe).continueWith deps found probe =
      (coordinator.arrived position found probe).noteResult deps found probe.isResolved := by
    unfold DrainCoordinator.continueWith DrainCoordinator.fire
    dsimp only
    rw [if_pos (hnoted.fired.trans h.fired), ite_self]
  refine ⟨?_, ?_, ?_⟩
  · rw [hkept]
    exact hnoted.fired.trans h.fired
  · rw [hkept]
    exact hnoted.firedBy.trans h.firedBy
  · exact (sameBooks_continueWith found probe).probes.trans h.probes_eq

theorem closed_step (source : Option DrainSignalSourceName) (probes : Nat)
    (coordinator : DrainCoordinator) (event : DrainEvent) (h : Closed source probes coordinator) :
    Closed source probes (coordinator.step deps event) := by
  refine step_induction ?_ ?_ ?_ ?_ coordinator event h
  · exact fun _ _ h => ⟨h.fired, h.firedBy, h.probes_eq⟩
  · exact fun _ h => h.pollOnce
  · exact fun _ position found probe _ h => h.arrived position found probe
  · exact fun _ _ h => ⟨h.fired, h.firedBy, h.probes_eq⟩

theorem latched_create : Latched createDrainCoordinator := ⟨rfl, rfl, rfl⟩

theorem reported_create (source : DrainSignalSourceName) : Reported createDrainCoordinator source :=
  ⟨rfl, rfl, rfl, .nil, rfl⟩

theorem booked_create : Booked deps createDrainCoordinator :=
  ⟨.nil, fun _ hmem => absurd hmem List.not_mem_nil, fun hsome => absurd rfl hsome, rfl⟩

/-- Over every order of calls, ticks and settling probes: the drain is called once, for the source
that was the first to report the stop, and not before; from then on no probe is started.  The
readiness of a source is that of its last probe and was reported exactly where it changed, with one
warning for every turn to not ready; no poll starts while a probe of the one before is in flight,
and each probe settles at most once. -/
theorem drainCoordinator_run (deps : DrainCoordinatorDeps) (events : List DrainEvent) :
    let state := run (step deps) createDrainCoordinator events
    state.drains = state.firedBy.toList ∧ state.fired = state.firedBy.isSome ∧
      state.firedBy = state.firstStop ∧
      (state.fired = true → ∀ more, (run (step deps) state more).firedBy = state.firedBy ∧
        (run (step deps) state more).probes = state.probes) ∧
      (∀ source, Reported state source) ∧ Booked deps state := by
  intro state
  have hlatched : Latched state :=
    run_invariant Latched events latched_step latched_create
  have hreported : ∀ source, Reported state source := fun source =>
    run_invariant (fun coordinator => Reported coordinator source) events (reported_step source)
      (reported_create source)
  have hbooked : Booked deps state :=
    run_invariant (Booked deps) events booked_step booked_create
  refine ⟨hlatched.drains, hlatched.fired, hlatched.first, fun hfired more => ?_, hreported,
    hbooked⟩
  have hclosed : Closed state.firedBy state.probes (run (step deps) state more) :=
    run_invariant (Closed state.firedBy state.probes) more
      (closed_step state.firedBy state.probes) ⟨hfired, rfl, rfl⟩
  exact ⟨hclosed.firedBy, hclosed.probes_eq⟩

end DrainCoordinator

end Raft.Drain
