import Mathlib.Data.List.Nodup
import Raft.Foundation.Run
import Raft.RapTimer.Runtime

/-!
# Runs of the timer runtime

A four-tuple has at most one outstanding schedule: the latest accepted one,
until it is cancelled or dispatched.  The map of the runtime holds exactly the
outstanding schedules, each of them with a platform timer that can still run,
and what is dispatched was outstanding.
-/

namespace Raft.RapTimer

open Raft.Foundation

/-! ## Outstanding schedules -/

def endedBy (tuple : RapTimerCancelInput) (current : Option Nat) : Event → Option Nat
  | .accepted object input =>
      if input.toRapTimerCancelInput = tuple then some object else current
  | .cancelled input => if input = tuple then none else current
  | .dispatched object _ _ => if current = some object then none else current

def outstanding (trace : List Event) (tuple : RapTimerCancelInput) : Option Nat :=
  trace.foldl (endedBy tuple) none

theorem outstanding_concat (trace : List Event) (event : Event) (tuple : RapTimerCancelInput) :
    outstanding (trace ++ [event]) tuple = endedBy tuple (outstanding trace tuple) event := by
  rw [outstanding, List.foldl_append]
  rfl

def acceptedObject : Event → Option Nat
  | .accepted object _ => some object
  | _ => none

def dispatchedObject : Event → Option Nat
  | .dispatched object _ _ => some object
  | _ => none

def timerOf (runtime : Runtime) (tuple : RapTimerCancelInput) :
    Option (TimerEntry × PlatformTimer) := do
  let object ← runtime.entries.get (timerKey tuple)
  let entry ← runtime.objects[object]?
  let handle ← entry.handle
  let timer ← runtime.timers[handle]?
  some (entry, timer)

def operationTuple (runtime : Runtime) : Operation → Option RapTimerCancelInput
  | .schedule input _ => some input.toRapTimerCancelInput
  | .cancel input => some input
  | .callback handle _ _ => do
      let object ← callbackEntry runtime handle
      let entry ← runtime.objects[object]?
      some entry.input

/-- The timer is due by the time at which to fire, or at once when that had passed. -/
def OnTime (entry : TimerEntry) (timer : PlatformTimer) : Prop :=
  timer.dueAt ≤ entry.fireAtMs ∨
    (timer.dueAt = timer.armedAt ∧ (entry.fireAtMs : Int) < timer.armedAt)

/-- The dispatched schedule was accepted and outstanding, its time had come, and its own data is
handed over. -/
def Honest (json : Json) (before : List Event) (object : Nat) (now : Int) (due : DueInput) :
    Prop :=
  ∃ input fireAtMs serializedData, .accepted object input ∈ before ∧
    assertScheduleInput json input = .ok (fireAtMs, serializedData) ∧
    outstanding before input.toRapTimerCancelInput = some object ∧ (fireAtMs : Int) ≤ now ∧
    due = ⟨input.serverId, input.appId, input.subjectAgentId,
      json.parse (json.stringify input.data)⟩

theorem serializedData_eq {json : Json} {input : RapTimerScheduleInput} {fireAtMs : Nat}
    {serializedData : JsString}
    (h : assertScheduleInput json input = .ok (fireAtMs, serializedData)) :
    serializedData = json.stringify input.data := by
  rw [assertScheduleInput] at h
  cases hfire : input.fireAtMs.safeNat with
  | none => simp [hfire] at h
  | some time =>
      rw [hfire] at h
      cases hsource : assertSourceId input.sourceId with
      | error message => simp [hsource, bind, Except.bind] at h
      | ok checked =>
          simp only [hsource, bind, Except.bind] at h
          split at h
          · cases h
          · split at h
            · cases h
            · exact (Prod.mk.inj (Except.ok.inj h)).2.symm

theorem timerKey_injective : Function.Injective timerKey := by
  intro first second h
  have hparts := jsonStrings_injective h
  cases first
  cases second
  simpa using hparts

/-! ## Effects on one entry -/

def recordOf (entry : TimerEntry) : TimerEntry := { entry with handle := none }

def records (runtime : Runtime) : List TimerEntry := runtime.objects.map recordOf

structure Untouched (runtime next : Runtime) (object : Nat) : Prop where
  entry : next.objects[object]? = runtime.objects[object]?
  timers : ∀ (handle : Nat) (timer : PlatformTimer), runtime.timers[handle]? = some timer →
    timer.entry = object → next.timers[handle]? = some timer

/-- The entry has a platform timer that is neither cleared nor spent, and that is on time. -/
def Live (runtime : Runtime) (object : Nat) : Prop :=
  ∃ entry handle timer, runtime.objects[object]? = some entry ∧ entry.handle = some handle ∧
    runtime.timers[handle]? = some timer ∧ timer.entry = object ∧ timer.cleared = false ∧
    timer.ran = false ∧ OnTime entry timer

section

variable {json : Json} {runtime middle next : Runtime} {object other : Nat}

theorem Untouched.refl (runtime : Runtime) (object : Nat) : Untouched runtime runtime object :=
  ⟨rfl, fun _ _ h _ => h⟩

theorem Untouched.trans (h : Untouched runtime middle object)
    (h' : Untouched middle next object) : Untouched runtime next object :=
  ⟨h'.entry.trans h.entry, fun handle timer htimer howner =>
    h'.timers handle timer (h.timers handle timer htimer howner) howner⟩

theorem Live.of_untouched (h : Live runtime object) (hsame : Untouched runtime next object) :
    Live next object := by
  obtain ⟨entry, handle, timer, hentry, hhandle, htimer, howner, hrest⟩ := h
  exact ⟨entry, handle, timer, hsame.entry.trans hentry, hhandle,
    hsame.timers handle timer htimer howner, howner, hrest⟩

theorem getElem?_records (runtime : Runtime) (object : Nat) :
    (records runtime)[object]? = runtime.objects[object]?.map recordOf :=
  List.getElem?_map

theorem onTime_armed (entry : TimerEntry) (object : Nat) (now : Int) :
    OnTime entry
      ⟨object, now, now + min (max 0 (entry.fireAtMs - now)) MAX_PLATFORM_DELAY_MS, false,
        false⟩ := by
  simp only [OnTime, MAX_PLATFORM_DELAY_MS]
  omega

theorem arm_eq {entry : TimerEntry} (hentry : runtime.objects[object]? = some entry) (now : Int) :
    runtime.arm object now =
      { runtime with
        timers := runtime.timers ++ [⟨object, now,
          now + min (max 0 (entry.fireAtMs - now)) MAX_PLATFORM_DELAY_MS, false, false⟩]
        objects := runtime.objects.set object
          { entry with handle := some runtime.timers.length } } := by
  rw [Runtime.arm, hentry]

theorem records_arm (object : Nat) (now : Int) :
    records (runtime.arm object now) = records runtime := by
  cases hentry : runtime.objects[object]? with
  | none => rw [Runtime.arm, hentry]
  | some entry =>
      rw [arm_eq hentry]
      apply List.ext_getElem?
      intro index
      rw [getElem?_records, getElem?_records, List.getElem?_set]
      by_cases hindex : object = index
      · subst hindex
        rw [if_pos rfl, hentry, if_pos (List.getElem?_eq_some_iff.mp hentry).1]
        rfl
      · rw [if_neg hindex]

theorem live_arm {entry : TimerEntry} (hentry : runtime.objects[object]? = some entry)
    (now : Int) : Live (runtime.arm object now) object := by
  rw [arm_eq hentry]
  refine ⟨{ entry with handle := some runtime.timers.length }, runtime.timers.length, _, ?_, rfl,
    List.getElem?_concat_length, rfl, rfl, rfl, ?_⟩
  · rw [List.getElem?_set_self (List.getElem?_eq_some_iff.mp hentry).1]
  · exact onTime_armed entry object now

theorem untouched_arm (hother : other ≠ object) (now : Int) :
    Untouched runtime (runtime.arm object now) other := by
  cases hentry : runtime.objects[object]? with
  | none =>
      rw [Runtime.arm, hentry]
      exact .refl runtime other
  | some entry =>
      rw [arm_eq hentry]
      refine ⟨List.getElem?_set_ne (Ne.symm hother), fun handle timer htimer _ => ?_⟩
      rw [List.getElem?_append_left (List.getElem?_eq_some_iff.mp htimer).1, htimer]

theorem entries_arm (object : Nat) (now : Int) :
    (runtime.arm object now).entries = runtime.entries := by
  rw [Runtime.arm]
  split <;> rfl

theorem objects_disarm (handle : Option Nat) :
    (runtime.disarm handle).objects = runtime.objects := by
  cases handle <;> rfl

theorem entries_disarm (handle : Option Nat) :
    (runtime.disarm handle).entries = runtime.entries := by
  cases handle <;> rfl

theorem untouched_disarm {handle : Option Nat}
    (howner : ∀ index timer, handle = some index → runtime.timers[index]? = some timer →
      timer.entry ≠ other) :
    Untouched runtime (runtime.disarm handle) other := by
  cases handle with
  | none => exact .refl runtime other
  | some handle =>
      refine ⟨rfl, fun index timer htimer htimerOwner => ?_⟩
      rw [Runtime.disarm, List.getElem?_modify]
      by_cases hindex : handle = index
      · subst hindex
        exact absurd htimerOwner (howner handle timer rfl htimer)
      · simp [hindex, htimer]

theorem untouched_ran {handle : Nat} {timer : PlatformTimer}
    (htimer : runtime.timers[handle]? = some timer) (howner : timer.entry ≠ other) :
    Untouched runtime
      { runtime with timers := runtime.timers.set handle { timer with ran := true } } other := by
  refine ⟨rfl, fun index found hfound hfoundOwner => ?_⟩
  have hindex : handle ≠ index := by
    rintro rfl
    rw [htimer, Option.some_inj] at hfound
    exact howner (hfound ▸ hfoundOwner)
  rw [List.getElem?_set_ne hindex, hfound]

end

/-! ## The invariant -/

structure Records (json : Json) (record : TimerEntry) (input : RapTimerScheduleInput) : Prop where
  key : record.key = timerKey record.input
  tuple : record.input = input.toRapTimerCancelInput
  checked : assertScheduleInput json input = .ok (record.fireAtMs, record.serializedData)

structure Consistent (json : Json) (runtime : Runtime) (trace : List Event) : Prop where
  numbered : trace.filterMap acceptedObject = List.range runtime.objects.length
  accepted : ∀ object input, .accepted object input ∈ trace →
    ∃ record, (records runtime)[object]? = some record ∧ Records json record input
  recorded : ∀ (object : Nat) (record : TimerEntry), (records runtime)[object]? = some record →
    ∃ input, .accepted object input ∈ trace ∧ Records json record input
  entries : ∀ tuple, runtime.entries.get (timerKey tuple) = outstanding trace tuple
  owner : ∀ tuple object, outstanding trace tuple = some object →
    ∃ input, .accepted object input ∈ trace ∧ input.toRapTimerCancelInput = tuple
  spent : ∀ object, object ∈ trace.filterMap dispatchedObject →
    object < runtime.objects.length ∧ ∀ tuple, outstanding trace tuple ≠ some object
  once : (trace.filterMap dispatchedObject).Nodup
  honest : ∀ before object now due after,
    trace = before ++ .dispatched object now due :: after → Honest json before object now due
  live : ∀ tuple object, outstanding trace tuple = some object → Live runtime object

section

variable {json : Json} {runtime next : Runtime} {trace : List Event}

theorem consistent_create (json : Json) : Consistent json createRapTimerRuntime [] where
  numbered := rfl
  accepted := by simp
  recorded := by simp [createRapTimerRuntime, records]
  entries := fun _ => rfl
  owner := nofun
  spent := by simp
  once := List.nodup_nil
  honest := by simp
  live := nofun

theorem Consistent.record (h : Consistent json runtime trace) {tuple : RapTimerCancelInput}
    {object : Nat} (houtstanding : outstanding trace tuple = some object) :
    ∃ entry, runtime.objects[object]? = some entry ∧ entry.input = tuple ∧
      entry.key = timerKey tuple := by
  obtain ⟨input, hmem, rfl⟩ := h.owner tuple object houtstanding
  obtain ⟨record, hrecord, hrecords⟩ := h.accepted object input hmem
  rw [getElem?_records] at hrecord
  obtain ⟨entry, hentry, rfl⟩ := Option.map_eq_some_iff.mp hrecord
  have hinput : entry.input = input.toRapTimerCancelInput := hrecords.tuple
  have hkey : entry.key = timerKey entry.input := hrecords.key
  exact ⟨entry, hentry, hinput, by rw [hkey, hinput]⟩

theorem Consistent.lt_length (h : Consistent json runtime trace) {tuple : RapTimerCancelInput}
    {object : Nat} (houtstanding : outstanding trace tuple = some object) :
    object < runtime.objects.length := by
  obtain ⟨entry, hentry, -⟩ := h.record houtstanding
  exact (List.getElem?_eq_some_iff.mp hentry).1

theorem Consistent.outstanding_inj (h : Consistent json runtime trace)
    {first second : RapTimerCancelInput} {object : Nat}
    (hfirst : outstanding trace first = some object)
    (hsecond : outstanding trace second = some object) : first = second := by
  obtain ⟨entry, hentry, hinput, -⟩ := h.record hfirst
  obtain ⟨other, hother, hotherInput, -⟩ := h.record hsecond
  rw [hentry, Option.some_inj] at hother
  rw [← hinput, ← hotherInput, hother]

theorem Consistent.currentHandle_owner (h : Consistent json runtime trace)
    {tuple : RapTimerCancelInput} {index : Nat} {timer : PlatformTimer}
    (hhandle : runtime.currentHandle (timerKey tuple) = some index)
    (htimer : runtime.timers[index]? = some timer) :
    outstanding trace tuple = some timer.entry := by
  cases hobject : runtime.entries.get (timerKey tuple) with
  | none => simp [Runtime.currentHandle, hobject] at hhandle
  | some object =>
      have houtstanding := (h.entries tuple).symm.trans hobject
      obtain ⟨entry, handle, live, hentry, hentryHandle, hlive, howner, -⟩ :=
        h.live tuple object houtstanding
      rw [Runtime.currentHandle, hobject] at hhandle
      simp only [Option.bind_eq_bind, Option.bind_some, hentry, hentryHandle,
        Option.some_inj] at hhandle
      rw [hhandle, htimer, Option.some_inj] at hlive
      rw [houtstanding, hlive, howner]

/-! ## Steps -/

def Leaves (runtime next : Runtime) (tuple : RapTimerCancelInput) : Prop :=
  next.entries.get (timerKey tuple) = runtime.entries.get (timerKey tuple) ∧
    ∀ object, runtime.entries.get (timerKey tuple) = some object →
      Untouched runtime next object

theorem Consistent.live_of_leaves (h : Consistent json runtime trace)
    {tuple : RapTimerCancelInput} (hleaves : Leaves runtime next tuple) {object : Nat}
    (houtstanding : outstanding trace tuple = some object) : Live next object :=
  (h.live tuple object houtstanding).of_untouched
    (hleaves.2 object ((h.entries tuple).trans houtstanding))

theorem Consistent.timerOf_of_leaves (h : Consistent json runtime trace)
    {tuple : RapTimerCancelInput} (hleaves : Leaves runtime next tuple) :
    timerOf next tuple = timerOf runtime tuple := by
  rw [timerOf, timerOf, hleaves.1]
  cases hobject : runtime.entries.get (timerKey tuple) with
  | none => rfl
  | some object =>
      have hsame := hleaves.2 object hobject
      obtain ⟨entry, handle, timer, hentry, hhandle, htimer, howner, -⟩ :=
        h.live tuple object ((h.entries tuple).symm.trans hobject)
      simp [hsame.entry, hentry, hhandle, htimer, hsame.timers handle timer htimer howner]

theorem Consistent.of_records (h : Consistent json runtime trace)
    (hrecords : records next = records runtime) (hentries : next.entries = runtime.entries)
    (hlive : ∀ tuple object, outstanding trace tuple = some object → Live next object) :
    Consistent json next trace := by
  have hlength : next.objects.length = runtime.objects.length := by
    simpa [records] using congrArg List.length hrecords
  exact
    { numbered := by rw [hlength]; exact h.numbered
      accepted := by rw [hrecords]; exact h.accepted
      recorded := by rw [hrecords]; exact h.recorded
      entries := by rw [hentries]; exact h.entries
      owner := h.owner
      spent := by rw [hlength]; exact h.spent
      once := h.once
      honest := h.honest
      live := hlive }

theorem honest_concat {event : Event}
    (h : ∀ before object now due after,
      trace = before ++ .dispatched object now due :: after → Honest json before object now due)
    (hevent : ∀ object now due, event = .dispatched object now due →
      Honest json trace object now due) :
    ∀ before object now due after, trace ++ [event] =
      before ++ .dispatched object now due :: after →
      Honest json before object now due := by
  intro before object now due after hsplit
  rcases List.eq_nil_or_concat after with rfl | ⟨after, last, rfl⟩
  · obtain ⟨rfl, hlast⟩ := List.append_inj' hsplit rfl
    exact hevent object now due (List.singleton_inj.mp hlast)
  · rw [List.concat_eq_append, ← List.cons_append, ← List.append_assoc] at hsplit
    exact h before object now due after (List.append_inj' hsplit rfl).1

/-! ### A schedule -/

theorem records_upsert {entry : TimerEntry} (hhandle : entry.handle = none) (now : Int) :
    records (runtime.upsert entry now) = records runtime ++ [entry] := by
  rw [Runtime.upsert, records_arm, records, List.map_append, objects_disarm, records]
  cases entry
  cases hhandle
  rfl

theorem entries_upsert (entry : TimerEntry) (now : Int) :
    (runtime.upsert entry now).entries =
      runtime.entries.set entry.key runtime.objects.length := by
  rw [Runtime.upsert, entries_arm, entries_disarm, objects_disarm]

theorem live_upsert (entry : TimerEntry) (now : Int) :
    Live (runtime.upsert entry now) runtime.objects.length := by
  rw [Runtime.upsert, objects_disarm]
  exact live_arm List.getElem?_concat_length now

theorem Consistent.leaves_upsert (h : Consistent json runtime trace) {entry : TimerEntry}
    {tuple other : RapTimerCancelInput} (hkey : entry.key = timerKey tuple)
    (hother : other ≠ tuple) (now : Int) : Leaves runtime (runtime.upsert entry now) other := by
  have hkeys : timerKey other ≠ entry.key := by
    rw [hkey]
    exact timerKey_injective.ne hother
  refine ⟨?_, fun object hobject => ?_⟩
  · rw [entries_upsert, InsertionMap.get_set_of_ne _ _ hkeys]
  · have houtstanding := (h.entries other).symm.trans hobject
    have hlength := h.lt_length houtstanding
    have hdisarmed : Untouched runtime (runtime.disarm (runtime.currentHandle entry.key))
        object := by
      refine untouched_disarm fun index timer hhandle htimer howner => hother ?_
      rw [hkey] at hhandle
      have htuple := h.currentHandle_owner hhandle htimer
      rw [howner] at htuple
      exact h.outstanding_inj houtstanding htuple
    have hstored : Untouched (runtime.disarm (runtime.currentHandle entry.key))
        { runtime.disarm (runtime.currentHandle entry.key) with
          objects := (runtime.disarm (runtime.currentHandle entry.key)).objects ++ [entry]
          entries := (runtime.disarm (runtime.currentHandle entry.key)).entries.set entry.key
            (runtime.disarm (runtime.currentHandle entry.key)).objects.length } object := by
      refine ⟨List.getElem?_append_left ?_, fun _ _ htimer _ => htimer⟩
      rwa [objects_disarm]
    refine (hdisarmed.trans hstored).trans (untouched_arm ?_ now)
    rw [objects_disarm]
    exact hlength.ne

theorem Consistent.upsert (h : Consistent json runtime trace) {input : RapTimerScheduleInput}
    {entry : TimerEntry} (hhandle : entry.handle = none) (hrecords : Records json entry input)
    (now : Int) :
    Consistent json (runtime.upsert entry now)
      (trace ++ [.accepted runtime.objects.length input]) := by
  have htuple : entry.key = timerKey input.toRapTimerCancelInput := by
    rw [hrecords.key, hrecords.tuple]
  have hnext : records (runtime.upsert entry now) = records runtime ++ [entry] :=
    records_upsert hhandle now
  have hlength : (runtime.upsert entry now).objects.length = runtime.objects.length + 1 := by
    simpa [records] using congrArg List.length hnext
  have hrecordsLength : (records runtime).length = runtime.objects.length := List.length_map _
  have hendedBy : ∀ tuple, outstanding
      (trace ++ [.accepted runtime.objects.length input]) tuple =
        if input.toRapTimerCancelInput = tuple then some runtime.objects.length
        else outstanding trace tuple := fun tuple => outstanding_concat _ _ _
  refine
    { numbered := ?_, accepted := ?_, recorded := ?_, entries := ?_, owner := ?_, spent := ?_,
      once := ?_, honest := ?_, live := ?_ }
  · rw [List.filterMap_append, h.numbered, hlength, List.range_succ]
    rfl
  · intro object other hmem
    rw [hnext]
    rcases List.mem_append.mp hmem with hmem | hmem
    · obtain ⟨record, hrecord, hother⟩ := h.accepted object other hmem
      refine ⟨record, ?_, hother⟩
      rw [List.getElem?_append_left (List.getElem?_eq_some_iff.mp hrecord).1, hrecord]
    · cases List.mem_singleton.mp hmem
      refine ⟨entry, ?_, hrecords⟩
      rw [← hrecordsLength]
      exact List.getElem?_concat_length
  · intro object record hrecord
    rw [hnext] at hrecord
    rcases Nat.lt_trichotomy object (records runtime).length with hlt | rfl | hgt
    · rw [List.getElem?_append_left hlt] at hrecord
      obtain ⟨other, hmem, hother⟩ := h.recorded object record hrecord
      exact ⟨other, List.mem_append_left _ hmem, hother⟩
    · rw [List.getElem?_concat_length, Option.some_inj] at hrecord
      subst hrecord
      rw [hrecordsLength]
      exact ⟨input, List.mem_append_right _ (List.mem_singleton_self _), hrecords⟩
    · rw [List.getElem?_eq_none (by simp; omega)] at hrecord
      cases hrecord
  · intro tuple
    rw [hendedBy, entries_upsert, InsertionMap.get_set, htuple]
    by_cases hsame : tuple = input.toRapTimerCancelInput
    · rw [if_pos (congrArg timerKey hsame), if_pos hsame.symm]
    · rw [if_neg (timerKey_injective.ne hsame), if_neg (Ne.symm hsame), h.entries]
  · intro tuple object hobject
    rw [hendedBy] at hobject
    split at hobject
    · next hsame =>
        obtain rfl := Option.some_inj.mp hobject
        exact ⟨input, List.mem_append_right _ (List.mem_singleton_self _), hsame⟩
    · obtain ⟨other, hmem, hother⟩ := h.owner tuple object hobject
      exact ⟨other, List.mem_append_left _ hmem, hother⟩
  · intro object hobject
    rw [List.filterMap_append, show [Event.accepted runtime.objects.length input].filterMap
      dispatchedObject = [] from rfl, List.append_nil] at hobject
    obtain ⟨hlt, hspent⟩ := h.spent object hobject
    refine ⟨by omega, fun tuple hsome => ?_⟩
    rw [hendedBy] at hsome
    split at hsome
    · exact hlt.ne' (Option.some_inj.mp hsome)
    · exact hspent tuple hsome
  · rw [List.filterMap_append, show [Event.accepted runtime.objects.length input].filterMap
      dispatchedObject = [] from rfl, List.append_nil]
    exact h.once
  · exact honest_concat h.honest fun _ _ _ hlast => by cases hlast
  · intro tuple object hobject
    rw [hendedBy] at hobject
    split at hobject
    · obtain rfl := Option.some_inj.mp hobject
      exact live_upsert entry now
    · next hother =>
        exact h.live_of_leaves (h.leaves_upsert htuple (Ne.symm hother) now) hobject

/-! ### An end of a schedule -/

structure Ended (runtime next : Runtime) (tuple : RapTimerCancelInput) : Prop where
  objects : next.objects = runtime.objects
  entries : next.entries = runtime.entries.delete (timerKey tuple)
  leaves : ∀ other, other ≠ tuple → Leaves runtime next other

theorem Consistent.ended (h : Consistent json runtime trace) {tuple : RapTimerCancelInput}
    {event : Event} (hended : Ended runtime next tuple)
    (houtstanding : ∀ other, outstanding (trace ++ [event]) other =
      if other = tuple then none else outstanding trace other)
    (hplain : acceptedObject event = none)
    (hspent : ∀ object, dispatchedObject event = some object →
      outstanding trace tuple = some object)
    (hhonest : ∀ object now due, event = .dispatched object now due →
      Honest json trace object now due) :
    Consistent json next (trace ++ [event]) := by
  have hrecords : records next = records runtime := by rw [records, hended.objects, records]
  have hkept : ∀ other object, outstanding (trace ++ [event]) other = some object →
      other ≠ tuple ∧ outstanding trace other = some object := by
    intro other object hsome
    rw [houtstanding] at hsome
    split at hsome
    · cases hsome
    · next hother => exact ⟨hother, hsome⟩
  have hevents : ∀ object input, .accepted object input ∈ trace ++ [event] ↔
      .accepted object input ∈ trace := by
    intro object input
    rw [List.mem_append, List.mem_singleton, or_iff_left]
    rintro rfl
    cases hplain
  have hnew : ∀ object, dispatchedObject event = some object →
      object < runtime.objects.length ∧
        ∀ other, outstanding (trace ++ [event]) other ≠ some object := by
    intro object hobject
    have htuple := hspent object hobject
    refine ⟨h.lt_length htuple, fun other hsome => ?_⟩
    obtain ⟨hother, hbefore⟩ := hkept other object hsome
    exact hother (h.outstanding_inj hbefore htuple)
  refine
    { numbered := ?_, accepted := ?_, recorded := ?_, entries := ?_, owner := ?_, spent := ?_,
      once := ?_, honest := honest_concat h.honest hhonest, live := ?_ }
  · rw [List.filterMap_append, h.numbered, hended.objects]
    simp [hplain]
  · intro object input hmem
    rw [hrecords]
    exact h.accepted object input ((hevents object input).mp hmem)
  · intro object record hrecord
    rw [hrecords] at hrecord
    obtain ⟨input, hmem, hinput⟩ := h.recorded object record hrecord
    exact ⟨input, (hevents object input).mpr hmem, hinput⟩
  · intro other
    rw [hended.entries, InsertionMap.get_delete, houtstanding]
    by_cases hother : other = tuple
    · rw [if_pos (congrArg timerKey hother), if_pos hother]
    · rw [if_neg (timerKey_injective.ne hother), if_neg hother, h.entries]
  · intro other object hsome
    obtain ⟨input, hmem, hinput⟩ := h.owner other object (hkept other object hsome).2
    exact ⟨input, (hevents object input).mpr hmem, hinput⟩
  · intro object hmem
    rw [hended.objects]
    rw [List.filterMap_append, List.mem_append] at hmem
    rcases hmem with hmem | hmem
    · obtain ⟨hlt, hnever⟩ := h.spent object hmem
      exact ⟨hlt, fun other hsome => hnever other (hkept other object hsome).2⟩
    · obtain ⟨last, hlast, hobject⟩ := List.mem_filterMap.mp hmem
      obtain rfl := List.mem_singleton.mp hlast
      exact hnew object hobject
  · rw [List.filterMap_append]
    cases hobject : dispatchedObject event with
    | none => simpa [hobject] using h.once
    | some object =>
        rw [show [event].filterMap dispatchedObject = [object] by simp [hobject],
          List.nodup_append]
        refine ⟨h.once, List.nodup_singleton _, fun spent hmem last hlast => ?_⟩
        obtain rfl := List.mem_singleton.mp hlast
        rintro rfl
        exact (h.spent _ hmem).2 tuple (hspent _ hobject)
  · intro other object hsome
    obtain ⟨hother, hbefore⟩ := hkept other object hsome
    exact h.live_of_leaves (hended.leaves other hother) hbefore

/-! ### A cancel -/

theorem Consistent.ended_cancel (h : Consistent json runtime trace)
    (tuple : RapTimerCancelInput) :
    Ended runtime
      ({ runtime with entries := runtime.entries.delete (timerKey tuple) }.disarm
        (runtime.currentHandle (timerKey tuple))) tuple := by
  refine ⟨objects_disarm _, entries_disarm _, fun other hother => ?_⟩
  have hget : (runtime.entries.delete (timerKey tuple)).get (timerKey other) =
      runtime.entries.get (timerKey other) :=
    InsertionMap.get_delete_of_ne _ (timerKey_injective.ne hother)
  refine ⟨by rw [entries_disarm, hget], fun object hobject => ?_⟩
  have houtstanding := (h.entries other).symm.trans hobject
  have hdeleted : Untouched runtime
      { runtime with entries := runtime.entries.delete (timerKey tuple) } object :=
    ⟨rfl, fun _ _ htimer _ => htimer⟩
  refine hdeleted.trans (untouched_disarm fun index timer hhandle htimer howner => hother ?_)
  have htuple := h.currentHandle_owner hhandle htimer
  rw [howner] at htuple
  exact h.outstanding_inj houtstanding htuple

theorem ended_nothing {tuple : RapTimerCancelInput}
    (hnone : runtime.entries.get (timerKey tuple) = none) :
    Ended runtime runtime tuple := by
  have hsame : runtime.entries = runtime.entries.delete (timerKey tuple) := by
    rw [InsertionMap.get_eq_none_iff] at hnone
    apply InsertionMap.ext_entries
    refine (List.filter_eq_self.mpr fun entry hentry => ?_).symm
    simp only [ne_eq, decide_eq_true_eq]
    exact fun hkey => hnone (hkey ▸ List.mem_map_of_mem hentry)
  exact ⟨rfl, hsame, fun other _ => ⟨rfl, fun object _ => .refl runtime object⟩⟩

/-! ### A callback -/

def spend (runtime : Runtime) (handle : Nat) (timer : PlatformTimer) : Runtime :=
  { runtime with timers := runtime.timers.set handle { timer with ran := true } }

/-- A callback finds its entry superseded, arms it again, or dispatches it. -/
theorem Consistent.callback_cases (h : Consistent json runtime trace) {handle : Nat}
    {timer : PlatformTimer} (htimer : runtime.timers[handle]? = some timer)
    (hran : timer.ran = false) (now rearmNow : Int) :
    (runtime.callback json handle now rearmNow = (spend runtime handle timer, none) ∧
      ∀ tuple, outstanding trace tuple ≠ some timer.entry) ∨
    ∃ entry, runtime.objects[timer.entry]? = some entry ∧
      entry.key = timerKey entry.input ∧
      outstanding trace entry.input = some timer.entry ∧
      ((now < entry.fireAtMs ∧ runtime.callback json handle now rearmNow =
          ((spend runtime handle timer).arm timer.entry rearmNow, none)) ∨
        ((entry.fireAtMs : Int) ≤ now ∧ runtime.callback json handle now rearmNow =
          ({ spend runtime handle timer with
              entries := runtime.entries.delete (timerKey entry.input) },
            some ⟨entry.input.serverId, entry.input.appId, entry.input.subjectAgentId,
              json.parse entry.serializedData⟩))) := by
  have hcallback : runtime.callback json handle now rearmNow =
      (spend runtime handle timer).wake json timer.entry now rearmNow := by
    rw [Runtime.callback, htimer]
    simp only [hran, Bool.false_eq_true, if_false]
    rfl
  rw [hcallback, Runtime.wake]
  have hobjects : (spend runtime handle timer).objects = runtime.objects := rfl
  have hentries : (spend runtime handle timer).entries = runtime.entries := rfl
  rw [hobjects, hentries]
  cases hentry : runtime.objects[timer.entry]? with
  | none =>
      refine .inl ⟨rfl, fun tuple hsome => ?_⟩
      obtain ⟨entry, hsomeEntry, -⟩ := h.record hsome
      rw [hentry] at hsomeEntry
      cases hsomeEntry
  | some entry =>
      have hrecord : (records runtime)[timer.entry]? = some (recordOf entry) := by
        rw [getElem?_records, hentry, Option.map_some]
      obtain ⟨input, -, hrecords⟩ := h.recorded _ _ hrecord
      have hkey : entry.key = timerKey entry.input := hrecords.key
      by_cases hcurrent : runtime.entries.get entry.key = some timer.entry
      · have houtstanding : outstanding trace entry.input = some timer.entry := by
          rw [← h.entries, ← hkey, hcurrent]
        refine .inr ⟨entry, rfl, hkey, houtstanding, ?_⟩
        simp only [hcurrent, ne_eq, not_true, if_false]
        by_cases hearly : now < entry.fireAtMs
        · exact .inl ⟨hearly, if_pos hearly⟩
        · rw [if_neg hearly, hkey]
          exact .inr ⟨not_lt.mp hearly, rfl⟩
      · refine .inl ⟨if_pos hcurrent, fun tuple hsome => hcurrent ?_⟩
        obtain ⟨other, hother, -, hotherKey⟩ := h.record hsome
        rw [hentry, Option.some_inj] at hother
        rw [hother, hotherKey, h.entries, hsome]

theorem Consistent.leaves_of_untouched (h : Consistent json runtime trace) {object : Nat}
    {tuple : RapTimerCancelInput} (hkey : next.entries.get (timerKey tuple) =
      runtime.entries.get (timerKey tuple))
    (hother : outstanding trace tuple ≠ some object)
    (huntouched : ∀ other, other ≠ object → Untouched runtime next other) :
    Leaves runtime next tuple := by
  refine ⟨hkey, fun other hget => huntouched other ?_⟩
  rintro rfl
  exact hother ((h.entries tuple).symm.trans hget)

theorem Consistent.honest_dispatch (h : Consistent json runtime trace) {object : Nat}
    {entry : TimerEntry} (hentry : runtime.objects[object]? = some entry)
    (houtstanding : outstanding trace entry.input = some object) {now : Int}
    (hdue : (entry.fireAtMs : Int) ≤ now) :
    Honest json trace object now ⟨entry.input.serverId, entry.input.appId,
      entry.input.subjectAgentId, json.parse entry.serializedData⟩ := by
  have hrecord : (records runtime)[object]? = some (recordOf entry) := by
    rw [getElem?_records, hentry, Option.map_some]
  obtain ⟨input, hmem, hrecords⟩ := h.recorded _ _ hrecord
  have htuple : entry.input = input.toRapTimerCancelInput := hrecords.tuple
  refine ⟨input, entry.fireAtMs, entry.serializedData, hmem, hrecords.checked, ?_, hdue, ?_⟩
  · rw [← htuple, houtstanding]
  · have hdata : entry.serializedData = json.stringify input.data :=
      serializedData_eq hrecords.checked
    rw [htuple, hdata]

/-! ### Every operation -/

theorem schedule_cases (input : RapTimerScheduleInput) (now : Int) :
    (∃ message, runtime.schedule json input now = .error message) ∨
    ∃ entry, Records json entry input ∧ entry.handle = none ∧
      runtime.schedule json input now = .ok (runtime.upsert entry now) := by
  rw [Runtime.schedule]
  cases hchecked : assertScheduleInput json input with
  | error message => exact .inl ⟨message, rfl⟩
  | ok accepted =>
      obtain ⟨fireAtMs, serializedData⟩ := accepted
      exact .inr ⟨_, ⟨rfl, rfl, hchecked⟩, rfl, rfl⟩

theorem Consistent.cancel_cases (h : Consistent json runtime trace)
    (input : RapTimerCancelInput) :
    (∃ message, runtime.cancel input = .error message) ∨
    ∃ next outcome, runtime.cancel input = .ok (next, outcome) ∧ Ended runtime next input := by
  rw [Runtime.cancel]
  cases assertSourceId input.sourceId with
  | error message => exact .inl ⟨message, rfl⟩
  | ok checked =>
      right
      cases hobject : runtime.entries.get (timerKey input) with
      | none => exact ⟨runtime, .not_found, by simp [bind, Except.bind, hobject],
          ended_nothing hobject⟩
      | some object => exact ⟨_, .cancelled, by simp [bind, Except.bind, hobject],
          h.ended_cancel input⟩

theorem Consistent.callback (h : Consistent json runtime trace) {handle : Nat}
    {timer : PlatformTimer} (htimer : runtime.timers[handle]? = some timer)
    (hran : timer.ran = false) (now rearmNow : Int) :
    Consistent json (RapTimer.step json (runtime, trace) (.callback handle now rearmNow)).1
        (RapTimer.step json (runtime, trace) (.callback handle now rearmNow)).2 ∧
      ∀ tuple, operationTuple runtime (.callback handle now rearmNow) ≠ some tuple →
        Leaves runtime
          (RapTimer.step json (runtime, trace) (.callback handle now rearmNow)).1 tuple := by
  have howner : callbackEntry runtime handle = some timer.entry := by
    rw [callbackEntry, htimer, Option.map_some]
  have hspent : ∀ other, other ≠ timer.entry →
      Untouched runtime (spend runtime handle timer) other :=
    fun other hother => untouched_ran htimer (Ne.symm hother)
  rcases h.callback_cases htimer hran now rearmNow with
    ⟨hresult, hsuperseded⟩ | ⟨entry, hentry, hkey, houtstanding, hcase⟩
  · simp only [RapTimer.step, hresult]
    have hleaves : ∀ tuple, Leaves runtime (spend runtime handle timer) tuple :=
      fun tuple => h.leaves_of_untouched rfl (hsuperseded tuple) hspent
    exact ⟨h.of_records rfl rfl fun tuple object hsome =>
      h.live_of_leaves (hleaves tuple) hsome, fun tuple _ => hleaves tuple⟩
  · have htuple : ∀ tuple,
        operationTuple runtime (.callback handle now rearmNow) ≠ some tuple →
          tuple ≠ entry.input := by
      rintro tuple hother rfl
      exact hother (by simp [operationTuple, howner, hentry])
    have hnot : ∀ tuple, tuple ≠ entry.input →
        outstanding trace tuple ≠ some timer.entry :=
      fun tuple hne hsome => hne (h.outstanding_inj hsome houtstanding)
    rcases hcase with ⟨hearly, hresult⟩ | ⟨hdue, hresult⟩
    · simp only [RapTimer.step, hresult]
      have harmed : ∀ other, other ≠ timer.entry →
          Untouched runtime
            ((spend runtime handle timer).arm timer.entry rearmNow) other :=
        fun other hother => (hspent other hother).trans (untouched_arm hother rearmNow)
      refine ⟨h.of_records (records_arm _ _) (entries_arm _ _) ?_, fun tuple hother =>
        h.leaves_of_untouched (by rw [entries_arm]; rfl)
          (hnot tuple (htuple tuple hother)) harmed⟩
      intro tuple object hsome
      by_cases hobject : object = timer.entry
      · rw [hobject]
        exact @live_arm (spend runtime handle timer) _ _ hentry rearmNow
      · exact (h.live tuple object hsome).of_untouched (harmed object hobject)
    · simp only [RapTimer.step, hresult, howner]
      have hended : Ended runtime { spend runtime handle timer with
          entries := runtime.entries.delete (timerKey entry.input) } entry.input := by
        refine ⟨rfl, rfl, fun other hother => ?_⟩
        refine h.leaves_of_untouched ?_ (hnot other hother) fun object hobject => ?_
        · exact InsertionMap.get_delete_of_ne _ (timerKey_injective.ne hother)
        · exact ⟨(hspent object hobject).entry, (hspent object hobject).timers⟩
      refine ⟨h.ended hended (fun other => ?_) rfl ?_ ?_, fun tuple hother =>
        hended.leaves tuple (htuple tuple hother)⟩
      · rw [outstanding_concat]
        simp only [endedBy]
        by_cases hother : other = entry.input
        · rw [if_pos hother, hother, if_pos houtstanding]
        · rw [if_neg hother, if_neg (hnot other hother)]
      · rintro object hobject
        obtain rfl := Option.some_inj.mp hobject
        exact houtstanding
      · rintro object time due hevent
        cases hevent
        exact h.honest_dispatch hentry houtstanding hdue

theorem Consistent.step (h : Consistent json runtime trace) (operation : Operation) :
    Consistent json (step json (runtime, trace) operation).1
        (step json (runtime, trace) operation).2 ∧
      ∀ tuple, operationTuple runtime operation ≠ some tuple →
        Leaves runtime (RapTimer.step json (runtime, trace) operation).1 tuple := by
  have hrefl : ∀ tuple, Leaves runtime runtime tuple :=
    fun tuple => ⟨rfl, fun object _ => .refl runtime object⟩
  cases operation with
  | schedule input now =>
      rcases @schedule_cases json runtime input now with
        ⟨message, hresult⟩ | ⟨entry, hrecords, hhandle, hresult⟩
      · simp only [RapTimer.step, hresult]
        exact ⟨h, fun tuple _ => hrefl tuple⟩
      · simp only [RapTimer.step, hresult]
        refine ⟨h.upsert hhandle hrecords now, fun tuple hother => ?_⟩
        refine h.leaves_upsert (by rw [hrecords.key, hrecords.tuple]) ?_ now
        exact fun heq => hother (congrArg some heq.symm)
  | cancel input =>
      rcases h.cancel_cases input with ⟨message, hresult⟩ | ⟨next, outcome, hresult, hended⟩
      · simp only [RapTimer.step, hresult]
        exact ⟨h, fun tuple _ => hrefl tuple⟩
      · simp only [RapTimer.step, hresult]
        refine ⟨h.ended hended (fun other => ?_) rfl nofun nofun, fun tuple hother =>
          hended.leaves tuple fun heq => hother (congrArg some heq.symm)⟩
        rw [outstanding_concat]
        simp only [endedBy, eq_comm]
  | callback handle now rearmNow =>
      cases htimer : runtime.timers[handle]? with
      | none =>
          have hresult : runtime.callback json handle now rearmNow = (runtime, none) := by
            rw [Runtime.callback, htimer]
          simp only [RapTimer.step, hresult]
          exact ⟨h, fun tuple _ => hrefl tuple⟩
      | some timer =>
          cases hran : timer.ran with
          | true =>
              have hresult : runtime.callback json handle now rearmNow = (runtime, none) := by
                rw [Runtime.callback, htimer]
                simp [hran]
              simp only [RapTimer.step, hresult]
              exact ⟨h, fun tuple _ => hrefl tuple⟩
          | false =>
              exact h.callback htimer hran now rearmNow

end

/-! ## Whole runs -/

def timerRun (json : Json) (operations : List Operation) : Runtime × List Event :=
  run (step json) (createRapTimerRuntime, []) operations

theorem consistent_timerRun (json : Json) (operations : List Operation) :
    Consistent json (timerRun json operations).1 (timerRun json operations).2 :=
  run_invariant (fun state : Runtime × List Event => Consistent json state.1 state.2) operations
    (fun _ operation h => (h.step operation).1) (consistent_create json)

theorem Consistent.isArmed_iff {json : Json} {runtime : Runtime} {trace : List Event}
    (h : Consistent json runtime trace) (input : RapTimerScheduleInput) :
    runtime.isArmed json input = .ok true ↔
      ∃ checked object accepted, assertScheduleInput json input = .ok checked ∧
        outstanding trace input.toRapTimerCancelInput = some object ∧
        .accepted object accepted ∈ trace ∧ assertScheduleInput json accepted = .ok checked := by
  rw [Runtime.isArmed, h.entries]
  cases hchecked : assertScheduleInput json input with
  | error message => simp [bind, Except.bind]
  | ok checked =>
      obtain ⟨fireAtMs, serializedData⟩ := checked
      cases houtstanding : outstanding trace input.toRapTimerCancelInput with
      | none => simp [bind, Except.bind]
      | some object =>
          obtain ⟨entry, hentry, -⟩ := h.record houtstanding
          have hrecord : (records runtime)[object]? = some (recordOf entry) := by
            rw [getElem?_records, hentry, Option.map_some]
          simp only [bind, Except.bind, Option.bind_some, hentry, Except.ok.injEq,
            Bool.and_eq_true, decide_eq_true_eq, exists_and_left, exists_eq_left',
            Option.some_inj]
          constructor
          · rintro ⟨rfl, rfl⟩
            obtain ⟨accepted, hmem, hrecords⟩ := h.recorded object _ hrecord
            exact ⟨accepted, hmem, hrecords.checked⟩
          · rintro ⟨accepted, hmem, haccepted⟩
            obtain ⟨record, hsame, hrecords⟩ := h.accepted object accepted hmem
            rw [hrecord, Option.some_inj] at hsame
            subst hsame
            have hpair := Except.ok.inj (hrecords.checked.symm.trans haccepted)
            exact ⟨congrArg Prod.fst hpair, congrArg Prod.snd hpair⟩

theorem Consistent.timerOf_outstanding {json : Json} {runtime : Runtime} {trace : List Event}
    (h : Consistent json runtime trace) {tuple : RapTimerCancelInput} {object : Nat}
    (houtstanding : outstanding trace tuple = some object) :
    ∃ entry timer, timerOf runtime tuple = some (entry, timer) ∧ timer.entry = object ∧
      timer.cleared = false ∧ timer.ran = false ∧ OnTime entry timer := by
  obtain ⟨entry, handle, timer, hentry, hhandle, htimer, hlive⟩ := h.live tuple object houtstanding
  refine ⟨entry, timer, ?_, hlive⟩
  simp [timerOf, h.entries, houtstanding, hentry, hhandle, htimer]

/-- In every run: accepted schedules are told apart, each is dispatched at most once, in its time,
while outstanding and with its own data; `isArmed` knows the outstanding schedule; every
outstanding schedule has a platform timer that can still run and is on time; and an operation
leaves the timers of the other four-tuples alone. -/
theorem rapTimer_run (json : Json) (operations : List Operation) :
    let runtime := (timerRun json operations).1
    let trace := (timerRun json operations).2
    (trace.filterMap acceptedObject).Nodup ∧ (trace.filterMap dispatchedObject).Nodup ∧
      (∀ before object now due after, trace = before ++ .dispatched object now due :: after →
        Honest json before object now due) ∧
      (∀ input, runtime.isArmed json input = .ok true ↔
        ∃ checked object accepted, assertScheduleInput json input = .ok checked ∧
          outstanding trace input.toRapTimerCancelInput = some object ∧
          .accepted object accepted ∈ trace ∧
          assertScheduleInput json accepted = .ok checked) ∧
      (∀ tuple, (runtime.entries.get (timerKey tuple)) = outstanding trace tuple ∧
        ∀ object, outstanding trace tuple = some object →
          ∃ entry timer, timerOf runtime tuple = some (entry, timer) ∧ timer.entry = object ∧
            timer.cleared = false ∧ timer.ran = false ∧ OnTime entry timer) ∧
      ∀ operation tuple, operationTuple runtime operation ≠ some tuple →
        timerOf (step json (runtime, trace) operation).1 tuple = timerOf runtime tuple := by
  have h := consistent_timerRun json operations
  refine ⟨?_, h.once, h.honest, h.isArmed_iff, fun tuple => ⟨h.entries tuple, fun object hsome =>
    h.timerOf_outstanding hsome⟩, fun operation tuple hother =>
    h.timerOf_of_leaves ((h.step operation).2 tuple hother)⟩
  rw [h.numbered]
  exact List.nodup_range

def sampleTuple : RapTimerCancelInput := ⟨js "s", js "app", js "agent", js "source"⟩

def sampleJson : Json := ⟨counterText, fun _ => .null⟩

/-- A schedule whose time has passed is armed for now, later than it was to fire and without the
delay that the platform allows at most. -/
theorem not_dueByFireAt_past :
    ¬ ∀ json operations tuple entry timer,
      timerOf (timerRun json operations).1 tuple = some (entry, timer) →
        timer.dueAt ≤ entry.fireAtMs ∨
          timer.dueAt = timer.armedAt + MAX_PLATFORM_DELAY_MS := by
  intro h
  have hpast := h sampleJson
    [.schedule { sampleTuple with fireAtMs := .ofNat 5, data := .null } 10] sampleTuple
    ⟨timerKey sampleTuple, sampleTuple, 5, js "null", some 0⟩ ⟨0, 10, 10, false, false⟩
    (by decide)
  exact absurd hpast (by decide)

end Raft.RapTimer
