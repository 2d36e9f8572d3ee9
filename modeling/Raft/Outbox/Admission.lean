import Raft.Outbox.Epochs

/-!
# Room for the evidence of an admitted start

Critical entries of older epochs never fold, and cross entries of older epochs
keep their slots.  A start is admitted only while both are few, and until a
newer epoch is adopted they only get fewer, so some entry can always fold.
-/

namespace Raft.Outbox

open Raft.Foundation AgentOutboxState

universe u

variable {φ : Type u} {crossId gapId : JsString} {state : AgentOutboxState φ}

/-! ## The reserve -/

def isCritical : OutboxEntry φ → Bool
  | .normal entry => entry.kind ≠ .turnCompleted
  | .gap _ | .cross _ => false

structure HasReserve (state : AgentOutboxState φ) : Prop where
  criticals : (older state).countP isCritical + OUTBOX_LAUNCH_CRITICAL_RESERVE ≤ OUTBOX_NORMAL_CAP
  crosses : (older state).countP (fun entry => entry.crossOf.isSome) < OUTBOX_CROSS_MAX

theorem map_sealed_older : (older state).map OutboxEntry.sealed =
    (state.entries.map OutboxEntry.sealed).filter
      fun entry => entry.takeoverEpoch ≠ state.takeoverEpoch := by
  rw [older, List.filter_map]
  simp only [Function.comp_def, takeoverEpoch_sealed]

theorem DropsCompleted.sublist {entries kept : List (OutboxEntry φ)}
    (h : DropsCompleted entries kept) : kept.Sublist entries := by
  cases h with
  | none => exact List.Sublist.refl _
  | one pre post completed hkind => exact (List.sublist_cons_self _ _).append_left _

theorem Appended.takeoverEpoch {entry : NormalEntry φ} {next : AgentOutboxState φ}
    {result : AppendResult} (h : Appended crossId gapId state entry next result) :
    next.takeoverEpoch = state.takeoverEpoch := by
  cases h with
  | appended hroom => rfl
  | ignored hkind => rfl
  | no_room => rfl
  | madeRoom hprepared hconsumed hresult =>
      rcases hprepared with rfl | hmerge
      · exact hconsumed.takeoverEpoch
      · exact hconsumed.takeoverEpoch.trans hmerge.takeoverEpoch

theorem Appended.older_sublist {entry : NormalEntry φ} {next : AgentOutboxState φ}
    {result : AppendResult} (h : Appended crossId gapId state entry next result)
    (hepoch : entry.takeoverEpoch = state.takeoverEpoch) :
    (Outbox.older next).Sublist (Outbox.older state) := by
  obtain ⟨kept, hdrops, hnext | hnext⟩ := h.older
  · rw [hnext]
    exact hdrops.sublist
  · have hmem : .normal entry ∈ Outbox.older next := by simp [hnext]
    have hother := List.of_mem_filter hmem
    simp [hepoch, h.takeoverEpoch] at hother

theorem adoptTakeoverEpoch_eq_self {epoch : Int}
    (h : (state.adoptTakeoverEpoch epoch).takeoverEpoch = state.takeoverEpoch) :
    state.adoptTakeoverEpoch epoch = state := by
  rw [adoptTakeoverEpoch] at h ⊢
  split at h
  · next hnewer => exact absurd h hnewer.ne'
  · next hnot => rw [if_neg hnot]

theorem map_sealed_markInFlight :
    state.markInFlight.entries.map OutboxEntry.sealed = state.entries.map OutboxEntry.sealed := by
  rw [markInFlight]
  split
  · rfl
  · next oldest rest hentries =>
      split
      · have hsame : oldest.sealed.sealed = oldest.sealed := by cases oldest <;> rfl
        simp [hentries, hsame]
      · rfl

theorem takeoverEpoch_markInFlight : state.markInFlight.takeoverEpoch = state.takeoverEpoch := by
  rw [markInFlight]
  split
  · rfl
  · split <;> rfl

theorem older_step (h : EpochOrdered state) {event : OutboxEvent φ}
    (hepoch : (enqueuingStep state event).takeoverEpoch = state.takeoverEpoch) :
    ((older (enqueuingStep state event)).map OutboxEntry.sealed).Sublist
      ((older state).map OutboxEntry.sealed) := by
  cases event with
  | append entry evict crossId gapId =>
      have happended := appendToOutbox_cases h.settled crossId gapId
        { entry with takeoverEpoch := state.takeoverEpoch } evict
      exact (happended.older_sublist rfl).map _
  | adoptTakeoverEpoch epoch =>
      have hsame : enqueuingStep state (.adoptTakeoverEpoch epoch) = state :=
        adoptTakeoverEpoch_eq_self hepoch
      rw [hsame]
  | sendOldest =>
      have hsame : enqueuingStep state .sendOldest = state.markInFlight := rfl
      rw [hsame, map_sealed_older, map_sealed_older, map_sealed_markInFlight,
        takeoverEpoch_markInFlight]
  | ack ack =>
      have hsame : enqueuingStep state (.ack ack) = state.applyOutboxAck ack := rfl
      rw [hsame] at hepoch ⊢
      rw [older, hepoch, older]
      refine (List.Sublist.filter _ ?_).map _
      rw [applyOutboxAck]
      cases state.ackedIndex ack with
      | none => exact List.Sublist.refl _
      | some index => exact List.eraseIdx_sublist _ _
  | humanStart epoch =>
      have hrecord : ∀ other : AgentOutboxState φ,
          (other.recordHumanTakeover epoch).takeoverEpoch = other.takeoverEpoch ∧
            older (other.recordHumanTakeover epoch) = older other := by
        intro other
        rw [recordHumanTakeover]
        split <;> exact ⟨rfl, rfl⟩
      rw [enqueuingStep, OutboxEvent.stamped, outboxStep, (hrecord _).1] at hepoch
      rw [enqueuingStep, OutboxEvent.stamped, outboxStep, (hrecord _).2,
        adoptTakeoverEpoch_eq_self hepoch]

theorem HasReserve.of_older {next : AgentOutboxState φ} (h : HasReserve state)
    (hsublist : ((older next).map OutboxEntry.sealed).Sublist
      ((older state).map OutboxEntry.sealed)) : HasReserve next := by
  have hcount : ∀ p : OutboxEntry φ → Bool, (∀ entry, p entry.sealed = p entry) →
      (older next).countP p ≤ (older state).countP p := by
    intro p hp
    have hle := hsublist.countP_le (p := p)
    rw [List.countP_map, List.countP_map] at hle
    simpa only [Function.comp_def, hp] using hle
  refine ⟨?_, (hcount _ crossOf_sealed).trans_lt h.crosses⟩
  exact (Nat.add_le_add_right (hcount _ fun entry => by cases entry <;> rfl) _).trans h.criticals

theorem takeoverEpoch_le_adopt (state : AgentOutboxState φ) (epoch : Int) :
    state.takeoverEpoch ≤ (state.adoptTakeoverEpoch epoch).takeoverEpoch := by
  rw [adoptTakeoverEpoch]
  split
  · next hnewer => exact hnewer.le
  · exact le_rfl

theorem takeoverEpoch_le_step (h : EpochOrdered state) (event : OutboxEvent φ) :
    state.takeoverEpoch ≤ (enqueuingStep state event).takeoverEpoch := by
  cases event with
  | append entry evict crossId gapId =>
      exact (appendToOutbox_cases h.settled crossId gapId _ evict).takeoverEpoch.ge
  | adoptTakeoverEpoch epoch => exact takeoverEpoch_le_adopt state epoch
  | sendOldest => exact takeoverEpoch_markInFlight.ge
  | ack ack =>
      rw [enqueuingStep, OutboxEvent.stamped, outboxStep, applyOutboxAck]
      split <;> exact le_rfl
  | humanStart epoch =>
      have hadopted := takeoverEpoch_le_adopt state epoch
      rw [enqueuingStep, OutboxEvent.stamped, outboxStep, recordHumanTakeover]
      split <;> exact hadopted

theorem takeoverEpoch_le_run (h : EpochOrdered state) (events : List (OutboxEvent φ)) :
    state.takeoverEpoch ≤ (run enqueuingStep state events).takeoverEpoch := by
  induction events generalizing state with
  | nil => exact le_rfl
  | cons event events ih =>
      exact (takeoverEpoch_le_step h event).trans (ih (epochOrdered_step h event))

theorem HasReserve.run (h : EpochOrdered state) (hreserve : HasReserve state)
    {events : List (OutboxEvent φ)}
    (hepoch : (run enqueuingStep state events).takeoverEpoch = state.takeoverEpoch) :
    EpochOrdered (run enqueuingStep state events) ∧
      HasReserve (run enqueuingStep state events) := by
  induction events generalizing state with
  | nil => exact ⟨h, hreserve⟩
  | cons event events ih =>
      have hstep := epochOrdered_step h event
      have hsame : (enqueuingStep state event).takeoverEpoch = state.takeoverEpoch :=
        le_antisymm ((takeoverEpoch_le_run hstep events).trans hepoch.le)
          (takeoverEpoch_le_step h event)
      exact ih hstep (hreserve.of_older (older_step h hsame)) (hepoch.trans hsame.symm)

/-! ## Counting normal entries -/

theorem length_filterMap_zipIdx {keep : NormalEntry φ → Bool}
    {select : OutboxEntry φ × Nat → Option (Nat × NormalEntry φ)} (entries : List (OutboxEntry φ))
    (start : Nat) (hnormal : ∀ entry, ∀ index ≥ start,
      (select (.normal entry, index)).isSome = keep entry)
    (hmarker : ∀ entry index, entry.isNormal = false → select (entry, index) = none) :
    ((entries.zipIdx start).filterMap select).length = (normals entries).countP keep := by
  induction entries generalizing start with
  | nil => rfl
  | cons entry rest ih =>
      have hrest := ih (start + 1) fun entry index hindex => hnormal entry index (by omega)
      rw [List.zipIdx_cons]
      cases entry with
      | gap gap => rw [List.filterMap_cons_none (hmarker _ _ rfl), hrest, normals_cons_gap]
      | cross cross => rw [List.filterMap_cons_none (hmarker _ _ rfl), hrest, normals_cons_cross]
      | normal entry =>
          have hentry := hnormal entry start le_rfl
          rw [normals_cons_normal, List.countP_cons, ← hentry, ← hrest]
          cases hselect : select (.normal entry, start) with
          | none => rw [List.filterMap_cons_none hselect]; rfl
          | some selected => rw [List.filterMap_cons_some hselect]; rfl

theorem length_outOfFlight (keep : NormalEntry φ → Bool) :
    (state.outOfFlight keep).length = (normals state.waiting).countP keep := by
  cases hinFlight : state.inFlight with
  | false =>
      rw [outOfFlight, waiting, if_neg (by simp [hinFlight])]
      refine length_filterMap_zipIdx _ 0 (fun entry index _ => ?_) fun entry index hmarker => ?_
      · cases hkeep : keep entry <;> simp [hkeep, isInFlightIndex, hinFlight]
      · cases entry <;> first | rfl | cases hmarker
  | true =>
      rw [outOfFlight, waiting, if_pos hinFlight]
      cases state.entries with
      | nil => rfl
      | cons oldest rest =>
          have hhead : ∀ entry : NormalEntry φ,
              (keep entry && !state.isInFlightIndex 0) = false := by
            simp [isInFlightIndex, hinFlight]
          rw [List.zipIdx_cons, List.filterMap_cons_none (by cases oldest <;> simp [hhead]),
            List.drop_one, List.tail_cons]
          refine length_filterMap_zipIdx _ _ (fun entry index hindex => ?_)
            fun entry index hmarker => ?_
          · have hlater : index ≠ 0 := by omega
            cases hkeep : keep entry <;> simp [hkeep, isInFlightIndex, hlater]
          · cases entry <;> first | rfl | cases hmarker

theorem length_normals_eq (epoch : Int) (entries : List (NormalEntry φ)) :
    entries.length = entries.countP (fun entry => entry.kind = .turnCompleted) +
      entries.countP (fun entry => entry.kind ≠ .turnCompleted && entry.takeoverEpoch = epoch) +
      entries.countP fun entry => entry.kind ≠ .turnCompleted && entry.takeoverEpoch ≠ epoch := by
  induction entries with
  | nil => rfl
  | cons entry rest ih =>
      rw [List.length_cons, List.countP_cons, List.countP_cons, List.countP_cons, ih]
      by_cases hkind : entry.kind = .turnCompleted
      · simp [hkind]
        omega
      · by_cases hepoch : entry.takeoverEpoch = epoch
        · simp [hkind, hepoch]
          omega
        · simp [hkind, hepoch]
          omega

theorem countP_isCritical (epoch : Int) (entries : List (OutboxEntry φ)) :
    (entries.filter fun entry => entry.takeoverEpoch ≠ epoch).countP isCritical =
      (normals entries).countP
        fun entry => entry.kind ≠ .turnCompleted && entry.takeoverEpoch ≠ epoch := by
  induction entries with
  | nil => rfl
  | cons entry rest ih =>
      cases entry with
      | gap gap =>
          rw [List.filter_cons]
          split <;> simpa [List.countP_cons, isCritical] using ih
      | cross cross =>
          rw [List.filter_cons]
          split <;> simpa [List.countP_cons, isCritical] using ih
      | normal entry =>
          rw [List.filter_cons, normals_cons_normal, List.countP_cons, ← ih]
          by_cases hepoch : entry.takeoverEpoch = epoch
          · simp [hepoch]
          · simp [hepoch, List.countP_cons, isCritical]

theorem length_flight_le : state.flight.length ≤ 1 := by
  rw [flight]
  split <;> simp

theorem countP_older (state : AgentOutboxState φ) : (older state).countP isCritical =
    (normals state.flight).countP
        (fun entry => entry.kind ≠ .turnCompleted && entry.takeoverEpoch ≠ state.takeoverEpoch) +
      (normals state.waiting).countP
        fun entry => entry.kind ≠ .turnCompleted && entry.takeoverEpoch ≠ state.takeoverEpoch := by
  rw [older_eq, List.countP_append, countP_isCritical, countP_isCritical]

theorem normalCount_eq (state : AgentOutboxState φ) : state.normalCount =
    (normals state.flight).length + (state.droppableTurnCompleted.length +
      state.foldableIndexes.length + (normals state.waiting).countP
        fun entry => entry.kind ≠ .turnCompleted && entry.takeoverEpoch ≠ state.takeoverEpoch) := by
  rw [normalCount, ← length_normals, ← flight_append_waiting, normals_append, List.length_append,
    droppableTurnCompleted, foldableIndexes, length_outOfFlight, length_outOfFlight,
    ← length_normals_eq]

/-! ## Cross entries -/

theorem length_crossEntries :
    state.crossEntries.length = state.entries.countP fun entry => entry.crossOf.isSome := by
  rw [crossEntries, length_filterMap_crossOf, shapes, List.countP_map]
  rfl

theorem EpochOrdered.older_crosses_lt (h : EpochOrdered state)
    (hslot : state.crossSlotAvailable = true) :
    (older state).countP (fun entry => entry.crossOf.isSome) < OUTBOX_CROSS_MAX := by
  have hcrosses := h.crosses
  rw [shapes, List.countP_map] at hcrosses
  change state.entries.countP (fun entry => entry.crossOf.isSome) ≤ _ at hcrosses
  rw [crossSlotAvailable, Bool.or_eq_true] at hslot
  rcases hslot with hopen | hcreate
  · obtain ⟨cross, hmem, hopen⟩ := openCross_mem hopen
    have hcurrent := takeoverEpoch_of_isOpen_cross hopen
    obtain ⟨before, after, hentries⟩ := List.append_of_mem hmem
    have hsublist : (older state).Sublist (before ++ after) := by
      rw [older, hentries, List.filter_append, List.filter_cons_of_neg (by simp [hcurrent]),
        ← List.filter_append]
      exact List.filter_sublist
    have hself : (OutboxEntry.cross cross : OutboxEntry φ).crossOf.isSome = true := rfl
    rw [hentries, List.countP_append, List.countP_cons, if_pos hself] at hcrosses
    have hle := hsublist.countP_le (p := fun entry => entry.crossOf.isSome)
    rw [List.countP_append] at hle
    omega
  · rw [canCreateCross, decide_eq_true_eq, length_crossEntries] at hcreate
    exact (List.filter_sublist.countP_le).trans_lt hcreate

theorem hasReserve_of_canAdmitStart {daemonInstanceId : JsString} (h : EpochOrdered state)
    (hadmits : state.canAdmitStart daemonInstanceId = true) : HasReserve state := by
  rw [canAdmitStart, Bool.and_eq_true, Bool.and_eq_true, decide_eq_true_eq] at hadmits
  obtain ⟨⟨hroom, -⟩, hslot⟩ := hadmits
  refine ⟨?_, h.older_crosses_lt hslot⟩
  have hflight := (normals state.flight).countP_le_length
    (p := fun entry => entry.kind ≠ .turnCompleted && entry.takeoverEpoch ≠ state.takeoverEpoch)
  have hcount := normalCount_eq state
  rw [countP_older]
  omega

/-- Only cross entries of older epochs can take a cross slot for good. -/
theorem HasReserve.crossSlotAvailable (hreserve : HasReserve state) (h : EpochOrdered state) :
    state.crossSlotAvailable = true := by
  by_contra hslot
  rw [AgentOutboxState.crossSlotAvailable, Bool.or_eq_true, not_or, canCreateCross,
    decide_eq_true_eq, length_crossEntries] at hslot
  obtain ⟨hclosed, hfull⟩ := hslot
  have hwaits : ∀ entry ∈ state.waiting, entry.takeoverEpoch = state.takeoverEpoch →
      entry.crossOf.isSome = false := by
    intro entry hentry hcurrent
    cases entry with
    | normal entry => rfl
    | gap gap => rfl
    | cross cross =>
        have hunsealed := h.unsealed _ (List.mem_map_of_mem hentry) hcurrent rfl
        have hopen : cross.isOpen state.takeoverEpoch = true := by
          rw [CrossEntry.isOpen, Bool.and_eq_true, decide_eq_true_eq]
          exact ⟨hunsealed, hcurrent⟩
        exact absurd (isSome_openCross (mem_entries_of_waiting hentry) hopen) hclosed
  by_cases hhead : ∃ entry ∈ state.flight, entry.takeoverEpoch = state.takeoverEpoch
  · -- The queue is in the order of the epochs, so all that waits is of this epoch.
    obtain ⟨oldest, holdest, hcurrent⟩ := hhead
    have hsorted := h.sorted
    rw [shapes_entries, List.pairwise_append] at hsorted
    have hnone : state.waiting.countP (fun entry => entry.crossOf.isSome) = 0 := by
      refine List.countP_eq_zero.mpr fun entry hentry => ?_
      have hle := hsorted.2.2 _ (List.mem_map_of_mem holdest) _ (List.mem_map_of_mem hentry)
      have hbounded := h.bounded _ (List.mem_map_of_mem (mem_entries_of_waiting hentry))
      simp [hwaits entry hentry (le_antisymm hbounded (hcurrent.ge.trans hle))]
    have hflight := state.flight.countP_le_length (p := fun entry => entry.crossOf.isSome)
    have hone : state.flight.length ≤ 1 := length_flight_le
    rw [← flight_append_waiting, List.countP_append, hnone] at hfull
    simp only [OUTBOX_CROSS_MAX] at hfull
    omega
  · have hsame : (older state).countP (fun entry => entry.crossOf.isSome) =
        state.entries.countP fun entry => entry.crossOf.isSome := by
      rw [older, List.countP_filter]
      refine List.countP_congr fun entry hentry => ?_
      rw [← flight_append_waiting, List.mem_append] at hentry
      rcases hentry with hflight | hwaiting
      · have hother : entry.takeoverEpoch ≠ state.takeoverEpoch :=
          fun heq => hhead ⟨entry, hflight, heq⟩
        simp [hother]
      · by_cases hcurrent : entry.takeoverEpoch = state.takeoverEpoch
        · simp [hwaits entry hwaiting hcurrent]
        · simp [hcurrent]
    have hcrosses := hreserve.crosses
    rw [hsame] at hcrosses
    exact hfull hcrosses

/-! ## Folding in the reserve -/

theorem isSome_foldIntoCross (hslot : state.crossSlotAvailable = true) (crossId : JsString)
    (rank : Nat) (entry : NormalEntry φ) : (state.foldIntoCross crossId rank entry).isSome := by
  rw [crossSlotAvailable, Bool.or_eq_true] at hslot
  rw [foldIntoCross]
  rcases hslot with hopen | hcreate
  · rw [if_pos hopen]
    rfl
  · rw [if_pos hcreate]
    split <;> rfl

theorem isSome_foldEntry (hsettled : state.FlightSettled)
    (hslot : state.crossSlotAvailable = true) (crossId gapId : JsString) (index : Nat)
    (entry : NormalEntry φ) : (state.foldEntry crossId gapId index entry).isSome := by
  rw [foldEntry]
  split
  · rfl
  · split
    · dsimp only
      split
      · rfl
      · refine isSome_foldIntoCross ?_ _ _ _
        rcases prepareGap_cases hsettled crossId entry.daemonInstanceId with hsame | ⟨-, hmerge⟩
        · rwa [hsame]
        · rw [crossSlotAvailable, hmerge.openCross, Bool.true_or]
    · exact isSome_foldIntoCross hslot _ _ _

theorem HasReserve.appended (hreserve : HasReserve state) (h : EpochOrdered state)
    (crossId gapId : JsString) {entry : NormalEntry φ} (hkind : entry.kind ≠ .turnCompleted) :
    (state.appendToOutbox crossId gapId entry true).2 ≠ .no_room := by
  rw [appendToOutbox]
  split
  · simp
  · next hfull =>
      rw [if_neg (by simp)]
      cases hdroppable : state.droppableTurnCompleted with
      | cons first rest => simp
      | nil =>
          have hfoldable : state.foldableIndexes ≠ [] := by
            rw [← List.length_pos_iff]
            have hcount := normalCount_eq state
            have hcriticals := hreserve.criticals
            have hflight : (normals state.flight).length ≤ 1 :=
              (List.length_filterMap_le _ _).trans length_flight_le
            rw [countP_older] at hcriticals
            rw [hdroppable, List.length_nil] at hcount
            simp only [OUTBOX_LAUNCH_CRITICAL_RESERVE, OUTBOX_NORMAL_CAP] at hcriticals hfull
            omega
          have hfolds : (state.foldableIndexes.findSome? fun foldable =>
              state.foldEntry crossId gapId foldable.1 foldable.2).isSome = true := by
            obtain ⟨foldable, hmem⟩ := List.exists_mem_of_ne_nil _ hfoldable
            exact List.findSome?_isSome_iff.mpr ⟨foldable, hmem,
              isSome_foldEntry h.settled (hreserve.crossSlotAvailable h) _ _ _ _⟩
          obtain ⟨folded, hfolded⟩ := Option.isSome_iff_exists.mp hfolds
          rw [hfolded]
          simp

theorem mem_entries_push (state : AgentOutboxState φ) (entry : NormalEntry φ) :
    .normal entry ∈ (state.push entry).entries :=
  List.mem_append_right _ (List.mem_singleton_self _)

theorem mem_entries_append {entry : NormalEntry φ} {evict : Bool}
    (hkind : entry.kind ≠ .turnCompleted)
    (hroom : (state.appendToOutbox crossId gapId entry evict).2 ≠ .no_room) :
    .normal entry ∈ (state.appendToOutbox crossId gapId entry evict).1.entries := by
  revert hroom
  rw [appendToOutbox]
  split
  · exact fun _ => mem_entries_push state entry
  · split
    · exact fun hroom => absurd rfl hroom
    · split
      · exact fun _ => mem_entries_push _ entry
      · split
        · exact fun _ => mem_entries_push _ entry
        · exact fun hroom => absurd rfl hroom

/-- An admitted start finds room for its evidence until a newer epoch is adopted. -/
theorem admitted_start_finds_room (agentId daemonInstanceId : JsString)
    (before during : List (OutboxEvent φ)) (crossId gapId : JsString) (entry : NormalEntry φ)
    (hadmits : (enqueuingRun agentId before).canAdmitStart daemonInstanceId = true)
    (hepoch : (enqueuingRun agentId (before ++ during)).takeoverEpoch =
      (enqueuingRun agentId before).takeoverEpoch)
    (hkind : entry.kind ≠ .turnCompleted) :
    let appended :=
      (enqueuingRun agentId (before ++ during)).appendToOutbox crossId gapId entry true
    appended.2 ≠ .no_room ∧ .normal entry ∈ appended.1.entries := by
  have hbefore := epochOrdered_enqueuingRun agentId before
  rw [enqueuingRun, run_append, ← enqueuingRun] at hepoch ⊢
  obtain ⟨hordered, hreserve⟩ := (hasReserve_of_canAdmitStart hbefore hadmits).run hbefore hepoch
  have hroom := hreserve.appended hordered crossId gapId hkind
  exact ⟨hroom, mem_entries_append hkind hroom⟩

def fullQueue : List (OutboxEvent Unit) :=
  (List.range' 1 OUTBOX_NORMAL_CAP).map fun clientSeq =>
    .append ⟨.startOutcome, js "daemon-1", clientSeq, 0, ()⟩ true (js "cross") (js "gap")

def launchEvents : List (OutboxEvent Unit) :=
  [.sendOldest, .append ⟨.spawned, js "daemon-1", 129, 0, ()⟩ true (js "cross") (js "gap")]

def exitEntry : NormalEntry Unit := ⟨.exited, js "daemon-1", 130, 0, ()⟩

theorem admitted_start_finds_room_full :
    (enqueuingRun [] fullQueue).normalCount = OUTBOX_NORMAL_CAP ∧
      (let appended := (enqueuingRun [] (fullQueue ++ launchEvents)).appendToOutbox (js "cross")
        (js "gap") exitEntry true
      appended.2 ≠ .no_room ∧ .normal exitEntry ∈ appended.1.entries) :=
  ⟨by decide +kernel, admitted_start_finds_room [] (js "daemon-1") fullQueue launchEvents
    (js "cross") (js "gap") exitEntry (by decide +kernel) (by decide +kernel) (by decide)⟩

end Raft.Outbox
