import Raft.Outbox.Runs

/-!
# Epochs in the queue

Entries wait in the order of their epochs, since a frame is enqueued under the
epoch the queue has.  An append leaves the entries of other epochs alone, up to
one completed turn that it drops.
-/

namespace Raft.Outbox

open Raft.Foundation AgentOutboxState

universe u

variable {φ : Type u} {crossId gapId : JsString} {state : AgentOutboxState φ}

/-! ## Older epochs -/

def older (state : AgentOutboxState φ) : List (OutboxEntry φ) :=
  state.entries.filter fun entry => entry.takeoverEpoch ≠ state.takeoverEpoch

/-- At most one entry leaves, a completed turn that no marker counts. -/
inductive DropsCompleted : List (OutboxEntry φ) → List (OutboxEntry φ) → Prop
  | none (entries : List (OutboxEntry φ)) : DropsCompleted entries entries
  | one (pre post : List (OutboxEntry φ)) (completed : NormalEntry φ)
      (hkind : completed.kind = .turnCompleted) :
      DropsCompleted (pre ++ .normal completed :: post) (pre ++ post)

theorem older_eq : older state =
    state.flight.filter (fun entry => entry.takeoverEpoch ≠ state.takeoverEpoch) ++
      state.waiting.filter fun entry => entry.takeoverEpoch ≠ state.takeoverEpoch := by
  rw [older, ← List.filter_append, flight_append_waiting]

theorem older_withWaiting (entries : List (OutboxEntry φ)) : older (state.withWaiting entries) =
    state.flight.filter (fun entry => entry.takeoverEpoch ≠ state.takeoverEpoch) ++
      entries.filter fun entry => entry.takeoverEpoch ≠ state.takeoverEpoch :=
  List.filter_append ..

theorem takeoverEpoch_of_isOpen {gap : GapEntry} {epoch : Int} (h : gap.isOpen epoch = true) :
    gap.takeoverEpoch = epoch := by
  rw [GapEntry.isOpen, Bool.and_eq_true, decide_eq_true_eq] at h
  exact h.2

theorem takeoverEpoch_of_isOpen_cross {cross : CrossEntry} {epoch : Int}
    (h : cross.isOpen epoch = true) : cross.takeoverEpoch = epoch := by
  rw [CrossEntry.isOpen, Bool.and_eq_true, decide_eq_true_eq] at h
  exact h.2

theorem dropsCompleted_withWaiting {entries : List (OutboxEntry φ)}
    (h : (entries.filter fun entry => entry.takeoverEpoch ≠ state.takeoverEpoch) =
      state.waiting.filter fun entry => entry.takeoverEpoch ≠ state.takeoverEpoch) :
    DropsCompleted (older state) (older (state.withWaiting entries)) := by
  rw [older_withWaiting, h, ← older_eq]
  exact .none _

theorem Consume.older {entry : NormalEntry φ} {next : AgentOutboxState φ}
    (h : Consume crossId gapId state entry next) : DropsCompleted (older state) (older next) := by
  cases h with
  | countInGap hwaiting hothers hepoch hgap hopen =>
      have hcurrent := takeoverEpoch_of_isOpen hopen
      have hfiltered := congrArg
        (List.filter fun entry => decide (entry.takeoverEpoch ≠ state.takeoverEpoch)) hothers
      clear hothers
      refine dropsCompleted_withWaiting ?_
      rw [hwaiting]
      simp_all [GapEntry.count]
  | newGap hwaiting hepoch hgaps hinstances =>
      refine dropsCompleted_withWaiting ?_
      rw [hwaiting]
      simp [GapEntry.count, hepoch]
  | countInCross hwaiting hothers hepoch hopen =>
      have hcurrent := takeoverEpoch_of_isOpen_cross hopen
      have hfiltered := congrArg
        (List.filter fun entry => decide (entry.takeoverEpoch ≠ state.takeoverEpoch)) hothers
      clear hothers
      refine dropsCompleted_withWaiting ?_
      rw [hwaiting]
      simp_all [CrossEntry.absorb]
  | newCross hwaiting hepoch hclosed hcross =>
      refine dropsCompleted_withWaiting ?_
      rw [hwaiting]
      simp [CrossEntry.absorb, AgentOutboxState.newCross, hepoch]
  | dropCompleted hwaiting hkind =>
      rw [older_withWaiting, older_eq, hwaiting]
      by_cases hepoch : entry.takeoverEpoch = state.takeoverEpoch
      · simp only [List.filter_append, List.filter_cons, OutboxEntry.takeoverEpoch_normal,
          hepoch, ne_eq,
          not_true_eq_false, decide_false, Bool.false_eq_true, if_false]
        exact .none _
      · simp only [List.filter_append, List.filter_cons, OutboxEntry.takeoverEpoch_normal,
          hepoch, ne_eq,
          not_false_eq_true, decide_true, if_true]
        rw [← List.append_assoc, ← List.append_assoc]
        exact .one _ _ entry hkind

theorem Merge.older {next : AgentOutboxState φ} (h : Merge crossId state next) :
    older next = older state := by
  have hkeeps : ∀ {daemonInstanceId : JsString} {entries : List (OutboxEntry φ)},
      (∀ entry ∈ entries, entry ∈ state.waiting) →
      (∀ gap ∈ state.gapsOf daemonInstanceId, gap.isOpen state.takeoverEpoch = true) →
      (entries.filter (keepsGap daemonInstanceId)).filter
          (fun entry => entry.takeoverEpoch ≠ state.takeoverEpoch) =
        entries.filter fun entry => entry.takeoverEpoch ≠ state.takeoverEpoch := by
    intro daemonInstanceId entries hentries hgaps
    rw [List.filter_filter]
    refine List.filter_congr fun entry hentry => ?_
    cases hgap : entry.gapOf daemonInstanceId with
    | none => simp [keepsGap, hgap]
    | some gap =>
        obtain ⟨rfl, hinstance⟩ := gapOf_eq_some.mp hgap
        have hmem : .gap gap ∈ state.entries := by
          rw [← flight_append_waiting]
          exact List.mem_append_right _ (hentries _ hentry)
        have hcurrent := takeoverEpoch_of_isOpen (hgaps gap (mem_gapsOf.mpr ⟨hmem, hinstance⟩))
        simp [hcurrent]
  cases h with
  | intoCross hwaiting hopen hsome hgaps =>
      have hcurrent := takeoverEpoch_of_isOpen_cross hopen
      rw [older_withWaiting, older_eq, hwaiting, List.filter_append,
        List.filter_cons_of_pos (by simp [keepsGap, OutboxEntry.gapOf]), List.filter_append,
        List.filter_append, hkeeps (by simp_all) hgaps, List.filter_cons_of_neg
          (by simp [CrossEntry.absorb, hcurrent]),
        hkeeps (by simp_all) hgaps, List.filter_cons_of_neg
          (by simp [hcurrent])]
  | intoNewCross hwaiting hepoch hsome hcross hgaps =>
      rw [older_withWaiting, older_eq, hwaiting, List.filter_append,
        List.filter_cons_of_pos (by simp [keepsGap, OutboxEntry.gapOf]), List.filter_append,
        List.filter_append, hkeeps (by simp_all) hgaps, List.filter_cons_of_neg
          (by simp [CrossEntry.absorb, newCross]),
        hkeeps (by simp_all) hgaps]

theorem older_push (entry : NormalEntry φ) : older (state.push entry) = older state ∨
    older (state.push entry) = older state ++ [.normal entry] := by
  have heq : older (state.push entry) = older state ++ [OutboxEntry.normal entry].filter
      fun entry => entry.takeoverEpoch ≠ state.takeoverEpoch := List.filter_append ..
  rw [heq, List.filter_cons]
  split
  · exact .inr rfl
  · exact .inl (List.append_nil _)

theorem Appended.older {entry : NormalEntry φ} {next : AgentOutboxState φ} {result : AppendResult}
    (h : Appended crossId gapId state entry next result) :
    ∃ kept, DropsCompleted (older state) kept ∧
      (older next = kept ∨ older next = kept ++ [.normal entry]) := by
  cases h with
  | appended hroom => exact ⟨_, .none _, older_push entry⟩
  | ignored hkind => exact ⟨_, .none _, .inl rfl⟩
  | no_room => exact ⟨_, .none _, .inl rfl⟩
  | @madeRoom prepared roomy consumed _ hprepared hconsumed hresult =>
      have hsame : Outbox.older prepared = Outbox.older state := by
        rcases hprepared with rfl | hmerge
        · rfl
        · exact hmerge.older
      have hdrops := hconsumed.older
      rw [hsame] at hdrops
      exact ⟨_, hdrops, older_push entry⟩

/-! ## Enqueuing -/

def OutboxEvent.stamped (epoch : Int) : OutboxEvent φ → OutboxEvent φ
  | .append entry evict crossId gapId =>
      .append { entry with takeoverEpoch := epoch } evict crossId gapId
  | .adoptTakeoverEpoch epoch => .adoptTakeoverEpoch epoch
  | .sendOldest => .sendOldest
  | .ack received => .ack received
  | .humanStart epoch => .humanStart epoch

def enqueuingStep (state : AgentOutboxState φ) (event : OutboxEvent φ) : AgentOutboxState φ :=
  outboxStep state (event.stamped state.takeoverEpoch)

def enqueuingRun (agentId : JsString) (events : List (OutboxEvent φ)) : AgentOutboxState φ :=
  run enqueuingStep (freshOutboxState agentId) events

/-- What order and capacity depend on; counting a frame does not change it. -/
structure Shape where
  takeoverEpoch : Int
  isNormal : Bool
  isCross : Bool
  isUnsealed : Bool
  gapId : Option JsString
  gapInstance : Option JsString

def shape (entry : OutboxEntry φ) : Shape where
  takeoverEpoch := entry.takeoverEpoch
  isNormal := entry.isNormal
  isCross := entry.crossOf.isSome
  isUnsealed := entry.isUnsealed
  gapId := entry.gapId
  gapInstance := entry.gapInstance

def shapes (entries : List (OutboxEntry φ)) : List Shape := entries.map shape

@[simp] theorem shapes_append (first second : List (OutboxEntry φ)) :
    shapes (first ++ second) = shapes first ++ shapes second := List.map_append

@[simp] theorem shapes_cons (entry : OutboxEntry φ) (rest : List (OutboxEntry φ)) :
    shapes (entry :: rest) = shape entry :: shapes rest := rfl

@[simp] theorem shape_count (gap : GapEntry) (entry : NormalEntry φ) :
    shape (.gap (gap.count entry) : OutboxEntry φ) = shape (.gap gap : OutboxEntry φ) := rfl

@[simp] theorem shape_absorb (cross : CrossEntry) (daemonInstanceId : JsString)
    (counts : GapCounts) : shape (.cross (cross.absorb daemonInstanceId counts) : OutboxEntry φ) =
      shape (.cross cross : OutboxEntry φ) := rfl

theorem length_filterMap_crossOf (entries : List (OutboxEntry φ)) :
    (entries.filterMap OutboxEntry.crossOf).length = (shapes entries).countP Shape.isCross := by
  induction entries with
  | nil => rfl
  | cons entry rest ih =>
      cases entry <;> simp [List.filterMap_cons, OutboxEntry.crossOf, shape, ih]

def Shape.OpenIfCurrent (epoch : Int) (shape : Shape) : Prop :=
  shape.takeoverEpoch = epoch → shape.isNormal = false → shape.isUnsealed = true

structure EpochOrdered (state : AgentOutboxState φ) : Prop where
  settled : state.FlightSettled
  bounded : ∀ shape ∈ shapes state.entries, shape.takeoverEpoch ≤ state.takeoverEpoch
  sorted : (shapes state.entries).Pairwise fun first second =>
    first.takeoverEpoch ≤ second.takeoverEpoch
  unsealed : ∀ shape ∈ shapes state.waiting, shape.OpenIfCurrent state.takeoverEpoch
  crosses : (shapes state.entries).countP Shape.isCross ≤ OUTBOX_CROSS_MAX

theorem epochOrdered_fresh (agentId : JsString) :
    EpochOrdered (freshOutboxState agentId : AgentOutboxState φ) where
  settled h := by cases h
  bounded _ h := absurd h List.not_mem_nil
  sorted := .nil
  unsealed _ h := absurd h List.not_mem_nil
  crosses := Nat.zero_le _

theorem shapes_entries : shapes state.entries = shapes state.flight ++ shapes state.waiting := by
  rw [← shapes_append, flight_append_waiting]

theorem shapes_withWaiting (entries : List (OutboxEntry φ)) :
    shapes (state.withWaiting entries).entries = shapes state.flight ++ shapes entries :=
  shapes_append ..

theorem EpochOrdered.sublist (h : EpochOrdered state) (entries : List (OutboxEntry φ))
    (hsublist : (shapes entries).Sublist (shapes state.waiting)) :
    EpochOrdered (state.withWaiting entries) := by
  have hall : (shapes (state.withWaiting entries).entries).Sublist (shapes state.entries) := by
    rw [shapes_withWaiting, shapes_entries]
    exact hsublist.append_left _
  refine ⟨h.settled.withWaiting _, fun shape hshape => h.bounded shape (hall.subset hshape),
    h.sorted.sublist hall, ?_, hall.countP_le.trans h.crosses⟩
  rw [waiting_withWaiting h.settled]
  exact fun shape hshape => h.unsealed shape (hsublist.subset hshape)

theorem EpochOrdered.insert {before after : List (OutboxEntry φ)} (h : EpochOrdered state)
    (inserted : OutboxEntry φ) (hwaiting : state.waiting = before ++ after)
    (hepoch : inserted.takeoverEpoch = state.takeoverEpoch)
    (hafter : ∀ entry ∈ after.head?, entry.takeoverEpoch = state.takeoverEpoch)
    (hopen : (shape inserted).OpenIfCurrent state.takeoverEpoch)
    (hcrosses : inserted.crossOf.isSome = true → state.crossEntries.length < OUTBOX_CROSS_MAX) :
    EpochOrdered (state.withWaiting (before ++ inserted :: after)) := by
  have hshapes : shapes state.entries = (shapes state.flight ++ shapes before) ++ shapes after := by
    rw [shapes_entries, hwaiting, shapes_append, List.append_assoc]
  have hnext : shapes (state.withWaiting (before ++ inserted :: after)).entries =
      (shapes state.flight ++ shapes before) ++ shape inserted :: shapes after := by
    rw [shapes_withWaiting, shapes_append, shapes_cons, List.append_assoc]
  have hbounded := h.bounded
  have hsorted := h.sorted
  have hcount := h.crosses
  have hunsealed := h.unsealed
  rw [hshapes] at hbounded hsorted hcount
  rw [hwaiting, shapes_append] at hunsealed
  have hlater : ∀ later ∈ shapes after, state.takeoverEpoch ≤ later.takeoverEpoch := by
    intro later hlater
    cases after with
    | nil => cases hlater
    | cons first rest =>
        have hfirst := hafter first rfl
        rw [shapes_cons, List.pairwise_append, List.pairwise_cons] at hsorted
        rw [shapes_cons, List.mem_cons] at hlater
        rcases hlater with rfl | hlater
        · exact hfirst.ge
        · exact hfirst.ge.trans (hsorted.2.1.1 later hlater)
  refine ⟨h.settled.withWaiting _, ?_, ?_, ?_, ?_⟩
  · rw [hnext]
    intro other hother
    simp only [List.mem_append, List.mem_cons] at hother hbounded
    rcases hother with hother | rfl | hother
    · exact hbounded other (.inl hother)
    · exact hepoch.le
    · exact hbounded other (.inr hother)
  · rw [hnext]
    rw [List.pairwise_append] at hsorted ⊢
    refine ⟨hsorted.1, List.pairwise_cons.mpr ⟨fun later hmem => ?_, hsorted.2.1⟩,
      fun first hfirst second hsecond => ?_⟩
    · exact hepoch.le.trans (hlater later hmem)
    · rcases List.mem_cons.mp hsecond with rfl | hsecond
      · exact (hbounded first (List.mem_append_left _ hfirst)).trans hepoch.ge
      · exact hsorted.2.2 first hfirst second hsecond
  · rw [waiting_withWaiting h.settled, shapes_append, shapes_cons]
    intro other hother
    simp only [List.mem_append, List.mem_cons] at hother hunsealed
    rcases hother with hother | rfl | hother
    · exact hunsealed other (.inl hother)
    · exact hopen
    · exact hunsealed other (.inr hother)
  · rw [hnext, List.countP_append, List.countP_cons]
    rw [List.countP_append] at hcount
    have hlength : state.crossEntries.length =
        (shapes state.entries).countP Shape.isCross := length_filterMap_crossOf _
    rw [hshapes, List.countP_append] at hlength
    split
    · next hcross =>
        have := hcrosses hcross
        omega
    · omega

theorem withWaiting_withWaiting (hsettled : state.FlightSettled)
    (first second : List (OutboxEntry φ)) :
    (state.withWaiting first).withWaiting second = state.withWaiting second := by
  rw [AgentOutboxState.withWaiting, flight_withWaiting hsettled]
  rfl

theorem openIfCurrent_of_unsealed {entry : OutboxEntry φ} {epoch : Int}
    (h : entry.isUnsealed = true) : (shape entry).OpenIfCurrent epoch := fun _ _ => h

theorem EpochOrdered.replace {pre post : List (OutboxEntry φ)} {entry : NormalEntry φ}
    {marker : OutboxEntry φ} (h : EpochOrdered state)
    (hwaiting : state.waiting = pre ++ .normal entry :: post)
    (hepoch : entry.takeoverEpoch = state.takeoverEpoch)
    (hmarker : marker.takeoverEpoch = state.takeoverEpoch) (hopen : marker.isUnsealed = true)
    (hcrosses : marker.crossOf.isSome = true → state.crossEntries.length < OUTBOX_CROSS_MAX) :
    EpochOrdered (state.withWaiting (pre ++ marker :: post)) := by
  have hinserted := h.insert marker hwaiting hmarker
    (by rintro other ⟨⟩; exact hepoch) (openIfCurrent_of_unsealed hopen) hcrosses
  have hreplaced := hinserted.sublist (pre ++ marker :: post) (by
    rw [waiting_withWaiting h.settled, shapes_append, shapes_append]
    exact ((List.sublist_cons_self _ _).cons_cons _).append_left _)
  rwa [withWaiting_withWaiting h.settled] at hreplaced

theorem EpochOrdered.consume {entry : NormalEntry φ} {next : AgentOutboxState φ}
    (h : EpochOrdered state) (hconsume : Consume crossId gapId state entry next) :
    EpochOrdered next := by
  have hrest : ∀ {pre post : List (OutboxEntry φ)}, state.waiting = pre ++ .normal entry :: post →
      (shapes (pre ++ post)).Sublist (shapes state.waiting) := by
    intro pre post hwaiting
    rw [hwaiting]
    exact ((List.sublist_cons_self _ _).append_left _).map _
  cases hconsume with
  | countInGap hwaiting hothers hepoch hgap hopen =>
      have hkept := hrest hwaiting
      rw [hothers] at hkept
      exact h.sublist _ (by simpa using hkept)
  | newGap hwaiting hepoch hgaps hinstances =>
      exact h.replace hwaiting hepoch rfl rfl fun hcross => by cases hcross
  | countInCross hwaiting hothers hepoch hopen =>
      have hkept := hrest hwaiting
      rw [hothers] at hkept
      exact h.sublist _ (by simpa using hkept)
  | newCross hwaiting hepoch hclosed hcross =>
      exact h.replace hwaiting hepoch rfl rfl fun _ => hcross
  | dropCompleted hwaiting hkind => exact h.sublist _ (hrest hwaiting)

theorem EpochOrdered.merge {next : AgentOutboxState φ} (h : EpochOrdered state)
    (hmerge : Merge crossId state next) : EpochOrdered next := by
  cases hmerge with
  | intoCross hwaiting hopen hsome hgaps =>
      refine h.sublist _ ((List.filter_sublist.map _).trans ?_)
      rw [hwaiting]
      change (shapes _).Sublist _
      simp
  | @intoNewCross daemonInstanceId before after hwaiting hepoch hsome hcross hgaps =>
      have hinserted := h.insert (.cross ((state.newCross crossId).absorb daemonInstanceId
        (totalCounts (state.gapsOf daemonInstanceId)))) hwaiting rfl hepoch
        (openIfCurrent_of_unsealed rfl) fun _ => hcross
      have hmerged := hinserted.sublist (List.filter (keepsGap daemonInstanceId) _) (by
        rw [waiting_withWaiting h.settled]
        exact List.filter_sublist.map _)
      rwa [withWaiting_withWaiting h.settled] at hmerged

theorem EpochOrdered.push {entry : NormalEntry φ} (h : EpochOrdered state)
    (hepoch : entry.takeoverEpoch = state.takeoverEpoch) : EpochOrdered (state.push entry) := by
  have hpushed := h.insert (.normal entry) (List.append_nil state.waiting).symm hepoch
    (fun _ h => by cases h) (fun _ h => by cases h) fun h => by cases h
  rwa [← push_eq_withWaiting] at hpushed

theorem Consume.takeoverEpoch {entry : NormalEntry φ} {next : AgentOutboxState φ}
    (h : Consume crossId gapId state entry next) : next.takeoverEpoch = state.takeoverEpoch := by
  cases h <;> rfl

theorem EpochOrdered.appended {entry : NormalEntry φ} {next : AgentOutboxState φ}
    {result : AppendResult} (h : EpochOrdered state)
    (happended : Appended crossId gapId state entry next result)
    (hepoch : entry.takeoverEpoch = state.takeoverEpoch) : EpochOrdered next := by
  cases happended with
  | appended hroom => exact h.push hepoch
  | ignored hkind => exact h
  | no_room => exact h
  | @madeRoom prepared roomy consumed _ hprepared hconsumed hresult =>
      have hprepared : EpochOrdered prepared ∧ prepared.takeoverEpoch = state.takeoverEpoch := by
        rcases hprepared with rfl | hmerge
        · exact ⟨h, rfl⟩
        · exact ⟨h.merge hmerge, hmerge.takeoverEpoch⟩
      exact (hprepared.1.consume hconsumed).push
        (hepoch.trans (hconsumed.takeoverEpoch.trans hprepared.2).symm)

theorem takeoverEpoch_sealed (entry : OutboxEntry φ) :
    entry.sealed.takeoverEpoch = entry.takeoverEpoch := by
  cases entry <;> rfl

theorem crossOf_sealed (entry : OutboxEntry φ) :
    entry.sealed.crossOf.isSome = entry.crossOf.isSome := by
  cases entry <;> rfl

theorem epochOrdered_adoptTakeoverEpoch (h : EpochOrdered state) (epoch : Int) :
    EpochOrdered (state.adoptTakeoverEpoch epoch) := by
  have hsettled := (flightKept_step h.settled (.adoptTakeoverEpoch epoch)).settled
  rw [outboxStep] at hsettled
  by_cases hnewer : epoch > state.takeoverEpoch
  · have heq : state.adoptTakeoverEpoch epoch = { state with
        entries := state.entries.map OutboxEntry.sealed
        takeoverEpoch := epoch } := by
      rw [adoptTakeoverEpoch, if_pos hnewer]
    have hsealed : ∀ entry : OutboxEntry φ, entry ∈ state.entries.map OutboxEntry.sealed →
        entry.takeoverEpoch < epoch := by
      intro entry hentry
      obtain ⟨old, hold, rfl⟩ := List.mem_map.mp hentry
      have hbounded := h.bounded _ (List.mem_map_of_mem hold)
      rw [takeoverEpoch_sealed]
      exact lt_of_le_of_lt hbounded hnewer
    rw [heq] at hsettled ⊢
    refine ⟨hsettled, fun shape hshape => ?_, ?_, fun shape hshape hcurrent => ?_, ?_⟩
    · obtain ⟨entry, hentry, rfl⟩ := List.mem_map.mp hshape
      exact (hsealed entry hentry).le
    · have hsorted := h.sorted
      rw [shapes, List.pairwise_map] at hsorted ⊢
      rw [List.pairwise_map]
      exact hsorted.imp fun hle => by simpa [shape, takeoverEpoch_sealed] using hle
    · obtain ⟨entry, hentry, rfl⟩ := List.mem_map.mp hshape
      exact absurd hcurrent (hsealed entry (mem_entries_of_waiting hentry)).ne
    · have hcrosses := h.crosses
      rw [shapes, List.countP_map] at hcrosses ⊢
      rw [List.countP_map]
      exact (List.countP_congr fun entry _ => by
        simp [shape, crossOf_sealed]).trans_le hcrosses
  · rwa [adoptTakeoverEpoch, if_neg hnewer]

theorem epochOrdered_markInFlight (h : EpochOrdered state) : EpochOrdered state.markInFlight := by
  have hsettled := (flightKept_markInFlight h.settled).settled
  cases hentries : state.entries with
  | nil =>
      have heq : state.markInFlight = state := by simp [markInFlight, hentries]
      rwa [heq]
  | cons oldest rest =>
      cases hinFlight : state.inFlight with
      | true =>
          obtain ⟨first, hflight, hsealed⟩ := h.settled hinFlight
          obtain rfl : oldest = first := by simpa [flight, hinFlight, hentries] using hflight
          have heq : state.markInFlight = state := by
            simp [markInFlight, hentries, hinFlight, hsealed]
          rwa [heq]
      | false =>
          have heq : state.markInFlight =
              { state with entries := oldest.sealed :: rest, inFlight := true } := by
            simp [markInFlight, hentries, hinFlight]
          obtain ⟨-, hbounded, hsorted, hunsealed, hcrosses⟩ := h
          rw [waiting, hinFlight] at hunsealed
          simp only [hentries, shapes_cons, List.mem_cons, forall_eq_or_imp, List.pairwise_cons,
            List.countP_cons, Bool.false_eq_true, if_false] at hbounded hsorted hunsealed hcrosses
          rw [heq] at hsettled ⊢
          refine ⟨hsettled, ?_, ?_, fun other hother => hunsealed.2 other hother, ?_⟩
          · simpa [shape, takeoverEpoch_sealed] using hbounded
          · simpa [shape, takeoverEpoch_sealed] using hsorted
          · have hcross : (shape oldest.sealed).isCross = (shape oldest).isCross :=
              crossOf_sealed oldest
            rw [shapes_cons, List.countP_cons, hcross]
            exact hcrosses

theorem epochOrdered_applyOutboxAck (h : EpochOrdered state) (ack : OutboxAck) :
    EpochOrdered (state.applyOutboxAck ack) := by
  have hsettled := (flightKept_applyOutboxAck h.settled ack).settled
  have hentries : (shapes (state.applyOutboxAck ack).entries).Sublist (shapes state.entries) := by
    rw [applyOutboxAck]
    cases state.ackedIndex ack with
    | none => exact List.Sublist.refl _
    | some index => exact (List.eraseIdx_sublist _ _).map _
  have hepoch : (state.applyOutboxAck ack).takeoverEpoch = state.takeoverEpoch := by
    rw [applyOutboxAck]
    split <;> rfl
  refine ⟨hsettled, ?_, h.sorted.sublist hentries, ?_, hentries.countP_le.trans h.crosses⟩
  · rw [hepoch]
    exact fun shape hshape => h.bounded shape (hentries.subset hshape)
  · rw [hepoch]
    exact fun shape hshape =>
      h.unsealed shape (((waiting_applyOutboxAck ack).map _).subset hshape)

theorem epochOrdered_step (h : EpochOrdered state) (event : OutboxEvent φ) :
    EpochOrdered (enqueuingStep state event) := by
  cases event with
  | append entry evict crossId gapId =>
      exact h.appended (appendToOutbox_cases h.settled crossId gapId _ evict) rfl
  | adoptTakeoverEpoch epoch => exact epochOrdered_adoptTakeoverEpoch h epoch
  | sendOldest => exact epochOrdered_markInFlight h
  | ack ack => exact epochOrdered_applyOutboxAck h ack
  | humanStart epoch =>
      have hadopted := epochOrdered_adoptTakeoverEpoch h epoch
      rw [enqueuingStep, OutboxEvent.stamped, outboxStep, recordHumanTakeover]
      split
      · exact hadopted
      · exact ⟨hadopted.settled, hadopted.bounded, hadopted.sorted, hadopted.unsealed,
          hadopted.crosses⟩

theorem epochOrdered_enqueuingRun (agentId : JsString) (events : List (OutboxEvent φ)) :
    EpochOrdered (enqueuingRun agentId events) :=
  run_invariant EpochOrdered events (fun _ event h => epochOrdered_step h event)
    (epochOrdered_fresh agentId)

end Raft.Outbox
