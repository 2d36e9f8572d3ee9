import Raft.Outbox.Queue

/-!
# What an append can do to the queue

Nothing touches the entry in flight.  Among the entries that wait, an append
counts a normal entry in a marker, puts a marker in its place, merges the gaps
of an instance or drops a completed turn; then it pushes the new entry.
-/

namespace Raft.Outbox

open Raft.Foundation

universe u

variable {φ : Type u}

/-! ## Splitting the list of entries -/

def normals (entries : List (OutboxEntry φ)) : List (NormalEntry φ) :=
  entries.filterMap fun entry => match entry with
    | .normal entry => some entry
    | .gap _ | .cross _ => none

@[simp] theorem normals_nil : normals ([] : List (OutboxEntry φ)) = [] := rfl

@[simp] theorem normals_cons_normal (entry : NormalEntry φ) (rest : List (OutboxEntry φ)) :
    normals (.normal entry :: rest) = entry :: normals rest := rfl

@[simp] theorem normals_cons_gap (gap : GapEntry) (rest : List (OutboxEntry φ)) :
    normals (.gap gap :: rest) = normals rest := rfl

@[simp] theorem normals_cons_cross (cross : CrossEntry) (rest : List (OutboxEntry φ)) :
    normals (.cross cross :: rest) = normals rest := rfl

@[simp] theorem normals_append (first second : List (OutboxEntry φ)) :
    normals (first ++ second) = normals first ++ normals second := List.filterMap_append

theorem length_normals (entries : List (OutboxEntry φ)) :
    (normals entries).length = entries.countP OutboxEntry.isNormal := by
  induction entries with
  | nil => rfl
  | cons entry rest ih => cases entry <;> simp [OutboxEntry.isNormal, List.countP_cons, ih]

theorem mem_normals {entries : List (OutboxEntry φ)} {entry : NormalEntry φ} :
    entry ∈ normals entries ↔ .normal entry ∈ entries := by
  induction entries with
  | nil => simp
  | cons other rest ih => cases other <;> simp [ih]

theorem spliceNormal_append (before after replacement : List (OutboxEntry φ))
    (entry : NormalEntry φ) :
    AgentOutboxState.spliceNormal (normals before).length replacement
      (before ++ .normal entry :: after) = before ++ replacement ++ after := by
  induction before with
  | nil => rfl
  | cons other before ih => cases other <;> simpa [AgentOutboxState.spliceNormal] using ih

theorem exists_split {entries : List (OutboxEntry φ)} {before after : List (NormalEntry φ)}
    {entry : NormalEntry φ} (h : normals entries = before ++ entry :: after) :
    ∃ pre post, entries = pre ++ .normal entry :: post ∧ normals pre = before ∧
      normals post = after := by
  induction entries generalizing before with
  | nil => simp at h
  | cons other rest ih =>
      cases other with
      | normal first =>
          cases before with
          | nil =>
              obtain ⟨rfl, rfl⟩ : first = entry ∧ normals rest = after := by simpa using h
              exact ⟨[], rest, rfl, rfl, rfl⟩
          | cons head before =>
              obtain ⟨rfl, hrest⟩ : first = head ∧ normals rest = before ++ entry :: after := by
                simpa using h
              obtain ⟨pre, post, rfl, hpre, hpost⟩ := ih hrest
              exact ⟨.normal first :: pre, post, rfl, by simp [hpre], hpost⟩
      | gap gap =>
          obtain ⟨pre, post, rfl, hpre, hpost⟩ := ih (by simpa using h)
          exact ⟨.gap gap :: pre, post, rfl, by simp [hpre], hpost⟩
      | cross cross =>
          obtain ⟨pre, post, rfl, hpre, hpost⟩ := ih (by simpa using h)
          exact ⟨.cross cross :: pre, post, rfl, by simp [hpre], hpost⟩

structure MarkerEdit (replace : OutboxEntry φ → Option (OutboxEntry φ)) : Prop where
  normal : ∀ entry, replace (.normal entry) = none
  marker : ∀ entry other, replace entry = some other → other.isNormal = false

theorem spliceNormal_replaceF {replace : OutboxEntry φ → Option (OutboxEntry φ)}
    (hreplace : MarkerEdit replace) (rank : Nat) (entries : List (OutboxEntry φ)) :
    AgentOutboxState.spliceNormal rank [] (entries.replaceF replace) =
      (AgentOutboxState.spliceNormal rank [] entries).replaceF replace := by
  induction entries generalizing rank with
  | nil => cases rank <;> rfl
  | cons entry rest ih =>
      rw [List.replaceF_cons]
      cases hentry : replace entry with
      | none =>
          cases entry with
          | normal entry =>
              cases rank with
              | zero => rfl
              | succ rank => simp [AgentOutboxState.spliceNormal, ih, hentry]
          | gap gap => simp [AgentOutboxState.spliceNormal, ih, hentry]
          | cross cross => simp [AgentOutboxState.spliceNormal, ih, hentry]
      | some other =>
          have hother := hreplace.marker entry other hentry
          cases entry with
          | normal entry => simp [hreplace.normal] at hentry
          | gap gap =>
            cases other <;> simp_all [AgentOutboxState.spliceNormal, OutboxEntry.isNormal]
          | cross cross =>
              cases other <;> simp_all [AgentOutboxState.spliceNormal, OutboxEntry.isNormal]

theorem markerEdit_gap (daemonInstanceId : JsString) (keep : GapEntry → Bool)
    (change : GapEntry → GapEntry) :
    MarkerEdit fun entry : OutboxEntry φ =>
      ((entry.gapOf daemonInstanceId).filter keep).map fun gap => .gap (change gap) where
  normal _ := rfl
  marker entry other h := by
    obtain ⟨gap, -, rfl⟩ := Option.map_eq_some_iff.mp h
    rfl

theorem markerEdit_cross (keep : CrossEntry → Bool) (change : CrossEntry → CrossEntry) :
    MarkerEdit fun entry : OutboxEntry φ =>
      (entry.crossOf.filter keep).map fun cross => .cross (change cross) where
  normal _ := rfl
  marker entry other h := by
    obtain ⟨cross, -, rfl⟩ := Option.map_eq_some_iff.mp h
    rfl

theorem gapOf_eq_some {daemonInstanceId : JsString} {entry : OutboxEntry φ} {gap : GapEntry} :
    entry.gapOf daemonInstanceId = some gap ↔
      entry = .gap gap ∧ gap.daemonInstanceId = daemonInstanceId := by
  cases entry with
  | normal entry => simp [OutboxEntry.gapOf]
  | cross cross => simp [OutboxEntry.gapOf]
  | gap other =>
      rw [OutboxEntry.gapOf]
      split
      · next h =>
          constructor
          · rintro ⟨⟩
            exact ⟨rfl, h⟩
          · rintro ⟨heq, -⟩
            cases heq
            rfl
      · next h =>
          constructor
          · rintro ⟨⟩
          · rintro ⟨heq, hsame⟩
            cases heq
            exact absurd hsame h

theorem crossOf_eq_some {entry : OutboxEntry φ} {cross : CrossEntry} :
    entry.crossOf = some cross ↔ entry = .cross cross := by
  cases entry <;> simp [OutboxEntry.crossOf]

theorem replaceF_gap {daemonInstanceId : JsString} {epoch : Int} (change : GapEntry → GapEntry)
    {entries : List (OutboxEntry φ)} {gap : GapEntry} (hmem : .gap gap ∈ entries)
    (hgap : gap.daemonInstanceId = daemonInstanceId) (hopen : gap.isOpen epoch = true) :
    ∃ before gap after, entries = before ++ .gap gap :: after ∧
      gap.daemonInstanceId = daemonInstanceId ∧ gap.isOpen epoch = true ∧
      entries.replaceF (fun entry =>
        ((entry.gapOf daemonInstanceId).filter fun gap => gap.isOpen epoch).map
          fun gap => .gap (change gap)) = before ++ .gap (change gap) :: after := by
  have hsome : ((((OutboxEntry.gap gap : OutboxEntry φ).gapOf daemonInstanceId).filter
      fun gap => gap.isOpen epoch).map fun gap => OutboxEntry.gap (change gap)) =
      (some (.gap (change gap)) : Option (OutboxEntry φ)) := by
    simp [OutboxEntry.gapOf, hgap, Option.filter, hopen]
  obtain ⟨entry, other, before, after, -, hother, heq, hreplaced⟩ :=
    List.exists_of_replaceF (p := fun entry : OutboxEntry φ =>
      ((entry.gapOf daemonInstanceId).filter fun gap => gap.isOpen epoch).map
        fun gap => .gap (change gap)) hmem hsome
  obtain ⟨first, hfirst, rfl⟩ := Option.map_eq_some_iff.mp hother
  obtain ⟨hfirst, hfirstOpen⟩ := Option.filter_eq_some_iff.mp hfirst
  obtain ⟨rfl, hinstance⟩ := gapOf_eq_some.mp hfirst
  exact ⟨before, first, after, heq, hinstance, hfirstOpen, hreplaced⟩

theorem replaceF_cross {epoch : Int} (change : CrossEntry → CrossEntry)
    {entries : List (OutboxEntry φ)} {cross : CrossEntry} (hmem : .cross cross ∈ entries)
    (hopen : cross.isOpen epoch = true) :
    ∃ before cross after, entries = before ++ .cross cross :: after ∧ cross.isOpen epoch = true ∧
      entries.replaceF (fun entry =>
        (entry.crossOf.filter fun cross => cross.isOpen epoch).map
          fun cross => .cross (change cross)) = before ++ .cross (change cross) :: after := by
  have hsome : (((OutboxEntry.cross cross : OutboxEntry φ).crossOf.filter
      fun cross => cross.isOpen epoch).map fun cross => OutboxEntry.cross (change cross)) =
      (some (.cross (change cross)) : Option (OutboxEntry φ)) := by
    simp [OutboxEntry.crossOf, Option.filter, hopen]
  obtain ⟨entry, other, before, after, -, hother, heq, hreplaced⟩ :=
    List.exists_of_replaceF (p := fun entry : OutboxEntry φ =>
      (entry.crossOf.filter fun cross => cross.isOpen epoch).map
        fun cross => .cross (change cross)) hmem hsome
  obtain ⟨first, hfirst, rfl⟩ := Option.map_eq_some_iff.mp hother
  obtain ⟨hfirst, hfirstOpen⟩ := Option.filter_eq_some_iff.mp hfirst
  obtain rfl := crossOf_eq_some.mp hfirst
  exact ⟨before, first, after, heq, hfirstOpen, hreplaced⟩

theorem replaceF_append {replace : OutboxEntry φ → Option (OutboxEntry φ)}
    {first second : List (OutboxEntry φ)} (hfirst : ∀ entry ∈ first, replace entry = none) :
    (first ++ second).replaceF replace = first ++ second.replaceF replace := by
  induction first with
  | nil => rfl
  | cons entry first ih =>
      rw [List.cons_append, List.replaceF_cons_of_none _ (hfirst entry List.mem_cons_self),
        ih fun other hother => hfirst other (List.mem_cons_of_mem _ hother), List.cons_append]

/-! ## The entry in flight and those that wait -/

namespace AgentOutboxState

variable (state : AgentOutboxState φ)

def flight : List (OutboxEntry φ) := if state.inFlight then state.entries.take 1 else []

def waiting : List (OutboxEntry φ) := if state.inFlight then state.entries.drop 1 else state.entries

def withWaiting (waiting : List (OutboxEntry φ)) : AgentOutboxState φ :=
  { state with entries := state.flight ++ waiting }

def FlightSettled : Prop :=
  state.inFlight = true → ∃ oldest, state.flight = [oldest] ∧ oldest.isUnsealed = false

variable {state}

theorem flight_append_waiting : state.flight ++ state.waiting = state.entries := by
  rw [flight, waiting]
  split
  · exact List.take_append_drop 1 state.entries
  · rfl

theorem mem_entries_of_waiting {entry : OutboxEntry φ} (h : entry ∈ state.waiting) :
    entry ∈ state.entries := by
  rw [← flight_append_waiting]
  exact List.mem_append_right _ h

theorem FlightSettled.not_open (h : state.FlightSettled) {entry : OutboxEntry φ}
    (hmem : entry ∈ state.flight) : entry.isUnsealed = false := by
  by_cases hinFlight : state.inFlight = true
  · obtain ⟨oldest, hflight, hsealed⟩ := h hinFlight
    rw [hflight, List.mem_singleton] at hmem
    rw [hmem, hsealed]
  · simp [flight, hinFlight] at hmem

@[simp] theorem flight_withWaiting (h : state.FlightSettled) (entries : List (OutboxEntry φ)) :
    (state.withWaiting entries).flight = state.flight := by
  by_cases hinFlight : state.inFlight = true
  · obtain ⟨oldest, hflight, -⟩ := h hinFlight
    simp [flight, withWaiting, hinFlight] at hflight ⊢
    simp [hflight]
  · simp [flight, withWaiting, hinFlight]

@[simp] theorem waiting_withWaiting (h : state.FlightSettled) (entries : List (OutboxEntry φ)) :
    (state.withWaiting entries).waiting = entries := by
  have heq : (state.withWaiting entries).flight ++ (state.withWaiting entries).waiting =
      (state.withWaiting entries).entries := flight_append_waiting
  rw [flight_withWaiting h, withWaiting] at heq
  exact List.append_cancel_left heq

theorem FlightSettled.withWaiting (h : state.FlightSettled) (entries : List (OutboxEntry φ)) :
    (state.withWaiting entries).FlightSettled := by
  intro hinFlight
  rw [flight_withWaiting h]
  exact h hinFlight

end AgentOutboxState

open AgentOutboxState

/-! ## Edits -/

variable {crossId gapId : JsString} {state : AgentOutboxState φ}

def totalCounts (gaps : List GapEntry) : GapCounts :=
  gaps.foldl (fun counts gap => counts.addCounts gap.counts) .zeroCounts

def keepsGap (daemonInstanceId : JsString) (entry : OutboxEntry φ) : Bool :=
  (entry.gapOf daemonInstanceId).isNone

/-- An entry that waits makes room: it is counted in a marker or, completed, dropped. -/
inductive Consume (crossId gapId : JsString) (state : AgentOutboxState φ)
    (entry : NormalEntry φ) : AgentOutboxState φ → Prop
  | countInGap {pre post before after : List (OutboxEntry φ)} {gap : GapEntry}
      (hwaiting : state.waiting = pre ++ .normal entry :: post)
      (hothers : pre ++ post = before ++ .gap gap :: after)
      (hepoch : entry.takeoverEpoch = state.takeoverEpoch)
      (hgap : gap.daemonInstanceId = entry.daemonInstanceId)
      (hopen : gap.isOpen state.takeoverEpoch = true) :
      Consume crossId gapId state entry
        (state.withWaiting (before ++ .gap (gap.count entry) :: after))
  | newGap {pre post : List (OutboxEntry φ)}
      (hwaiting : state.waiting = pre ++ .normal entry :: post)
      (hepoch : entry.takeoverEpoch = state.takeoverEpoch)
      (hgaps : (state.gapsOf entry.daemonInstanceId).length < OUTBOX_GAPS_PER_INSTANCE_MAX)
      (hinstances : (state.gapsOf entry.daemonInstanceId).length > 0 ∨
        state.instancesWithGaps.length < OUTBOX_GAP_INSTANCES_MAX) :
      Consume crossId gapId state entry (state.withWaiting (pre ++ .gap (GapEntry.count
        ⟨gapId, entry.daemonInstanceId, state.takeoverEpoch, entry.clientSeq, entry.clientSeq,
          .zeroCounts, false⟩ entry) :: post))
  | countInCross {pre post before after : List (OutboxEntry φ)} {cross : CrossEntry}
      (hwaiting : state.waiting = pre ++ .normal entry :: post)
      (hothers : pre ++ post = before ++ .cross cross :: after)
      (hepoch : entry.takeoverEpoch = state.takeoverEpoch)
      (hopen : cross.isOpen state.takeoverEpoch = true) :
      Consume crossId gapId state entry (state.withWaiting (before ++ .cross (cross.absorb
        entry.daemonInstanceId (GapCounts.zeroCounts.bump entry.kind)) :: after))
  | newCross {pre post : List (OutboxEntry φ)}
      (hwaiting : state.waiting = pre ++ .normal entry :: post)
      (hepoch : entry.takeoverEpoch = state.takeoverEpoch)
      (hclosed : state.openCross.isSome = false)
      (hcross : state.crossEntries.length < OUTBOX_CROSS_MAX) :
      Consume crossId gapId state entry (state.withWaiting
        (pre ++ .cross ((state.newCross crossId).absorb
          entry.daemonInstanceId (GapCounts.zeroCounts.bump entry.kind)) :: post))
  | dropCompleted {pre post : List (OutboxEntry φ)}
      (hwaiting : state.waiting = pre ++ .normal entry :: post)
      (hkind : entry.kind = .turnCompleted) :
      Consume crossId gapId state entry (state.withWaiting (pre ++ post))

inductive Merge (crossId : JsString) (state : AgentOutboxState φ) :
    AgentOutboxState φ → Prop
  | intoCross {daemonInstanceId : JsString} {before after : List (OutboxEntry φ)}
      {cross : CrossEntry} (hwaiting : state.waiting = before ++ .cross cross :: after)
      (hopen : cross.isOpen state.takeoverEpoch = true)
      (hsome : state.gapsOf daemonInstanceId ≠ [])
      (hgaps : ∀ gap ∈ state.gapsOf daemonInstanceId, gap.isOpen state.takeoverEpoch = true) :
      Merge crossId state (state.withWaiting ((before ++ .cross (cross.absorb daemonInstanceId
        (totalCounts (state.gapsOf daemonInstanceId))) :: after).filter
          (keepsGap daemonInstanceId)))
  | intoNewCross {daemonInstanceId : JsString} {before after : List (OutboxEntry φ)}
      (hwaiting : state.waiting = before ++ after)
      (hepoch : ∀ entry ∈ after.head?, entry.takeoverEpoch = state.takeoverEpoch)
      (hsome : state.gapsOf daemonInstanceId ≠ [])
      (hcross : state.crossEntries.length < OUTBOX_CROSS_MAX)
      (hgaps : ∀ gap ∈ state.gapsOf daemonInstanceId, gap.isOpen state.takeoverEpoch = true) :
      Merge crossId state (state.withWaiting ((before ++ .cross ((state.newCross crossId).absorb
        daemonInstanceId (totalCounts (state.gapsOf daemonInstanceId))) :: after).filter
          (keepsGap daemonInstanceId)))

/-! ## Folding an entry -/

theorem split_of_outOfFlight {keep : NormalEntry φ → Bool} {index : Nat} {entry : NormalEntry φ}
    (h : (index, entry) ∈ state.outOfFlight keep) :
    keep entry = true ∧ state.entries[index]? = some (.normal entry) ∧
      ∃ pre post, state.waiting = pre ++ .normal entry :: post ∧
        state.entries.take index = state.flight ++ pre ∧
        state.entries.eraseIdx index = state.flight ++ (pre ++ post) := by
  obtain ⟨⟨other, position⟩, hmem, hselected⟩ := List.mem_filterMap.mp h
  cases other with
  | gap gap => simp at hselected
  | cross cross => simp at hselected
  | normal other =>
      simp only [Option.ite_none_right_eq_some, Option.some.injEq, Prod.mk.injEq,
        Bool.and_eq_true, Bool.not_eq_true'] at hselected
      obtain ⟨⟨hkeep, hflying⟩, rfl, rfl⟩ := hselected
      have hentry : state.entries[position]? = some (.normal other) :=
        List.mem_zipIdx_iff_getElem?.mp hmem
      refine ⟨hkeep, hentry, ?_⟩
      by_cases hinFlight : state.inFlight = true
      · have hpos : position ≠ 0 := by
          simpa [isInFlightIndex, hinFlight] using hflying
        obtain ⟨position, rfl⟩ := Nat.exists_eq_succ_of_ne_zero hpos
        cases hentries : state.entries with
        | nil => simp [hentries] at hentry
        | cons oldest rest =>
            have hrest : rest[position]? = some (.normal other) := by simpa [hentries] using hentry
            obtain ⟨hlt, helem⟩ := List.getElem?_eq_some_iff.mp hrest
            refine ⟨rest.take position, rest.drop (position + 1), ?_, ?_, ?_⟩
            · rw [waiting, if_pos hinFlight, hentries, ← helem, List.cons_getElem_drop_succ,
                List.take_append_drop]
              rfl
            · simp [flight, hinFlight, hentries]
            · simp [flight, hinFlight, hentries, List.eraseIdx_eq_take_drop_succ]
      · obtain ⟨hlt, helem⟩ := List.getElem?_eq_some_iff.mp hentry
        refine ⟨state.entries.take position, state.entries.drop (position + 1), ?_, ?_, ?_⟩
        · rw [waiting, if_neg hinFlight, ← helem, List.cons_getElem_drop_succ,
            List.take_append_drop]
        · simp [flight, hinFlight]
        · simp [flight, hinFlight, List.eraseIdx_eq_take_drop_succ]

theorem mem_gapsOf {daemonInstanceId : JsString} {gap : GapEntry} :
    gap ∈ state.gapsOf daemonInstanceId ↔
      .gap gap ∈ state.entries ∧ gap.daemonInstanceId = daemonInstanceId := by
  simp only [gapsOf, List.mem_filterMap, gapOf_eq_some]
  constructor
  · rintro ⟨entry, hmem, rfl, hgap⟩
    exact ⟨hmem, hgap⟩
  · rintro ⟨hmem, hgap⟩
    exact ⟨_, hmem, rfl, hgap⟩

theorem mem_crossEntries {cross : CrossEntry} :
    cross ∈ state.crossEntries ↔ .cross cross ∈ state.entries := by
  simp [crossEntries, crossOf_eq_some]

theorem isUnsealed_of_isOpen {gap : GapEntry} {epoch : Int} (h : gap.isOpen epoch = true) :
    (OutboxEntry.gap gap : OutboxEntry φ).isUnsealed = true := by
  rw [GapEntry.isOpen, Bool.and_eq_true] at h
  exact h.1

theorem isUnsealed_of_isOpen_cross {cross : CrossEntry} {epoch : Int}
    (h : cross.isOpen epoch = true) :
    (OutboxEntry.cross cross : OutboxEntry φ).isUnsealed = true := by
  rw [CrossEntry.isOpen, Bool.and_eq_true] at h
  exact h.1

theorem mem_waiting_of_unsealed (hsettled : state.FlightSettled) {entry : OutboxEntry φ}
    (hmem : entry ∈ state.entries) (hunsealed : entry.isUnsealed = true) :
    entry ∈ state.waiting := by
  rw [← flight_append_waiting, List.mem_append] at hmem
  rcases hmem with hflight | hwaiting
  · rw [hsettled.not_open hflight] at hunsealed
    cases hunsealed
  · exact hwaiting

theorem openGap_mem {daemonInstanceId : JsString}
    (h : (state.openGap daemonInstanceId).isSome = true) :
    ∃ gap, .gap gap ∈ state.entries ∧ gap.daemonInstanceId = daemonInstanceId ∧
      gap.isOpen state.takeoverEpoch = true := by
  obtain ⟨gap, hgap⟩ := Option.isSome_iff_exists.mp h
  have hmem := mem_gapsOf.mp (List.mem_of_find?_eq_some hgap)
  exact ⟨gap, hmem.1, hmem.2, by simpa using List.find?_some hgap⟩

theorem openCross_mem (h : state.openCross.isSome = true) :
    ∃ cross, .cross cross ∈ state.entries ∧ cross.isOpen state.takeoverEpoch = true := by
  obtain ⟨cross, hcross⟩ := Option.isSome_iff_exists.mp h
  exact ⟨cross, mem_crossEntries.mp (List.mem_of_find?_eq_some hcross),
    by simpa using List.find?_some hcross⟩

theorem flight_replaceF_gap (hsettled : state.FlightSettled) (daemonInstanceId : JsString)
    (change : GapEntry → GapEntry) : ∀ entry ∈ state.flight,
      ((entry.gapOf daemonInstanceId).filter fun gap => gap.isOpen state.takeoverEpoch).map
        (fun gap => (.gap (change gap) : OutboxEntry φ)) = none := by
  intro entry hmem
  rw [Option.map_eq_none_iff, Option.filter_eq_none_iff]
  intro gap hgap hopen
  obtain ⟨rfl, -⟩ := gapOf_eq_some.mp hgap
  have hsealed := hsettled.not_open hmem
  rw [isUnsealed_of_isOpen hopen] at hsealed
  cases hsealed

theorem flight_replaceF_cross (hsettled : state.FlightSettled)
    (change : CrossEntry → CrossEntry) : ∀ entry ∈ state.flight,
      (entry.crossOf.filter fun cross => cross.isOpen state.takeoverEpoch).map
        (fun cross => (.cross (change cross) : OutboxEntry φ)) = none := by
  intro entry hmem
  rw [Option.map_eq_none_iff, Option.filter_eq_none_iff]
  intro cross hcross hopen
  obtain rfl := crossOf_eq_some.mp hcross
  have hsealed := hsettled.not_open hmem
  rw [isUnsealed_of_isOpen_cross hopen] at hsealed
  cases hsealed

section Fold

variable (hsettled : state.FlightSettled) {entry : NormalEntry φ}
  {pre post : List (OutboxEntry φ)} (hwaiting : state.waiting = pre ++ .normal entry :: post)
  (hepoch : entry.takeoverEpoch = state.takeoverEpoch)

include hwaiting in
theorem entries_eq : state.entries = (state.flight ++ pre) ++ .normal entry :: post := by
  rw [← flight_append_waiting, hwaiting, List.append_assoc]

include hsettled hwaiting hepoch in
theorem consume_countInGap (h : (state.openGap entry.daemonInstanceId).isSome = true) :
    Consume crossId gapId state entry { state with
      entries := (state.flight ++ (pre ++ post)).replaceF fun other =>
        ((other.gapOf entry.daemonInstanceId).filter
          fun gap => gap.isOpen state.takeoverEpoch).map fun gap => .gap (gap.count entry) } := by
  obtain ⟨gap, hmem, hgap, hopen⟩ := openGap_mem h
  have hothers : .gap gap ∈ pre ++ post := by
    have hmem := mem_waiting_of_unsealed hsettled hmem (isUnsealed_of_isOpen hopen)
    simpa [hwaiting] using hmem
  obtain ⟨before, first, after, heq, hfirst, hfirstOpen, hreplaced⟩ :=
    replaceF_gap (fun gap => gap.count entry) hothers hgap hopen
  rw [replaceF_append (flight_replaceF_gap hsettled _ _), hreplaced]
  exact .countInGap hwaiting heq hepoch hfirst hfirstOpen

include hsettled hwaiting hepoch in
theorem consume_foldIntoCross {crossId : JsString} {folded : AgentOutboxState φ}
    (h : state.foldIntoCross crossId (normals (state.flight ++ pre)).length entry = some folded) :
    Consume crossId gapId state entry folded := by
  simp only [foldIntoCross] at h
  split at h
  · next hcross =>
      obtain ⟨cross, hmem, hopen⟩ := openCross_mem hcross
      have hothers : .cross cross ∈ pre ++ post := by
        have hmem := mem_waiting_of_unsealed hsettled hmem (isUnsealed_of_isOpen_cross hopen)
        simpa [hwaiting] using hmem
      obtain ⟨before, first, after, heq, hfirstOpen, hreplaced⟩ :=
        replaceF_cross (fun cross => cross.absorb entry.daemonInstanceId
          (GapCounts.zeroCounts.bump entry.kind)) hothers hopen
      rw [absorbIntoCross, spliceNormal_replaceF (markerEdit_cross _ _), entries_eq hwaiting,
        spliceNormal_append, List.append_nil, List.append_assoc,
        replaceF_append (flight_replaceF_cross hsettled _), hreplaced, Option.some.injEq] at h
      rw [← h]
      exact .countInCross hwaiting heq hepoch hfirstOpen
  · next hclosed =>
      split at h
      · next hcreate =>
          rw [entries_eq hwaiting, spliceNormal_append, List.append_assoc, List.append_assoc,
            Option.some.injEq] at h
          rw [← h]
          exact .newCross hwaiting hepoch (by simpa using hclosed)
            (by simpa [canCreateCross] using hcreate)
      · cases h

end Fold

theorem insertIdx_findIdx {α : Type u} (p : α → Bool) {before after : List α} {found : α}
    (hbefore : ∀ entry ∈ before, p entry = false) (hfound : p found = true) (inserted : α) :
    (before ++ found :: after).insertIdx ((before ++ found :: after).findIdx p) inserted =
      before ++ inserted :: found :: after := by
  induction before with
  | nil => simp [List.findIdx_cons, hfound]
  | cons entry before ih =>
      have hentry := hbefore entry List.mem_cons_self
      have hrest := ih fun other hother => hbefore other (List.mem_cons_of_mem _ hother)
      simpa [List.findIdx_cons, hentry] using hrest

theorem exists_first {α : Type u} (p : α → Bool) {entries : List α}
    (h : ∃ entry ∈ entries, p entry = true) :
    ∃ before found after, entries = before ++ found :: after ∧
      (∀ entry ∈ before, p entry = false) ∧ p found = true := by
  obtain ⟨entry, hmem, hentry⟩ := h
  obtain ⟨found, hfound⟩ := Option.isSome_iff_exists.mp
    (List.find?_isSome.mpr ⟨entry, hmem, hentry⟩)
  obtain ⟨hp, before, after, rfl, hbefore⟩ := List.find?_eq_some_iff_append.mp hfound
  exact ⟨before, found, after, rfl, fun other hother => by simpa using hbefore other hother, hp⟩

theorem filter_flight (hsettled : state.FlightSettled) {daemonInstanceId : JsString}
    (hgaps : ∀ gap ∈ state.gapsOf daemonInstanceId, gap.isOpen state.takeoverEpoch = true) :
    state.flight.filter (keepsGap daemonInstanceId) = state.flight := by
  refine List.filter_eq_self.mpr fun entry hmem => ?_
  by_contra hgap
  rw [keepsGap, Bool.not_eq_true, Option.isNone_eq_false_iff, Option.isSome_iff_exists] at hgap
  obtain ⟨gap, hgap⟩ := hgap
  obtain ⟨rfl, hinstance⟩ := gapOf_eq_some.mp hgap
  have hentries : .gap gap ∈ state.entries := by
    rw [← flight_append_waiting]
    exact List.mem_append_left _ hmem
  have hsealed := hsettled.not_open hmem
  rw [isUnsealed_of_isOpen (hgaps gap (mem_gapsOf.mpr ⟨hentries, hinstance⟩))] at hsealed
  cases hsealed

theorem merge_mergeInstanceIntoCross (hsettled : state.FlightSettled) {daemonInstanceId : JsString}
    (crossId : JsString) (hsome : state.gapsOf daemonInstanceId ≠ [])
    (hgaps : ∀ gap ∈ state.gapsOf daemonInstanceId, gap.isOpen state.takeoverEpoch = true)
    (hslot : state.crossSlotAvailable = true) :
    Merge crossId state (state.mergeInstanceIntoCross crossId daemonInstanceId) := by
  have hfilter := filter_flight hsettled hgaps
  rw [mergeInstanceIntoCross]
  by_cases hcross : state.openCross.isSome = true
  · obtain ⟨cross, hmem, hopen⟩ := openCross_mem hcross
    have hwaits := mem_waiting_of_unsealed hsettled hmem (isUnsealed_of_isOpen_cross hopen)
    obtain ⟨before, first, after, heq, hfirstOpen, hreplaced⟩ :=
      replaceF_cross (fun cross => cross.absorb daemonInstanceId
        (totalCounts (state.gapsOf daemonInstanceId))) hwaits hopen
    simp only [hcross, if_true]
    rw [absorbIntoCross, ← flight_append_waiting,
      replaceF_append (flight_replaceF_cross hsettled _), ← totalCounts, hreplaced,
      List.filter_append]
    change Merge crossId state { state with
      entries := state.flight.filter (keepsGap daemonInstanceId) ++
        (before ++ _ :: after).filter (keepsGap daemonInstanceId) }
    rw [hfilter]
    exact .intoCross heq hfirstOpen hsome hgaps
  · have hnone : ∀ entry ∈ state.entries,
        (entry.crossOf.filter fun cross => cross.isOpen state.takeoverEpoch).map
          (fun cross => (.cross (cross.absorb daemonInstanceId
            (totalCounts (state.gapsOf daemonInstanceId))) : OutboxEntry φ)) = none := by
      intro entry hmem
      rw [Option.map_eq_none_iff, Option.filter_eq_none_iff]
      intro cross hentry hopen
      obtain rfl := crossOf_eq_some.mp hentry
      exact hcross (List.find?_isSome.mpr ⟨cross, mem_crossEntries.mpr hmem, hopen⟩)
    have hcreate : state.crossEntries.length < OUTBOX_CROSS_MAX := by
      simpa [crossSlotAvailable, hcross, canCreateCross] using hslot
    obtain ⟨gap, hgap⟩ := List.exists_mem_of_ne_nil _ hsome
    have hmem := mem_gapsOf.mp hgap
    have hwaits := mem_waiting_of_unsealed hsettled hmem.1
      (isUnsealed_of_isOpen (hgaps gap hgap))
    obtain ⟨before, found, after, heq, hbefore, hfound⟩ :=
      exists_first (fun entry => (entry.gapOf daemonInstanceId).isSome)
        ⟨_, hwaits, by simp [OutboxEntry.gapOf, hmem.2]⟩
    obtain ⟨first, hfirst⟩ := Option.isSome_iff_exists.mp hfound
    obtain ⟨rfl, hinstance⟩ := gapOf_eq_some.mp hfirst
    have hflight : ∀ entry ∈ state.flight ++ before,
        (entry.gapOf daemonInstanceId).isSome = false := by
      intro entry hentry
      rcases List.mem_append.mp hentry with hleft | hright
      · have hkept := List.filter_eq_self.mp hfilter entry hleft
        simpa [keepsGap] using hkept
      · exact hbefore entry hright
    have hsplit : state.entries = (state.flight ++ before) ++ .gap first :: after := by
      rw [← flight_append_waiting, heq, List.append_assoc]
    have hstarts : ∀ entry ∈ state.flight ++ before,
        (entry.crossOf.filter fun cross => cross.isOpen state.takeoverEpoch).map
          (fun cross => (.cross (cross.absorb daemonInstanceId
            (totalCounts (state.gapsOf daemonInstanceId))) : OutboxEntry φ)) = none := by
      intro entry hentry
      refine hnone entry ?_
      rw [hsplit]
      exact List.mem_append_left _ hentry
    have hopened : (((.cross (state.newCross crossId) : OutboxEntry φ).crossOf.filter
        fun cross => cross.isOpen state.takeoverEpoch).map
          fun cross => (.cross (cross.absorb daemonInstanceId
            (totalCounts (state.gapsOf daemonInstanceId))) : OutboxEntry φ)) =
        some (.cross ((state.newCross crossId).absorb daemonInstanceId
          (totalCounts (state.gapsOf daemonInstanceId)))) := by
      simp [OutboxEntry.crossOf, Option.filter, CrossEntry.isOpen, newCross]
    simp only [hcross, Bool.false_eq_true, if_false]
    rw [hsplit, insertIdx_findIdx _ hflight hfound, absorbIntoCross, ← totalCounts,
      replaceF_append hstarts, List.append_assoc, List.filter_append]
    change Merge crossId state { state with
      entries := state.flight.filter (keepsGap daemonInstanceId) ++
        (before ++ List.replaceF _ (_ :: _)).filter (keepsGap daemonInstanceId) }
    rw [hfilter, List.replaceF_cons_of_some _ hopened]
    have hfirstOpen := hgaps first (mem_gapsOf.mpr ⟨by simp [hsplit], hinstance⟩)
    refine .intoNewCross heq ?_ hsome hcreate hgaps
    rintro entry ⟨⟩
    rw [GapEntry.isOpen, Bool.and_eq_true, decide_eq_true_eq] at hfirstOpen
    exact hfirstOpen.2

theorem Merge.takeoverEpoch {next : AgentOutboxState φ} (h : Merge crossId state next) :
    next.takeoverEpoch = state.takeoverEpoch := by
  cases h <;> rfl

theorem isSome_openCross {cross : CrossEntry} (hmem : .cross cross ∈ state.entries)
    (hopen : cross.isOpen state.takeoverEpoch = true) : state.openCross.isSome = true :=
  List.find?_isSome.mpr ⟨cross, mem_crossEntries.mpr hmem, hopen⟩

theorem Merge.openCross {next : AgentOutboxState φ} (h : Merge crossId state next) :
    next.openCross.isSome = true := by
  cases h with
  | intoCross hwaiting hopen hsome hgaps =>
      refine isSome_openCross (List.mem_append_right _ (List.mem_filter.mpr
        ⟨List.mem_append_right _ List.mem_cons_self, rfl⟩)) ?_
      exact hopen
  | intoNewCross hwaiting hepoch hsome hcross hgaps =>
      refine isSome_openCross (List.mem_append_right _ (List.mem_filter.mpr
        ⟨List.mem_append_right _ List.mem_cons_self, rfl⟩)) ?_
      simp [CrossEntry.isOpen, CrossEntry.absorb, newCross, AgentOutboxState.withWaiting]

theorem Merge.flightSettled {next : AgentOutboxState φ} (h : Merge crossId state next)
    (hsettled : state.FlightSettled) : next.FlightSettled ∧ next.flight = state.flight := by
  cases h <;> exact ⟨hsettled.withWaiting _, flight_withWaiting hsettled _⟩

@[simp] theorem normals_filter_keepsGap (daemonInstanceId : JsString)
    (entries : List (OutboxEntry φ)) :
    normals (entries.filter (keepsGap daemonInstanceId)) = normals entries := by
  induction entries with
  | nil => rfl
  | cons entry rest ih =>
      cases entry with
      | normal entry => simp [List.filter_cons, keepsGap, OutboxEntry.gapOf, ih]
      | cross cross => simp [List.filter_cons, keepsGap, OutboxEntry.gapOf, ih]
      | gap gap =>
          rw [List.filter_cons]
          split <;> simpa using ih

theorem Merge.normals_waiting {next : AgentOutboxState φ} (h : Merge crossId state next)
    (hsettled : state.FlightSettled) : normals next.waiting = normals state.waiting := by
  cases h with
  | intoCross hwaiting => simp [waiting_withWaiting hsettled, hwaiting]
  | intoNewCross hwaiting => simp [waiting_withWaiting hsettled, hwaiting]

theorem Merge.mem_gap {next : AgentOutboxState φ} (h : Merge crossId state next) {gap : GapEntry}
    (hmem : .gap gap ∈ next.entries) : .gap gap ∈ state.entries := by
  rw [← flight_append_waiting]
  cases h with
  | intoCross hwaiting =>
      rw [withWaiting, List.mem_append, List.mem_filter] at hmem
      simpa [hwaiting] using hmem.imp_right And.left
  | intoNewCross hwaiting =>
      rw [withWaiting, List.mem_append, List.mem_filter] at hmem
      simpa [hwaiting] using hmem.imp_right And.left

theorem mem_foldl_insert {seen : List JsString} {ids : List JsString} {id : JsString} :
    id ∈ ids.foldl (fun seen id => if id ∈ seen then seen else seen ++ [id]) seen ↔
      id ∈ seen ∨ id ∈ ids := by
  induction ids generalizing seen with
  | nil => simp
  | cons first ids ih =>
      rw [List.foldl_cons, ih]
      by_cases hseen : first ∈ seen
      · simp only [hseen, if_true, List.mem_cons]
        constructor
        · tauto
        · rintro (h | rfl | h) <;> tauto
      · simp [hseen, or_assoc]

theorem mem_instancesWithGaps {daemonInstanceId : JsString} :
    daemonInstanceId ∈ state.instancesWithGaps ↔ state.gapsOf daemonInstanceId ≠ [] := by
  rw [instancesWithGaps, mem_foldl_insert]
  simp only [List.not_mem_nil, false_or, List.mem_filterMap]
  constructor
  · rintro ⟨entry, hmem, hinstance⟩
    cases entry with
    | normal entry => cases hinstance
    | cross cross => cases hinstance
    | gap gap => exact List.ne_nil_of_mem (mem_gapsOf.mpr ⟨hmem, Option.some.inj hinstance⟩)
  · intro hsome
    obtain ⟨gap, hgap⟩ := List.exists_mem_of_ne_nil _ hsome
    obtain ⟨hmem, rfl⟩ := mem_gapsOf.mp hgap
    exact ⟨.gap gap, hmem, rfl⟩

theorem prepareGap_cases (hsettled : state.FlightSettled) (crossId daemonInstanceId : JsString) :
    state.prepareGap crossId daemonInstanceId = state ∨
      state.gapsOf daemonInstanceId = [] ∧
        Merge crossId state (state.prepareGap crossId daemonInstanceId) := by
  rw [prepareGap]
  split
  · next hfull =>
      cases holdest : state.mergeableInstance daemonInstanceId with
      | none => exact .inl rfl
      | some oldest =>
          dsimp only
          split
          · next hslot =>
              refine .inr ⟨List.length_eq_zero_iff.mp hfull.1, ?_⟩
              have hopen := List.find?_some holdest
              rw [Bool.and_eq_true, List.all_eq_true] at hopen
              exact merge_mergeInstanceIntoCross hsettled crossId
                (mem_instancesWithGaps.mp (List.mem_of_find?_eq_some holdest)) hopen.2 hslot
          · exact .inl rfl
  · exact .inl rfl

/-- A fold first merges an instance, if it must, and then counts the entry. -/
theorem foldEntry_cases (hsettled : state.FlightSettled) {crossId gapId : JsString}
    {keep : NormalEntry φ → Bool} {index : Nat} {entry : NormalEntry φ}
    {folded : AgentOutboxState φ} (hmem : (index, entry) ∈ state.outOfFlight keep)
    (hepoch : entry.takeoverEpoch = state.takeoverEpoch)
    (h : state.foldEntry crossId gapId index entry = some folded) :
    ∃ prepared, (prepared = state ∨ Merge crossId state prepared) ∧
      Consume crossId gapId prepared entry folded := by
  obtain ⟨-, -, pre, post, hwaiting, htake, -⟩ := split_of_outOfFlight hmem
  simp only [foldEntry, htake, ← length_normals] at h
  split at h
  · next hopen =>
      rw [countInGap, spliceNormal_replaceF (markerEdit_gap _ _ _), entries_eq hwaiting,
        spliceNormal_append, List.append_nil, List.append_assoc, Option.some.injEq] at h
      rw [← h]
      exact ⟨state, .inl rfl, consume_countInGap hsettled hwaiting hepoch hopen⟩
  · split at h
    · next hgaps =>
        have hprepared := prepareGap_cases hsettled crossId entry.daemonInstanceId
        generalize state.prepareGap crossId entry.daemonInstanceId = prepared at h hprepared
        have hfits : prepared.FlightSettled ∧ prepared.flight = state.flight ∧
            prepared.takeoverEpoch = state.takeoverEpoch ∧
            (prepared.gapsOf entry.daemonInstanceId).length =
              (state.gapsOf entry.daemonInstanceId).length ∧
            normals prepared.waiting = normals state.waiting := by
          rcases hprepared with rfl | ⟨hnone, hmerge⟩
          · exact ⟨hsettled, rfl, rfl, rfl, rfl⟩
          · obtain ⟨hsettled', hflight⟩ := hmerge.flightSettled hsettled
            have hstill : prepared.gapsOf entry.daemonInstanceId = [] := by
              refine List.eq_nil_iff_forall_not_mem.mpr fun gap hgap => ?_
              have hbefore := mem_gapsOf.mp hgap
              have := mem_gapsOf.mpr ⟨hmerge.mem_gap hbefore.1, hbefore.2⟩
              simp [hnone] at this
            exact ⟨hsettled', hflight, hmerge.takeoverEpoch, by rw [hstill, hnone],
              hmerge.normals_waiting hsettled⟩
        obtain ⟨hsettled', hflight, hepoch', hlength, hnormals⟩ := hfits
        rw [hwaiting, normals_append, normals_cons_normal] at hnormals
        obtain ⟨pre', post', hwaiting', hpre, -⟩ := exists_split hnormals
        have hrank : normals (state.flight ++ pre) = normals (prepared.flight ++ pre') := by
          simp [hflight, hpre]
        refine ⟨prepared, hprepared.imp_right And.right, ?_⟩
        rw [hrank] at h
        split at h
        · next hinstances =>
            rw [← Option.some.inj h, entries_eq hwaiting', spliceNormal_append, ← hepoch',
              List.append_assoc, List.append_assoc]
            exact .newGap hwaiting' (hepoch.trans hepoch'.symm) (by rw [hlength]; exact hgaps)
              (by rw [hlength]; exact hinstances)
        · exact consume_foldIntoCross hsettled' hwaiting' (hepoch.trans hepoch'.symm) h
    · exact ⟨state, .inl rfl, consume_foldIntoCross hsettled hwaiting hepoch h⟩

/-! ## Appending -/

inductive Appended (crossId gapId : JsString) (state : AgentOutboxState φ)
    (entry : NormalEntry φ) : AgentOutboxState φ → AppendResult → Prop
  | appended (hroom : state.normalCount < OUTBOX_NORMAL_CAP) :
      Appended crossId gapId state entry (state.push entry) .appended
  | madeRoom {prepared roomy : AgentOutboxState φ} {consumed : NormalEntry φ}
      {result : AppendResult} (hprepared : prepared = state ∨ Merge crossId state prepared)
      (hconsumed : Consume crossId gapId prepared consumed roomy) (hresult : result ≠ .no_room) :
      Appended crossId gapId state entry (roomy.push entry) result
  | ignored (hkind : entry.kind = .turnCompleted) :
      Appended crossId gapId state entry state .dropped_turn_completed
  | no_room : Appended crossId gapId state entry state .no_room

theorem eraseIdx_replaceF {replace : OutboxEntry φ → Option (OutboxEntry φ)}
    {entries : List (OutboxEntry φ)} {index : Nat} {entry : OutboxEntry φ}
    (hentry : entries[index]? = some entry) (hkept : replace entry = none) :
    (entries.replaceF replace).eraseIdx index = (entries.eraseIdx index).replaceF replace := by
  induction entries generalizing index with
  | nil => rfl
  | cons first rest ih =>
      rw [List.replaceF_cons]
      cases index with
      | zero =>
          obtain rfl : first = entry := by simpa using hentry
          simp [hkept]
      | succ index =>
          have hrest := @ih index (by simpa using hentry)
          cases hfirst : replace first with
          | none => simpa [hfirst] using hrest
          | some other => simp [hfirst]

theorem consume_dropTurnCompleted (hsettled : state.FlightSettled) {index : Nat}
    {dropped : NormalEntry φ} (hmem : (index, dropped) ∈ state.droppableTurnCompleted) :
    Consume crossId gapId state dropped (state.dropTurnCompleted index dropped) := by
  obtain ⟨hkind, hentry, pre, post, hwaiting, -, herase⟩ := split_of_outOfFlight hmem
  have hdropped : Consume crossId gapId state dropped
      { state with entries := state.entries.eraseIdx index } := by
    rw [herase]
    exact .dropCompleted hwaiting (by simpa using hkind)
  rw [dropTurnCompleted]
  split
  · next hepoch =>
      by_cases hopen : (state.openGap dropped.daemonInstanceId).isSome = true
      · rw [countInGap, eraseIdx_replaceF hentry rfl, herase]
        exact consume_countInGap hsettled hwaiting hepoch hopen
      · rw [countInGap, List.replaceF_of_forall_none fun entry hentry => ?_]
        · exact hdropped
        · rw [Option.map_eq_none_iff, Option.filter_eq_none_iff]
          intro gap hgap hgapOpen
          obtain ⟨rfl, hinstance⟩ := gapOf_eq_some.mp hgap
          exact hopen (List.find?_isSome.mpr ⟨gap, mem_gapsOf.mpr ⟨hentry, hinstance⟩, hgapOpen⟩)
  · exact hdropped

theorem appendToOutbox_cases (hsettled : state.FlightSettled) (crossId gapId : JsString)
    (entry : NormalEntry φ) (evict : Bool) :
    Appended crossId gapId state entry (state.appendToOutbox crossId gapId entry evict).1
      (state.appendToOutbox crossId gapId entry evict).2 := by
  rw [appendToOutbox]
  split
  · next hroom => exact .appended hroom
  · split
    · exact .no_room
    · cases hdroppable : state.droppableTurnCompleted with
      | cons first rest =>
          have hmem : first ∈ state.droppableTurnCompleted := by simp [hdroppable]
          exact .madeRoom (.inl rfl) (consume_dropTurnCompleted hsettled hmem) (by simp)
      | nil =>
          dsimp only
          split
          · next hkind => exact .ignored hkind
          · split
            · next folded hfolded =>
                obtain ⟨⟨index, consumed⟩, hmem, hfold⟩ := List.exists_of_findSome?_eq_some hfolded
                have hepoch : consumed.takeoverEpoch = state.takeoverEpoch := by
                  have hkeep := (split_of_outOfFlight hmem).1
                  simp only [Bool.and_eq_true, decide_eq_true_eq] at hkeep
                  exact hkeep.2
                obtain ⟨prepared, hprepared, hconsumed⟩ :=
                  foldEntry_cases hsettled hmem hepoch hfold
                exact .madeRoom hprepared hconsumed (by simp)
            · exact .no_room

end Raft.Outbox
