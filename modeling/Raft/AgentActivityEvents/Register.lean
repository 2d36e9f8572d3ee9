import Mathlib.Data.Prod.Lex
import Mathlib.Order.Lattice
import Raft.AgentActivityEvents.Reducer
import Raft.Foundation.MaxRegister
import Raft.Foundation.Run

/-!
# Current activity is a sequence register

Each server sequence number stands for one producer fact, which socket events
state in full and trajectory entries state up to the detail kind.  The current
activity is then a register over pairs of a number and whether a socket event
has stated it: the reducer refines the register that keeps the greatest pair.
-/

namespace Raft.AgentActivityEvents

open Raft.Foundation

/-- A fact as socket events state it, and the detail kind its trajectory entries
derive, which may be the fallback. -/
structure ProducerFact where
  activity : AgentActivity
  detail : JsString
  detailKind : AgentActivityDetailKind
  projectedKind : AgentActivityDetailKind
  projectedKind_eq : projectedKind = detailKind ∨ projectedKind = .other

namespace ProducerFact

def projection (fact : ProducerFact) : AgentActivityState :=
  makeActivityState fact.activity fact.detail fact.projectedKind

def kindOf (fact : ProducerFact) (socketStated : Bool) : AgentActivityDetailKind :=
  if socketStated then fact.detailKind else fact.projectedKind

end ProducerFact

/-- The activity shown is the fact, with the socket's detail kind once a socket event stated it.
Its `deliveryConsumption`, `wakeCrashLoop` and `spawnFailure` are no part of a fact. -/
structure Shows (fact : ProducerFact) (socketStated : Bool) (current : AgentActivityState) :
    Prop where
  activity : current.activity = fact.activity
  detail : current.activityDetail = fact.detail
  detailKind : current.detailKind = fact.kindOf socketStated

/-! ## Events that state facts -/

/-- The contents an activity is derived from. -/
def statesActivity : TrajectoryContent → Bool
  | .thinking .. | .toolStart .. | .compactionStarted | .compactionFinished | .status .. => true
  | .text .. | .slockAction .. | .system .. => false

section Facts

variable (texts : EntryTexts) (facts : Int → ProducerFact)

/-- A numbered row; if its content is one of those bound to the facts, the
activity derived from it is the projection of the fact of its number. -/
def EntryStates (bound : TrajectoryContent → Bool) (item : TrajectoryLogEntry) : Prop :=
  ∃ seq, item.serverSeq = some seq ∧
    (bound item.entry.content = true →
      deriveActivityFromTrajectoryEntry texts item.entry = some (facts seq).projection)

structure SocketStates (event : SocketActivity) (seq : Int) : Prop where
  serverSeq : event.serverSeq = some seq
  activity : parsePushedActivity (event.activityKind <|> event.activity) =
    some (facts seq).activity
  detail : event.activityDetail = (facts seq).detail
  detailKind : normalizeActivityDetailKind event.detailKind = (facts seq).detailKind

/-- An event of the agent that carries numbers and states the facts of these. -/
def EventStates (bound : TrajectoryContent → Bool) (agentId : JsString) :
    AgentActivityEvent → Prop
  | .socketActivity event => event.agentId = agentId ∧ ∃ seq, SocketStates facts event seq
  | .trajectoryAppend event =>
      event.agentId = agentId ∧ event.serverSeq.isSome ∧
        ∀ item ∈ appendedEntries event, EntryStates texts facts bound item
  | .trajectoryHydrate event =>
      event.agentId = agentId ∧ ∀ item ∈ event.entries, EntryStates texts facts bound item
  | .resetSeq => False

end Facts

def statedByEntry (item : TrajectoryLogEntry) : Option (Int × Bool) :=
  if statesActivity item.entry.content then item.serverSeq.map fun seq => (seq, false) else none

/-- The numbers an event states an activity for, with whether it is a socket event. -/
def statedPairs : AgentActivityEvent → List (Int × Bool)
  | .socketActivity event => (event.serverSeq.map fun seq => (seq, true)).toList
  | .trajectoryAppend event => (appendedEntries event).filterMap statedByEntry
  | .trajectoryHydrate event => event.entries.filterMap statedByEntry
  | .resetSeq => []

/-! ## The abstract register -/

def rank (pair : Int × Bool) : Lex (Int × Bool) := toLex pair

theorem rank_lt {first second : Int × Bool} :
    rank first < rank second ↔
      first.1 < second.1 ∨ first.1 = second.1 ∧ first.2 = false ∧ second.2 = true := by
  rw [rank, rank, Prod.Lex.toLex_lt_toLex, Bool.lt_iff]

theorem rank_lt_socket (seq : Int) : rank (seq, false) < rank (seq, true) :=
  rank_lt.mpr (Or.inr ⟨rfl, rfl, rfl⟩)

structure Holds (facts : Int → ProducerFact) (agentId : JsString) (held : Option (Int × Bool))
    (state : AgentActivityDomainState) : Prop where
  seq : state.agentActivitySeq.get agentId = held.map Prod.fst
  absent : held = none → state.agentActivities.get agentId = none
  shows : ∀ pair, held = some pair → ∃ current,
    state.agentActivities.get agentId = some current ∧ Shows (facts pair.1) pair.2 current

/-! ## Comparisons of statements of one fact -/

theorem producerSeqConflictBasis_self (state : AgentActivityState) {current : AgentActivityState}
    (hactivity : current.activity = state.activity)
    (hdetail : current.activityDetail = state.activityDetail)
    (hkind : current.detailKind = state.detailKind) (mayUseFallback : Bool) :
    producerSeqConflictBasis (some current) state mayUseFallback = none := by
  have hsame : semanticActivityProjection current = semanticActivityProjection state := by
    simp only [semanticActivityProjection, hactivity, hdetail, hkind]
  simp [producerSeqConflictBasis, hsame]

theorem producerSeqConflictBasis_fallback {current projected : AgentActivityState}
    (hactivity : current.activity = projected.activity)
    (hdetail : current.activityDetail = projected.activityDetail)
    (hkind : projected.detailKind = current.detailKind ∨ projected.detailKind = .other) :
    producerSeqConflictBasis (some current) projected true = none := by
  by_cases hsame : projected.detailKind = current.detailKind
  · exact producerSeqConflictBasis_self projected hactivity hdetail hsame.symm true
  · have hother : projected.detailKind = .other := hkind.resolve_left hsame
    have hauthority : current.detailKind ≠ .other := fun hcurrent =>
      hsame (hother.trans hcurrent.symm)
    have hfallback : isFallbackDetailKindProjection (semanticActivityProjection current)
        (semanticActivityProjection projected) = true := by
      simp [isFallbackDetailKindProjection, semanticActivityProjection, hactivity, hdetail,
        hother, hauthority]
    simp [producerSeqConflictBasis, hfallback]

theorem Shows.no_conflict {fact : ProducerFact} {socketStated : Bool}
    {current : AgentActivityState} (h : Shows fact socketStated current) :
    producerSeqConflictBasis (some current) fact.projection true = none := by
  refine producerSeqConflictBasis_fallback h.activity h.detail ?_
  rw [h.detailKind]
  cases socketStated with
  | false => exact Or.inl rfl
  | true => exact fact.projectedKind_eq

/-! ## Writing the current activity -/

theorem activityStateEqual_iff {current : Option AgentActivityState}
    {state : AgentActivityState} :
    activityStateEqual current state = true ↔ ∃ shown, current = some shown ∧
      shown.activity = state.activity ∧ shown.activityDetail = state.activityDetail ∧
        shown.detailKind = state.detailKind := by
  cases current <;> simp [activityStateEqual, and_assoc]

section ApplyCurrentActivity

variable (state : AgentActivityDomainState) (args : CurrentActivity)

theorem applyCurrentActivity_seq {seq : Int} (h : args.serverSeq = some seq) :
    (applyCurrentActivity state args).state.agentActivitySeq.get args.agentId = some seq := by
  unfold applyCurrentActivity
  simp only [h]
  split
  · next htouched =>
      simp only [Bool.not_eq_true', Bool.or_eq_false_iff, Bool.not_eq_false'] at htouched
      simpa using htouched.1.2
  · simp [setSome]

/-- A statement with the same activity, detail and kind leaves the current activity as it is, with
the fields that are not compared. -/
theorem applyCurrentActivity_of_equal {current : AgentActivityState}
    (hcurrent : state.agentActivities.get args.agentId = some current)
    (hequal : activityStateEqual (some current) args.state = true) :
    (applyCurrentActivity state args).state.agentActivities.get args.agentId = some current := by
  unfold applyCurrentActivity
  simp only [hcurrent, hequal, setWhen, Bool.not_true, Bool.false_eq_true, ↓reduceIte]
  split
  · exact hcurrent
  · exact hcurrent

theorem applyCurrentActivity_current : ∃ current,
    (applyCurrentActivity state args).state.agentActivities.get args.agentId = some current ∧
      current.activity = args.state.activity ∧
      current.activityDetail = args.state.activityDetail ∧
      current.detailKind = args.state.detailKind := by
  by_cases hequal : activityStateEqual (state.agentActivities.get args.agentId) args.state = true
  · obtain ⟨shown, hshown, hsame⟩ := activityStateEqual_iff.mp hequal
    rw [hshown] at hequal
    exact ⟨shown, applyCurrentActivity_of_equal state args hshown hequal, hsame⟩
  · refine ⟨args.state, ?_, rfl, rfl, rfl⟩
    unfold applyCurrentActivity
    simp [hequal, setWhen]

theorem applyCurrentActivity_outcome :
    (applyCurrentActivity state args).transition.outcome ≠ .producerSeqConflict := by
  unfold applyCurrentActivity
  dsimp only
  split <;> simp

end ApplyCurrentActivity

/-! ## One event -/

section Steps

variable {texts : EntryTexts} {facts : Int → ProducerFact} {agentId : JsString}
  {held : Option (Int × Bool)} {state : AgentActivityDomainState}

theorem holds_applyCurrentActivity {args : CurrentActivity} {pair : Int × Bool}
    (hseq : args.serverSeq = some pair.1) (hshows : Shows (facts pair.1) pair.2 args.state)
    (hagent : args.agentId = agentId) :
    Holds facts agentId (some pair) (applyCurrentActivity state args).state := by
  subst hagent
  refine ⟨applyCurrentActivity_seq state args hseq, nofun, ?_⟩
  rintro _ ⟨⟩
  obtain ⟨current, hcurrent, hactivity, hdetail, hkind⟩ :=
    applyCurrentActivity_current state args
  exact ⟨current, hcurrent, hactivity.trans hshows.activity, hdetail.trans hshows.detail,
    hkind.trans hshows.detailKind⟩

theorem shows_socketActivityState {event : SocketActivity} {seq : Int}
    (h : SocketStates facts event seq) :
    Shows (facts seq) true (socketActivityState event (facts seq).activity) :=
  ⟨rfl, h.detail, h.detailKind⟩

theorem socket_of_sameSeq {fact : ProducerFact} {socketStated : Bool}
    {current next : AgentActivityState} (hcurrent : Shows fact socketStated current)
    (hnext : Shows fact true next) :
    shouldApplySocketDetailKindAuthority (some current) next = true ∨
      Shows fact true current ∧ producerSeqConflictBasis (some current) next false = none := by
  have hactivity : current.activity = next.activity :=
    hcurrent.activity.trans hnext.activity.symm
  have hdetail : current.activityDetail = next.activityDetail :=
    hcurrent.detail.trans hnext.detail.symm
  by_cases hkind : current.detailKind = next.detailKind
  · exact Or.inr ⟨⟨hcurrent.activity, hcurrent.detail, hkind.trans hnext.detailKind⟩,
      producerSeqConflictBasis_self next hactivity hdetail hkind false⟩
  · left
    have hprojected : current.detailKind = fact.projectedKind := by
      cases socketStated with
      | false => exact hcurrent.detailKind
      | true => exact absurd (hcurrent.detailKind.trans hnext.detailKind.symm) hkind
    have hfull : next.detailKind = fact.detailKind := hnext.detailKind
    have hfallback : fact.projectedKind = .other :=
      fact.projectedKind_eq.resolve_left fun heq => hkind (by rw [hprojected, hfull, heq])
    have hauthority : fact.detailKind ≠ .other := fun hother =>
      hkind (by rw [hprojected, hfull, hfallback, hother])
    simp [shouldApplySocketDetailKindAuthority, isFallbackDetailKindProjection,
      semanticActivityProjection, hactivity, hdetail, hprojected, hfull, hfallback, hauthority]

theorem offer_of_seq_lt {seq last : Int} (stated shown : Bool) (h : last < seq) :
    offer rank (some (last, shown)) (seq, stated) = some (seq, stated) :=
  offer_of_lt rank (rank_lt.mpr (Or.inl h))

theorem offer_of_lt_seq {seq last : Int} (stated shown : Bool) (h : seq < last) :
    offer rank (some (last, shown)) (seq, stated) = some (last, shown) :=
  offer_of_le rank (rank_lt.mpr (Or.inl h)).le

theorem offer_socket_sameSeq (seq : Int) (shown : Bool) :
    offer rank (some (seq, shown)) (seq, true) = some (seq, true) := by
  cases shown with
  | false => exact offer_of_lt rank (rank_lt_socket seq)
  | true => exact offer_of_le rank le_rfl

theorem offer_trajectory_sameSeq (seq : Int) (shown : Bool) :
    offer rank (some (seq, shown)) (seq, false) = some (seq, shown) := by
  cases shown with
  | false => exact offer_of_le rank le_rfl
  | true => exact offer_of_le rank (rank_lt_socket seq).le

theorem Holds.applySocketActivity (hheld : Holds facts agentId held state)
    {event : SocketActivity} {seq : Int} (hagent : event.agentId = agentId)
    (hstates : SocketStates facts event seq) :
    Holds facts agentId (offer rank held (seq, true)) (applySocketActivity state event).state ∧
      (applySocketActivity state event).transition.outcome ≠ .producerSeqConflict := by
  subst hagent
  have hshows := shows_socketActivityState hstates
  have hwritten : offer rank held (seq, true) = some (seq, true) →
      socketActivityIsStale state event.agentId event.serverSeq
        (socketActivityState event (facts seq).activity) = false →
      Holds facts event.agentId (offer rank held (seq, true))
          (AgentActivityEvents.applySocketActivity state event).state ∧
        (AgentActivityEvents.applySocketActivity state event).transition.outcome ≠
          .producerSeqConflict := by
    intro hoffer hstale
    unfold AgentActivityEvents.applySocketActivity
    rw [hoffer, hstates.activity]
    simp only [hstale, Bool.false_eq_true, ↓reduceIte]
    exact ⟨holds_applyCurrentActivity hstates.serverSeq hshows rfl,
      applyCurrentActivity_outcome _ _⟩
  cases held with
  | none =>
      have hseq : state.agentActivitySeq.get event.agentId = none := hheld.seq
      exact hwritten rfl (by simp [socketActivityIsStale, hseq])
  | some pair =>
      obtain ⟨last, shown⟩ := pair
      have hseq : state.agentActivitySeq.get event.agentId = some last := hheld.seq
      obtain ⟨current, hcurrent, hshown⟩ := hheld.shows _ rfl
      rcases lt_trichotomy last seq with hlt | rfl | hlt
      · refine hwritten (offer_of_seq_lt true shown hlt) ?_
        simp [socketActivityIsStale, hstates.serverSeq, hseq, not_le.mpr hlt]
      · rcases socket_of_sameSeq hshown hshows with hupgrade | ⟨hfull, hbasis⟩
        · refine hwritten (offer_socket_sameSeq last shown) ?_
          simp [socketActivityIsStale, hstates.serverSeq, hseq, hcurrent, hupgrade]
        · have hstale : socketActivityIsStale state event.agentId event.serverSeq
              (socketActivityState event (facts last).activity) = !
                shouldApplySocketDetailKindAuthority (some current)
                  (socketActivityState event (facts last).activity) := by
            simp [socketActivityIsStale, hstates.serverSeq, hseq, hcurrent]
          by_cases hupgrade : shouldApplySocketDetailKindAuthority (some current)
              (socketActivityState event (facts last).activity) = true
          · exact hwritten (offer_socket_sameSeq last shown) (by rw [hstale, hupgrade]; rfl)
          · rw [offer_socket_sameSeq]
            unfold AgentActivityEvents.applySocketActivity
            simp only [hstates.activity, hstale, hupgrade, Bool.not_false, ↓reduceIte]
            simp only [hseq, hstates.serverSeq, hcurrent, hbasis, ↓reduceIte]
            refine ⟨⟨hseq, by simp, ?_⟩, by simp⟩
            rintro _ ⟨⟩
            exact ⟨current, hcurrent, hfull⟩
      · have hstale : socketActivityIsStale state event.agentId event.serverSeq
            (socketActivityState event (facts seq).activity) = true := by
          simp [socketActivityIsStale, hstates.serverSeq, hseq, hlt.le, hlt.ne]
        have hother : state.agentActivitySeq.get event.agentId ≠ event.serverSeq := by
          rw [hseq, hstates.serverSeq]
          exact fun heq => hlt.ne (Option.some.inj heq).symm
        rw [offer_of_lt_seq true shown hlt]
        unfold AgentActivityEvents.applySocketActivity
        simp only [hstates.activity, hstale, hother, ↓reduceIte]
        exact ⟨hheld, by simp⟩

/-! ### The entries of one trajectory event -/

theorem derive_eq_none {item : TrajectoryLogEntry}
    (h : statesActivity item.entry.content = false) :
    deriveActivityFromTrajectoryEntry texts item.entry = none := by
  unfold deriveActivityFromTrajectoryEntry
  cases hcontent : item.entry.content <;> rw [hcontent] at h <;> first | rfl | cases h

/-- The loop's result when the register held `held` before the entries and holds
`offered` after those scanned so far. -/
structure Selected (facts : Int → ProducerFact) (held offered : Option (Int × Bool))
    (selection : ComparableSelection) : Prop where
  conflict : selection.conflict = none
  seen : ∀ seq state, selection.seenBySeq.get seq = some state → state = (facts seq).projection
  unchanged : selection.best = none → offered = held
  best : ∀ best, selection.best = some best → best.state = (facts best.serverSeq).projection ∧
    offered = some (best.serverSeq, false) ∧ ∀ pair, held = some pair → pair.1 < best.serverSeq

theorem selected_start : Selected facts held held ⟨none, none, .empty⟩ where
  conflict := rfl
  seen _ _ h := absurd h (by simp [InsertionMap.get_empty])
  unchanged _ := rfl
  best _ h := absurd h (by simp)

theorem Selected.offer_old {offered : Option (Int × Bool)} {selection : ComparableSelection}
    (hselected : Selected facts held offered selection) {seq last : Int} {shown : Bool}
    (hheld : held = some (last, shown)) (hle : seq ≤ last) :
    offer rank offered (seq, false) = offered := by
  cases hbest : selection.best with
  | none =>
      rw [hselected.unchanged hbest, hheld]
      rcases hle.lt_or_eq with hlt | rfl
      · exact offer_of_lt_seq false shown hlt
      · exact offer_trajectory_sameSeq seq shown
  | some best =>
      obtain ⟨-, hoffered, habove⟩ := hselected.best best hbest
      rw [hoffered]
      exact offer_of_lt_seq false false (hle.trans_lt (habove _ hheld))

theorem Selected.offer_new {offered : Option (Int × Bool)} {selection : ComparableSelection}
    (hselected : Selected facts held offered selection) {seq : Int} (timestamp : Int)
    (habove : ∀ pair, held = some pair → pair.1 < seq) :
    Selected facts held (offer rank offered (seq, false))
      { selection with
        best :=
          if selection.best.any fun best => seq ≤ best.serverSeq then selection.best
          else some ⟨(facts seq).projection, timestamp, seq⟩
        seenBySeq :=
          if (selection.seenBySeq.get seq).isSome then selection.seenBySeq
          else selection.seenBySeq.set seq (facts seq).projection } := by
  have hseen : ∀ key value,
      (if (selection.seenBySeq.get seq).isSome then selection.seenBySeq
        else selection.seenBySeq.set seq (facts seq).projection).get key = some value →
      value = (facts key).projection := by
    intro key value
    split
    · exact hselected.seen key value
    · rw [InsertionMap.get_set]
      split
      · next hkey =>
          subst hkey
          exact fun heq => (Option.some.inj heq).symm
      · exact hselected.seen key value
  have hreplaced (hoffered : offer rank offered (seq, false) = some (seq, false)) :
      Selected facts held (offer rank offered (seq, false))
        { selection with
          best := some ⟨(facts seq).projection, timestamp, seq⟩
          seenBySeq :=
            if (selection.seenBySeq.get seq).isSome then selection.seenBySeq
            else selection.seenBySeq.set seq (facts seq).projection } := by
    refine ⟨hselected.conflict, hseen, by simp, ?_⟩
    rintro _ ⟨⟩
    exact ⟨rfl, hoffered, habove⟩
  cases hbest : selection.best with
  | none =>
      have hoffered : offer rank offered (seq, false) = some (seq, false) := by
        rw [hselected.unchanged hbest]
        cases held with
        | none => rfl
        | some pair => exact offer_of_seq_lt false pair.2 (habove pair rfl)
      exact hreplaced hoffered
  | some best =>
      obtain ⟨hprojection, hoffered, hgreater⟩ := hselected.best best hbest
      by_cases hle : seq ≤ best.serverSeq
      · have hkept : offer rank offered (seq, false) = some (best.serverSeq, false) := by
          rw [hoffered]
          rcases hle.lt_or_eq with hlt | rfl
          · exact offer_of_lt_seq false false hlt
          · exact offer_trajectory_sameSeq _ false
        simp only [Option.any_some, hle, decide_true, ↓reduceIte]
        refine ⟨hselected.conflict, hseen, by simp, ?_⟩
        rintro _ ⟨⟩
        exact ⟨hprojection, hkept, hgreater⟩
      · simp only [Option.any_some, hle, decide_false, Bool.false_eq_true, ↓reduceIte]
        refine hreplaced ?_
        rw [hoffered]
        exact offer_of_seq_lt false false (not_le.mp hle)

theorem Selected.selectEntry {offered : Option (Int × Bool)} {selection : ComparableSelection}
    (hselected : Selected facts held offered selection) (hheld : Holds facts agentId held state)
    {item : TrajectoryLogEntry} (hitem : EntryStates texts facts statesActivity item) :
    Selected facts held (offerAll rank offered (statedByEntry item).toList)
      (selectEntry texts (state.agentActivitySeq.get agentId)
        (state.agentActivities.get agentId) selection item) := by
  obtain ⟨seq, hseq, hderive⟩ := hitem
  cases hstates : statesActivity item.entry.content with
  | false =>
      have hnone : statedByEntry item = none := by simp [statedByEntry, hstates]
      rw [AgentActivityEvents.selectEntry, hseq, derive_eq_none hstates, hnone]
      exact hselected
  | true =>
      have hsome : statedByEntry item = some (seq, false) := by
        simp [statedByEntry, hstates, hseq]
      have hnew (hlast : state.agentActivitySeq.get agentId = held.map Prod.fst)
          (habove : ∀ pair, held = some pair → pair.1 < seq) :
          Selected facts held (offer rank offered (seq, false))
            (AgentActivityEvents.selectEntry texts (state.agentActivitySeq.get agentId)
              (state.agentActivities.get agentId) selection item) := by
        have holder : ((held.map Prod.fst).any fun lastSeq => seq < lastSeq) = false := by
          cases held with
          | none => rfl
          | some pair => simpa using (habove pair rfl).le
        have hdiffers : held.map Prod.fst ≠ some seq := by
          cases held with
          | none => simp
          | some pair => exact fun heq => (habove pair rfl).ne (Option.some.inj heq)
        have hbasis : producerSeqConflictBasis (selection.seenBySeq.get seq)
            (facts seq).projection false = none := by
          cases hget : selection.seenBySeq.get seq with
          | none => rfl
          | some seen =>
              rw [hselected.seen seq seen hget]
              exact producerSeqConflictBasis_self _ rfl rfl rfl false
        simp only [AgentActivityEvents.selectEntry, hseq, hderive hstates, hlast, holder,
          hdiffers, hbasis, Bool.false_eq_true, ↓reduceIte]
        exact hselected.offer_new item.timestamp habove
      rw [hsome]
      cases held with
      | none => exact hnew hheld.seq (by simp)
      | some pair =>
          obtain ⟨last, shown⟩ := pair
          have hlast : state.agentActivitySeq.get agentId = some last := hheld.seq
          obtain ⟨current, hcurrent, hshown⟩ := hheld.shows _ rfl
          rcases lt_trichotomy last seq with hlt | rfl | hlt
          · refine hnew hlast ?_
            rintro _ ⟨⟩
            exact hlt
          · have hbasis : producerSeqConflictBasis (some current) (facts last).projection true =
                none := hshown.no_conflict
            rw [Option.toList_some, offerAll, List.foldl_cons, List.foldl_nil,
              hselected.offer_old rfl le_rfl]
            simp only [AgentActivityEvents.selectEntry, hseq, hderive hstates, hlast, hcurrent,
              hbasis, Option.any_some, lt_irrefl, decide_false, Bool.false_eq_true, ↓reduceIte,
              Option.map_none]
            exact ⟨by rw [hselected.conflict]; rfl, hselected.seen, hselected.unchanged,
              hselected.best⟩
          · rw [Option.toList_some, offerAll, List.foldl_cons, List.foldl_nil,
              hselected.offer_old rfl hlt.le]
            simp only [AgentActivityEvents.selectEntry, hseq, hderive hstates, hlast,
              Option.any_some, hlt, decide_true, ↓reduceIte]
            exact hselected

theorem Selected.run {offered : Option (Int × Bool)} {selection : ComparableSelection}
    (hselected : Selected facts held offered selection) (hheld : Holds facts agentId held state)
    {entries : List TrajectoryLogEntry}
    (hentries : ∀ item ∈ entries, EntryStates texts facts statesActivity item) :
    Selected facts held (offerAll rank offered (entries.filterMap statedByEntry))
      (entries.foldl (AgentActivityEvents.selectEntry texts
        (state.agentActivitySeq.get agentId) (state.agentActivities.get agentId)) selection) := by
  induction entries generalizing offered selection with
  | nil => exact hselected
  | cons item entries ih =>
      have hstep := hselected.selectEntry hheld (hentries item List.mem_cons_self)
      have hrest := ih hstep fun other hother => hentries other (List.mem_cons_of_mem _ hother)
      have hsplit : (item :: entries).filterMap statedByEntry =
          (statedByEntry item).toList ++ entries.filterMap statedByEntry := by
        rw [List.filterMap_cons]
        cases statedByEntry item <;> rfl
      rw [hsplit, List.foldl_cons, offerAll, List.foldl_append]
      exact hrest

theorem Holds.writeTrajectoryLog (hheld : Holds facts agentId held state)
    (combined : Option (List TrajectoryLogEntry)) :
    Holds facts agentId held (AgentActivityEvents.writeTrajectoryLog state agentId combined) :=
  ⟨hheld.seq, hheld.absent, hheld.shows⟩

theorem Holds.applyTrajectoryEntries (hheld : Holds facts agentId held state)
    {entries : List TrajectoryLogEntry}
    (hentries : ∀ item ∈ entries, EntryStates texts facts statesActivity item)
    (event : AgentActivityEventKind) (eventServerSeq timestamp : Option Int)
    (traceJoin : Option AgentActivityTraceJoin) :
    let result := applyTrajectoryEntries texts state event agentId entries eventServerSeq
      timestamp traceJoin
    Holds facts agentId (offerAll rank held (entries.filterMap statedByEntry)) result.state ∧
      result.transition.outcome ≠ .producerSeqConflict := by
  have hselected := selected_start.run hheld hentries
  intro result
  unfold result AgentActivityEvents.applyTrajectoryEntries
  simp only [selectComparableTrajectoryActivity]
  generalize entries.foldl (AgentActivityEvents.selectEntry texts
    (state.agentActivitySeq.get agentId) (state.agentActivities.get agentId))
    ⟨none, none, .empty⟩ = selection at hselected ⊢
  rw [hselected.conflict]
  cases hbest : selection.best with
  | none =>
      rw [hselected.unchanged hbest]
      refine ⟨hheld.writeTrajectoryLog _, ?_⟩
      dsimp only
      split <;> simp
  | some best =>
      obtain ⟨hprojection, hoffered, -⟩ := hselected.best best hbest
      rw [hoffered]
      refine ⟨holds_applyCurrentActivity rfl ?_ rfl, applyCurrentActivity_outcome _ _⟩
      rw [hprojection]
      exact ⟨rfl, rfl, rfl⟩

/-! ## Runs -/

theorem Holds.applyAgentActivityEvent (hheld : Holds facts agentId held state)
    {event : AgentActivityEvent}
    (hstates : EventStates texts facts statesActivity agentId event) :
    let result := applyAgentActivityEvent texts state event
    Holds facts agentId (offerAll rank held (statedPairs event)) result.state ∧
      result.transition.outcome ≠ .producerSeqConflict := by
  cases event with
  | socketActivity event =>
      obtain ⟨hagent, seq, hsocket⟩ := hstates
      have hpairs : statedPairs (.socketActivity event) = [(seq, true)] := by
        simp [statedPairs, hsocket.serverSeq]
      rw [hpairs]
      exact hheld.applySocketActivity hagent hsocket
  | trajectoryAppend event =>
      obtain ⟨rfl, -, hentries⟩ := hstates
      exact hheld.applyTrajectoryEntries hentries _ _ _ _
  | trajectoryHydrate event =>
      obtain ⟨rfl, hentries⟩ := hstates
      exact hheld.applyTrajectoryEntries hentries _ _ _ _
  | resetSeq => exact hstates.elim

end Steps

section Runs

variable (texts : EntryTexts)

def foldEvents (state : AgentActivityDomainState) (events : List AgentActivityEvent) :
    AgentActivityDomainState :=
  run (fun state event => (applyAgentActivityEvent texts state event).state) state events

def greatestSeq (events : List AgentActivityEvent) : Option Int :=
  ((events.flatMap statedPairs).map Prod.fst).max?

structure NoEntry (agentId : JsString) (state : AgentActivityDomainState) : Prop where
  seq : state.agentActivitySeq.get agentId = none
  current : state.agentActivities.get agentId = none

/-- The events end with the fact of the greatest number; on the way the number
never decreases and no conflict is reported. -/
structure RunsAsRegister (facts : Int → ProducerFact) (agentId : JsString)
    (state : AgentActivityDomainState) (events : List AgentActivityEvent) : Prop where
  seq : (foldEvents texts state events).agentActivitySeq.get agentId = greatestSeq events
  current : ∀ seq, greatestSeq events = some seq → ∃ current,
    (foldEvents texts state events).agentActivities.get agentId = some current ∧
      Shows (facts seq) (decide ((seq, true) ∈ events.flatMap statedPairs)) current
  steps : ∀ before event after, events = before ++ event :: after →
    let reached := foldEvents texts state before
    let result := applyAgentActivityEvent texts reached event
    result.transition.outcome ≠ .producerSeqConflict ∧
      ∀ seq, reached.agentActivitySeq.get agentId = some seq →
        ∃ next, result.state.agentActivitySeq.get agentId = some next ∧ seq ≤ next

variable {texts} {facts : Int → ProducerFact} {agentId : JsString}

theorem NoEntry.holds {state : AgentActivityDomainState} (h : NoEntry agentId state) :
    Holds facts agentId none state :=
  ⟨h.seq, fun _ => h.current, nofun⟩

theorem Holds.foldEvents {held : Option (Int × Bool)} {state : AgentActivityDomainState}
    (hheld : Holds facts agentId held state) {events : List AgentActivityEvent}
    (hstates : ∀ event ∈ events, EventStates texts facts statesActivity agentId event) :
    Holds facts agentId (offerAll rank held (events.flatMap statedPairs))
      (foldEvents texts state events) := by
  induction events generalizing held state with
  | nil => exact hheld
  | cons event events ih =>
      have hstep := (hheld.applyAgentActivityEvent (hstates event List.mem_cons_self)).1
      rw [List.flatMap_cons, offerAll, List.foldl_append]
      exact ih hstep fun other hother => hstates other (List.mem_cons_of_mem _ hother)

theorem greatestSeq_eq (events : List AgentActivityEvent) :
    greatestSeq events =
      (offerAll rank none (events.flatMap statedPairs)).map Prod.fst := by
  unfold greatestSeq
  cases hheld : offerAll rank none (events.flatMap statedPairs) with
  | none =>
      rw [(offerAll_none_eq_none rank).mp hheld]
      rfl
  | some pair =>
      obtain ⟨hsource, -, hgreatest⟩ := offerAll_spec rank hheld
      have hmem : pair ∈ events.flatMap statedPairs := hsource.resolve_left (by simp)
      refine List.max?_eq_some_iff.mpr ⟨List.mem_map_of_mem hmem, ?_⟩
      intro seq hseq
      obtain ⟨other, hother, rfl⟩ := List.mem_map.mp hseq
      by_contra hlt
      exact absurd (hgreatest other hother) (rank_lt.mpr (Or.inl (not_le.mp hlt))).not_ge

theorem held_socketStated {events : List AgentActivityEvent} {pair : Int × Bool}
    (h : offerAll rank none (events.flatMap statedPairs) = some pair) :
    decide ((pair.1, true) ∈ events.flatMap statedPairs) = pair.2 := by
  obtain ⟨hsource, -, hgreatest⟩ := offerAll_spec rank h
  have hmem : pair ∈ events.flatMap statedPairs := hsource.resolve_left (by simp)
  obtain ⟨seq, shown⟩ := pair
  cases shown with
  | true => exact decide_eq_true hmem
  | false =>
      refine decide_eq_false fun hsocket => ?_
      exact absurd (hgreatest _ hsocket) (rank_lt_socket seq).not_ge

theorem Holds.seq_mono {held : Option (Int × Bool)} {state next : AgentActivityDomainState}
    {pairs : List (Int × Bool)} (hheld : Holds facts agentId held state)
    (hnext : Holds facts agentId (offerAll rank held pairs) next) {seq : Int}
    (hseq : state.agentActivitySeq.get agentId = some seq) :
    ∃ later, next.agentActivitySeq.get agentId = some later ∧ seq ≤ later := by
  cases held with
  | none => exact absurd (hheld.seq.symm.trans hseq) nofun
  | some pair =>
      obtain ⟨kept, hkept⟩ := @offerAll_isSome _ _ _ rank (some pair) pairs (Or.inl rfl)
      obtain ⟨-, hmono, -⟩ := offerAll_spec rank hkept
      have hpair : pair.1 = seq := Option.some.inj (hheld.seq.symm.trans hseq)
      refine ⟨kept.1, by rw [hnext.seq, hkept]; rfl, ?_⟩
      rw [← hpair]
      by_contra hlt
      exact absurd (hmono pair rfl) (rank_lt.mpr (Or.inl (not_le.mp hlt))).not_ge

theorem current_is_sequence_register {state : AgentActivityDomainState}
    {events : List AgentActivityEvent} (hfresh : NoEntry agentId state)
    (hstates : ∀ event ∈ events, EventStates texts facts statesActivity agentId event) :
    RunsAsRegister texts facts agentId state events := by
  have hend := hfresh.holds.foldEvents hstates
  refine ⟨hend.seq.trans (greatestSeq_eq events).symm, ?_, ?_⟩
  · intro seq hseq
    rw [greatestSeq_eq] at hseq
    obtain ⟨pair, hpair, rfl⟩ := Option.map_eq_some_iff.mp hseq
    obtain ⟨current, hcurrent, hshown⟩ := hend.shows pair hpair
    rw [held_socketStated hpair]
    exact ⟨current, hcurrent, hshown⟩
  · rintro before event after rfl
    have hbefore : ∀ other ∈ before, EventStates texts facts statesActivity agentId other :=
      fun other hother => hstates other (List.mem_append_left _ hother)
    have hreached := hfresh.holds.foldEvents hbefore
    obtain ⟨hnext, hquiet⟩ := hreached.applyAgentActivityEvent
      (hstates event (List.mem_append_right _ List.mem_cons_self))
    exact ⟨hquiet, fun seq hseq => hreached.seq_mono hnext hseq⟩

end Runs

/-! ## Two entries of one number -/

/-- The JSON text of an entry that has no other fields, where one is read. -/
def entryJson : TrajectoryContent → JsString
  | .thinking text => js "\x7b\"kind\":\"thinking\",\"text\":" ++ jsonQuote text ++ js "\x7d"
  | .status activity _ detail _ =>
      js "\x7b\"activity\":" ++ jsonQuote activity.text ++ js ",\"detail\":" ++ jsonQuote detail ++
        js ",\"kind\":\"status\"\x7d"
  | _ => []

def plainTexts : EntryTexts where
  getToolActivityLabel toolName := js "Using " ++ toolName ++ js "…"
  stableTrajectoryEntryKey entry := entryJson entry.content

def emptyState : AgentActivityDomainState where
  agentActivities := .empty
  agentActivityTraceJoins := .empty
  agentActivityObservedAt := .empty
  agentActivityVersions := .empty
  agentActivitySeq := .empty
  agentActivityLaunchId := .empty
  activityLogs := .empty
  trajectoryLogs := .empty

def commandFact : ProducerFact where
  activity := .working
  detail := js "npm test"
  detailKind := .runningCommand
  projectedKind := .other
  projectedKind_eq := Or.inr rfl

def commandSocket : SocketActivity where
  agentId := js "a"
  activity := some (js "working")
  activityDetail := js "npm test"
  serverSeq := some 5
  timestamp := 10
  joinKeys := none
  traceJoin := none
  activityKind := none
  detailKind := some (js "running_command")
  isHeartbeat := none
  isRefreshOnly := none
  deliveryConsumption := none
  wakeCrashLoop := none
  spawnFailure := none

def commandStatus : TrajectoryEntry where
  content := .status .working none (js "npm test") none
  producerFactId := none
  otherFields := []

def appendOf (entries : List TrajectoryEntry) : TrajectoryAppend where
  agentId := js "a"
  entries := entries
  timestamp := 11
  serverSeq := some 5
  joinKeys := none
  traceJoin := none

/-- A thought and a status of one number are two statements, and neither is written. -/
theorem thought_and_status_conflict : ¬ ∀ (texts : EntryTexts) (facts : Int → ProducerFact)
    (agentId : JsString) (state : AgentActivityDomainState) (events : List AgentActivityEvent),
    NoEntry agentId state →
    (∀ event ∈ events, EventStates texts facts isStatus agentId event) →
    RunsAsRegister texts facts agentId state events := by
  intro hclaim
  let batch : AgentActivityEvent :=
    .trajectoryAppend (appendOf [⟨.thinking (js "Reading"), none, []⟩, commandStatus])
  have hstates : ∀ event ∈ [batch],
      EventStates plainTexts (fun _ => commandFact) isStatus (js "a") event := by
    intro event hevent
    rw [List.mem_singleton.mp hevent]
    refine ⟨rfl, rfl, fun item hitem => ⟨5, ?_⟩⟩
    rcases List.mem_cons.mp hitem with rfl | hitem
    · exact ⟨rfl, nofun⟩
    · rw [List.mem_singleton.mp hitem]
      exact ⟨rfl, fun _ => rfl⟩
  have hruns := hclaim plainTexts (fun _ => commandFact) (js "a") emptyState [batch]
    ⟨rfl, rfl⟩ hstates
  exact (hruns.steps [] batch [] rfl).1 (by decide)

theorem current_is_sequence_register_command :
    RunsAsRegister plainTexts (fun _ => commandFact) (js "a") emptyState
      [.trajectoryAppend (appendOf [commandStatus]), .socketActivity commandSocket] := by
  refine current_is_sequence_register ⟨rfl, rfl⟩ fun event hevent => ?_
  rcases List.mem_cons.mp hevent with rfl | hevent
  · refine ⟨rfl, rfl, fun item hitem => ⟨5, ?_⟩⟩
    rw [List.mem_singleton.mp hitem]
    exact ⟨rfl, fun _ => rfl⟩
  · rw [List.mem_singleton.mp hevent]
    exact ⟨rfl, 5, rfl, by decide, rfl, by decide⟩

end Raft.AgentActivityEvents
