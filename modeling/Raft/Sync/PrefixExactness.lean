import Raft.Sync.Decisions

/-!
# Prefix exactness of a contiguous scope

A log assigns one event to every position from one on.  When every call to a
contiguous scope carries data of that log under one epoch, the scope holds the
fold of the log up to its watermark, and the watermark never moves back.
-/

namespace Raft.Sync

open Raft.Foundation

variable {S E P : Type}

def prefixState (config : SyncDomainConfig S E P) (scopeId : SyncScopeId) (log : Nat → E) :
    Nat → S
  | 0 => config.initialState
  | n + 1 => config.fold (prefixState config scopeId log n) (log (n + 1)) ⟨scopeId, (n + 1 : Nat)⟩

/-- A page that carries exactly the log entries above `fromSeq` up to `toSeq`. -/
structure PageFromLog (log : Nat → E) (response : SyncDifferenceResponse E) : Prop where
  fromSeq_nonneg : 0 ≤ response.fromSeq
  toSeq_nonneg : 0 ≤ response.toSeq
  mem_events_iff : ∀ item, item ∈ response.events ↔
    ∃ n : Nat, response.fromSeq < n ∧ n ≤ response.toSeq ∧ item = ⟨n, log n⟩

/-- The call carries data of the log under `epoch`, asked for from a watermark already reached. -/
def FromLog (config : SyncDomainConfig S E P) (scopeId : SyncScopeId) (log : Nat → E)
    (epoch : Option SyncEpoch) (entry : ScopeEntry S) : SyncHarnessInput E P → Prop
  | .frame _ frame =>
      frame.epoch = epoch ∧ ∃ n : Nat, 1 ≤ n ∧ frame.seq = n ∧ frame.event = log n
  | .snapshot _ snapshot =>
      snapshot.epoch = epoch ∧ ∃ n : Nat, snapshot.watermark = n ∧
        config.fromSnapshot snapshot = prefixState config scopeId log n
  | .difference _ response =>
      response.epoch = epoch ∧
        (response.snapshotRequired = true ∨
          (response.fromSeq ≤ entry.appliedSeq.getD 0 ∧ PageFromLog log response))

structure PrefixExact (config : SyncDomainConfig S E P) (scopeId : SyncScopeId) (log : Nat → E)
    (entry : ScopeEntry S) : Prop where
  nonneg : 0 ≤ entry.appliedSeq.getD 0
  state_eq : entry.state = prefixState config scopeId log (entry.appliedSeq.getD 0).toNat

section

variable {config : SyncDomainConfig S E P} {scopeId : SyncScopeId} {log : Nat → E}
  {epoch : Option SyncEpoch} {entry : ScopeEntry S}

theorem prefixExact_at {n : Nat} {entry : ScopeEntry S} (happlied : entry.appliedSeq.getD 0 = n)
    (hstate : entry.state = prefixState config scopeId log n) :
    PrefixExact config scopeId log entry := by
  constructor
  · rw [happlied]
    exact Int.natCast_nonneg n
  · rw [happlied, Int.toNat_natCast, hstate]

theorem PrefixExact.acceptEvent (hexact : PrefixExact config scopeId log entry) {n : Nat}
    (hn : (n : Int) = entry.appliedSeq.getD 0 + 1) :
    PrefixExact config scopeId log (acceptEvent config scopeId entry n (log n)) := by
  have hnonneg := hexact.nonneg
  obtain ⟨m, hm⟩ := Int.eq_ofNat_of_zero_le hnonneg
  have hsucc : n = m + 1 := by
    rw [hm] at hn
    exact_mod_cast hn
  subst hsucc
  refine prefixExact_at (n := m + 1) rfl ?_
  simp only [Sync.acceptEvent, prefixState, hexact.state_eq, hm, Int.toNat_natCast]

/-! ## Difference pages -/

def Gapless (position : Int) (items : List (SyncDifferenceItem E)) : Prop :=
  ∀ item ∈ items, ∀ seq, position < seq → seq < item.seq → ∃ other ∈ items, other.seq = seq

theorem Gapless.head_eq {position : Int} {item : SyncDifferenceItem E}
    {items : List (SyncDifferenceItem E)} (hgapless : Gapless position (item :: items))
    (hsorted : ∀ other ∈ items, item.seq ≤ other.seq) (habove : position < item.seq) :
    item.seq = position + 1 := by
  by_contra hne
  have hlt : position + 1 < item.seq :=
    lt_of_le_of_ne (Int.add_one_le_iff.mpr habove) (Ne.symm hne)
  obtain ⟨other, hother, hseq⟩ :=
    hgapless item List.mem_cons_self (position + 1) (Int.lt_succ position) hlt
  rcases List.mem_cons.mp hother with rfl | hrest
  · exact hne hseq
  · exact absurd (hsorted other hrest) (by rw [hseq]; exact not_le.mpr hlt)

theorem Gapless.tail {position next : Int} {item : SyncDifferenceItem E}
    {items : List (SyncDifferenceItem E)} (hgapless : Gapless position (item :: items))
    (hnext : position ≤ next) (hitem : item.seq ≤ next) : Gapless next items := by
  intro later hlater seq habove hbelow
  obtain ⟨other, hother, hseq⟩ := hgapless later (List.mem_cons_of_mem _ hlater) seq
    (lt_of_le_of_lt hnext habove) hbelow
  rcases List.mem_cons.mp hother with rfl | hrest
  · exact absurd hitem (by rw [hseq]; exact not_le.mpr habove)
  · exact ⟨other, hrest, hseq⟩

theorem prefixExact_applyDifferenceItem (hexact : PrefixExact config scopeId log entry)
    {item : SyncDifferenceItem E} {n : Nat} (hn : 1 ≤ n) (hitem : item = ⟨n, log n⟩)
    (hnext : entry.appliedSeq.getD 0 < item.seq → item.seq = entry.appliedSeq.getD 0 + 1) :
    PrefixExact config scopeId log (applyDifferenceItem config scopeId entry item) ∧
      entry.appliedSeq.getD 0 ≤
        (applyDifferenceItem config scopeId entry item).appliedSeq.getD 0 ∧
      item.seq ≤ (applyDifferenceItem config scopeId entry item).appliedSeq.getD 0 ∧
      (applyDifferenceItem config scopeId entry item).epoch = entry.epoch := by
  subst hitem
  by_cases hbelow : (n : Int) ≤ entry.appliedSeq.getD 0
  · have hstep : applyDifferenceItem config scopeId entry ⟨n, log n⟩ = entry := by
      unfold applyDifferenceItem
      cases happlied : entry.appliedSeq with
      | none =>
          rw [happlied] at hbelow
          simp only [Option.getD_none] at hbelow
          exact absurd hbelow (by omega)
      | some appliedSeq =>
          rw [happlied] at hbelow
          exact if_pos hbelow
    rw [hstep]
    exact ⟨hexact, le_refl _, hbelow, rfl⟩
  · have habove := not_le.mp hbelow
    have hstep : applyDifferenceItem config scopeId entry ⟨n, log n⟩ =
        acceptEvent config scopeId entry n (log n) := by
      unfold applyDifferenceItem
      cases happlied : entry.appliedSeq with
      | none => rfl
      | some appliedSeq =>
          rw [happlied] at hbelow
          exact if_neg hbelow
    rw [hstep]
    exact ⟨hexact.acceptEvent (hnext habove), le_of_lt habove, le_refl _, rfl⟩

theorem prefixExact_foldl {items : List (SyncDifferenceItem E)}
    (hexact : PrefixExact config scopeId log entry)
    (hsorted : items.Pairwise fun first second => first.seq ≤ second.seq)
    (hlog : ∀ item ∈ items, ∃ n : Nat, 1 ≤ n ∧ item = ⟨n, log n⟩)
    (hgapless : Gapless (entry.appliedSeq.getD 0) items) :
    PrefixExact config scopeId log
        (items.foldl (applyDifferenceItem config scopeId) entry) ∧
      entry.appliedSeq.getD 0 ≤
        (items.foldl (applyDifferenceItem config scopeId) entry).appliedSeq.getD 0 ∧
      (∀ item ∈ items, item.seq ≤
        (items.foldl (applyDifferenceItem config scopeId) entry).appliedSeq.getD 0) ∧
      (items.foldl (applyDifferenceItem config scopeId) entry).epoch = entry.epoch := by
  induction items generalizing entry with
  | nil => exact ⟨hexact, le_refl _, by simp, rfl⟩
  | cons item items ih =>
      obtain ⟨hfirst, hrest⟩ := List.pairwise_cons.mp hsorted
      obtain ⟨n, hn, hitem⟩ := hlog item List.mem_cons_self
      obtain ⟨hnext, hmono, hseq, hepoch⟩ := prefixExact_applyDifferenceItem hexact hn hitem
        (hgapless.head_eq hfirst)
      obtain ⟨hexact', hmono', hseqs, hepoch'⟩ := ih hnext hrest
        (fun other hother => hlog other (List.mem_cons_of_mem _ hother))
        (hgapless.tail hmono hseq)
      refine ⟨hexact', le_trans hmono hmono', ?_, hepoch'.trans hepoch⟩
      intro other hother
      rcases List.mem_cons.mp hother with rfl | hmem
      · exact le_trans hseq hmono'
      · exact hseqs other hmem

theorem PageFromLog.gapless {response : SyncDifferenceResponse E} (hpage : PageFromLog log response)
    {position : Int} (hfrom : response.fromSeq ≤ position) :
    Gapless position (sortBySeq response.events) := by
  intro item hitem seq habove hbelow
  obtain ⟨n, -, hto, rfl⟩ := (hpage.mem_events_iff item).mp (mem_sortBySeq.mp hitem)
  have hlower := lt_of_le_of_lt hfrom habove
  obtain ⟨m, rfl⟩ := Int.eq_ofNat_of_zero_le (le_trans hpage.fromSeq_nonneg hlower.le)
  exact ⟨⟨m, log m⟩, mem_sortBySeq.mpr ((hpage.mem_events_iff _).mpr
    ⟨m, hlower, le_trans hbelow.le hto, rfl⟩), rfl⟩

theorem prefixExact_applyDifference {response : SyncDifferenceResponse E}
    (hscope : response.scopeId = scopeId) (hexact : PrefixExact config scopeId log entry)
    (hfrom : response.fromSeq ≤ entry.appliedSeq.getD 0) (hpage : PageFromLog log response) :
    PrefixExact config scopeId log (applyDifference config entry response).2 ∧
      entry.appliedSeq.getD 0 ≤ (applyDifference config entry response).2.appliedSeq.getD 0 ∧
      (applyDifference config entry response).2.appliedSeq.isSome = true ∧
      (applyDifference config entry response).2.epoch = entry.epoch := by
  subst hscope
  obtain ⟨hfolded, hmono, hseqs, hepoch⟩ := prefixExact_foldl hexact
    (sortBySeq_pairwise response.events)
    (fun item hitem => by
      obtain ⟨n, hlower, -, rfl⟩ := (hpage.mem_events_iff item).mp (mem_sortBySeq.mp hitem)
      have hnonneg := hpage.fromSeq_nonneg
      exact ⟨n, by exact_mod_cast lt_of_le_of_lt hnonneg hlower, rfl⟩)
    (hpage.gapless hfrom)
  unfold applyDifference
  generalize (sortBySeq response.events).foldl
    (applyDifferenceItem config response.scopeId) entry = folded at *
  -- The page reaches `toSeq`, so the jump has nothing left to skip.
  have hreached : response.toSeq ≤ folded.appliedSeq.getD 0 := by
    by_cases hto : response.toSeq ≤ response.fromSeq
    · exact le_trans hto (le_trans hfrom hmono)
    · obtain ⟨m, hm⟩ := Int.eq_ofNat_of_zero_le hpage.toSeq_nonneg
      have hlast : (⟨m, log m⟩ : SyncDifferenceItem E) ∈ response.events :=
        (hpage.mem_events_iff _).mpr ⟨m, hm ▸ not_le.mp hto, le_of_eq hm.symm, rfl⟩
      exact le_trans (le_of_eq hm) (hseqs _ (mem_sortBySeq.mpr hlast))
  unfold jumpToSeq
  cases happlied : folded.appliedSeq with
  | none =>
      rw [happlied] at hreached hmono
      have hzero : response.toSeq = 0 := le_antisymm hreached hpage.toSeq_nonneg
      refine ⟨prefixExact_at (n := 0) (by simp [hzero]) ?_, by simpa [hzero] using hmono,
        rfl, hepoch⟩
      have hstate := hfolded.state_eq
      rw [happlied] at hstate
      exact hstate
  | some appliedSeq =>
      rw [happlied] at hreached
      have hstay : ¬appliedSeq < response.toSeq := not_lt.mpr hreached
      simp only [hstay, if_false]
      exact ⟨hfolded, hmono, by simp [happlied], hepoch⟩

/-! ## Steps and runs -/

def NotBelow (before after : ScopeEntry S) : Prop :=
  before.appliedSeq.getD 0 ≤ after.appliedSeq.getD 0 ∧
    (before.appliedSeq.isSome = true → after.appliedSeq.isSome = true)

theorem NotBelow.refl (entry : ScopeEntry S) : NotBelow entry entry := ⟨le_refl _, id⟩

theorem NotBelow.trans {first second third : ScopeEntry S} (hfirst : NotBelow first second)
    (hsecond : NotBelow second third) : NotBelow first third :=
  ⟨le_trans hfirst.1 hsecond.1, hsecond.2 ∘ hfirst.2⟩

structure OnLog (config : SyncDomainConfig S E P) (scopeId : SyncScopeId) (log : Nat → E)
    (epoch : Option SyncEpoch) (entry : ScopeEntry S) : Prop where
  exact : PrefixExact config scopeId log entry
  epoch_eq : entry.epoch = none ∨ entry.epoch = epoch

theorem onLog_initialEntry :
    OnLog config scopeId log epoch (SyncCore.initialEntry config) :=
  ⟨prefixExact_at (n := 0) rfl rfl, Or.inl rfl⟩

theorem OnLog.sameEpoch (h : OnLog config scopeId log epoch entry) :
    sameEpoch entry epoch = true := by
  rcases h.epoch_eq with hepoch | hepoch <;> simp [Sync.sameEpoch, hepoch]

theorem OnLog.repairPending (h : OnLog config scopeId log epoch entry) (pending : Bool) :
    OnLog config scopeId log epoch { entry with repairPending := pending } :=
  ⟨⟨h.exact.nonneg, h.exact.state_eq⟩, h.epoch_eq⟩

theorem onLog_frame (hcontiguous : config.density = .contiguous)
    (h : OnLog config scopeId log epoch entry) {frame : SyncFrame E}
    (hscope : frame.scopeId = scopeId) {n : Nat} (hseq : frame.seq = n)
    (hevent : frame.event = log n) :
    OnLog config scopeId log epoch (frameWrite config entry frame).entry ∧
      NotBelow entry (frameWrite config entry frame).entry := by
  subst hscope
  apply frameWrite_cases
    (motive := fun write => OnLog config frame.scopeId log epoch write.entry ∧
      NotBelow entry write.entry)
  case adopted | advanced => intros; simp_all
  case succeeded =>
    intro _ appliedSeq happlied hnext _
    rw [hseq, hevent]
    have hstep : (n : Int) = entry.appliedSeq.getD 0 + 1 := by
      rw [happlied, ← hseq, hnext, Option.getD_some]
    refine ⟨⟨h.exact.acceptEvent hstep, h.epoch_eq⟩, ?_, fun _ => rfl⟩
    simp only [acceptEvent, Option.getD_some, hstep]
    exact (Int.lt_succ _).le
  case mismatched | unbased | conflicted | gapped =>
    intros
    exact ⟨h.repairPending true, le_refl _, id⟩
  case regressed | replayed =>
    intros
    exact ⟨h, NotBelow.refl entry⟩

theorem onLog_snapshot (h : OnLog config scopeId log epoch entry) {snapshot : SyncSnapshot P}
    (hepoch : snapshot.epoch = epoch) {n : Nat} (hwatermark : snapshot.watermark = n)
    (hstate : config.fromSnapshot snapshot = prefixState config scopeId log n) :
    OnLog config scopeId log epoch (snapshotWrite config entry snapshot).entry ∧
      NotBelow entry (snapshotWrite config entry snapshot).entry := by
  apply snapshotWrite_cases
    (motive := fun write => OnLog config scopeId log epoch write.entry ∧ NotBelow entry write.entry)
  case dropped =>
    intro _
    exact ⟨h, NotBelow.refl entry⟩
  case accepted =>
    intro hfresh
    refine ⟨⟨prefixExact_at (n := n) (by simp [baselineEntry, hwatermark]) hstate,
      Or.inr hepoch⟩, ?_, fun _ => rfl⟩
    simp only [baselineEntry, Option.getD_some]
    cases happlied : entry.appliedSeq with
    | none =>
        rw [hwatermark]
        exact Int.natCast_nonneg n
    | some appliedSeq =>
        -- A lower watermark under the same epoch would have been dropped.
        by_contra hlower
        have hstale : staleSnapshot config entry snapshot = true :=
          staleSnapshot_iff.mpr ⟨appliedSeq, happlied, hepoch ▸ h.sameEpoch,
            Or.inl (not_le.mp hlower)⟩
        rw [hstale] at hfresh
        cases hfresh

theorem onLog_difference (h : OnLog config scopeId log epoch entry)
    {response : SyncDifferenceResponse E} (hscope : response.scopeId = scopeId)
    (hresponse : response.snapshotRequired = true ∨
      (response.fromSeq ≤ entry.appliedSeq.getD 0 ∧ PageFromLog log response)) :
    OnLog config scopeId log epoch (differenceWrite config entry response).entry ∧
      NotBelow entry (differenceWrite config entry response).entry := by
  have happly : acceptsDifference entry response = true →
      OnLog config scopeId log epoch (applyDifference config entry response).2 ∧
        NotBelow entry (applyDifference config entry response).2 := by
    intro haccepts
    have hpage := hresponse.resolve_left (by
      simp only [acceptsDifference, Bool.and_eq_true, Bool.not_eq_true'] at haccepts
      simp [haccepts.2])
    obtain ⟨hexact, hmono, hsome, hepoch⟩ :=
      prefixExact_applyDifference hscope h.exact hpage.1 hpage.2
    exact ⟨⟨hexact, hepoch ▸ h.epoch_eq⟩, hmono, fun _ => hsome⟩
  apply differenceWrite_cases
    (motive := fun write => OnLog config scopeId log epoch write.entry ∧ NotBelow entry write.entry)
  case mismatched =>
    intro _
    exact ⟨h, NotBelow.refl entry⟩
  case refused =>
    intro _ _
    exact ⟨h.repairPending true, le_refl _, id⟩
  case sliced =>
    intro haccepts _
    exact happly haccepts
  case completed =>
    intro haccepts _
    obtain ⟨hnext, hmono⟩ := happly haccepts
    exact ⟨hnext.repairPending false, hmono⟩

theorem onLog_step (hcontiguous : config.density = .contiguous)
    (h : OnLog config scopeId log epoch entry) {input : SyncHarnessInput E P}
    (hscope : input.scopeId = scopeId)
    (hinput : FromLog config scopeId log epoch entry input) :
    OnLog config scopeId log epoch (input.write config entry).entry ∧
      NotBelow entry (input.write config entry).entry := by
  cases input with
  | frame _ pushed =>
      obtain ⟨-, n, -, hseq, hevent⟩ := hinput
      exact onLog_frame hcontiguous h hscope hseq hevent
  | snapshot _ taken =>
      obtain ⟨hepoch, n, hwatermark, hstate⟩ := hinput
      exact onLog_snapshot h hepoch hwatermark hstate
  | difference _ response => exact onLog_difference h hscope hinput.2

end

abbrev RunsFromLog (config : SyncDomainConfig S E P) (scopeId : SyncScopeId) (log : Nat → E)
    (epoch : Option SyncEpoch) (core : SyncCore S E P) (inputs : List (SyncHarnessInput E P)) :
    Prop :=
  ScopeAdmitted config scopeId (FromLog config scopeId log epoch) core inputs

section

variable {config : SyncDomainConfig S E P} {scopeId : SyncScopeId} {log : Nat → E}
  {epoch : Option SyncEpoch} {core : SyncCore S E P} {inputs : List (SyncHarnessInput E P)}

theorem onLog_run (hcontiguous : config.density = .contiguous) (hfresh : Fresh core)
    (hdomain : core.domainOf config.name = .ok config)
    (hrun : RunsFromLog config scopeId log epoch core inputs) :
    OnLog config scopeId log epoch ((run step core inputs).scopeEntry config scopeId) := by
  refine scopeEntry_invariant (OnLog config scopeId log epoch) hdomain ?_ ?_ hrun
  · exact fun entry input haddress h hinput =>
      (onLog_step hcontiguous h haddress.2 hinput).1
  · rw [hfresh.scopeEntry]
    exact onLog_initialEntry

theorem notBelow_of_initial (hcontiguous : config.density = .contiguous) (hfresh : Fresh core)
    (hdomain : core.domainOf config.name = .ok config)
    (hrun : RunsFromLog config scopeId log epoch core inputs)
    {before : List (SyncHarnessInput E P)} (hstart : before <+: inputs) :
    NotBelow ((run step core before).scopeEntry config scopeId)
      ((run step core inputs).scopeEntry config scopeId) := by
  obtain ⟨rest, rfl⟩ := hstart
  obtain ⟨hbefore, hrest⟩ := admitted_append.mp hrun
  rw [run_append]
  refine scopeEntry_chain (OnLog config scopeId log epoch) NotBelow
    (by rw [run_domainOf, hdomain]) NotBelow.refl NotBelow.trans ?_
    (onLog_run hcontiguous hfresh hdomain hbefore) hrest
  exact fun entry input haddress h hinput => onLog_step hcontiguous h haddress.2 hinput

/-- Every reachable state is the fold of the log up to a watermark that never moves back, so
runs that end at one watermark end in one state. -/
theorem contiguous_prefix_exact (hcontiguous : config.density = .contiguous) (hfresh : Fresh core)
    (hdomain : core.domainOf config.name = .ok config)
    (hrun : RunsFromLog config scopeId log epoch core inputs) :
    PrefixExact config scopeId log ((run step core inputs).scopeEntry config scopeId) ∧
      (∀ before, before <+: inputs →
        NotBelow ((run step core before).scopeEntry config scopeId)
          ((run step core inputs).scopeEntry config scopeId)) ∧
      ∀ (other : SyncCore S E P) (otherInputs : List (SyncHarnessInput E P)),
        Fresh other → other.domainOf config.name = .ok config →
        RunsFromLog config scopeId log epoch other otherInputs →
        ((run step core inputs).scopeEntry config scopeId).appliedSeq.getD 0 =
          ((run step other otherInputs).scopeEntry config scopeId).appliedSeq.getD 0 →
        ((run step core inputs).scopeEntry config scopeId).state =
          ((run step other otherInputs).scopeEntry config scopeId).state := by
  have hexact := (onLog_run hcontiguous hfresh hdomain hrun).exact
  refine ⟨hexact, fun before hstart =>
    notBelow_of_initial hcontiguous hfresh hdomain hrun hstart, ?_⟩
  intro other otherInputs hotherFresh hotherDomain hotherRun hposition
  have hother := (onLog_run hcontiguous hotherFresh hotherDomain hotherRun).exact
  rw [hexact.state_eq, hother.state_eq, hposition]

def repairedRun : List (SyncHarnessInput JsString LogState) :=
  [.snapshot (js "log") ⟨js "s", 0, some (js "e1"), []⟩,
    .frame (js "log") ⟨js "s", 1, some (js "e1"), decimalText 1⟩,
    .frame (js "log") ⟨js "s", 3, some (js "e1"), decimalText 3⟩,
    .difference (js "log")
      { scopeId := js "s", epoch := some (js "e1"), fromSeq := 1, toSeq := 3
        events := [⟨3, decimalText 3⟩, ⟨2, decimalText 2⟩] },
    .frame (js "log") ⟨js "s", 3, some (js "e1"), decimalText 3⟩]

theorem pageFromLog_repaired :
    PageFromLog decimalText
      { scopeId := js "s", epoch := some (js "e1"), fromSeq := 1, toSeq := 3
        events := [⟨3, decimalText 3⟩, ⟨2, decimalText 2⟩] } := by
  refine ⟨by decide, by decide, fun item => ?_⟩
  simp only [List.mem_cons, List.not_mem_nil, or_false]
  constructor
  · rintro (rfl | rfl)
    · exact ⟨3, by decide, by decide, rfl⟩
    · exact ⟨2, by decide, by decide, rfl⟩
  · rintro ⟨n, hlower, hupper, rfl⟩
    obtain rfl | rfl : n = 3 ∨ n = 2 := by omega
    · exact Or.inl rfl
    · exact Or.inr rfl

theorem runsFromLog_repaired :
    RunsFromLog (logDomain (js "log") .contiguous) (js "s") decimalText (some (js "e1"))
      (soleDomainCore (logDomain (js "log") .contiguous)) repairedRun :=
  ⟨fun _ => ⟨rfl, 0, rfl, rfl⟩, fun _ => ⟨rfl, 1, by decide, rfl, rfl⟩,
    fun _ => ⟨rfl, 3, by decide, rfl, rfl⟩,
    fun _ => ⟨rfl, Or.inr ⟨by decide, pageFromLog_repaired⟩⟩,
    fun _ => ⟨rfl, 3, by decide, rfl, rfl⟩, trivial⟩

theorem contiguous_prefix_exact_repaired :
    ((run step (soleDomainCore (logDomain (js "log") .contiguous)) repairedRun).scopeEntry
        (logDomain (js "log") .contiguous) (js "s")).state =
      prefixState (logDomain (js "log") .contiguous) (js "s") decimalText 3 :=
  (contiguous_prefix_exact rfl (fresh_soleDomainCore _) (domainOf_soleDomainCore _)
    runsFromLog_repaired).1.state_eq

end

end Raft.Sync
