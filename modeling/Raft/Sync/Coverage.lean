import Raft.Sync.Decisions

/-!
# Which positions a contiguous scope has seen

A ghost follows one scope and records the positions that an event was folded
for or that the last accepted snapshot covers.  A difference page that starts
above the watermark is the one way to move the watermark past a position that
is not recorded: the `fromSeq` of a response is never compared with it.
-/

namespace Raft.Sync

open Raft.Foundation

variable {S E P : Type}

/-! ## The watermark after a page -/

/-- The watermark after one position: a first one is adopted, a lower one ignored. -/
def advanceTo : Option Int → Int → Option Int
  | none, seq => some seq
  | some appliedSeq, seq => some (max appliedSeq seq)

theorem advanceTo_advanceTo_of_le (appliedSeq : Option Int) {first second : Int}
    (h : first ≤ second) :
    advanceTo (advanceTo appliedSeq first) second = advanceTo appliedSeq second := by
  cases appliedSeq with
  | none => simp [advanceTo, h]
  | some appliedSeq => simp [advanceTo, max_assoc, h]

theorem le_advanceTo (appliedSeq : Option Int) (seq : Int) :
    ∃ position, advanceTo appliedSeq seq = some position ∧ seq ≤ position ∧
      ∀ before, appliedSeq = some before → before ≤ position := by
  cases appliedSeq with
  | none => exact ⟨seq, rfl, le_refl _, by simp⟩
  | some before => exact ⟨max before seq, rfl, le_max_right _ _, by simp⟩

theorem getD_lt_of_lt_advanceTo {appliedSeq : Option Int} {seq toSeq : Int}
    (habove : appliedSeq.getD 0 < seq) (hbelow : seq ≤ (advanceTo appliedSeq toSeq).getD 0) :
    seq ≤ toSeq := by
  cases appliedSeq with
  | none => exact hbelow
  | some appliedSeq =>
      simp only [advanceTo, Option.getD_some] at habove hbelow
      omega

section Page

variable {config : SyncDomainConfig S E P} {entry : ScopeEntry S}

theorem applyDifferenceItem_appliedSeq (scopeId : SyncScopeId) (item : SyncDifferenceItem E) :
    (applyDifferenceItem config scopeId entry item).appliedSeq =
      advanceTo entry.appliedSeq item.seq := by
  unfold applyDifferenceItem
  cases happlied : entry.appliedSeq with
  | none => rfl
  | some appliedSeq =>
      simp only [advanceTo]
      split
      · rw [happlied, max_eq_left ‹_›]
      · rename_i habove
        rw [max_eq_right (le_of_lt (not_le.mp habove))]
        rfl

theorem foldl_applyDifferenceItem_appliedSeq (scopeId : SyncScopeId)
    (items : List (SyncDifferenceItem E)) :
    (items.foldl (applyDifferenceItem config scopeId) entry).appliedSeq =
      (items.map (·.seq)).foldl advanceTo entry.appliedSeq := by
  induction items generalizing entry with
  | nil => rfl
  | cons item items ih =>
      rw [List.foldl_cons, ih, applyDifferenceItem_appliedSeq, List.map_cons, List.foldl_cons]

theorem jumpToSeq_appliedSeq (entry : ScopeEntry S) (toSeq : Int) :
    (jumpToSeq entry toSeq).2.appliedSeq = advanceTo entry.appliedSeq toSeq := by
  unfold jumpToSeq
  cases happlied : entry.appliedSeq with
  | none => rfl
  | some appliedSeq =>
      simp only [advanceTo]
      split
      · rw [max_eq_right (le_of_lt ‹_›)]
      · rename_i hreached
        rw [happlied, max_eq_left (not_lt.mp hreached)]

theorem applyDifference_appliedSeq (response : SyncDifferenceResponse E) :
    (applyDifference config entry response).2.appliedSeq =
      advanceTo (((sortBySeq response.events).map (·.seq)).foldl advanceTo entry.appliedSeq)
        response.toSeq := by
  rw [applyDifference, jumpToSeq_appliedSeq, foldl_applyDifferenceItem_appliedSeq]

theorem foldl_advanceTo_of_le {appliedSeq : Option Int} {seqs : List Int} {toSeq : Int}
    (hseqs : ∀ seq ∈ seqs, seq ≤ toSeq) :
    advanceTo (seqs.foldl advanceTo appliedSeq) toSeq = advanceTo appliedSeq toSeq := by
  induction seqs generalizing appliedSeq with
  | nil => rfl
  | cons seq seqs ih =>
      rw [List.foldl_cons, ih fun other hother => hseqs other (List.mem_cons_of_mem _ hother),
        advanceTo_advanceTo_of_le _ (hseqs seq List.mem_cons_self)]

theorem le_foldl_advanceTo {appliedSeq : Option Int} {seqs : List Int} :
    (∀ before, appliedSeq = some before →
      ∃ position, seqs.foldl advanceTo appliedSeq = some position ∧ before ≤ position) ∧
    ∀ seq ∈ seqs, ∃ position, seqs.foldl advanceTo appliedSeq = some position ∧ seq ≤ position := by
  induction seqs generalizing appliedSeq with
  | nil => exact ⟨fun before hbefore => ⟨before, hbefore, le_refl _⟩, by simp⟩
  | cons first seqs ih =>
      obtain ⟨middle, hmiddle, hfirst, hmono⟩ := le_advanceTo appliedSeq first
      obtain ⟨position, hposition, hle⟩ := ih.1 _ hmiddle
      refine ⟨fun before hbefore => ⟨position, hposition, le_trans (hmono _ hbefore) hle⟩, ?_⟩
      intro seq hseq
      rcases List.mem_cons.mp hseq with rfl | hrest
      · exact ⟨position, hposition, le_trans hfirst hle⟩
      · exact ih.2 seq hrest

end Page

/-! ## The ghost -/

def coverCall (config : SyncDomainConfig S E P) (entry : ScopeEntry S) (covered : Int → Bool)
    (input : SyncHarnessInput E P) : Int → Bool :=
  match input with
  | .snapshot _ taken =>
      if acceptsSnapshot config entry input then fun seq => seq ≤ taken.watermark else covered
  | .frame _ _ | .difference _ _ =>
      fun seq => covered seq || (foldedBy config entry input).any fun item => item.seq = seq

/-- The positions folded, or covered by a snapshot, since the last accepted snapshot. -/
def coveredAfter (config : SyncDomainConfig S E P) (scopeId : SyncScopeId) (core : SyncCore S E P)
    (inputs : List (SyncHarnessInput E P)) : Int → Bool :=
  ghostAfter config scopeId (coverCall config) core (fun _ => false) inputs

/-- `fromSeq` is the position the page starts after, and its events cover what follows. -/
structure PageCovers (response : SyncDifferenceResponse E) : Prop where
  fromSeq_le : response.fromSeq ≤ response.toSeq
  mem_seqs_iff : ∀ seq, (∃ item ∈ response.events, item.seq = seq) ↔
    response.fromSeq < seq ∧ seq ≤ response.toSeq

/-- Every position the call moves the watermark over is recorded once the call has returned. -/
def SkipsNothing (config : SyncDomainConfig S E P) (entry : ScopeEntry S) (covered : Int → Bool)
    (response : SyncDifferenceResponse E) : Prop :=
  ∀ seq, entry.appliedSeq.getD 0 < seq →
    seq ≤ (differenceWrite config entry response).entry.appliedSeq.getD 0 →
    coverCall config entry covered (.difference config.name response) seq = true

def StartsBelow (entry : ScopeEntry S) : SyncHarnessInput E P → Prop
  | .frame _ _ | .snapshot _ _ => True
  | .difference _ response => acceptsDifference entry response = true →
      PageCovers response ∧ response.fromSeq ≤ entry.appliedSeq.getD 0

section

variable {config : SyncDomainConfig S E P} {scopeId : SyncScopeId} {entry : ScopeEntry S}
  {covered : Int → Bool} {core : SyncCore S E P} {inputs : List (SyncHarnessInput E P)}

def Within (entry : ScopeEntry S) (covered : Int → Bool) : Prop :=
  ∀ seq, covered seq = true → ∃ position, entry.appliedSeq = some position ∧ seq ≤ position

theorem difference_appliedSeq {response : SyncDifferenceResponse E}
    (haccepts : acceptsDifference entry response = true) :
    (differenceWrite config entry response).entry.appliedSeq =
      (applyDifference config entry response).2.appliedSeq := by
  rcases differenceWrite_entry config entry response with
    ⟨-, pending, hentry⟩ | ⟨hrefuses, -⟩
  · rw [hentry]
  · rw [haccepts] at hrefuses
    cases hrefuses

theorem PageCovers.appliedSeq {response : SyncDifferenceResponse E} (hpage : PageCovers response)
    (haccepts : acceptsDifference entry response = true) :
    (differenceWrite config entry response).entry.appliedSeq =
      advanceTo entry.appliedSeq response.toSeq := by
  rw [difference_appliedSeq haccepts, applyDifference_appliedSeq]
  apply foldl_advanceTo_of_le
  intro seq hseq
  obtain ⟨item, hitem, rfl⟩ := List.mem_map.mp hseq
  exact ((hpage.mem_seqs_iff item.seq).mp ⟨item, mem_sortBySeq.mp hitem, rfl⟩).2

theorem within_step (input : SyncHarnessInput E P) (h : Within entry covered) :
    Within (input.write config entry).entry (coverCall config entry covered input) := by
  intro seq hseq
  cases input with
  | frame name pushed =>
      simp only [coverCall, foldedBy, Bool.or_eq_true] at hseq
      simp only [SyncHarnessInput.write]
      rcases frameWrite_entry config entry pushed with
        ⟨haccepts, -, hentry⟩ | ⟨haccepts, pending, hentry⟩
      · rw [hentry]
        refine ⟨pushed.seq, rfl, ?_⟩
        rcases hseq with hbefore | hnow
        · obtain ⟨position, hposition, hle⟩ := h seq hbefore
          exact le_trans hle (aboveWatermark_of_acceptsFrame haccepts position hposition).le
        · simp only [haccepts, if_true, List.any_cons, List.any_nil, Bool.or_false,
            decide_eq_true_eq] at hnow
          exact hnow.ge
      · rw [hentry]
        exact h seq (by simpa [haccepts] using hseq)
  | snapshot name taken =>
      simp only [coverCall, acceptsSnapshot] at hseq
      simp only [SyncHarnessInput.write]
      rcases snapshotWrite_entry config entry taken with
        ⟨hstale, hentry⟩ | ⟨hstale, hentry⟩
      · rw [hentry]
        exact ⟨taken.watermark, rfl, by simpa [hstale] using hseq⟩
      · rw [hentry]
        exact h seq (by simpa [hstale] using hseq)
  | difference name response =>
      simp only [coverCall, foldedBy, Bool.or_eq_true] at hseq
      simp only [SyncHarnessInput.write]
      rcases differenceWrite_entry config entry response with
        ⟨haccepts, pending, hentry⟩ | ⟨haccepts, pending, hentry⟩
      · rw [hentry]
        simp only [applyDifference_appliedSeq]
        obtain ⟨final, hfinal, -, hmono⟩ := le_advanceTo
          (((sortBySeq response.events).map (·.seq)).foldl advanceTo entry.appliedSeq)
          response.toSeq
        refine ⟨final, hfinal, ?_⟩
        rcases hseq with hbefore | hnow
        · obtain ⟨position, hposition, hle⟩ := h seq hbefore
          obtain ⟨middle, hmiddle, hle'⟩ := le_foldl_advanceTo.1 position hposition
          exact le_trans hle (le_trans hle' (hmono middle hmiddle))
        · simp only [haccepts, if_true, List.any_eq_true, decide_eq_true_eq] at hnow
          obtain ⟨item, hitem, rfl⟩ := hnow
          obtain ⟨middle, hmiddle, hle⟩ := le_foldl_advanceTo.2 item.seq
            (List.mem_map.mpr ⟨item, (foldedItems_subset item hitem).1, rfl⟩)
          exact le_trans hle (hmono middle hmiddle)
      · rw [hentry]
        exact h seq (by simpa [haccepts] using hseq)

theorem within_run (hdomain : core.domainOf config.name = .ok config)
    (inputs : List (SyncHarnessInput E P)) :
    Within ((run step core inputs).scopeEntry config scopeId)
      (coveredAfter config scopeId core inputs) := by
  have hrun : ScopeAdmitted config scopeId (fun _ _ => True) core inputs :=
    admitted_of_forall fun _ _ _ _ => trivial
  refine ghostAfter_invariant Within hdomain ?_ ?_ hrun
  · exact fun entry covered input _ h _ => within_step input h
  · intro seq hseq
    cases hseq

theorem skipsNothing_of_fromSeq_le {response : SyncDifferenceResponse E}
    (hpage : PageCovers response) (haccepts : acceptsDifference entry response = true)
    (hfrom : response.fromSeq ≤ entry.appliedSeq.getD 0) :
    SkipsNothing config entry covered response := by
  intro seq habove hbelow
  rw [hpage.appliedSeq haccepts] at hbelow
  have hto := getD_lt_of_lt_advanceTo habove hbelow
  obtain ⟨item, hitem, rfl⟩ := (hpage.mem_seqs_iff seq).mpr ⟨lt_of_le_of_lt hfrom habove, hto⟩
  have hfolded : AboveWatermark entry.appliedSeq item.seq := by
    intro position hposition
    rwa [hposition] at habove
  obtain ⟨folded, hmem, hseq⟩ := exists_mem_foldedItems
    (sortBySeq_pairwise response.events) (mem_sortBySeq.mpr hitem) hfolded
  simp only [coverCall, foldedBy, haccepts, if_true, Bool.or_eq_true, List.any_eq_true,
    decide_eq_true_eq]
  exact Or.inr ⟨folded, hmem, hseq⟩

theorem fromSeq_le_of_skipsNothing {response : SyncDifferenceResponse E}
    (hwithin : Within entry covered) (hpage : PageCovers response)
    (haccepts : acceptsDifference entry response = true)
    (hskips : SkipsNothing config entry covered response) :
    response.fromSeq ≤ entry.appliedSeq.getD 0 := by
  by_contra hgap
  have hto := hpage.fromSeq_le
  obtain ⟨final, hfinal, hle, -⟩ := le_advanceTo entry.appliedSeq response.toSeq
  have hnext := hskips (entry.appliedSeq.getD 0 + 1) (Int.lt_succ _)
    (by
      rw [hpage.appliedSeq haccepts, hfinal, Option.getD_some]
      omega)
  simp only [coverCall, foldedBy, haccepts, if_true, Bool.or_eq_true, List.any_eq_true,
    decide_eq_true_eq] at hnext
  rcases hnext with hbefore | ⟨item, hitem, hseq⟩
  · obtain ⟨position, hposition, hle'⟩ := hwithin _ hbefore
    rw [hposition, Option.getD_some] at hle'
    omega
  · have hmem := mem_sortBySeq.mp (foldedItems_subset item hitem).1
    have hlower := ((hpage.mem_seqs_iff item.seq).mp ⟨item, hmem, rfl⟩).1
    omega

def Dense (entry : ScopeEntry S) (covered : Int → Bool) : Prop :=
  ∀ seq, 1 ≤ seq → seq ≤ entry.appliedSeq.getD 0 → covered seq = true

theorem dense_step (hcontiguous : config.density = .contiguous) (input : SyncHarnessInput E P)
    (h : Dense entry covered) (hguard : StartsBelow entry input) :
    Dense (input.write config entry).entry (coverCall config entry covered input) := by
  intro seq hpos hle
  cases input with
  | frame name pushed =>
      simp only [SyncHarnessInput.write] at hle
      simp only [coverCall, foldedBy, Bool.or_eq_true]
      rcases frameWrite_entry config entry pushed with
        ⟨haccepts, -, hentry⟩ | ⟨haccepts, pending, hentry⟩
      · rw [hentry] at hle
        simp only [acceptEvent, Option.getD_some] at hle
        have hnext := seq_of_acceptsFrame hcontiguous haccepts
        by_cases hbefore : seq ≤ entry.appliedSeq.getD 0
        · exact Or.inl (h seq hpos hbefore)
        · have hseq : pushed.seq = seq := by omega
          exact Or.inr (by simp [haccepts, hseq])
      · rw [hentry] at hle
        exact Or.inl (h seq hpos hle)
  | snapshot name taken =>
      simp only [SyncHarnessInput.write] at hle
      simp only [coverCall, acceptsSnapshot]
      rcases snapshotWrite_entry config entry taken with
        ⟨hstale, hentry⟩ | ⟨hstale, hentry⟩
      · rw [hentry] at hle
        simpa [hstale, baselineEntry] using hle
      · rw [hentry] at hle
        simpa [hstale] using h seq hpos hle
  | difference name response =>
      by_cases hbefore : seq ≤ entry.appliedSeq.getD 0
      · simp [coverCall, h seq hpos hbefore]
      · by_cases haccepts : acceptsDifference entry response = true
        · obtain ⟨hpage, hfrom⟩ := hguard haccepts
          have hskips : SkipsNothing config entry covered response :=
            skipsNothing_of_fromSeq_le hpage haccepts hfrom
          exact hskips seq
            (not_le.mp hbefore) hle
        · rcases differenceWrite_entry config entry response with
            ⟨haccepts', -⟩ | ⟨-, pending, hentry⟩
          · exact absurd haccepts' haccepts
          · simp only [SyncHarnessInput.write, hentry] at hle
            exact absurd hle hbefore

/-- An applied page skips nothing exactly when it starts at or below the watermark, and a run
whose applied pages all do has recorded every position up to its watermark. -/
theorem difference_skips_nothing_iff (hcontiguous : config.density = .contiguous)
    (hfresh : Fresh core) (hdomain : core.domainOf config.name = .ok config)
    (inputs : List (SyncHarnessInput E P)) :
    (∀ response : SyncDifferenceResponse E, response.scopeId = scopeId → PageCovers response →
      acceptsDifference ((run step core inputs).scopeEntry config scopeId) response = true →
      (SkipsNothing config ((run step core inputs).scopeEntry config scopeId)
          (coveredAfter config scopeId core inputs) response ↔
        response.fromSeq ≤
          ((run step core inputs).scopeEntry config scopeId).appliedSeq.getD 0)) ∧
    (ScopeAdmitted config scopeId StartsBelow core inputs →
      ∀ before, before <+: inputs →
        ∀ seq, 1 ≤ seq →
          seq ≤ ((run step core before).scopeEntry config scopeId).appliedSeq.getD 0 →
          coveredAfter config scopeId core before seq = true) := by
  constructor
  · intro response _ hpage haccepts
    exact ⟨fromSeq_le_of_skipsNothing (within_run hdomain inputs) hpage haccepts,
      skipsNothing_of_fromSeq_le hpage haccepts⟩
  · intro hrun before hstart
    refine ghostAfter_invariant Dense hdomain ?_ ?_ (hrun.of_initial hstart)
    · exact fun entry covered input _ h hguard => dense_step hcontiguous input h hguard
    · intro seq hpos hle
      rw [hfresh.scopeEntry] at hle
      exact absurd hle (by simp [SyncCore.initialEntry]; omega)

end

def lateRepair : SyncDifferenceResponse JsString where
  scopeId := js "s"
  epoch := some (js "e1")
  fromSeq := 5
  toSeq := 7
  events := [⟨6, js "f"⟩, ⟨7, js "g"⟩]

theorem lateRepair_covers : PageCovers lateRepair := by
  refine ⟨by decide, fun seq => ?_⟩
  simp only [lateRepair, List.mem_cons, List.not_mem_nil, or_false, exists_eq_or_imp,
    exists_eq_left]
  omega

def baselineAtOne : List (SyncHarnessInput JsString LogState) :=
  [.snapshot (js "log") ⟨js "s", 1, some (js "e1"), [(1, js "a")]⟩]

theorem difference_skips_nothing_iff_lateRepair :
    SkipsNothing (logDomain (js "log") .contiguous)
        ((run step (soleDomainCore (logDomain (js "log") .contiguous)) baselineAtOne).scopeEntry
          (logDomain (js "log") .contiguous) (js "s"))
        (coveredAfter (logDomain (js "log") .contiguous) (js "s")
          (soleDomainCore (logDomain (js "log") .contiguous)) baselineAtOne) lateRepair ↔
      (5 : Int) ≤ 1 :=
  (difference_skips_nothing_iff rfl (fresh_soleDomainCore _) (domainOf_soleDomainCore _)
    baselineAtOne).1 lateRepair rfl lateRepair_covers (by decide)

/-- The page is applied over the positions 2 to 5, which no call has delivered. -/
theorem difference_skips_positions :
    ¬∀ (inputs : List (SyncHarnessInput JsString LogState))
      (response : SyncDifferenceResponse JsString),
      response.scopeId = js "s" → PageCovers response →
      acceptsDifference
        ((run step (soleDomainCore (logDomain (js "log") .contiguous)) inputs).scopeEntry
          (logDomain (js "log") .contiguous) (js "s")) response = true →
      SkipsNothing (logDomain (js "log") .contiguous)
        ((run step (soleDomainCore (logDomain (js "log") .contiguous)) inputs).scopeEntry
          (logDomain (js "log") .contiguous) (js "s"))
        (coveredAfter (logDomain (js "log") .contiguous) (js "s")
          (soleDomainCore (logDomain (js "log") .contiguous)) inputs) response := by
  intro hclaim
  have hskipped := hclaim baselineAtOne lateRepair rfl lateRepair_covers (by decide) 2
    (by decide) (by decide)
  revert hskipped
  decide

end Raft.Sync
