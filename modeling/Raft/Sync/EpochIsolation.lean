import Raft.Sync.Decisions

/-!
# Epoch isolation

A ghost collects the epochs of the inputs folded since the last accepted
snapshot, together with that snapshot's own.  A scope that holds an epoch
refuses every other one; a scope without an epoch takes all of them, and only a
first sparse frame or a snapshot gives it one.  So the inputs folded into a
scope agree on the epoch as long as no epoch is folded into a scope that stays
without.
-/

namespace Raft.Sync

open Raft.Foundation

variable {S E P : Type}

def collectEpochs (config : SyncDomainConfig S E P) (entry : ScopeEntry S)
    (epochs : List SyncEpoch) (input : SyncHarnessInput E P) : List SyncEpoch :=
  match input with
  | .snapshot _ taken =>
      if acceptsSnapshot config entry input then taken.epoch.toList else epochs
  | .frame _ _ | .difference _ _ =>
      if (foldedBy config entry input).isEmpty then epochs else epochs ++ input.epoch.toList

/-- The non-null epochs of the last accepted snapshot and of all inputs folded since. -/
def epochsAfter (config : SyncDomainConfig S E P) (scopeId : SyncScopeId) (core : SyncCore S E P)
    (inputs : List (SyncHarnessInput E P)) : List SyncEpoch :=
  ghostAfter config scopeId (collectEpochs config) core [] inputs

def Isolated (epochs : List SyncEpoch) : Prop :=
  ∀ first ∈ epochs, ∀ second ∈ epochs, first = second

/-- An epoch that is folded meets a scope that holds one, or is adopted by a first sparse frame. -/
def PinsEpoch (config : SyncDomainConfig S E P) (entry : ScopeEntry S)
    (input : SyncHarnessInput E P) : Prop :=
  input.epoch ≠ none → foldedBy config entry input ≠ [] →
    entry.epoch ≠ none ∨ ∃ name pushed, input = .frame name pushed ∧ entry.appliedSeq = none

section

variable {config : SyncDomainConfig S E P} {scopeId : SyncScopeId} {entry : ScopeEntry S}
  {epochs : List SyncEpoch} {core : SyncCore S E P} {inputs : List (SyncHarnessInput E P)}

theorem epoch_eq_of_not_mismatch {incoming epoch : SyncEpoch}
    (h : epochMismatch entry (some incoming) = false) (hentry : entry.epoch = some epoch) :
    incoming = epoch := by
  simpa [epochMismatch, hentry] using h

def Pinned (entry : ScopeEntry S) (epochs : List SyncEpoch) : Prop :=
  ∀ epoch ∈ epochs, entry.epoch = some epoch

theorem Pinned.isolated (h : Pinned entry epochs) : Isolated epochs := by
  intro first hfirst second hsecond
  exact Option.some.inj ((h first hfirst).symm.trans (h second hsecond))

theorem epochMismatch_of_folded {input : SyncHarnessInput E P}
    (hfolded : foldedBy config entry input ≠ []) : epochMismatch entry input.epoch = false := by
  cases input with
  | frame name pushed =>
      have haccepts : acceptsFrame config entry pushed = true := by
        by_contra hrefused
        exact hfolded (if_neg hrefused)
      simp only [acceptsFrame, Bool.and_eq_true, Bool.not_eq_true'] at haccepts
      exact haccepts.1
  | snapshot name taken => exact absurd rfl hfolded
  | difference name response =>
      have haccepts : acceptsDifference entry response = true := by
        by_contra hrefused
        exact hfolded (if_neg hrefused)
      simp only [acceptsDifference, Bool.and_eq_true, Bool.not_eq_true'] at haccepts
      exact haccepts.1

theorem write_epoch_of_frame (name : SyncDomainName) {pushed : SyncFrame E}
    (h : foldedBy (P := P) config entry (.frame name pushed) = [] ∨ entry.epoch ≠ none ∨
      entry.appliedSeq ≠ none) :
    (frameWrite config entry pushed).entry.epoch = entry.epoch := by
  rcases frameWrite_entry config entry pushed with
    ⟨haccepts, -, hentry⟩ | ⟨-, pending, hentry⟩
  · rw [hentry]
    rcases h with hfolded | hepoch | happlied
    · simp [foldedBy, haccepts] at hfolded
    · simp [hepoch]
    · simp [happlied]
  · rw [hentry]

theorem write_epoch_of_difference (response : SyncDifferenceResponse E) :
    (differenceWrite config entry response).entry.epoch = entry.epoch := by
  rcases differenceWrite_entry config entry response with
    ⟨-, pending, hentry⟩ | ⟨-, pending, hentry⟩
  · rw [hentry]
    exact applyDifference_epoch response
  · rw [hentry]

theorem entry_epoch_of_folded {input : SyncHarnessInput E P} {epoch : SyncEpoch}
    (hfolded : foldedBy config entry input ≠ []) (hepoch : input.epoch = some epoch)
    (hheld : entry.epoch ≠ none) : entry.epoch = some epoch := by
  obtain ⟨held, hheld⟩ := Option.ne_none_iff_exists'.mp hheld
  have hmatch := epochMismatch_of_folded hfolded
  rw [hepoch] at hmatch
  rw [hheld, epoch_eq_of_not_mismatch hmatch hheld]

theorem Pinned.append {after : ScopeEntry S} (h : Pinned entry epochs)
    {input : SyncHarnessInput E P} (hafter : after.epoch = entry.epoch)
    (hheld : input.epoch ≠ none → foldedBy config entry input ≠ [] → entry.epoch ≠ none) :
    Pinned after (if (foldedBy config entry input).isEmpty then epochs
      else epochs ++ input.epoch.toList) := by
  intro epoch hepoch
  rw [hafter]
  split at hepoch
  · exact h epoch hepoch
  · rename_i hfolded
    have hfolded : foldedBy config entry input ≠ [] := by simpa using hfolded
    rcases List.mem_append.mp hepoch with hold | hnow
    · exact h epoch hold
    · have hsome := Option.mem_toList.mp hnow
      exact entry_epoch_of_folded hfolded hsome (hheld (by simp [hsome]) hfolded)

theorem Pinned.eq_nil (h : Pinned entry epochs) (hnone : entry.epoch = none) : epochs = [] := by
  by_contra hne
  obtain ⟨epoch, hepoch⟩ := List.exists_mem_of_ne_nil epochs hne
  rw [h epoch hepoch] at hnone
  cases hnone

theorem pinned_frame {name : SyncDomainName} {pushed : SyncFrame E} (h : Pinned entry epochs)
    (hpins : PinsEpoch (P := P) config entry (.frame name pushed)) :
    Pinned (frameWrite config entry pushed).entry
      (collectEpochs (P := P) config entry epochs (.frame name pushed)) := by
  by_cases hfirst : entry.epoch = none ∧ entry.appliedSeq = none ∧
      foldedBy (P := P) config entry (.frame name pushed) ≠ []
  -- The first sparse frame: nothing was folded before, and its epoch is adopted.
  · obtain ⟨hnone, happlied, hfolded⟩ := hfirst
    rcases frameWrite_entry config entry pushed with
      ⟨-, -, hentry⟩ | ⟨hrefused, -⟩
    · intro epoch hepoch
      rw [collectEpochs, if_neg (by simpa using hfolded), h.eq_nil hnone,
        List.nil_append] at hepoch
      rw [hentry, if_pos ⟨happlied, hnone⟩]
      exact Option.mem_toList.mp hepoch
    · exact absurd (if_neg (by simp [hrefused])) hfolded
  · refine h.append (write_epoch_of_frame (P := P) name (by tauto)) ?_
    intro hepoch hfolded
    rcases hpins hepoch hfolded with hheld | ⟨_, _, _, happlied⟩
    · exact hheld
    · exact fun hnone => hfirst ⟨hnone, happlied, hfolded⟩

theorem pinned_snapshot {name : SyncDomainName} {taken : SyncSnapshot P}
    (h : Pinned entry epochs) :
    Pinned (snapshotWrite config entry taken).entry
      (collectEpochs (E := E) config entry epochs (.snapshot name taken)) := by
  rcases snapshotWrite_entry config entry taken with
    ⟨hstale, hentry⟩ | ⟨hstale, hentry⟩
  · intro epoch hepoch
    rw [collectEpochs, if_pos (by simp [acceptsSnapshot, hstale])] at hepoch
    rw [hentry]
    exact Option.mem_toList.mp hepoch
  · rw [hentry, collectEpochs, if_neg (by simp [acceptsSnapshot, hstale])]
    exact h

theorem pinned_step (input : SyncHarnessInput E P) (h : Pinned entry epochs)
    (hpins : PinsEpoch config entry input) :
    Pinned (input.write config entry).entry (collectEpochs config entry epochs input) := by
  cases input with
  | frame name pushed => exact pinned_frame h hpins
  | snapshot name taken => exact pinned_snapshot h
  | difference name response =>
      refine h.append (write_epoch_of_difference response) ?_
      intro hepoch hfolded
      rcases hpins hepoch hfolded with hheld | ⟨_, _, hframe, -⟩
      · exact hheld
      · cases hframe

theorem isolated_step (input : SyncHarnessInput E P) (h : Pinned entry epochs) :
    Isolated (collectEpochs config entry epochs input) := by
  by_cases hpins : PinsEpoch config entry input
  · exact (pinned_step input h hpins).isolated
  · simp only [PinsEpoch, not_forall, not_or, not_not] at hpins
    obtain ⟨-, -, hnone, -⟩ := hpins
    have hempty := h.eq_nil hnone
    subst hempty
    have hsub : ∀ epoch ∈ collectEpochs config entry [] input, input.epoch = some epoch := by
      intro epoch hepoch
      cases input with
      | frame name pushed | difference name response =>
          simp only [collectEpochs] at hepoch
          split at hepoch
          · cases hepoch
          · exact Option.mem_toList.mp (by simpa using hepoch)
      | snapshot name taken =>
          simp only [collectEpochs] at hepoch
          split at hepoch
          · exact Option.mem_toList.mp hepoch
          · cases hepoch
    intro first hfirst second hsecond
    exact Option.some.inj ((hsub first hfirst).symm.trans (hsub second hsecond))

theorem pinned_run (hdomain : core.domainOf config.name = .ok config)
    (hrun : ScopeAdmitted config scopeId (PinsEpoch config) core inputs) :
    Pinned ((run step core inputs).scopeEntry config scopeId)
      (epochsAfter config scopeId core inputs) := by
  refine ghostAfter_invariant Pinned hdomain ?_ ?_ hrun
  · exact fun entry epochs input _ h hpins => pinned_step input h hpins
  · exact fun epoch hepoch => absurd hepoch (List.not_mem_nil)

/-! ## An unpinned scope mixes epochs -/

theorem unpinned_step (epochs : List SyncEpoch) {input : SyncHarnessInput E P}
    (hpins : ¬PinsEpoch config entry input) :
    ∃ epoch item, epoch ∈ collectEpochs config entry epochs input ∧
      item ∈ foldedBy config entry input ∧ (input.write config entry).entry.epoch = none := by
  simp only [PinsEpoch, not_forall, not_or, not_not, exists_prop] at hpins
  obtain ⟨hepoch, hfolded, hnone, hframe⟩ := hpins
  obtain ⟨epoch, hepoch⟩ := Option.ne_none_iff_exists'.mp hepoch
  obtain ⟨item, hitem⟩ := List.exists_mem_of_ne_nil _ hfolded
  refine ⟨epoch, item, ?_, hitem, ?_⟩
  · cases input with
    | frame name pushed | difference name response =>
        simp only [collectEpochs]
        rw [if_neg (by simpa using hfolded), hepoch]
        simp
    | snapshot name taken => exact absurd rfl hfolded
  · cases input with
    | frame name pushed =>
        have happlied : entry.appliedSeq ≠ none := fun h => hframe ⟨name, pushed, rfl, h⟩
        rw [← hnone]
        exact write_epoch_of_frame (P := P) name (Or.inr (Or.inr happlied))
    | snapshot name taken => exact absurd rfl hfolded
    | difference name response =>
        rw [← hnone]
        exact write_epoch_of_difference response

def strayDifference (scopeId : SyncScopeId) (appliedSeq : Option Int) (epoch : SyncEpoch)
    (event : E) : SyncDifferenceResponse E where
  scopeId := scopeId
  epoch := some epoch
  fromSeq := appliedSeq.getD 0
  toSeq := appliedSeq.getD 0 + 1
  events := [⟨appliedSeq.getD 0 + 1, event⟩]

theorem collectEpochs_stray (hnone : entry.epoch = none) (scopeId : SyncScopeId)
    (epoch : SyncEpoch) (event : E) :
    collectEpochs (P := P) config entry epochs
        (.difference config.name (strayDifference scopeId entry.appliedSeq epoch event)) =
      epochs ++ [epoch] := by
  have hfolded : foldedBy (P := P) config entry
      (.difference config.name (strayDifference scopeId entry.appliedSeq epoch event)) =
        [⟨entry.appliedSeq.getD 0 + 1, event⟩] := by
    have habove : AboveWatermark entry.appliedSeq (entry.appliedSeq.getD 0 + 1) := by
      intro position hposition
      rw [hposition]
      exact Int.lt_succ position
    simp [foldedBy, acceptsDifference, epochMismatch, hnone, strayDifference, sortBySeq,
      foldedItems, habove]
  simp only [collectEpochs, hfolded]
  rfl

theorem epochsAfter_concat (before : List (SyncHarnessInput E P)) (next : SyncHarnessInput E P) :
    epochsAfter config scopeId core (before ++ [next]) =
      if next.Addresses config.name scopeId then
        collectEpochs config ((run step core before).scopeEntry config scopeId)
          (epochsAfter config scopeId core before) next
      else epochsAfter config scopeId core before := by
  rw [epochsAfter, ghostAfter_append]
  rfl

/-- The states of a history stay isolated under every further call exactly when each folded
epoch meets a scope that is pinned or pins it. -/
theorem epoch_isolated_iff (hdomain : core.domainOf config.name = .ok config)
    (inputs : List (SyncHarnessInput E P)) :
    (∀ before, before <+: inputs → ∀ next,
      Isolated (epochsAfter config scopeId core (before ++ [next]))) ↔
      ScopeAdmitted config scopeId (PinsEpoch config) core inputs := by
  constructor
  · intro hisolated
    induction inputs using List.reverseRecOn with
    | nil => trivial
    | append_singleton inputs last ih =>
        have hbefore := ih fun before hstart =>
          hisolated before (hstart.trans (List.prefix_append _ _))
        refine admitted_concat.mpr ⟨hbefore, fun haddress => ?_⟩
        by_contra hpins
        -- The scope holds no epoch after the last call, so a page of another one mixes in.
        obtain ⟨epoch, item, hepoch, -, hnone⟩ := unpinned_step
          (epochsAfter config scopeId core inputs) hpins
        have hcore : (run step core (inputs ++ [last])).scopeEntry config scopeId =
            (last.write config ((run step core inputs).scopeEntry config scopeId)).entry := by
          rw [run_concat, step_scopeEntry_of_addresses (by rw [run_domainOf, hdomain]) haddress]
        have hmixed := hisolated (inputs ++ [last]) (List.prefix_refl _)
          (.difference config.name (strayDifference scopeId
            ((run step core (inputs ++ [last])).scopeEntry config scopeId).appliedSeq
            (0 :: epoch) item.event))
        rw [epochsAfter_concat, if_pos ⟨rfl, rfl⟩,
          collectEpochs_stray (by rw [hcore, hnone]), epochsAfter_concat,
          if_pos haddress] at hmixed
        have heq := hmixed epoch (List.mem_append_left _ hepoch) (0 :: epoch)
          (List.mem_append_right _ List.mem_cons_self)
        exact absurd (congrArg List.length heq) (by simp)
  · intro hrun before hstart next
    have hpinned := pinned_run hdomain (hrun.of_initial hstart)
    rw [epochsAfter_concat]
    split
    · exact isolated_step next hpinned
    · exact hpinned.isolated

end

def pinnedBaseline : List (SyncHarnessInput JsString LogState) :=
  [.snapshot (js "log") ⟨js "s", 0, some (js "e1"), []⟩,
    .frame (js "log") ⟨js "s", 1, some (js "e1"), js "a"⟩]

theorem epoch_isolated_iff_pinnedBaseline :
    Isolated (epochsAfter (logDomain (js "log") .contiguous) (js "s")
      (soleDomainCore (logDomain (js "log") .contiguous))
      (pinnedBaseline ++ [.frame (js "log") ⟨js "s", 2, some (js "e2"), js "b"⟩])) :=
  (epoch_isolated_iff (domainOf_soleDomainCore _) pinnedBaseline).mpr
    ⟨fun _ _ hfolded => absurd rfl hfolded, fun _ _ _ => Or.inl (by decide), trivial⟩
    pinnedBaseline (List.prefix_refl _) _

/-- A first-contact page of one epoch leaves the scope open to the next frame of another. -/
theorem first_difference_mixes :
    ¬∀ inputs : List (SyncHarnessInput JsString LogState),
      Isolated (epochsAfter (logDomain (js "log") .contiguous) (js "s")
        (soleDomainCore (logDomain (js "log") .contiguous)) inputs) := by
  intro hclaim
  have hmixed := hclaim
    [.difference (js "log")
        { scopeId := js "s", epoch := some (js "e1"), fromSeq := 0, toSeq := 1
          events := [⟨1, js "a"⟩] },
      .frame (js "log") ⟨js "s", 2, some (js "e2"), js "b"⟩]
    (js "e1") (by decide) (js "e2") (by decide)
  revert hmixed
  decide

end Raft.Sync
