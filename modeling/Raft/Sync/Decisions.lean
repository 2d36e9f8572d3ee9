import Raft.Sync.History

/-!
# Case analysis of the decisions

One elimination rule for each decision function lists every branch with its
guards and its writes.  Later proofs use these rules and never unfold a
decision.  The fold loop of a difference page is described by the items it
folds, which are the first arrivals above the watermark.
-/

namespace Raft.Sync

open Raft.Foundation

variable {S E P : Type}

/-! ## Frames -/

section Frame

variable {config : SyncDomainConfig S E P} {entry : ScopeEntry S} {frame : SyncFrame E}

def frameDraft (config : SyncDomainConfig S E P) (frame : SyncFrame E)
    (kind : SyncViolationKind) : SyncViolationDraft :=
  ⟨kind, config.name, frame.scopeId, some frame.seq, frame.epoch⟩

theorem frameWrite_cases {motive : IngestWrite S → Prop}
    (mismatched : epochMismatch entry frame.epoch = true →
      motive {
        outcome := .epochRebaselineRequested frame.scopeId
        entry := { entry with repairPending := true }
        requests := [.requestSnapshot .epochMismatch]
        violation := some (frameDraft config frame .crossEpochArrival) })
    (unbased : epochMismatch entry frame.epoch = false → entry.appliedSeq = none →
      config.density = .contiguous →
      motive {
        outcome := .gapRepairRequested frame.scopeId 0 frame.seq
        entry := { entry with repairPending := true }
        requests := [.requestSnapshot .initial] })
    (adopted : epochMismatch entry frame.epoch = false → entry.appliedSeq = none →
      config.density = .sparse →
      motive {
        outcome := .maxAdvanced frame.scopeId frame.seq
        entry :=
          { acceptEvent config frame.scopeId entry frame.seq frame.event with
            epoch := if entry.epoch = none then frame.epoch else entry.epoch } })
    (regressed : epochMismatch entry frame.epoch = false →
      ∀ appliedSeq, entry.appliedSeq = some appliedSeq → frame.seq < appliedSeq →
      motive {
        outcome := .duplicateDropped frame.scopeId frame.seq
        entry := entry
        violation := config.eventFingerprint.map fun _ =>
          frameDraft config frame .versionRegression })
    (replayed : epochMismatch entry frame.epoch = false → entry.appliedSeq = some frame.seq →
      (∀ fingerprint, config.eventFingerprint = some fingerprint →
        entry.acceptedFingerprint = some (fingerprint frame.event)) →
      motive { outcome := .duplicateDropped frame.scopeId frame.seq, entry := entry })
    (conflicted : epochMismatch entry frame.epoch = false → entry.appliedSeq = some frame.seq →
      ∀ fingerprint, config.eventFingerprint = some fingerprint →
      entry.acceptedFingerprint ≠ some (fingerprint frame.event) →
      motive {
        outcome := .violation frame.scopeId .producerVersionConflict
        entry := { entry with repairPending := true }
        requests := [.requestSnapshot
          (if config.density = .sparse then .sparseRepull else .snapshotRequired)]
        violation := some (frameDraft config frame .producerVersionConflict) })
    (advanced : epochMismatch entry frame.epoch = false →
      ∀ appliedSeq, entry.appliedSeq = some appliedSeq → appliedSeq < frame.seq →
      config.density = .sparse →
      motive {
        outcome := .maxAdvanced frame.scopeId frame.seq
        entry := acceptEvent config frame.scopeId entry frame.seq frame.event })
    (succeeded : epochMismatch entry frame.epoch = false →
      ∀ appliedSeq, entry.appliedSeq = some appliedSeq → frame.seq = appliedSeq + 1 →
      config.density = .contiguous →
      motive {
        outcome := .applied frame.scopeId frame.seq
        entry := acceptEvent config frame.scopeId entry frame.seq frame.event })
    (gapped : epochMismatch entry frame.epoch = false →
      ∀ appliedSeq, entry.appliedSeq = some appliedSeq → appliedSeq + 1 < frame.seq →
      config.density = .contiguous →
      motive {
        outcome := .gapRepairRequested frame.scopeId (appliedSeq + 1) (frame.seq - 1)
        entry := { entry with repairPending := true }
        requests := [.requestDifference appliedSeq entry.epoch] }) :
    motive (frameWrite config entry frame) := by
  simp only [frameWrite]
  split
  · exact mismatched ‹_›
  rename_i hepoch
  have hepoch : epochMismatch entry frame.epoch = false := by simpa using hepoch
  split
  · rename_i hnone
    split
    · exact unbased hepoch hnone ‹_›
    · exact adopted hepoch hnone ‹_›
  · rename_i appliedSeq happlied
    split
    · exact regressed hepoch appliedSeq happlied ‹_›
    rename_i hnotBelow
    split
    · rename_i hseq
      rw [← hseq] at happlied
      split
      · rename_i hfingerprint
        exact replayed hepoch happlied (by simp [hfingerprint])
      · rename_i fingerprint hfingerprint
        split
        · refine replayed hepoch happlied ?_
          intro other hother
          cases hfingerprint.symm.trans hother
          assumption
        · exact conflicted hepoch happlied fingerprint hfingerprint ‹_›
    · rename_i hne
      have hlt : appliedSeq < frame.seq := lt_of_le_of_ne (not_lt.mp hnotBelow) (Ne.symm hne)
      split
      · exact advanced hepoch appliedSeq happlied hlt ‹_›
      · split
        · exact succeeded hepoch appliedSeq happlied ‹_› ‹_›
        · rename_i hgap
          exact gapped hepoch appliedSeq happlied
            (lt_of_le_of_ne (Int.add_one_le_iff.mpr hlt) (Ne.symm hgap)) ‹_›

end Frame

/-! ## Snapshots -/

section Snapshot

variable {config : SyncDomainConfig S E P} {entry : ScopeEntry S} {snapshot : SyncSnapshot P}

def baselineEntry (config : SyncDomainConfig S E P) (snapshot : SyncSnapshot P) :
    ScopeEntry S where
  state := config.fromSnapshot snapshot
  appliedSeq := some snapshot.watermark
  acceptedFingerprint := none
  epoch := snapshot.epoch
  repairPending := false

theorem snapshotWrite_cases {motive : IngestWrite S → Prop}
    (dropped : staleSnapshot config entry snapshot = true →
      motive {
        outcome := .duplicateDropped snapshot.scopeId snapshot.watermark
        entry := entry
        violation := some ⟨.versionRegression, config.name, snapshot.scopeId,
          some snapshot.watermark, snapshot.epoch⟩ })
    (accepted : staleSnapshot config entry snapshot = false →
      motive {
        outcome := .applied snapshot.scopeId snapshot.watermark
        entry := baselineEntry config snapshot
        requests := [.clearScopeRequests] }) :
    motive (snapshotWrite config entry snapshot) := by
  unfold snapshotWrite
  split
  · exact dropped ‹_›
  · rename_i hstale
    exact accepted (by simpa using hstale)

theorem staleSnapshot_iff :
    staleSnapshot config entry snapshot = true ↔
      ∃ appliedSeq, entry.appliedSeq = some appliedSeq ∧
        sameEpoch entry snapshot.epoch = true ∧
        (snapshot.watermark < appliedSeq ∨
          (snapshot.watermark = appliedSeq ∧
            acceptsSameWatermark config entry snapshot = false)) := by
  unfold staleSnapshot
  cases entry.appliedSeq with
  | none => simp
  | some appliedSeq => simp

end Snapshot

/-! ## Differences -/

section Difference

variable {config : SyncDomainConfig S E P} {entry : ScopeEntry S}
  {response : SyncDifferenceResponse E}

def acceptsDifference (entry : ScopeEntry S) (response : SyncDifferenceResponse E) : Bool :=
  !epochMismatch entry response.epoch && !response.snapshotRequired

theorem differenceWrite_cases {motive : IngestWrite S → Prop}
    (mismatched : epochMismatch entry response.epoch = true →
      motive {
        outcome := .epochRebaselineRequested response.scopeId
        entry := entry
        requests := [.requestSnapshot .epochMismatch]
        violation := some
          ⟨.crossEpochArrival, config.name, response.scopeId, none, response.epoch⟩ })
    (refused : epochMismatch entry response.epoch = false → response.snapshotRequired = true →
      motive {
        outcome := .epochRebaselineRequested response.scopeId
        entry := { entry with repairPending := true }
        requests := [.clearScopeRequests, .requestSnapshot .snapshotRequired] })
    (sliced : acceptsDifference entry response = true → response.partialPage = true →
      motive {
        outcome := .gapRepairRequested response.scopeId
          ((applyDifference config entry response).1 + 1) response.toSeq
        entry := (applyDifference config entry response).2
        requests := [.clearScopeRequests,
          .requestDifference (applyDifference config entry response).1
            (applyDifference config entry response).2.epoch] })
    (completed : acceptsDifference entry response = true → response.partialPage = false →
      motive {
        outcome := .applied response.scopeId (applyDifference config entry response).1
        entry := { (applyDifference config entry response).2 with repairPending := false }
        requests := [.clearScopeRequests] }) :
    motive (differenceWrite config entry response) := by
  unfold differenceWrite
  split
  · exact mismatched ‹_›
  rename_i hepoch
  split
  · exact refused (by simpa using hepoch) ‹_›
  rename_i hrequired
  have haccepts : acceptsDifference entry response = true := by
    simp only [acceptsDifference, Bool.and_eq_true, Bool.not_eq_true', Bool.not_eq_true] at *
    exact ⟨hepoch, hrequired⟩
  simp only
  split
  · exact sliced haccepts ‹_›
  · rename_i hpartial
    exact completed haccepts (by simpa using hpartial)

theorem sortBySeq_perm (events : List (SyncDifferenceItem E)) : (sortBySeq events).Perm events :=
  List.perm_insertionSort _ events

theorem mem_sortBySeq {events : List (SyncDifferenceItem E)} {item : SyncDifferenceItem E} :
    item ∈ sortBySeq events ↔ item ∈ events :=
  (sortBySeq_perm events).mem_iff

theorem sortBySeq_pairwise (events : List (SyncDifferenceItem E)) :
    (sortBySeq events).Pairwise fun first second => first.seq ≤ second.seq := by
  have : Std.Total fun first second : SyncDifferenceItem E => first.seq ≤ second.seq :=
    ⟨fun first second => le_total first.seq second.seq⟩
  have : IsTrans (SyncDifferenceItem E) fun first second => first.seq ≤ second.seq :=
    ⟨fun _ _ _ hfirst hsecond => le_trans hfirst hsecond⟩
  exact List.pairwise_insertionSort _ events

def AboveWatermark (appliedSeq : Option Int) (seq : Int) : Prop :=
  ∀ position, appliedSeq = some position → position < seq

instance (appliedSeq : Option Int) (seq : Int) : Decidable (AboveWatermark appliedSeq seq) :=
  match appliedSeq with
  | none => isTrue (by simp [AboveWatermark])
  | some position => decidable_of_iff (position < seq) (by simp [AboveWatermark])

def foldedItems (appliedSeq : Option Int) :
    List (SyncDifferenceItem E) → List (SyncDifferenceItem E)
  | [] => []
  | item :: items =>
      if AboveWatermark appliedSeq item.seq then item :: foldedItems (some item.seq) items
      else foldedItems appliedSeq items

theorem foldl_applyDifferenceItem (scopeId : SyncScopeId) (items : List (SyncDifferenceItem E)) :
    items.foldl (applyDifferenceItem config scopeId) entry =
      (foldedItems entry.appliedSeq items).foldl
        (fun entry item => acceptEvent config scopeId entry item.seq item.event) entry := by
  induction items generalizing entry with
  | nil => rfl
  | cons item items ih =>
      rw [List.foldl_cons, foldedItems]
      by_cases habove : AboveWatermark entry.appliedSeq item.seq
      · have hstep : applyDifferenceItem config scopeId entry item =
            acceptEvent config scopeId entry item.seq item.event := by
          unfold applyDifferenceItem
          cases happlied : entry.appliedSeq with
          | none => rfl
          | some appliedSeq => exact if_neg (not_le.mpr (habove appliedSeq happlied))
        rw [if_pos habove, hstep, ih, List.foldl_cons]
        rfl
      · have hstep : applyDifferenceItem config scopeId entry item = entry := by
          unfold applyDifferenceItem
          cases happlied : entry.appliedSeq with
          | none => exact absurd (by simp [AboveWatermark, happlied]) habove
          | some appliedSeq =>
              refine if_pos (not_lt.mp fun hlt => habove ?_)
              rintro position hposition
              cases happlied.symm.trans hposition
              exact hlt
        rw [if_neg habove, hstep, ih]

theorem foldedItems_subset {appliedSeq : Option Int} {items : List (SyncDifferenceItem E)} :
    ∀ item ∈ foldedItems appliedSeq items, item ∈ items ∧ AboveWatermark appliedSeq item.seq := by
  induction items generalizing appliedSeq with
  | nil => simp [foldedItems]
  | cons first items ih =>
      intro item hitem
      rw [foldedItems] at hitem
      split at hitem
      · rename_i habove
        rcases List.mem_cons.mp hitem with rfl | hrest
        · exact ⟨List.mem_cons_self, habove⟩
        · obtain ⟨hmem, hlt⟩ := ih item hrest
          exact ⟨List.mem_cons_of_mem _ hmem,
            fun position hposition => lt_trans (habove position hposition) (hlt _ rfl)⟩
      · obtain ⟨hmem, hlt⟩ := ih item hitem
        exact ⟨List.mem_cons_of_mem _ hmem, hlt⟩

theorem exists_mem_foldedItems {appliedSeq : Option Int} {items : List (SyncDifferenceItem E)}
    (hsorted : items.Pairwise fun first second => first.seq ≤ second.seq)
    {item : SyncDifferenceItem E} (hitem : item ∈ items)
    (habove : AboveWatermark appliedSeq item.seq) :
    ∃ folded ∈ foldedItems appliedSeq items, folded.seq = item.seq := by
  induction items generalizing appliedSeq with
  | nil => simp at hitem
  | cons first items ih =>
      obtain ⟨hfirst, hrest⟩ := List.pairwise_cons.mp hsorted
      rw [foldedItems]
      split
      · rcases List.mem_cons.mp hitem with rfl | hmem
        · exact ⟨item, List.mem_cons_self, rfl⟩
        · rcases (hfirst item hmem).lt_or_eq with hlt | heq
          · have hnext : AboveWatermark (some first.seq) item.seq := by
              simpa [AboveWatermark] using hlt
            obtain ⟨folded, hfolded, hseq⟩ := ih hrest hmem hnext
            exact ⟨folded, List.mem_cons_of_mem _ hfolded, hseq⟩
          · exact ⟨first, List.mem_cons_self, heq⟩
      · rename_i hfirstBelow
        rcases List.mem_cons.mp hitem with rfl | hmem
        · exact absurd habove hfirstBelow
        · exact ih hrest hmem habove

end Difference

/-! ## What a call folds -/

section Folded

variable {config : SyncDomainConfig S E P} {entry : ScopeEntry S}

/-- The frame is folded: a first sparse frame, a higher sparse one, or the next contiguous one. -/
def acceptsFrame (config : SyncDomainConfig S E P) (entry : ScopeEntry S) (frame : SyncFrame E) :
    Bool :=
  !epochMismatch entry frame.epoch &&
    match entry.appliedSeq, config.density with
    | none, .contiguous => false
    | none, .sparse => true
    | some appliedSeq, .contiguous => frame.seq = appliedSeq + 1
    | some appliedSeq, .sparse => appliedSeq < frame.seq

theorem aboveWatermark_of_acceptsFrame {frame : SyncFrame E}
    (h : acceptsFrame config entry frame = true) : AboveWatermark entry.appliedSeq frame.seq := by
  intro position hposition
  simp only [acceptsFrame, hposition, Bool.and_eq_true] at h
  cases hdensity : config.density with
  | contiguous =>
      have hseq : frame.seq = position + 1 := by simpa [hdensity] using h.2
      omega
  | sparse => simpa [hdensity] using h.2

theorem seq_of_acceptsFrame (hcontiguous : config.density = .contiguous) {frame : SyncFrame E}
    (h : acceptsFrame config entry frame = true) :
    frame.seq = entry.appliedSeq.getD 0 + 1 := by
  simp only [acceptsFrame, hcontiguous, Bool.and_eq_true] at h
  cases happlied : entry.appliedSeq with
  | none => simp [happlied] at h
  | some position => simpa [happlied] using h.2

def acceptsSnapshot (config : SyncDomainConfig S E P) (entry : ScopeEntry S) :
    SyncHarnessInput E P → Bool
  | .snapshot _ taken => !staleSnapshot config entry taken
  | .frame _ _ | .difference _ _ => false

def accuses (config : SyncDomainConfig S E P) (entry : ScopeEntry S) :
    SyncHarnessInput E P → Bool
  | .frame _ frame =>
      !epochMismatch entry frame.epoch && entry.appliedSeq = some frame.seq &&
        match config.eventFingerprint with
        | none => false
        | some fingerprint => entry.acceptedFingerprint ≠ some (fingerprint frame.event)
  | .snapshot _ _ | .difference _ _ => false

def foldedBy (config : SyncDomainConfig S E P) (entry : ScopeEntry S) :
    SyncHarnessInput E P → List (SyncDifferenceItem E)
  | .frame _ pushed =>
      if acceptsFrame config entry pushed then [⟨pushed.seq, pushed.event⟩] else []
  | .snapshot _ _ => []
  | .difference _ response =>
      if acceptsDifference entry response then
        foldedItems entry.appliedSeq (sortBySeq response.events)
      else []

def foldItems (config : SyncDomainConfig S E P) (scopeId : SyncScopeId) (state : S)
    (items : List (SyncDifferenceItem E)) : S :=
  items.foldl (fun state item => config.fold state item.event ⟨scopeId, item.seq⟩) state

theorem foldl_acceptEvent_epoch (scopeId : SyncScopeId) (items : List (SyncDifferenceItem E)) :
    (items.foldl (fun entry item => acceptEvent config scopeId entry item.seq item.event)
      entry).epoch = entry.epoch := by
  induction items generalizing entry with
  | nil => rfl
  | cons item items ih => rw [List.foldl_cons, ih]; rfl

theorem jumpToSeq_epoch (entry : ScopeEntry S) (toSeq : Int) :
    (jumpToSeq entry toSeq).2.epoch = entry.epoch := by
  unfold jumpToSeq
  split
  · rfl
  · split <;> rfl

theorem jumpToSeq_based (entry : ScopeEntry S) (toSeq : Int) :
    (jumpToSeq entry toSeq).2.appliedSeq ≠ none := by
  unfold jumpToSeq
  split
  · simp
  · split <;> simp [*]

theorem applyDifference_epoch (response : SyncDifferenceResponse E) :
    (applyDifference config entry response).2.epoch = entry.epoch := by
  rw [applyDifference, jumpToSeq_epoch, foldl_applyDifferenceItem, foldl_acceptEvent_epoch]

theorem applyDifference_of_le {response : SyncDifferenceResponse E} {applied : Int}
    (happlied : entry.appliedSeq = some applied) (hto : response.toSeq ≤ applied)
    (hevents : ∀ item ∈ response.events, item.seq ≤ applied) :
    (applyDifference config entry response).2 = entry := by
  have hnone : foldedItems entry.appliedSeq (sortBySeq response.events) = [] := by
    apply List.eq_nil_iff_forall_not_mem.mpr
    intro item hitem
    obtain ⟨hmem, habove⟩ := foldedItems_subset item hitem
    exact absurd (habove applied happlied) (not_lt.mpr (hevents item (mem_sortBySeq.mp hmem)))
  rw [applyDifference, foldl_applyDifferenceItem, hnone, List.foldl_nil, jumpToSeq, happlied]
  exact congrArg Prod.snd (if_neg (not_lt.mpr hto))

theorem applyDifference_singleton {response : SyncDifferenceResponse E} {applied : Int} {event : E}
    (happlied : entry.appliedSeq = some applied) (hto : applied < response.toSeq)
    (hevents : response.events = [⟨response.toSeq, event⟩]) :
    (applyDifference config entry response).2 =
      acceptEvent config response.scopeId entry response.toSeq event := by
  rw [applyDifference, hevents]
  simp [sortBySeq, applyDifferenceItem, happlied, not_le.mpr hto, jumpToSeq, acceptEvent]

theorem frameWrite_entry (config : SyncDomainConfig S E P) (entry : ScopeEntry S)
    (frame : SyncFrame E) :
    (acceptsFrame config entry frame = true ∧ epochMismatch entry frame.epoch = false ∧
      (frameWrite config entry frame).entry =
        { acceptEvent config frame.scopeId entry frame.seq frame.event with
          epoch := if entry.appliedSeq = none ∧ entry.epoch = none then frame.epoch
            else entry.epoch }) ∨
    (acceptsFrame config entry frame = false ∧
      ∃ pending, (frameWrite config entry frame).entry =
        { entry with repairPending := pending }) := by
  apply frameWrite_cases (motive := fun write =>
    (acceptsFrame config entry frame = true ∧ epochMismatch entry frame.epoch = false ∧
      write.entry =
        { acceptEvent config frame.scopeId entry frame.seq frame.event with
          epoch := if entry.appliedSeq = none ∧ entry.epoch = none then frame.epoch
            else entry.epoch }) ∨
    (acceptsFrame config entry frame = false ∧
      ∃ pending, write.entry = { entry with repairPending := pending }))
  case mismatched =>
    intro hepoch
    exact Or.inr ⟨by simp [acceptsFrame, hepoch], true, rfl⟩
  case unbased =>
    intro _ hnone hdensity
    exact Or.inr ⟨by simp [acceptsFrame, hnone, hdensity], true, rfl⟩
  case adopted =>
    intro hepoch hnone hdensity
    exact Or.inl ⟨by simp [acceptsFrame, hepoch, hnone, hdensity], hepoch, by simp [hnone]⟩
  case regressed =>
    intro _ appliedSeq happlied hlt
    refine Or.inr ⟨?_, entry.repairPending, rfl⟩
    cases hdensity : config.density <;> simp [acceptsFrame, happlied, hdensity] <;> omega
  case replayed =>
    intro _ happlied _
    refine Or.inr ⟨?_, entry.repairPending, rfl⟩
    cases hdensity : config.density <;> simp [acceptsFrame, happlied, hdensity]
  case conflicted =>
    intro _ happlied _ _ _
    refine Or.inr ⟨?_, true, rfl⟩
    cases hdensity : config.density <;> simp [acceptsFrame, happlied, hdensity]
  case advanced =>
    intro hepoch appliedSeq happlied hlt hdensity
    exact Or.inl ⟨by simp [acceptsFrame, hepoch, happlied, hdensity, hlt], hepoch,
      by simp [happlied, acceptEvent]⟩
  case succeeded =>
    intro hepoch appliedSeq happlied hnext hdensity
    exact Or.inl ⟨by simp [acceptsFrame, hepoch, happlied, hdensity, hnext], hepoch,
      by simp [happlied, acceptEvent]⟩
  case gapped =>
    intro _ appliedSeq happlied hgap hdensity
    refine Or.inr ⟨?_, true, rfl⟩
    simp only [acceptsFrame, happlied, hdensity, Bool.and_eq_false_iff, decide_eq_false_iff_not]
    exact Or.inr (ne_of_gt hgap)

theorem differenceWrite_entry (config : SyncDomainConfig S E P) (entry : ScopeEntry S)
    (response : SyncDifferenceResponse E) :
    (acceptsDifference entry response = true ∧
      ∃ pending, (differenceWrite config entry response).entry =
        { (applyDifference config entry response).2 with repairPending := pending }) ∨
    (acceptsDifference entry response = false ∧
      ∃ pending, (differenceWrite config entry response).entry =
        { entry with repairPending := pending }) := by
  apply differenceWrite_cases (motive := fun write =>
    (acceptsDifference entry response = true ∧
      ∃ pending, write.entry =
        { (applyDifference config entry response).2 with repairPending := pending }) ∨
    (acceptsDifference entry response = false ∧
      ∃ pending, write.entry = { entry with repairPending := pending }))
  case mismatched =>
    intro hepoch
    exact Or.inr ⟨by simp [acceptsDifference, hepoch], entry.repairPending, rfl⟩
  case refused =>
    intro _ hrequired
    exact Or.inr ⟨by simp [acceptsDifference, hrequired], true, rfl⟩
  case sliced =>
    intro haccepts _
    exact Or.inl ⟨haccepts, (applyDifference config entry response).2.repairPending, rfl⟩
  case completed =>
    intro haccepts _
    exact Or.inl ⟨haccepts, false, rfl⟩

theorem snapshotWrite_entry (config : SyncDomainConfig S E P) (entry : ScopeEntry S)
    (snapshot : SyncSnapshot P) :
    (staleSnapshot config entry snapshot = false ∧
      (snapshotWrite config entry snapshot).entry = baselineEntry config snapshot) ∨
    (staleSnapshot config entry snapshot = true ∧
      (snapshotWrite config entry snapshot).entry = entry) := by
  apply snapshotWrite_cases (motive := fun write =>
    (staleSnapshot config entry snapshot = false ∧ write.entry = baselineEntry config snapshot) ∨
    (staleSnapshot config entry snapshot = true ∧ write.entry = entry))
  case dropped => exact fun hstale => Or.inr ⟨hstale, rfl⟩
  case accepted => exact fun hstale => Or.inl ⟨hstale, rfl⟩

end Folded

end Raft.Sync
