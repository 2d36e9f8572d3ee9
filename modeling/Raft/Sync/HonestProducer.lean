import Raft.Sync.PrefixExactness

/-!
# Conflict verdicts against an honest producer

A frame at the watermark is a conflict unless its fingerprint is the accepted
one.  Frames and pages of one log leave the fingerprint of the entry they stop
at; a snapshot and the jump to `toSeq` leave none, and then the next honest
frame at the watermark is taken for a conflict.
-/

namespace Raft.Sync

open Raft.Foundation

variable {S E P : Type}

/-- Frames and page items are entries of the log; snapshots are not restricted. -/
def TakenFromLog (log : Nat → E) (_ : ScopeEntry S) : SyncHarnessInput E P → Prop
  | .frame _ frame => ∃ n : Nat, frame.seq = n ∧ frame.event = log n
  | .snapshot _ _ => True
  | .difference _ response =>
      ∀ item ∈ response.events, ∃ n : Nat, item = ⟨n, log n⟩

def FindsFingerprint (config : SyncDomainConfig S E P) (entry : ScopeEntry S) :
    SyncHarnessInput E P → Prop
  | .frame _ frame =>
      epochMismatch entry frame.epoch = false → entry.appliedSeq = some frame.seq →
        config.eventFingerprint ≠ none → entry.acceptedFingerprint ≠ none
  | .snapshot _ _ | .difference _ _ => True

instance (config : SyncDomainConfig S E P) (entry : ScopeEntry S)
    (input : SyncHarnessInput E P) : Decidable (FindsFingerprint config entry input) :=
  match input with
  | .frame _ frame =>
      have : Decidable (config.eventFingerprint ≠ none) :=
        decidable_of_iff (config.eventFingerprint.isSome = true) (by
          cases config.eventFingerprint <;> simp)
      inferInstanceAs (Decidable
        (epochMismatch entry frame.epoch = false → entry.appliedSeq = some frame.seq →
          config.eventFingerprint ≠ none → entry.acceptedFingerprint ≠ none))
  | .snapshot _ _ | .difference _ _ => isTrue trivial

def FingerprintOfLog (config : SyncDomainConfig S E P) (log : Nat → E) (entry : ScopeEntry S) :
    Prop :=
  ∀ accepted, entry.acceptedFingerprint = some accepted →
    ∃ (fingerprint : E → JsString) (n : Nat), config.eventFingerprint = some fingerprint ∧
      entry.appliedSeq = some (n : Int) ∧ accepted = fingerprint (log n)

section

variable {config : SyncDomainConfig S E P} {scopeId : SyncScopeId} {log : Nat → E}
  {entry : ScopeEntry S} {core : SyncCore S E P} {inputs : List (SyncHarnessInput E P)}

/-! ## The fingerprint along a run -/

theorem fingerprintOfLog_acceptEvent (scopeId : SyncScopeId) (entry : ScopeEntry S) (n : Nat) :
    FingerprintOfLog config log (acceptEvent config scopeId entry n (log n)) := by
  intro accepted haccepted
  obtain ⟨fingerprint, hfingerprint, rfl⟩ := Option.map_eq_some_iff.mp haccepted
  exact ⟨fingerprint, n, hfingerprint, rfl, rfl⟩

theorem fingerprintOfLog_foldl {items : List (SyncDifferenceItem E)}
    (h : FingerprintOfLog config log entry)
    (hitems : ∀ item ∈ items, ∃ n : Nat, item = ⟨n, log n⟩) :
    FingerprintOfLog config log
      (items.foldl (applyDifferenceItem config scopeId) entry) := by
  induction items generalizing entry with
  | nil => exact h
  | cons item items ih =>
      refine ih ?_ fun other hother => hitems other (List.mem_cons_of_mem _ hother)
      obtain ⟨n, rfl⟩ := hitems item List.mem_cons_self
      unfold applyDifferenceItem
      split
      · exact fingerprintOfLog_acceptEvent scopeId entry n
      · split
        · exact h
        · exact fingerprintOfLog_acceptEvent scopeId entry n

theorem fingerprintOfLog_jumpToSeq (h : FingerprintOfLog config log entry) (toSeq : Int) :
    FingerprintOfLog config log (jumpToSeq entry toSeq).2 := by
  unfold jumpToSeq
  split
  · exact fun accepted haccepted => absurd haccepted (by simp)
  · split
    · exact fun accepted haccepted => absurd haccepted (by simp)
    · exact h

theorem fingerprintOfLog_step {input : SyncHarnessInput E P}
    (h : FingerprintOfLog config log entry) (hinput : TakenFromLog log entry input) :
    FingerprintOfLog config log (input.write config entry).entry := by
  cases input with
  | frame name pushed =>
      simp only [SyncHarnessInput.write]
      rcases frameWrite_entry config entry pushed with
        ⟨-, -, hentry⟩ | ⟨-, pending, hentry⟩
      · obtain ⟨n, hseq, hevent⟩ := hinput
        rw [hentry, hseq, hevent]
        exact fingerprintOfLog_acceptEvent pushed.scopeId entry n
      · rw [hentry]
        exact h
  | snapshot name taken =>
      simp only [SyncHarnessInput.write]
      rcases snapshotWrite_entry config entry taken with
        ⟨-, hentry⟩ | ⟨-, hentry⟩
      · rw [hentry]
        exact fun accepted haccepted => absurd haccepted (by simp [baselineEntry])
      · rw [hentry]
        exact h
  | difference name response =>
      simp only [SyncHarnessInput.write]
      rcases differenceWrite_entry config entry response with
        ⟨-, pending, hentry⟩ | ⟨-, pending, hentry⟩
      · rw [hentry]
        exact fingerprintOfLog_jumpToSeq (fingerprintOfLog_foldl h fun item hitem =>
          hinput item (mem_sortBySeq.mp hitem)) response.toSeq
      · rw [hentry]
        exact h

theorem fingerprintOfLog_run (hfresh : Fresh core)
    (hdomain : core.domainOf config.name = .ok config)
    (hrun : ScopeAdmitted config scopeId (TakenFromLog log) core inputs) :
    FingerprintOfLog config log ((run step core inputs).scopeEntry config scopeId) := by
  refine scopeEntry_invariant (FingerprintOfLog config log) hdomain ?_ ?_ hrun
  · exact fun entry input _ h hinput => fingerprintOfLog_step h hinput
  · rw [hfresh.scopeEntry]
    exact fun accepted haccepted => absurd haccepted (by simp [SyncCore.initialEntry])

theorem accuses_eq_false_iff {input : SyncHarnessInput E P}
    (h : FingerprintOfLog config log entry) (hinput : TakenFromLog log entry input) :
    accuses config entry input = false ↔ FindsFingerprint config entry input := by
  cases input with
  | snapshot name taken | difference name response => simp [accuses, FindsFingerprint]
  | frame name pushed =>
      obtain ⟨n, hseq, hevent⟩ := hinput
      cases hfingerprint : config.eventFingerprint with
      | none => simp [accuses, FindsFingerprint, hfingerprint]
      | some fingerprint =>
          cases haccepted : entry.acceptedFingerprint with
          | none => simp [accuses, FindsFingerprint, hfingerprint, haccepted]
          | some accepted =>
              obtain ⟨fingerprint', m, hfingerprint', happlied, rfl⟩ := h accepted haccepted
              cases hfingerprint.symm.trans hfingerprint'
              simp only [accuses, FindsFingerprint, hfingerprint, haccepted, happlied, hseq,
                hevent, Option.some.injEq, Nat.cast_inj]
              by_cases hpos : m = n <;> simp [hpos]

/-! ## Verdicts -/

structure Verdict (scopeId : SyncScopeId) (accused : Bool) (write : IngestWrite S) : Prop where
  outcome_iff : (∃ kind, write.outcome = .violation scopeId kind) ↔ accused = true
  violation_iff : (∃ draft, write.violation = some draft ∧
    draft.kind = .producerVersionConflict) ↔ accused = true

theorem Verdict.clear {accused : Bool} {write : IngestWrite S} (haccused : accused = false)
    (houtcome : ∀ kind, write.outcome ≠ .violation scopeId kind)
    (hviolation : ∀ draft, write.violation = some draft →
      draft.kind ≠ .producerVersionConflict) : Verdict scopeId accused write := by
  subst haccused
  constructor
  · simpa using houtcome
  · simpa using hviolation

theorem verdict_frame (name : SyncDomainName) (frame : SyncFrame E) :
    Verdict frame.scopeId (accuses (P := P) config entry (.frame name frame))
      (frameWrite config entry frame) := by
  have hposition : ∀ appliedSeq, entry.appliedSeq = some appliedSeq → appliedSeq ≠ frame.seq →
      accuses (P := P) config entry (.frame name frame) = false := by
    intro appliedSeq happlied hne
    simp [accuses, happlied, hne]
  apply frameWrite_cases
    (motive := fun write =>
      Verdict frame.scopeId (accuses (P := P) config entry (.frame name frame)) write)
  case mismatched =>
    intro hepoch
    exact .clear (by simp [accuses, hepoch]) (by simp) (by rintro _ ⟨⟩; simp [frameDraft])
  case unbased | adopted =>
    intro _ hnone _
    exact .clear (by simp [accuses, hnone]) (by simp) (by simp)
  case regressed =>
    intro _ appliedSeq happlied hlt
    refine .clear (hposition appliedSeq happlied hlt.ne') (by simp) ?_
    intro draft hdraft
    obtain ⟨_, -, rfl⟩ := Option.map_eq_some_iff.mp hdraft
    simp [frameDraft]
  case replayed =>
    intro _ happlied hequal
    refine .clear ?_ (by simp) (by simp)
    cases hfingerprint : config.eventFingerprint with
    | none => simp [accuses, hfingerprint]
    | some fingerprint => simp [accuses, hfingerprint, hequal fingerprint hfingerprint]
  case conflicted =>
    intro hepoch happlied fingerprint hfingerprint hne
    have haccused : accuses (P := P) config entry (.frame name frame) = true := by
      simp [accuses, hepoch, happlied, hfingerprint, hne]
    exact ⟨iff_of_true ⟨_, rfl⟩ haccused, iff_of_true ⟨_, rfl, rfl⟩ haccused⟩
  case advanced =>
    intro _ appliedSeq happlied hlt _
    exact .clear (hposition appliedSeq happlied hlt.ne) (by simp) (by simp)
  case succeeded =>
    intro _ appliedSeq happlied hnext _
    exact .clear (hposition appliedSeq happlied (by omega)) (by simp) (by simp)
  case gapped =>
    intro _ appliedSeq happlied hgap _
    exact .clear (hposition appliedSeq happlied (by omega)) (by simp) (by simp)

theorem verdict_write (input : SyncHarnessInput E P) :
    Verdict input.scopeId (accuses config entry input) (input.write config entry) := by
  cases input with
  | frame name pushed => exact verdict_frame name pushed
  | snapshot name taken =>
      simp only [SyncHarnessInput.write]
      apply snapshotWrite_cases (motive := fun write => Verdict _ _ write)
      case dropped => exact fun _ => .clear rfl (by simp) (by rintro _ ⟨⟩; simp)
      case accepted => exact fun _ => .clear rfl (by simp) (by simp)
  | difference name response =>
      simp only [SyncHarnessInput.write]
      apply differenceWrite_cases (motive := fun write => Verdict _ _ write)
      case mismatched => exact fun _ => .clear rfl (by simp) (by rintro _ ⟨⟩; simp)
      case refused | sliced | completed => exact fun _ _ => .clear rfl (by simp) (by simp)

def NamesScope (config : SyncDomainConfig S E P) (scopeId : SyncScopeId)
    (write : IngestWrite S) : Prop :=
  ∀ draft, write.violation = some draft → draft.domain = config.name ∧ draft.scopeId = scopeId

theorem namesScope_write (input : SyncHarnessInput E P) :
    NamesScope config input.scopeId (input.write config entry) := by
  cases input with
  | frame name pushed =>
      simp only [SyncHarnessInput.write]
      apply frameWrite_cases (motive := NamesScope config pushed.scopeId)
      case mismatched =>
        rintro _ _ ⟨⟩
        exact ⟨rfl, rfl⟩
      case conflicted =>
        rintro _ _ _ _ _ _ ⟨⟩
        exact ⟨rfl, rfl⟩
      case regressed =>
        intro _ _ _ _ draft hdraft
        obtain ⟨_, -, rfl⟩ := Option.map_eq_some_iff.mp hdraft
        exact ⟨rfl, rfl⟩
      all_goals
        intros
        rintro _ ⟨⟩
  | snapshot name taken =>
      simp only [SyncHarnessInput.write]
      apply snapshotWrite_cases (motive := NamesScope config taken.scopeId)
      case dropped =>
        rintro _ _ ⟨⟩
        exact ⟨rfl, rfl⟩
      case accepted => rintro _ _ ⟨⟩
  | difference name response =>
      simp only [SyncHarnessInput.write]
      apply differenceWrite_cases (motive := NamesScope config response.scopeId)
      case mismatched =>
        rintro _ _ ⟨⟩
        exact ⟨rfl, rfl⟩
      case refused | sliced | completed => rintro _ _ _ ⟨⟩

end

/-- No call of the run returns a violation verdict for the scope, and no conflict record of the
scope is ever retained. -/
structure NeverAccused (config : SyncDomainConfig S E P) (scopeId : SyncScopeId)
    (core : SyncCore S E P) (inputs : List (SyncHarnessInput E P)) : Prop where
  outcomes : ∀ before next, before ++ [next] <+: inputs →
    next.Addresses config.name scopeId →
    ∀ outcome after, ingestSyncHarnessInput (run step core before) next = .ok (outcome, after) →
      ∀ kind, outcome ≠ .violation scopeId kind
  records : ∀ before, before <+: inputs →
    ∀ record ∈ (run step core before).violations.records,
      ¬(record.kind = .producerVersionConflict ∧ record.domain = config.name ∧
        record.scopeId = scopeId)

section

variable {config : SyncDomainConfig S E P} {scopeId : SyncScopeId} {log : Nat → E}
  {core : SyncCore S E P} {inputs : List (SyncHarnessInput E P)}

theorem mem_records_step {input : SyncHarnessInput E P} {record : SyncViolationRecord}
    (h : record ∈ (step core input).violations.records) :
    record ∈ core.violations.records ∨
      ∃ called draft, core.domainOf input.domain = .ok called ∧ called.name = input.domain ∧
        (input.write called (core.scopeEntry called input.scopeId)).violation = some draft ∧
        record.toSyncViolationDraft = draft := by
  rcases step_cases core input with hstep | ⟨called, hcalled, hname, hstep⟩
  · rw [hstep] at h
    exact Or.inl h
  · rw [hstep] at h
    simp only [SyncCore.commit] at h
    cases hviolation :
        (input.write called (core.scopeEntry called input.scopeId)).violation with
    | none =>
        rw [hviolation] at h
        exact Or.inl h
    | some draft =>
        rw [hviolation] at h
        rcases SyncViolationBuffer.mem_push_iff core.violations draft record h with hold | hnew
        · exact Or.inl hold
        · exact Or.inr ⟨called, draft, hcalled, hname, hviolation, by rw [hnew]; rfl⟩

theorem neverAccused_of_forall (hfresh : Fresh core)
    (hdomain : core.domainOf config.name = .ok config)
    (hclear : ScopeAdmitted config scopeId
      (fun entry input => accuses config entry input = false) core inputs) :
    NeverAccused config scopeId core inputs := by
  constructor
  · intro before next hstart haddress outcome after hingest kind houtcome
    have haccused := admitted_iff_forall_step.mp hclear before next hstart haddress
    have hcalled : (run step core before).domainOf next.domain = .ok config := by
      rw [run_domainOf, haddress.1, hdomain]
    rw [ingest_of_domainOf hcalled, haddress.2] at hingest
    simp only [Except.ok.injEq, Prod.mk.injEq] at hingest
    rw [← haddress.2] at houtcome
    have hverdict := (verdict_write next).outcome_iff.mp ⟨kind, hingest.1.trans houtcome⟩
    rw [haccused] at hverdict
    cases hverdict
  · intro before hstart
    have hrun := hclear.of_initial hstart
    induction before using List.reverseRecOn with
    | nil =>
        rw [run_nil, hfresh.records]
        exact fun record hrecord => absurd hrecord (List.not_mem_nil)
    | append_singleton before last ih =>
        obtain ⟨hbefore, hlast⟩ := admitted_concat.mp hrun
        rintro record hrecord ⟨hkind, hname, hscope⟩
        rw [run_concat] at hrecord
        rcases mem_records_step hrecord with hold | ⟨called, draft, hcalled, hcalledName, hdraft,
          heq⟩
        · exact ih ((List.prefix_append _ _).trans hstart) hbefore record hold
            ⟨hkind, hname, hscope⟩
        · obtain ⟨hdraftName, hdraftScope⟩ := namesScope_write last draft hdraft
          have haddress : last.Addresses config.name scopeId := by
            refine ⟨?_, ?_⟩
            · rw [← hname, ← hcalledName, ← hdraftName, ← heq]
            · rw [← hscope, ← hdraftScope, ← heq]
          rw [run_domainOf, haddress.1, hdomain] at hcalled
          cases hcalled
          rw [haddress.2] at hdraft
          have hverdict := (verdict_write last).violation_iff.mp
            ⟨draft, hdraft, by rw [← heq, hkind]⟩
          rw [hlast haddress] at hverdict
          cases hverdict

/-- An honest producer is never accused exactly when every frame at the watermark finds an
accepted fingerprint to be compared with. -/
theorem honest_producer_iff (log : Nat → E) (hfresh : Fresh core)
    (hdomain : core.domainOf config.name = .ok config)
    (hhonest : ScopeAdmitted config scopeId (TakenFromLog log) core inputs) :
    NeverAccused config scopeId core inputs ↔
      ScopeAdmitted config scopeId (FindsFingerprint config) core inputs := by
  have hverdict : ∀ before next, before ++ [next] <+: inputs →
      next.Addresses config.name scopeId →
      (accuses config ((run step core before).scopeEntry config scopeId) next = false ↔
        FindsFingerprint config ((run step core before).scopeEntry config scopeId) next) := by
    intro before next hstart haddress
    have hbefore := fingerprintOfLog_run hfresh hdomain
      (hhonest.of_initial ((List.prefix_append before [next]).trans hstart))
    exact accuses_eq_false_iff hbefore
      (admitted_iff_forall_step.mp hhonest before next hstart haddress)
  constructor
  · intro hclear
    refine admitted_iff_forall_step.mpr fun before next hstart haddress => ?_
    refine (hverdict before next hstart haddress).mp ?_
    by_contra haccused
    have haccused : accuses config ((run step core before).scopeEntry config scopeId) next =
        true := by simpa using haccused
    have hcalled : (run step core before).domainOf next.domain = .ok config := by
      rw [run_domainOf, haddress.1, hdomain]
    have hingest := ingest_of_domainOf hcalled
    rw [haddress.2] at hingest
    obtain ⟨kind, houtcome⟩ := (verdict_write next).outcome_iff.mpr haccused
    rw [haddress.2] at houtcome
    exact hclear.outcomes before next hstart haddress _ _ hingest kind houtcome
  · intro hfinds
    apply neverAccused_of_forall hfresh hdomain
    refine admitted_iff_forall_step.mpr fun before next hstart haddress => ?_
    exact (hverdict before next hstart haddress).mpr
      (admitted_iff_forall_step.mp hfinds before next hstart haddress)

end

def replayedFrame : List (SyncHarnessInput JsString LogState) :=
  [.snapshot (js "facts") ⟨js "s", 0, some (js "e1"), []⟩,
    .frame (js "facts") ⟨js "s", 1, some (js "e1"), decimalText 1⟩,
    .frame (js "facts") ⟨js "s", 1, some (js "e1"), decimalText 1⟩]

theorem takenFromLog_replayedFrame :
    ScopeAdmitted (fingerprintedLogDomain (js "facts") .contiguous) (js "s")
      (TakenFromLog decimalText)
      (soleDomainCore (fingerprintedLogDomain (js "facts") .contiguous)) replayedFrame :=
  ⟨fun _ => trivial, fun _ => ⟨1, rfl, rfl⟩, fun _ => ⟨1, rfl, rfl⟩, trivial⟩

theorem honest_producer_iff_replayedFrame :
    NeverAccused (fingerprintedLogDomain (js "facts") .contiguous) (js "s")
      (soleDomainCore (fingerprintedLogDomain (js "facts") .contiguous)) replayedFrame :=
  (honest_producer_iff decimalText (fresh_soleDomainCore _) (domainOf_soleDomainCore _)
    takenFromLog_replayedFrame).mpr
    ⟨fun _ => trivial, fun _ => by decide, fun _ => by decide, trivial⟩

/-- The frame that a snapshot already covers arrives late and is taken for a conflict. -/
theorem late_frame_accused :
    ¬∀ inputs : List (SyncHarnessInput JsString LogState),
      RunsFromLog (fingerprintedLogDomain (js "facts") .contiguous) (js "s") decimalText
        (some (js "e1")) (soleDomainCore (fingerprintedLogDomain (js "facts") .contiguous))
        inputs →
      NeverAccused (fingerprintedLogDomain (js "facts") .contiguous) (js "s")
        (soleDomainCore (fingerprintedLogDomain (js "facts") .contiguous)) inputs := by
  intro hclaim
  have hclear := (hclaim
    [.snapshot (js "facts") ⟨js "s", 1, some (js "e1"), [(1, decimalText 1)]⟩,
      .frame (js "facts") ⟨js "s", 1, some (js "e1"), decimalText 1⟩]
    ⟨fun _ => ⟨rfl, 1, rfl, rfl⟩, fun _ => ⟨rfl, 1, le_refl _, rfl, rfl⟩, trivial⟩).outcomes
    [.snapshot (js "facts") ⟨js "s", 1, some (js "e1"), [(1, decimalText 1)]⟩]
    (.frame (js "facts") ⟨js "s", 1, some (js "e1"), decimalText 1⟩)
    (List.prefix_refl _) ⟨rfl, rfl⟩ _ _ rfl .producerVersionConflict
  revert hclear
  decide

end Raft.Sync
