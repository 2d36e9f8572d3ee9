import Raft.Foundation.Run
import Raft.Sync.Core

/-!
# Histories of one core

A history is a list of ingest calls fed to a fresh core.  Every call addresses
one (domain, scope) pair and its decision reads the entry of that pair only, so
a property of one entry is carried through a history by a step lemma about the
decision functions alone.
-/

namespace Raft.Sync

open Raft.Foundation

variable {S E P : Type}

inductive SyncHarnessInput (E P : Type) where
  | frame (domain : SyncDomainName) (frame : SyncFrame E)
  | snapshot (domain : SyncDomainName) (snapshot : SyncSnapshot P)
  | difference (domain : SyncDomainName) (response : SyncDifferenceResponse E)

namespace SyncHarnessInput

def domain : SyncHarnessInput E P → SyncDomainName
  | .frame domain _ | .snapshot domain _ | .difference domain _ => domain

def scopeId : SyncHarnessInput E P → SyncScopeId
  | .frame _ pushed => pushed.scopeId
  | .snapshot _ taken => taken.scopeId
  | .difference _ response => response.scopeId

def epoch : SyncHarnessInput E P → Option SyncEpoch
  | .frame _ pushed => pushed.epoch
  | .snapshot _ taken => taken.epoch
  | .difference _ response => response.epoch

def write (config : SyncDomainConfig S E P) (entry : ScopeEntry S) :
    SyncHarnessInput E P → IngestWrite S
  | .frame _ pushed => frameWrite config entry pushed
  | .snapshot _ taken => snapshotWrite config entry taken
  | .difference _ response => differenceWrite config entry response

def Addresses (input : SyncHarnessInput E P) (domain : SyncDomainName) (scopeId : SyncScopeId) :
    Prop :=
  input.domain = domain ∧ input.scopeId = scopeId

instance (input : SyncHarnessInput E P) (domain : SyncDomainName) (scopeId : SyncScopeId) :
    Decidable (input.Addresses domain scopeId) :=
  inferInstanceAs (Decidable (_ ∧ _))

end SyncHarnessInput

def ingestSyncHarnessInput (core : SyncCore S E P) :
    SyncHarnessInput E P → Except JsString (SyncIngestOutcome × SyncCore S E P)
  | .frame domain frame => core.ingestFrame domain frame
  | .snapshot domain snapshot => core.ingestSnapshot domain snapshot
  | .difference domain response => core.ingestDifference domain response

/-- The core after one call; a call that throws leaves it as it was. -/
def step (core : SyncCore S E P) (input : SyncHarnessInput E P) : SyncCore S E P :=
  match ingestSyncHarnessInput core input with
  | .ok (_, next) => next
  | .error _ => core

theorem ingestSyncHarnessInput_eq (core : SyncCore S E P) (input : SyncHarnessInput E P) :
    ingestSyncHarnessInput core input =
      core.ingestWith input.domain input.scopeId fun config entry => input.write config entry := by
  cases input <;> rfl

/-! ## One step -/

section Step

variable {core : SyncCore S E P} {config : SyncDomainConfig S E P}
  {input : SyncHarnessInput E P}

theorem ingest_of_domainOf (h : core.domainOf input.domain = .ok config) :
    ingestSyncHarnessInput core input =
      .ok ((input.write config (core.scopeEntry config input.scopeId)).outcome,
        core.commit input.domain input.scopeId
          (input.write config (core.scopeEntry config input.scopeId))) := by
  rw [ingestSyncHarnessInput_eq, SyncCore.ingestWith, h]
  rfl

theorem step_of_domainOf (h : core.domainOf input.domain = .ok config) :
    step core input =
      core.commit input.domain input.scopeId
        (input.write config (core.scopeEntry config input.scopeId)) := by
  rw [step, ingest_of_domainOf h]

theorem step_of_error {message : JsString} (h : core.domainOf input.domain = .error message) :
    step core input = core := by
  rw [step, ingestSyncHarnessInput_eq, SyncCore.ingestWith, h]
  rfl

theorem name_of_domainOf {name : SyncDomainName} (h : core.domainOf name = .ok config) :
    config.name = name := by
  apply core.registered
  unfold SyncCore.domainOf at h
  split at h
  · cases h
  · rename_i found hfound
    cases h
    exact hfound

/-- Every step either throws or commits the writes of a registered domain. -/
theorem step_cases (core : SyncCore S E P) (input : SyncHarnessInput E P) :
    step core input = core ∨
      ∃ config, core.domainOf input.domain = .ok config ∧ config.name = input.domain ∧
        step core input =
          core.commit input.domain input.scopeId
            (input.write config (core.scopeEntry config input.scopeId)) := by
  cases hdomain : core.domainOf input.domain with
  | error message => exact Or.inl (step_of_error hdomain)
  | ok config => exact Or.inr ⟨config, rfl, name_of_domainOf hdomain, step_of_domainOf hdomain⟩

@[simp] theorem commit_domains (domainName : SyncDomainName) (scopeId : SyncScopeId)
    (write : IngestWrite S) : (core.commit domainName scopeId write).domains = core.domains := rfl

theorem step_domains (core : SyncCore S E P) (input : SyncHarnessInput E P) :
    (step core input).domains = core.domains := by
  rcases step_cases core input with h | ⟨_, -, -, h⟩
  · rw [h]
  · rw [h, commit_domains]

theorem step_domainOf (core : SyncCore S E P) (input : SyncHarnessInput E P)
    (name : SyncDomainName) : (step core input).domainOf name = core.domainOf name := by
  unfold SyncCore.domainOf
  rw [step_domains]

theorem step_scopes_of_not_addresses {domain : SyncDomainName} {scopeId : SyncScopeId}
    (h : ¬input.Addresses domain scopeId) :
    (step core input).scopes domain scopeId = core.scopes domain scopeId := by
  rcases step_cases core input with hstep | ⟨_, -, -, hstep⟩
  · rw [hstep]
  · rw [hstep]
    refine if_neg ?_
    rintro ⟨rfl, rfl⟩
    exact h ⟨rfl, rfl⟩

theorem step_scopes_of_addresses {scopeId : SyncScopeId}
    (hdomain : core.domainOf config.name = .ok config)
    (h : input.Addresses config.name scopeId) :
    (step core input).scopes config.name scopeId =
      some (input.write config (core.scopeEntry config scopeId)).entry := by
  obtain ⟨hname, rfl⟩ := h
  rw [← hname] at hdomain
  rw [step_of_domainOf hdomain]
  exact if_pos ⟨hname.symm, rfl⟩

theorem step_scopeEntry_of_not_addresses {scopeId : SyncScopeId}
    (h : ¬input.Addresses config.name scopeId) :
    (step core input).scopeEntry config scopeId = core.scopeEntry config scopeId := by
  rw [SyncCore.scopeEntry, step_scopes_of_not_addresses h, SyncCore.scopeEntry]

theorem step_scopeEntry_of_addresses {scopeId : SyncScopeId}
    (hdomain : core.domainOf config.name = .ok config)
    (h : input.Addresses config.name scopeId) :
    (step core input).scopeEntry config scopeId =
      (input.write config (core.scopeEntry config scopeId)).entry := by
  rw [SyncCore.scopeEntry, step_scopes_of_addresses hdomain h, Option.getD_some]

end Step

/-! ## Histories -/

def Fresh (core : SyncCore S E P) : Prop :=
  ∃ config : CreateSyncCoreOptions S E P, createSyncCore config = .ok core

theorem Fresh.fields {core : SyncCore S E P} (h : Fresh core) :
    core.scopes = (fun _ _ => none) ∧ core.pending = InsertionMap.empty ∧
      core.violations.records = [] := by
  obtain ⟨options, hcreate⟩ := h
  unfold createSyncCore at hcreate
  cases hbuffer : createSyncViolationBuffer (some (options.violationBufferCapacity.getD 256)) with
  | error message =>
      rw [hbuffer] at hcreate
      cases hcreate
  | ok buffer =>
      rw [hbuffer] at hcreate
      cases hcreate
      exact ⟨rfl, rfl, createSyncViolationBuffer_records hbuffer⟩

theorem Fresh.scopes {core : SyncCore S E P} (h : Fresh core) (domain : SyncDomainName)
    (scopeId : SyncScopeId) : core.scopes domain scopeId = none := by
  rw [h.fields.1]

theorem Fresh.pending {core : SyncCore S E P} (h : Fresh core) :
    core.pending = InsertionMap.empty :=
  h.fields.2.1

theorem Fresh.records {core : SyncCore S E P} (h : Fresh core) :
    core.violations.records = [] :=
  h.fields.2.2

theorem Fresh.scopeEntry {core : SyncCore S E P} (h : Fresh core)
    (config : SyncDomainConfig S E P) (scopeId : SyncScopeId) :
    core.scopeEntry config scopeId = SyncCore.initialEntry config := by
  rw [SyncCore.scopeEntry, h.scopes, Option.getD_none]

def coreOfDomains (domains : List (SyncDomainConfig S E P)) : SyncCore S E P where
  domains := registerDomains domains
  scopes := fun _ _ => none
  violations :=
    { capacity := 256
      records := []
      nextIndex := 0
      capacity_pos := by decide
      length_le := by decide
      indexes := indexes_nil
      length_le_nextIndex := by decide }
  pending := InsertionMap.empty
  registered := registerDomains_name domains

theorem fresh_coreOfDomains (domains : List (SyncDomainConfig S E P)) :
    Fresh (coreOfDomains domains) :=
  ⟨{ domains := domains }, rfl⟩

def soleDomainCore (config : SyncDomainConfig S E P) : SyncCore S E P := coreOfDomains [config]

theorem fresh_soleDomainCore (config : SyncDomainConfig S E P) : Fresh (soleDomainCore config) :=
  fresh_coreOfDomains [config]

theorem domainOf_soleDomainCore (config : SyncDomainConfig S E P) :
    (soleDomainCore config).domainOf config.name = .ok config := by
  have hget : (soleDomainCore config).domains.get config.name = some config := by
    simp [soleDomainCore, coreOfDomains, registerDomains]
  unfold SyncCore.domainOf
  rw [hget]

/-! The toy log domains of the core's own tests: the state lists the applied events. -/

abbrev LogState := List (Int × JsString)

def logDomain (name : SyncDomainName) (density : SyncDensity) :
    SyncDomainConfig LogState JsString LogState where
  name := name
  density := density
  initialState := []
  eventFingerprint := none
  fold := fun entries tag frame => entries ++ [(frame.seq, tag)]
  fromSnapshot := fun snapshot => snapshot.state
  acceptSameWatermarkSnapshot := none

def fingerprintedLogDomain (name : SyncDomainName) (density : SyncDensity) :
    SyncDomainConfig LogState JsString LogState :=
  { logDomain name density with eventFingerprint := some id }

theorem run_domainOf (core : SyncCore S E P) (inputs : List (SyncHarnessInput E P))
    (name : SyncDomainName) : (run step core inputs).domainOf name = core.domainOf name := by
  induction inputs generalizing core with
  | nil => rfl
  | cons input inputs ih => rw [run_cons, ih, step_domainOf]

def ScopeGuard (config : SyncDomainConfig S E P) (scopeId : SyncScopeId)
    (guard : ScopeEntry S → SyncHarnessInput E P → Prop) (core : SyncCore S E P)
    (input : SyncHarnessInput E P) : Prop :=
  input.Addresses config.name scopeId → guard (core.scopeEntry config scopeId) input

abbrev ScopeAdmitted (config : SyncDomainConfig S E P) (scopeId : SyncScopeId)
    (guard : ScopeEntry S → SyncHarnessInput E P → Prop) (core : SyncCore S E P)
    (inputs : List (SyncHarnessInput E P)) : Prop :=
  Admitted step (ScopeGuard config scopeId guard) core inputs

section Histories

variable {core : SyncCore S E P} {config : SyncDomainConfig S E P} {scopeId : SyncScopeId}
  {guard : ScopeEntry S → SyncHarnessInput E P → Prop} {inputs : List (SyncHarnessInput E P)}

theorem scopeEntry_invariant (Inv : ScopeEntry S → Prop)
    (hdomain : core.domainOf config.name = .ok config)
    (hstep : ∀ entry (input : SyncHarnessInput E P), input.Addresses config.name scopeId →
      Inv entry → guard entry input → Inv (input.write config entry).entry)
    (hinit : Inv (core.scopeEntry config scopeId))
    (hrun : ScopeAdmitted config scopeId guard core inputs) :
    Inv ((run step core inputs).scopeEntry config scopeId) := by
  refine (Admitted.invariant
    (fun core => core.domainOf config.name = .ok config ∧
      Inv (core.scopeEntry config scopeId)) ?_ ⟨hdomain, hinit⟩ hrun).2
  rintro core input ⟨hregistered, hinv⟩ hguard
  refine ⟨by rw [step_domainOf, hregistered], ?_⟩
  by_cases haddress : input.Addresses config.name scopeId
  · rw [step_scopeEntry_of_addresses hregistered haddress]
    exact hstep _ _ haddress hinv (hguard haddress)
  · rw [step_scopeEntry_of_not_addresses haddress]
    exact hinv

theorem scopeEntry_chain (Inv : ScopeEntry S → Prop) (R : ScopeEntry S → ScopeEntry S → Prop)
    (hdomain : core.domainOf config.name = .ok config)
    (hrefl : ∀ entry, R entry entry)
    (htrans : ∀ {first second third}, R first second → R second third → R first third)
    (hstep : ∀ entry (input : SyncHarnessInput E P), input.Addresses config.name scopeId →
      Inv entry → guard entry input →
      Inv (input.write config entry).entry ∧ R entry (input.write config entry).entry)
    (hinit : Inv (core.scopeEntry config scopeId))
    (hrun : ScopeAdmitted config scopeId guard core inputs) :
    R (core.scopeEntry config scopeId) ((run step core inputs).scopeEntry config scopeId) := by
  refine Admitted.chain
    (fun core => core.domainOf config.name = .ok config ∧ Inv (core.scopeEntry config scopeId))
    (fun first second =>
      R (first.scopeEntry config scopeId) (second.scopeEntry config scopeId))
    (fun core => hrefl _) htrans ?_ ⟨hdomain, hinit⟩ hrun
  rintro core input ⟨hregistered, hinv⟩ hguard
  by_cases haddress : input.Addresses config.name scopeId
  · obtain ⟨hnext, hrel⟩ := hstep _ _ haddress hinv (hguard haddress)
    rw [step_scopeEntry_of_addresses hregistered haddress]
    exact ⟨⟨by rw [step_domainOf, hregistered], hnext⟩, hrel⟩
  · rw [step_scopeEntry_of_not_addresses haddress]
    exact ⟨⟨by rw [step_domainOf, hregistered], hinv⟩, hrefl _⟩

end Histories

/-! ## Ghosts of one scope -/

section Ghost

variable {γ : Type} {config : SyncDomainConfig S E P} {scopeId : SyncScopeId}
  {observe : ScopeEntry S → γ → SyncHarnessInput E P → γ} {core : SyncCore S E P} {ghost : γ}
  {guard : ScopeEntry S → SyncHarnessInput E P → Prop} {inputs : List (SyncHarnessInput E P)}

def observeScope (config : SyncDomainConfig S E P) (scopeId : SyncScopeId)
    (observe : ScopeEntry S → γ → SyncHarnessInput E P → γ) (core : SyncCore S E P) (ghost : γ)
    (input : SyncHarnessInput E P) : γ :=
  if input.Addresses config.name scopeId then
    observe (core.scopeEntry config scopeId) ghost input
  else ghost

def ghostAfter (config : SyncDomainConfig S E P) (scopeId : SyncScopeId)
    (observe : ScopeEntry S → γ → SyncHarnessInput E P → γ) (core : SyncCore S E P) (ghost : γ)
    (inputs : List (SyncHarnessInput E P)) : γ :=
  (run (instrument step (observeScope config scopeId observe)) (core, ghost) inputs).2

theorem ghostAfter_append (before after : List (SyncHarnessInput E P)) :
    ghostAfter config scopeId observe core ghost (before ++ after) =
      ghostAfter config scopeId observe (run step core before)
        (ghostAfter config scopeId observe core ghost before) after := by
  have hcore : (run (instrument step (observeScope config scopeId observe)) (core, ghost)
      before).1 = run step core before := run_instrument_fst _ _ _
  unfold ghostAfter
  rw [run_append, ← hcore]

theorem ghostAfter_invariant (Inv : ScopeEntry S → γ → Prop)
    (hdomain : core.domainOf config.name = .ok config)
    (hstep : ∀ entry ghost (input : SyncHarnessInput E P), input.Addresses config.name scopeId →
      Inv entry ghost → guard entry input →
      Inv (input.write config entry).entry (observe entry ghost input))
    (hinit : Inv (core.scopeEntry config scopeId) ghost)
    (hrun : ScopeAdmitted config scopeId guard core inputs) :
    Inv ((run step core inputs).scopeEntry config scopeId)
      (ghostAfter config scopeId observe core ghost inputs) := by
  have hjoint : Admitted (instrument step (observeScope config scopeId observe))
      (fun state => ScopeGuard config scopeId guard state.1) (core, ghost) inputs :=
    admitted_instrument.mpr hrun
  have hboth := (hjoint.invariant
    (fun state => state.1.domainOf config.name = .ok config ∧
      Inv (state.1.scopeEntry config scopeId) state.2)
    ?_ ⟨hdomain, hinit⟩).2
  · rwa [run_instrument_fst] at hboth
  rintro ⟨core, ghost⟩ input ⟨hregistered, hinv⟩ hguard
  refine ⟨by rw [instrument, step_domainOf, hregistered], ?_⟩
  simp only [instrument, observeScope]
  by_cases haddress : input.Addresses config.name scopeId
  · rw [if_pos haddress, step_scopeEntry_of_addresses hregistered haddress]
    exact hstep _ _ _ haddress hinv (hguard haddress)
  · rw [if_neg haddress, step_scopeEntry_of_not_addresses haddress]
    exact hinv

end Ghost

end Raft.Sync
