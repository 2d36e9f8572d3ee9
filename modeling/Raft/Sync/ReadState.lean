import Raft.Foundation.JsValue
import Raft.Foundation.MaxRegister
import Raft.Sync.Requests

/-!
# The read-state domain

A receiver-private register keyed by version: the fold keeps the fact of the
last accepted frame, and the sparse density accepts a frame exactly when its
version is greater than the accepted one.
-/

namespace Raft.Sync

open Raft.Foundation

def readStateDomainName : SyncDomainName := js "read_state"

structure ReadStateFact where
  serverId : JsString
  principalId : JsString
  scopeId : JsString
  maxReadSeq : Nat
  readStateVersion : Nat
  maxReadSeq_le : maxReadSeq ≤ maxSafeInteger
  readStateVersion_le : readStateVersion ≤ maxSafeInteger
  deriving DecidableEq

abbrev ReadStateDomainState := Option ReadStateFact

/-- `isNonNegativeSafeInteger`, with the integer it recognises. -/
def asNonNegativeSafeInteger : JsValue → Option { n : Nat // n ≤ maxSafeInteger }
  | .number (.finite value) =>
      if h : value.den = 1 ∧ 0 ≤ value.num ∧ value.num ≤ maxSafeInteger then
        some ⟨value.num.toNat, Int.toNat_le.mpr h.2.2⟩
      else none
  | .number .negativeZero => some ⟨0, Nat.zero_le _⟩
  | _ => none

def asNonEmptyString (value : JsValue) : Option JsString :=
  value.asString?.filter fun text => !text.isEmpty

def asReadStateFact : JsValue → Option ReadStateFact
  | .object fact => do
      let serverId ← asNonEmptyString (JsObject.read fact (js "serverId"))
      let principalId ← asNonEmptyString (JsObject.read fact (js "principalId"))
      let scopeId ← asNonEmptyString (JsObject.read fact (js "scopeId"))
      let maxReadSeq ← asNonNegativeSafeInteger (JsObject.read fact (js "maxReadSeq"))
      let readStateVersion ← asNonNegativeSafeInteger (JsObject.read fact (js "readStateVersion"))
      return ⟨serverId, principalId, scopeId, maxReadSeq, readStateVersion, maxReadSeq.2,
        readStateVersion.2⟩
  | _ => none

def encodeReadStateScopeId (fact : ReadStateFact) : SyncScopeId :=
  jsonArray [jsonQuote fact.serverId, jsonQuote fact.principalId, jsonQuote fact.scopeId]

def fingerprintReadStateFact (fact : ReadStateFact) : JsString :=
  jsonArray [jsonQuote fact.serverId, jsonQuote fact.principalId, jsonQuote fact.scopeId,
    decimalText fact.maxReadSeq, decimalText fact.readStateVersion]

def toReadStateFrame (fact : ReadStateFact) : SyncFrame ReadStateFact where
  scopeId := encodeReadStateScopeId fact
  seq := fact.readStateVersion
  epoch := none
  event := fact

def createReadStateDomain : SyncDomainConfig ReadStateDomainState ReadStateFact JsValue where
  name := readStateDomainName
  density := .sparse
  initialState := none
  eventFingerprint := some fingerprintReadStateFact
  fold := fun _ event _ => some event
  fromSnapshot := fun snapshot => asReadStateFact snapshot.state
  acceptSameWatermarkSnapshot := none

def readStateInput (fact : ReadStateFact) : SyncHarnessInput ReadStateFact JsValue :=
  .frame readStateDomainName (toReadStateFrame fact)

/-! ## The register of one scope -/

section

variable {core : SyncCore ReadStateDomainState ReadStateFact JsValue} {scopeId : SyncScopeId}
  {held : Option ReadStateFact}

def readStateEntry (fact : ReadStateFact) : ScopeEntry ReadStateDomainState where
  appliedSeq := some fact.readStateVersion
  acceptedFingerprint := some (fingerprintReadStateFact fact)
  epoch := none
  repairPending := false
  state := some fact

def heldEntry (held : Option ReadStateFact) : ScopeEntry ReadStateDomainState :=
  (held.map readStateEntry).getD (SyncCore.initialEntry createReadStateDomain)

/-- The core holds the register of one read-state scope and has asked for nothing. -/
structure HoldsRegister (core : SyncCore ReadStateDomainState ReadStateFact JsValue)
    (scopeId : SyncScopeId) (held : Option ReadStateFact) : Prop where
  registered : core.domainOf readStateDomainName = .ok createReadStateDomain
  scope : core.scopes readStateDomainName scopeId = held.map readStateEntry
  pending : core.pending = InsertionMap.empty

theorem frameWrite_heldEntry (fact : ReadStateFact)
    (hversion : ∀ old, held = some old → old.readStateVersion = fact.readStateVersion →
      old = fact) :
    some (frameWrite createReadStateDomain (heldEntry held) (toReadStateFrame fact)).entry =
        (offer ReadStateFact.readStateVersion held fact).map readStateEntry ∧
      (frameWrite createReadStateDomain (heldEntry held) (toReadStateFrame fact)).requests =
        [] := by
  cases held with
  | none => exact ⟨rfl, rfl⟩
  | some old =>
      rcases lt_trichotomy old.readStateVersion fact.readStateVersion with hlt | heq | hgt
      · have hseq : ¬(fact.readStateVersion : Int) < old.readStateVersion := by omega
        have hne : ¬(fact.readStateVersion : Int) = old.readStateVersion := by omega
        rw [offer_of_lt _ hlt]
        simp [frameWrite, heldEntry, readStateEntry, toReadStateFrame, createReadStateDomain,
          epochMismatch, acceptEvent, hseq, hne]
      · obtain rfl := hversion old rfl heq
        rw [offer_of_le _ (le_refl _)]
        simp [frameWrite, heldEntry, readStateEntry, toReadStateFrame, createReadStateDomain,
          epochMismatch]
      · have hseq : (fact.readStateVersion : Int) < old.readStateVersion := by omega
        rw [offer_of_le _ hgt.le]
        simp [frameWrite, heldEntry, readStateEntry, toReadStateFrame, createReadStateDomain,
          epochMismatch, hseq]

theorem HoldsRegister.step (h : HoldsRegister core scopeId held) {fact : ReadStateFact}
    (hscope : encodeReadStateScopeId fact = scopeId)
    (hversion : ∀ old, held = some old → old.readStateVersion = fact.readStateVersion →
      old = fact) :
    HoldsRegister (step core (readStateInput fact)) scopeId
      (offer ReadStateFact.readStateVersion held fact) := by
  subst hscope
  obtain ⟨hentry, hrequests⟩ := frameWrite_heldEntry fact hversion
  have hcalled : core.domainOf (readStateInput fact).domain = .ok createReadStateDomain :=
    h.registered
  have hheld : core.scopeEntry createReadStateDomain (encodeReadStateScopeId fact) =
      heldEntry held := by
    rw [SyncCore.scopeEntry, heldEntry, ← h.scope]
    rfl
  have haddress : (readStateInput fact).Addresses createReadStateDomain.name
      (encodeReadStateScopeId fact) := ⟨rfl, rfl⟩
  refine ⟨by rw [step_domainOf, h.registered], ?_, ?_⟩
  · rw [← hentry, ← hheld]
    exact step_scopes_of_addresses h.registered haddress
  · rw [step_pending_of_domainOf hcalled]
    change List.foldl _ _ (frameWrite createReadStateDomain
      (core.scopeEntry createReadStateDomain (encodeReadStateScopeId fact))
      (toReadStateFrame fact)).requests = _
    rw [hheld, hrequests, List.foldl_nil, h.pending]

theorem HoldsRegister.run (h : HoldsRegister core scopeId held) {arrivals : List ReadStateFact}
    (hscope : ∀ fact ∈ arrivals, encodeReadStateScopeId fact = scopeId)
    (hversions : ∀ fact ∈ held.toList ++ arrivals, ∀ other ∈ held.toList ++ arrivals,
      fact.readStateVersion = other.readStateVersion → fact = other) :
    HoldsRegister (run Sync.step core (arrivals.map readStateInput)) scopeId
      (offerAll ReadStateFact.readStateVersion held arrivals) := by
  induction arrivals generalizing core held with
  | nil => exact h
  | cons fact arrivals ih =>
      have hstep := h.step (hscope fact List.mem_cons_self) fun old hold =>
        hversions old (by simp [hold]) fact (by simp)
      refine ih hstep (fun other hother => hscope other (List.mem_cons_of_mem _ hother)) ?_
      obtain ⟨kept, hkept, hsource, -⟩ := offer_spec ReadStateFact.readStateVersion held fact
      have hsub : ∀ other, other ∈ (offer ReadStateFact.readStateVersion held fact).toList ++
          arrivals → other ∈ held.toList ++ fact :: arrivals := by
        intro other hother
        rw [hkept] at hother
        rcases hsource with hheld | rfl
        · simp only [hheld, Option.toList_some, List.singleton_append, List.mem_cons] at hother ⊢
          tauto
        · simp only [Option.toList_some, List.singleton_append, List.mem_append] at hother ⊢
          exact Or.inr hother
      exact fun other hother another hanother =>
        hversions other (hsub other hother) another (hsub another hanother)

theorem stale_fact_rejected
    (hdomain : core.domainOf readStateDomainName = .ok createReadStateDomain)
    (fact : ReadStateFact) {applied : Int}
    (happlied : (core.scopeEntry createReadStateDomain
      (encodeReadStateScopeId fact)).appliedSeq = some applied)
    (hstale : (fact.readStateVersion : Int) ≤ applied) :
    (step core (readStateInput fact)).state readStateDomainName (encodeReadStateScopeId fact) =
        core.state readStateDomainName (encodeReadStateScopeId fact) ∧
      ((step core (readStateInput fact)).scopeSyncState readStateDomainName
          (encodeReadStateScopeId fact)).map (·.appliedSeq) =
        (core.scopeSyncState readStateDomainName (encodeReadStateScopeId fact)).map
          (·.appliedSeq) := by
  have haddress : (readStateInput fact).Addresses createReadStateDomain.name
      (encodeReadStateScopeId fact) := ⟨rfl, rfl⟩
  have hnext : (step core (readStateInput fact)).scopes readStateDomainName
      (encodeReadStateScopeId fact) = some _ := step_scopes_of_addresses hdomain haddress
  have hrefused : acceptsFrame createReadStateDomain
      (core.scopeEntry createReadStateDomain (encodeReadStateScopeId fact))
      (toReadStateFrame fact) = false := by
    by_contra haccepts
    have habove := aboveWatermark_of_acceptsFrame (Bool.not_eq_false _ ▸ haccepts) _ happlied
    exact absurd hstale (not_le.mpr habove)
  rcases frameWrite_entry createReadStateDomain
    (core.scopeEntry createReadStateDomain (encodeReadStateScopeId fact)) (toReadStateFrame fact)
    with ⟨haccepts, -⟩ | ⟨-, pending, hentry⟩
  · rw [hrefused] at haccepts
    cases haccepts
  · rw [SyncCore.state, SyncCore.scopeSyncState, hnext, SyncCore.state, SyncCore.scopeSyncState]
    simp only [readStateInput, SyncHarnessInput.write, hentry]
    have hheld : core.scopes readStateDomainName (encodeReadStateScopeId fact) =
        some (core.scopeEntry createReadStateDomain (encodeReadStateScopeId fact)) := by
      cases hscope : core.scopes readStateDomainName (encodeReadStateScopeId fact) with
      | none =>
          have hinitial : core.scopeEntry createReadStateDomain (encodeReadStateScopeId fact) =
              SyncCore.initialEntry createReadStateDomain :=
            congrArg (Option.getD · _) hscope
          rw [hinitial] at happlied
          cases happlied
      | some entry => exact congrArg some (congrArg (Option.getD · _) hscope).symm
    rw [hheld]
    exact ⟨rfl, rfl⟩

/-- Whatever the order and repetition of the arrivals, the scope ends at the fact of greatest
version with nothing to repair; and no run lets a stale or conflicting fact through. -/
theorem read_state_converges (hfresh : Fresh core)
    (hdomain : core.domainOf readStateDomainName = .ok createReadStateDomain)
    {facts : List ReadStateFact} (hne : facts ≠ [])
    (hscope : ∀ fact ∈ facts, encodeReadStateScopeId fact = scopeId)
    (hversions : ∀ fact ∈ facts, ∀ other ∈ facts,
      fact.readStateVersion = other.readStateVersion → fact = other) :
    (∃ latest ∈ facts, (∀ fact ∈ facts, fact.readStateVersion ≤ latest.readStateVersion) ∧
      ∀ arrivals : List ReadStateFact, (∀ fact, fact ∈ arrivals ↔ fact ∈ facts) →
        (run step core (arrivals.map readStateInput)).state readStateDomainName scopeId =
            some (some latest) ∧
          (run step core (arrivals.map readStateInput)).scopeSyncState readStateDomainName
            scopeId = some ⟨latest.readStateVersion, none, false⟩ ∧
          (run step core (arrivals.map readStateInput)).pendingRequests = []) ∧
    ∀ (inputs : List (SyncHarnessInput ReadStateFact JsValue)) (fact : ReadStateFact)
      (applied : Int),
      ((run step core inputs).scopeEntry createReadStateDomain
        (encodeReadStateScopeId fact)).appliedSeq = some applied →
      (fact.readStateVersion : Int) ≤ applied →
      (step (run step core inputs) (readStateInput fact)).state readStateDomainName
          (encodeReadStateScopeId fact) =
        (run step core inputs).state readStateDomainName (encodeReadStateScopeId fact) ∧
      ((step (run step core inputs) (readStateInput fact)).scopeSyncState readStateDomainName
          (encodeReadStateScopeId fact)).map (·.appliedSeq) =
        ((run step core inputs).scopeSyncState readStateDomainName
          (encodeReadStateScopeId fact)).map (·.appliedSeq) := by
  have hstart : HoldsRegister core scopeId none :=
    ⟨hdomain, hfresh.scopes _ _, hfresh.pending⟩
  constructor
  · obtain ⟨latest, hlatest⟩ :=
      offerAll_isSome ReadStateFact.readStateVersion none (Or.inr hne)
    obtain ⟨hsource, -, hmax⟩ := offerAll_spec ReadStateFact.readStateVersion hlatest
    refine ⟨latest, hsource.resolve_left (by simp), hmax, fun arrivals hmem => ?_⟩
    have hend := hstart.run
      (fun fact hfact => hscope fact ((hmem fact).mp hfact))
      (fun fact hfact other hother =>
        hversions fact ((hmem fact).mp hfact) other ((hmem other).mp hother))
    rw [offerAll_congr _ hmem fun fact hfact other hother =>
        hversions fact ((hmem fact).mp hfact) other ((hmem other).mp hother), hlatest] at hend
    refine ⟨?_, ?_, ?_⟩
    · rw [SyncCore.state, hend.scope]
      rfl
    · rw [SyncCore.scopeSyncState, hend.scope]
      rfl
    · rw [SyncCore.pendingRequests, hend.pending, InsertionMap.values_empty]
  · intro inputs fact applied happlied hstale
    exact stale_fact_rejected (by rw [run_domainOf, hdomain]) fact happlied hstale

end

def exampleFact (maxReadSeq readStateVersion : Fin 100) : ReadStateFact where
  serverId := js "server-a"
  principalId := js "viewer-a"
  scopeId := js "scope-a"
  maxReadSeq := maxReadSeq
  readStateVersion := readStateVersion
  maxReadSeq_le := le_trans maxReadSeq.isLt.le (by decide)
  readStateVersion_le := le_trans readStateVersion.isLt.le (by decide)

theorem read_state_converges_three_facts :
    ∃ latest ∈ [exampleFact 8 2, exampleFact 4 3, exampleFact 10 4],
      (run step (soleDomainCore createReadStateDomain)
        ([exampleFact 4 3, exampleFact 10 4, exampleFact 8 2, exampleFact 4 3].map
          readStateInput)).state readStateDomainName
            (encodeReadStateScopeId (exampleFact 8 2)) = some (some latest) := by
  obtain ⟨latest, hmem, -, hend⟩ := (read_state_converges
    (fresh_soleDomainCore createReadStateDomain) (domainOf_soleDomainCore createReadStateDomain)
    (show [exampleFact 8 2, exampleFact 4 3, exampleFact 10 4] ≠ [] by simp)
    (show ∀ fact ∈ [exampleFact 8 2, exampleFact 4 3, exampleFact 10 4],
      encodeReadStateScopeId fact = encodeReadStateScopeId (exampleFact 8 2) by decide)
    (by decide)).1
  refine ⟨latest, hmem, (hend [exampleFact 4 3, exampleFact 10 4, exampleFact 8 2,
    exampleFact 4 3] ?_).1⟩
  intro fact
  simp only [List.mem_cons, List.not_mem_nil, or_false]
  tauto

end Raft.Sync
