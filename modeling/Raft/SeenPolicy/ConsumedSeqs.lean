import Raft.Foundation.Run
import Raft.SeenPolicy.MemoryStore

/-!
# Consumption evidence over the store

The policy that keys, scopes and answers.  Recorders canonicalize their targets
and book under the store's current context; getters withhold what another
context booked and remember the targets they withheld it for.
-/

namespace Raft.SeenPolicy

open Raft.Foundation

namespace MemoryStore

variable (store : MemoryStore)

/-- The empty string is not a valid key. -/
def canonicalTargetKey (target : JsString) : JsString :=
  match canonicalizeConsumedTarget target with
  | none => []
  | some normalizedTarget => store.resolveCanonicalTarget normalizedTarget

/-! ## Recorders -/

def recordTargetAlias (rawSpelling canonicalTarget : JsString) : MemoryStore :=
  match canonicalizeConsumedTarget rawSpelling, canonicalizeConsumedTarget canonicalTarget with
  | some normalizedSpelling, some normalizedCanonical =>
      if normalizedSpelling = normalizedCanonical then store
      else store.bookTargetAlias normalizedSpelling normalizedCanonical
  | _, _ => store

def recordConsumedRead (target : JsString) (seq : Option JsNumber) : MemoryStore :=
  let key := store.canonicalTargetKey target
  if key = [] then store
  else
    let seq := (seq.bind JsNumber.positiveFinite).map fun value => JsNumber.finite value.1
    store.bookStreamEntries [(key, seq)] store.contextId

/-- The object that collects one value for each resolved key; a later spelling wins. -/
def keyedUpdates {α : Type} (candidates : List (JsString × α)) : InsertionMap JsString α :=
  candidates.foldl (fun updates candidate =>
    let key := store.canonicalTargetKey candidate.1
    if key = [] then updates else assignOwn updates key candidate.2) .empty

def readCandidates (entries : List (JsString × JsNumber)) : List (JsString × JsNumber) :=
  entries.filter fun entry => entry.2.positiveFinite.isSome

def recordConsumedSeqs (entries : List (JsString × JsNumber)) : MemoryStore :=
  let updates := store.keyedUpdates (readCandidates entries)
  if updates.keys = [] then store
  else
    store.bookStreamEntries ((ownEntries updates).map fun update => (update.1, some update.2))
      store.contextId

def recordConsumedExactSeqs (entries : List (JsString × List JsNumber)) : MemoryStore :=
  let updates := store.keyedUpdates (entries.filter fun entry => entry.2 ≠ [])
  if updates.keys = [] then store
  else store.bookExactSeqs (ownEntries updates) store.contextId

end MemoryStore

/-! ## Getters -/

structure ConsumedSeqLedger where
  withheldForContext : List JsString

namespace ConsumedSeqLedger

variable (ledger : ConsumedSeqLedger) (store : MemoryStore)

def inThisContext {α : Type} (key : JsString) (entryContextId : Option JsString)
    (entry : Option α) : Option α × ConsumedSeqLedger :=
  match entry with
  | none => (none, ledger)
  | some entry =>
      if store.contextId = none ∨ entryContextId = store.contextId then (some entry, ledger)
      else (none, { ledger with withheldForContext := key :: ledger.withheldForContext })

def getConsumedSeq (target : JsString) : Option PositiveNumber × ConsumedSeqLedger :=
  let key := store.canonicalTargetKey target
  if key = [] then (none, ledger)
  else
    let entry := store.readStreamEntry key
    let inContext :=
      ledger.inThisContext store key (entry.bind CommandStateStreamEntry.contextId) entry
    (inContext.1.bind CommandStateStreamEntry.seq, inContext.2)

def getConsumedExactSeqs (target : JsString) : List ℕ+ × ConsumedSeqLedger :=
  let key := store.canonicalTargetKey target
  if key = [] then ([], ledger)
  else
    let entry := store.readExactSeqsWithContext key
    let inContext := ledger.inThisContext store key entry.2
      (if entry.1 = [] then none else some entry.1)
    (inContext.1.getD [], inContext.2)

def wasEvidenceWithheldForContext (target : JsString) : Bool :=
  let key := store.canonicalTargetKey target
  key ≠ [] && key ∈ ledger.withheldForContext

end ConsumedSeqLedger

/-! ## Calls -/

inductive LedgerCall where
  | setContextId (next : Option JsString)
  | recordTargetAlias (rawSpelling canonicalTarget : JsString)
  | recordConsumedRead (target : JsString) (seq : Option JsNumber)
  | recordConsumedSeqs (entries : List (JsString × JsNumber))
  | recordConsumedExactSeqs (entries : List (JsString × List JsNumber))

def ledgerStep (store : MemoryStore) : LedgerCall → MemoryStore
  | .setContextId next => store.setContextId next
  | .recordTargetAlias rawSpelling canonicalTarget =>
      store.recordTargetAlias rawSpelling canonicalTarget
  | .recordConsumedRead target seq => store.recordConsumedRead target seq
  | .recordConsumedSeqs entries => store.recordConsumedSeqs entries
  | .recordConsumedExactSeqs entries => store.recordConsumedExactSeqs entries

end Raft.SeenPolicy
