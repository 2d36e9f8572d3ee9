import Raft.SeenPolicy.ConsumedSeqs

/-!
# The seen frontier

The client's own bookkeeping of what its model has seen: one record for each
target, with a high-water mark and a set of exact seqs, each tagged with the
model context it was booked in.  Views share the records and carry the context
they book and attest under.
-/

namespace Raft.SeenPolicy

open Raft.Foundation

structure SeenAttestation where
  seenUpToSeq : Option ℕ+
  seenExactSeqs : List ℕ+
  deriving DecidableEq

@[irreducible] def MAX_EXACT_SEQS : Nat := 2500

theorem MAX_EXACT_SEQS_eq : MAX_EXACT_SEQS = MAX_EXACT_SEQS_PER_TARGET := by
  rw [MAX_EXACT_SEQS, MAX_EXACT_SEQS_PER_TARGET]

def contextOrNull (value : Option JsString) : Option JsString :=
  value.filter fun text => text.length > 0

/-! ## Records -/

@[ext]
structure TargetState where
  upTo : Option ℕ+
  upToContext : Option JsString
  exact : Finset ℕ+
  exactContext : Option JsString

namespace TargetState

def fresh : TargetState := ⟨none, none, ∅, none⟩

def above (mark : Option ℕ+) (seq : ℕ+) : Bool := mark.all fun mark => seq > mark

/-- Another context's record is replaced, not merged. -/
def bookUpTo (state : TargetState) (seq : ℕ+) (context : Option JsString) : TargetState :=
  let exact := if state.exact.card > 0 ∧ state.exactContext ≠ context then ∅ else state.exact
  let upTo := match state.upTo with
    | none => seq
    | some upTo => if state.upToContext ≠ context ∨ seq > upTo then seq else upTo
  { upTo := some upTo
    upToContext := context
    exact := exact.filter fun seq => ¬ seq ≤ upTo
    exactContext := context }

def bookExact (state : TargetState) (seqs : List ℕ+) (context : Option JsString) : TargetState :=
  let exact := if state.exactContext ≠ context then ∅ else state.exact
  let floor := if state.upToContext = context then state.upTo else none
  let added := exact ∪ (seqs.filter (above floor)).toFinset
  { state with
    exact :=
      if added.card > MAX_EXACT_SEQS then ((added.sort (· ≥ ·)).take MAX_EXACT_SEQS).toFinset
      else added
    exactContext := context }

def attest (state : TargetState) (context : Option JsString) : SeenAttestation :=
  let upTo := if context = none ∨ state.upToContext = context then state.upTo else none
  let exact := if context = none ∨ state.exactContext = context then state.exact else ∅
  ⟨upTo, (exact.filter fun seq => above upTo seq).sort (· ≤ ·)⟩

end TargetState

/-! ## Frontiers -/

structure FrontierCore where
  targets : InsertionMap JsString TargetState
  aliases : InsertionMap JsString JsString
  context : Option JsString

structure SeenFrontier where
  core : FrontierCore
  /-- Set on a view; an unbound frontier follows the core's context. -/
  bound : Option (Option JsString)

namespace SeenFrontier

def fresh : SeenFrontier := ⟨⟨.empty, .empty, none⟩, none⟩

variable (frontier : SeenFrontier)

def contextId : Option JsString := frontier.bound.getD frontier.core.context

def inContext (contextId : Option JsString) : SeenFrontier :=
  { frontier with bound := some (contextOrNull contextId) }

def canonical (target : JsString) : JsString := (frontier.core.aliases.get target).getD target

def state (target : JsString) : TargetState := (frontier.core.targets.get target).getD .fresh

def setState (target : JsString) (state : TargetState) : SeenFrontier :=
  { frontier with
    core := { frontier.core with targets := frontier.core.targets.set target state } }

def recordUpTo (target : JsString) (seq : JsNumber) : SeenFrontier :=
  match seq.positiveInteger with
  | none => frontier
  | some seq =>
      let key := frontier.canonical target
      frontier.setState key ((frontier.state key).bookUpTo seq frontier.contextId)

def recordExact (target : JsString) (seqs : List JsNumber) : SeenFrontier :=
  let key := frontier.canonical target
  frontier.setState key
    ((frontier.state key).bookExact (seqs.filterMap JsNumber.positiveInteger) frontier.contextId)

def attestation (target : JsString) : SeenAttestation :=
  match frontier.core.targets.get (frontier.canonical target) with
  | none => ⟨none, []⟩
  | some state => state.attest frontier.contextId

end SeenFrontier

end Raft.SeenPolicy
