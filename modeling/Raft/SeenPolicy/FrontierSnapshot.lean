import Raft.Foundation.PlainObject
import Raft.SeenPolicy.Frontier

/-!
# Frontier snapshots

The JSON form of a frontier, how it is written and how it is absorbed again.
Every record is booked under the model context it was booked in.
-/

namespace Raft.SeenPolicy

open Raft.Foundation

structure TargetSnapshot where
  upTo : Option JsNumber
  exact : Option (List JsNumber)
  upToContextId : Option JsString
  exactContextId : Option JsString
  deriving DecidableEq

structure SeenFrontierSnapshot where
  targets : InsertionMap JsString TargetSnapshot
  aliases : InsertionMap JsString JsString
  contextId : Option JsString

def SeenFrontierSnapshot.empty : SeenFrontierSnapshot := ⟨.empty, .empty, none⟩

def seqNumber (seq : ℕ+) : JsNumber := .ofNat seq

def TargetState.snapshot (state : TargetState) : TargetSnapshot where
  upTo := state.upTo.map seqNumber
  exact := if state.exact.card = 0 then none else some ((state.exact.sort (· ≤ ·)).map seqNumber)
  upToContextId := if state.upTo = none then none else state.upToContext
  exactContextId := if state.exact.card = 0 then none else state.exactContext

namespace SeenFrontier

variable (frontier : SeenFrontier)

def recordAlias (requested canonical : JsString) : SeenFrontier :=
  if requested ≠ [] ∧ canonical ≠ [] ∧ requested ≠ canonical then
    { frontier with
      core := { frontier.core with aliases := frontier.core.aliases.set requested canonical } }
  else frontier

def bookUpTo (target : JsString) (seq : JsNumber) (context : Option JsString) : SeenFrontier :=
  match seq.positiveInteger with
  | none => frontier
  | some seq =>
      let key := frontier.canonical target
      frontier.setState key ((frontier.state key).bookUpTo seq context)

def bookExact (target : JsString) (seqs : List JsNumber) (context : Option JsString) :
    SeenFrontier :=
  let key := frontier.canonical target
  frontier.setState key
    ((frontier.state key).bookExact (seqs.filterMap JsNumber.positiveInteger) context)

def absorbTarget (target : JsString) (state : TargetSnapshot) : SeenFrontier :=
  let frontier := match state.upTo with
    | none => frontier
    | some upTo => frontier.bookUpTo target upTo (contextOrNull state.upToContextId)
  match state.exact with
  | none => frontier
  | some exact => frontier.bookExact target exact (contextOrNull state.exactContextId)

def absorb (snapshot : SeenFrontierSnapshot) : SeenFrontier :=
  let frontier := (ownEntries snapshot.aliases).foldl
    (fun frontier entry => frontier.recordAlias entry.1 entry.2) frontier
  let frontier := (ownEntries snapshot.targets).foldl
    (fun frontier entry => frontier.absorbTarget entry.1 entry.2) frontier
  if frontier.core.context = none then
    { frontier with core := { frontier.core with context := contextOrNull snapshot.contextId } }
  else frontier

/-- `targets[target] = …` writes plain assignments, `Object.fromEntries` defines own properties. -/
def snapshot : SeenFrontierSnapshot where
  targets := frontier.core.targets.entries.foldl
    (fun targets entry => assignOwn targets entry.1 entry.2.snapshot) .empty
  aliases := frontier.core.aliases
  contextId := frontier.core.context

end SeenFrontier

end Raft.SeenPolicy
