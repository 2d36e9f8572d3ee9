import Raft.Activity.UInt64
import Raft.Foundation.InsertionMap
import Raft.Foundation.Run

/-!
# Responses in flight and the read-state ledger

A request captures the ledger's generation when it is issued, and its response is
folded under that capture.  The generation that a later change leaves behind is
kept inside the scope's entry, so an absent response that deletes the entry also
deletes the evidence against older responses.
-/

namespace Raft.ReadLedger

open Raft.Foundation Raft.Activity

structure AcceptedReadState where
  maxReadSeq : Nat
  readStateVersion : Int
  generation : Nat
  deriving DecidableEq

structure ReadStateUpdate where
  serverId : JsString
  scopeId : JsString
  maxReadSeq : Nat
  readStateVersion : Int
  deriving DecidableEq

structure LatestActivity where
  messageId : JsString
  seq : JsString
  deriving DecidableEq

inductive InboxScopeReadFrontier where
  | absent
  | corrupt
  | present (readStateVersion : Int) (maxReadSeq : JsString)
      (latestActivity : Option LatestActivity)
  deriving DecidableEq

inductive ReadStateSnapshotKind where
  | accepted
  | cleared
  | stale
  | corrupt
  deriving DecidableEq

structure ReadStateSnapshotOutcome where
  kind : ReadStateSnapshotKind
  latestActivitySeq : Option JsString
  deriving DecidableEq

def readStateKey (serverId scopeId : JsString) : JsString := serverId ++ js ":" ++ scopeId

structure ReadStateLedger where
  acceptedReadStates : InsertionMap JsString AcceptedReadState
  acceptedReadStateGeneration : Nat

def emptyLedger : ReadStateLedger := ⟨.empty, 0⟩

/-- The number that a canonical text denotes, when it fits. -/
def parsedMaxReadSeq (raw : JsString) : Option Nat :=
  if isCanonicalDecimal raw = true ∧ decimalValue raw ≤ maxSafeInteger then some (decimalValue raw)
  else none

namespace ReadStateLedger

variable (ledger : ReadStateLedger)

def entry (key : JsString) : Option AcceptedReadState := ledger.acceptedReadStates.get key

def isStale (key : JsString) (readStateVersion : Int) : Bool :=
  (ledger.entry key).any fun previous => readStateVersion ≤ previous.readStateVersion

def accept (key : JsString) (maxReadSeq : Nat) (readStateVersion : Int) : ReadStateLedger where
  acceptedReadStates := ledger.acceptedReadStates.set key
    ⟨maxReadSeq, readStateVersion, ledger.acceptedReadStateGeneration + 1⟩
  acceptedReadStateGeneration := ledger.acceptedReadStateGeneration + 1

def clear (key : JsString) : ReadStateLedger :=
  { ledger with acceptedReadStates := ledger.acceptedReadStates.delete key }

/-- The ledger, and whether the update was accepted. -/
def consumeReadStateUpdate (update : ReadStateUpdate) : ReadStateLedger × Bool :=
  let key := readStateKey update.serverId update.scopeId
  if ledger.isStale key update.readStateVersion then
    (ledger, false)
  else
    (ledger.accept key update.maxReadSeq update.readStateVersion, true)

def hasAcceptedReadStateChangedAfter (serverId scopeId : JsString) (generation : Nat) : Bool :=
  if serverId.isEmpty then
    false
  else
    decide (generation <
      ((ledger.entry (readStateKey serverId scopeId)).map (·.generation)).getD 0)

def consumeReadStateSnapshot (serverId scopeId : JsString) (frontier : InboxScopeReadFrontier)
    (ledgerGenerationAtRequest : Nat) : ReadStateLedger × ReadStateSnapshotOutcome :=
  if serverId.isEmpty || scopeId.isEmpty then
    (ledger, ⟨.stale, none⟩)
  else
    let supersededBySocket :=
      ledger.hasAcceptedReadStateChangedAfter serverId scopeId ledgerGenerationAtRequest
    let key := readStateKey serverId scopeId
    match frontier with
    | .corrupt => (ledger, ⟨.corrupt, none⟩)
    | .absent =>
        if supersededBySocket then (ledger, ⟨.stale, none⟩)
        else if (ledger.entry key).isNone then (ledger, ⟨.cleared, none⟩)
        else (ledger.clear key, ⟨.cleared, none⟩)
    | .present readStateVersion maxReadSeq latestActivity =>
        match parsedMaxReadSeq maxReadSeq with
        | none => (ledger, ⟨.corrupt, none⟩)
        | some parsed =>
            let rowEvidence := latestActivity.map (·.seq)
            if supersededBySocket then (ledger, ⟨.stale, rowEvidence⟩)
            else if ledger.isStale key readStateVersion then (ledger, ⟨.stale, rowEvidence⟩)
            else (ledger.accept key parsed readStateVersion, ⟨.accepted, rowEvidence⟩)

theorem entry_accept (key other : JsString) (maxReadSeq : Nat) (readStateVersion : Int) :
    (ledger.accept key maxReadSeq readStateVersion).entry other =
      if other = key then
        some ⟨maxReadSeq, readStateVersion, ledger.acceptedReadStateGeneration + 1⟩
      else ledger.entry other := InsertionMap.get_set _ _ _ _

theorem entry_clear (key other : JsString) :
    (ledger.clear key).entry other = if other = key then none else ledger.entry other :=
  InsertionMap.get_delete _ _ _

theorem isStale_eq_false {key : JsString} {readStateVersion : Int}
    (h : ledger.isStale key readStateVersion = false) {entry : AcceptedReadState}
    (hentry : ledger.entry key = some entry) : entry.readStateVersion < readStateVersion := by
  simpa [isStale, hentry] using h

end ReadStateLedger

/-- What folding one response does, where nothing later than the request's generation is held. -/
inductive SnapshotEffect (ledger : ReadStateLedger) (serverId scopeId : JsString)
    (generation : Nat) :
    InboxScopeReadFrontier → ReadStateLedger × ReadStateSnapshotOutcome → Prop
  | kept (frontier : InboxScopeReadFrontier) (outcome : ReadStateSnapshotOutcome)
      (hkind : outcome.kind ≠ .accepted ∧ outcome.kind ≠ .cleared) :
      SnapshotEffect ledger serverId scopeId generation frontier (ledger, outcome)
  | nothingHeld (hnone : ledger.entry (readStateKey serverId scopeId) = none) :
      SnapshotEffect ledger serverId scopeId generation .absent (ledger, ⟨.cleared, none⟩)
  | deleted (entry : AcceptedReadState)
      (hentry : ledger.entry (readStateKey serverId scopeId) = some entry)
      (hearlier : entry.generation ≤ generation) :
      SnapshotEffect ledger serverId scopeId generation .absent
        (ledger.clear (readStateKey serverId scopeId), ⟨.cleared, none⟩)
  | accepted (version : Int) (maxReadSeq : JsString) (latestActivity : Option LatestActivity)
      (parsed : Nat) (evidence : Option JsString) (hserver : serverId ≠ []) (hscope : scopeId ≠ [])
      (hparsed : parsedMaxReadSeq maxReadSeq = some parsed)
      (hearlier : ∀ entry, ledger.entry (readStateKey serverId scopeId) = some entry →
        entry.generation ≤ generation ∧ entry.readStateVersion < version) :
      SnapshotEffect ledger serverId scopeId generation (.present version maxReadSeq latestActivity)
        (ledger.accept (readStateKey serverId scopeId) parsed version, ⟨.accepted, evidence⟩)

theorem ReadStateLedger.snapshotEffect (ledger : ReadStateLedger) (serverId scopeId : JsString)
    (frontier : InboxScopeReadFrontier) (generation : Nat) :
    SnapshotEffect ledger serverId scopeId generation frontier
      (ledger.consumeReadStateSnapshot serverId scopeId frontier generation) := by
  rw [consumeReadStateSnapshot]
  split
  · exact .kept _ _ (by simp)
  · rename_i hids
    simp only [Bool.or_eq_true, not_or, Bool.not_eq_true] at hids
    have hearlier (hsuperseded :
        ¬ ledger.hasAcceptedReadStateChangedAfter serverId scopeId generation = true)
        (entry : AcceptedReadState)
        (hentry : ledger.entry (readStateKey serverId scopeId) = some entry) :
        entry.generation ≤ generation := by
      simpa [hasAcceptedReadStateChangedAfter, hids.1, hentry] using hsuperseded
    dsimp only
    split
    · exact .kept _ _ (by simp)
    · split
      · exact .kept _ _ (by simp)
      · rename_i hsuperseded
        split
        · rename_i hnone
          exact .nothingHeld (Option.isNone_iff_eq_none.mp hnone)
        · rename_i hsome
          obtain ⟨entry, hentry⟩ := Option.ne_none_iff_exists'.mp
            fun hnone => hsome (Option.isNone_iff_eq_none.mpr hnone)
          exact .deleted entry hentry (hearlier hsuperseded entry hentry)
    · split
      · exact .kept _ _ (by simp)
      · split
        · exact .kept _ _ (by simp)
        · rename_i hsuperseded
          split
          · exact .kept _ _ (by simp)
          · rename_i hversion
            exact .accepted _ _ _ _ _ (by simpa using hids.1) (by simpa using hids.2) ‹_›
              fun entry hentry =>
              ⟨hearlier hsuperseded entry hentry,
                ledger.isStale_eq_false (Bool.not_eq_true _ ▸ hversion) hentry⟩

/-! ## Runs -/

structure LedgerChange where
  key : JsString
  request : Option Nat
  deriving DecidableEq

structure ReadRequest where
  /-- The ledger's generation, captured when the request was issued. -/
  generation : Nat
  /-- How many changes there were by then. -/
  changesBefore : Nat
  deriving DecidableEq

structure LedgerWorld where
  ledger : ReadStateLedger
  requests : List ReadRequest
  changes : List LedgerChange

def freshWorld : LedgerWorld := ⟨emptyLedger, [], []⟩

inductive LedgerEvent where
  | update (update : ReadStateUpdate)
  | issue
  | fold (request : Nat) (serverId scopeId : JsString) (frontier : InboxScopeReadFrontier)
  deriving DecidableEq

namespace LedgerWorld

variable (world : LedgerWorld)

def applyFold (index : Nat) (request : ReadRequest) (serverId scopeId : JsString)
    (frontier : InboxScopeReadFrontier) : LedgerWorld :=
  let folded := world.ledger.consumeReadStateSnapshot serverId scopeId frontier request.generation
  { world with
    ledger := folded.1
    changes :=
      if folded.2.kind = .accepted || folded.2.kind = .cleared then
        world.changes ++ [⟨readStateKey serverId scopeId, some index⟩]
      else world.changes }

def step : LedgerEvent → LedgerWorld
  | .update update =>
      let consumed := world.ledger.consumeReadStateUpdate update
      { world with
        ledger := consumed.1
        changes :=
          if consumed.2 then
            world.changes ++ [⟨readStateKey update.serverId update.scopeId, none⟩]
          else world.changes }
  | .issue =>
      { world with
        requests := world.requests ++
          [⟨world.ledger.acceptedReadStateGeneration, world.changes.length⟩] }
  | .fold index serverId scopeId frontier =>
      match world.requests[index]? with
      | none => world
      | some request => world.applyFold index request serverId scopeId frontier

/-- Since the request was issued, another call accepted or cleared the scope. -/
def Superseded (index : Nat) (key : JsString) : Prop :=
  ∃ request, world.requests[index]? = some request ∧
    ∃ change ∈ world.changes.drop request.changesBefore, change.key = key ∧
      change.request ≠ some index

/-- What an in-flight response may do to the ledger. -/
structure NeverRollsBack (event : LedgerEvent) : Prop where
  superseded : ∀ index serverId scopeId frontier, event = .fold index serverId scopeId frontier →
    world.Superseded index (readStateKey serverId scopeId) →
      (world.step event).ledger.entry (readStateKey serverId scopeId) =
        world.ledger.entry (readStateKey serverId scopeId)
  falls : ∀ key entry, world.ledger.entry key = some entry →
    ((world.step event).ledger.entry key).all (fun next => next.readStateVersion <
      entry.readStateVersion) =
        true →
      ∃ index serverId scopeId, event = .fold index serverId scopeId .absent ∧
        readStateKey serverId scopeId = key ∧ ¬ world.Superseded index key
  corrupt : ∀ index serverId scopeId frontier, event = .fold index serverId scopeId frontier →
    (frontier = .corrupt ∨ ∃ version maxReadSeq latestActivity,
      frontier = .present version maxReadSeq latestActivity ∧ parsedMaxReadSeq maxReadSeq = none) →
        world.step event = world

/-- A valid response lands on a scope without an entry, after another call changed that scope. -/
inductive Resurrects : LedgerEvent → Prop
  | fold (index : Nat) (serverId scopeId : JsString) (version : Int) (maxReadSeq : JsString)
      (latestActivity : Option LatestActivity) (hserver : serverId ≠ []) (hscope : scopeId ≠ [])
      (hvalid : (parsedMaxReadSeq maxReadSeq).isSome = true)
      (hcleared : world.ledger.entry (readStateKey serverId scopeId) = none)
      (hsuperseded : world.Superseded index (readStateKey serverId scopeId)) :
      Resurrects (.fold index serverId scopeId (.present version maxReadSeq latestActivity))

/-! ## The invariant -/

structure Ordered : Prop where
  bounded : ∀ request ∈ world.requests,
    request.generation ≤ world.ledger.acceptedReadStateGeneration ∧
      request.changesBefore ≤ world.changes.length
  later : ∀ request ∈ world.requests, ∀ change ∈ world.changes.drop request.changesBefore,
    ∀ entry, world.ledger.entry change.key = some entry → request.generation < entry.generation

variable {world}

theorem freshWorld_ordered : freshWorld.Ordered where
  bounded _ hrequest := by cases hrequest
  later _ hrequest := by cases hrequest

theorem Ordered.change (h : world.Ordered) {next : LedgerWorld} {change : LedgerChange}
    (hrequests : next.requests = world.requests)
    (hchanges : next.changes = world.changes ++ [change])
    (hgeneration : world.ledger.acceptedReadStateGeneration ≤
      next.ledger.acceptedReadStateGeneration)
    (hother : ∀ key ≠ change.key, next.ledger.entry key = world.ledger.entry key)
    (hchanged : ∀ entry, next.ledger.entry change.key = some entry →
      world.ledger.acceptedReadStateGeneration < entry.generation) : next.Ordered where
  bounded request hrequest := by
    have hbounded := h.bounded request (hrequests ▸ hrequest)
    rw [hchanges, List.length_append]
    exact ⟨hbounded.1.trans hgeneration, hbounded.2.trans (Nat.le_add_right _ _)⟩
  later request hrequest other hchange entry hentry := by
    have hbounded := h.bounded request (hrequests ▸ hrequest)
    by_cases hkey : other.key = change.key
    · rw [hkey] at hentry
      exact hbounded.1.trans_lt (hchanged entry hentry)
    · rw [hchanges, List.drop_append_of_le_length hbounded.2] at hchange
      rcases List.mem_append.mp hchange with hold | hnew
      · rw [hother other.key hkey] at hentry
        exact h.later request (hrequests ▸ hrequest) other hold entry hentry
      · exact absurd (congrArg (·.key) (List.mem_singleton.mp hnew)) hkey

theorem Ordered.accept (h : world.Ordered) {key : JsString} {maxReadSeq : Nat} {version : Int}
    {request : Option Nat} :
    { world with
      ledger := world.ledger.accept key maxReadSeq version
      changes := world.changes ++ [(⟨key, request⟩ : LedgerChange)] }.Ordered := by
  refine h.change rfl rfl (Nat.le_succ _) (fun other hother => ?_) fun entry hentry => ?_
  · rw [ReadStateLedger.entry_accept, if_neg hother]
  · rw [ReadStateLedger.entry_accept, if_pos rfl] at hentry
    cases hentry
    exact Nat.lt_succ_self _

theorem Ordered.applyFold (h : world.Ordered) (index : Nat) (request : ReadRequest)
    (serverId scopeId : JsString) (frontier : InboxScopeReadFrontier) :
    (world.applyFold index request serverId scopeId frontier).Ordered := by
  rw [LedgerWorld.applyFold]
  have heffect := world.ledger.snapshotEffect serverId scopeId frontier request.generation
  generalize world.ledger.consumeReadStateSnapshot serverId scopeId frontier request.generation =
    folded at heffect
  cases heffect with
  | kept frontier outcome hkind => simpa [hkind] using h
  | nothingHeld hnone =>
      refine h.change rfl rfl le_rfl (fun _ _ => rfl) fun entry hentry => ?_
      cases hnone.symm.trans hentry
  | deleted entry hentry hearlier =>
      refine h.change rfl rfl le_rfl (fun other hother => ?_) fun entry hentry => ?_
      · rw [ReadStateLedger.entry_clear, if_neg hother]
      · rw [ReadStateLedger.entry_clear, if_pos rfl] at hentry
        cases hentry
  | accepted version maxReadSeq latestActivity parsed evidence hparsed hearlier => exact h.accept

theorem Ordered.step (h : world.Ordered) (event : LedgerEvent) : (world.step event).Ordered := by
  cases event with
  | update update =>
      rw [LedgerWorld.step, ReadStateLedger.consumeReadStateUpdate]
      split
      · simpa using h
      · exact h.accept
  | issue =>
      refine ⟨fun request hrequest => ?_, fun request hrequest change hchange => ?_⟩
      · rcases List.mem_append.mp hrequest with hold | hnew
        · exact h.bounded request hold
        · cases List.mem_singleton.mp hnew
          exact ⟨le_rfl, le_rfl⟩
      · rcases List.mem_append.mp hrequest with hold | hnew
        · exact h.later request hold change hchange
        · cases List.mem_singleton.mp hnew
          simp [LedgerWorld.step] at hchange
  | fold index serverId scopeId frontier =>
      rw [LedgerWorld.step]
      split
      · exact h
      · exact h.applyFold index _ serverId scopeId frontier

theorem Ordered.later_of_superseded (h : world.Ordered) {index : Nat} {key : JsString}
    {request : ReadRequest} (hrequest : world.requests[index]? = some request)
    (hsuperseded : world.Superseded index key) {entry : AcceptedReadState}
    (hentry : world.ledger.entry key = some entry) : request.generation < entry.generation := by
  obtain ⟨found, hfound, change, hchange, rfl, _⟩ := hsuperseded
  cases hrequest.symm.trans hfound
  exact h.later request (List.mem_of_getElem? hrequest) change hchange entry hentry

/-! ## Folds -/

theorem Ordered.entry_of_superseded (h : world.Ordered) {index : Nat} {serverId scopeId : JsString}
    {frontier : InboxScopeReadFrontier}
    (hsuperseded : world.Superseded index (readStateKey serverId scopeId))
    (hkept : ¬ world.Resurrects (.fold index serverId scopeId frontier)) :
    (world.step (.fold index serverId scopeId frontier)).ledger.entry
      (readStateKey serverId scopeId) =
      world.ledger.entry (readStateKey serverId scopeId) := by
  rw [LedgerWorld.step]
  split
  · rfl
  · rename_i request hrequest
    rw [LedgerWorld.applyFold]
    have heffect := world.ledger.snapshotEffect serverId scopeId frontier request.generation
    generalize world.ledger.consumeReadStateSnapshot serverId scopeId frontier request.generation =
      folded at heffect
    cases heffect with
    | kept => rfl
    | nothingHeld => rfl
    | deleted entry hentry hearlier =>
        exact absurd (h.later_of_superseded hrequest hsuperseded hentry) hearlier.not_gt
    | accepted version maxReadSeq latestActivity parsed evidence hserver hscope hparsed hearlier =>
        cases hheld : world.ledger.entry (readStateKey serverId scopeId) with
        | none =>
            exact absurd (.fold index serverId scopeId version maxReadSeq latestActivity
              hserver hscope
              (by rw [hparsed]; rfl) hheld hsuperseded) hkept
        | some entry =>
            exact absurd (h.later_of_superseded hrequest hsuperseded hheld)
              (hearlier entry hheld).1.not_gt

theorem entry_of_resurrects {index : Nat} {serverId scopeId : JsString}
    {frontier : InboxScopeReadFrontier}
    (hresurrects : world.Resurrects (.fold index serverId scopeId frontier)) :
    world.Superseded index (readStateKey serverId scopeId) ∧
      (world.step (.fold index serverId scopeId frontier)).ledger.entry
        (readStateKey serverId scopeId) ≠
        world.ledger.entry (readStateKey serverId scopeId) := by
  cases hresurrects with
  | fold _ _ _ version maxReadSeq latestActivity hserver hscope hvalid hcleared hsuperseded =>
      refine ⟨hsuperseded, ?_⟩
      obtain ⟨request, hrequest, _⟩ := hsuperseded
      obtain ⟨parsed, hparsed⟩ := Option.isSome_iff_exists.mp hvalid
      have hfolded : world.ledger.consumeReadStateSnapshot serverId scopeId
          (.present version maxReadSeq latestActivity) request.generation =
            (world.ledger.accept (readStateKey serverId scopeId) parsed version,
              ⟨.accepted, latestActivity.map (·.seq)⟩) := by
        simp [ReadStateLedger.consumeReadStateSnapshot, hserver, hscope, hparsed,
          ReadStateLedger.hasAcceptedReadStateChangedAfter, ReadStateLedger.isStale, hcleared]
      rw [LedgerWorld.step, hrequest]
      dsimp only
      rw [applyFold, hfolded, hcleared]
      dsimp only
      rw [ReadStateLedger.entry_accept, if_pos rfl]
      exact Option.some_ne_none _

theorem Ordered.falls (h : world.Ordered) {event : LedgerEvent} {key : JsString}
    {entry : AcceptedReadState} (hentry : world.ledger.entry key = some entry)
    (hfalls : ((world.step event).ledger.entry key).all
      (fun next => next.readStateVersion < entry.readStateVersion) = true) :
    ∃ index serverId scopeId, event = .fold index serverId scopeId .absent ∧
      readStateKey serverId scopeId = key ∧ ¬ world.Superseded index key := by
  have hkept {next : LedgerWorld} (hsame : next.ledger.entry key = world.ledger.entry key)
      (hnext : (next.ledger.entry key).all
        (fun next => next.readStateVersion < entry.readStateVersion) = true) : False := by
    simp [hsame, hentry] at hnext
  have haccepted {scope : JsString} {parsed : Nat} {version : Int}
      (hnewer : ∀ held, world.ledger.entry scope = some held → held.readStateVersion < version)
      (hnext : ((world.ledger.accept scope parsed version).entry key).all
        (fun next => next.readStateVersion < entry.readStateVersion) = true) : False := by
    rw [ReadStateLedger.entry_accept] at hnext
    split at hnext
    · rename_i hkey
      have hversion := hnewer entry (hkey ▸ hentry)
      simp only [Option.all_some, decide_eq_true_eq] at hnext
      omega
    · simp [hentry] at hnext
  cases event with
  | update update =>
      rw [LedgerWorld.step, ReadStateLedger.consumeReadStateUpdate] at hfalls
      split at hfalls
      · exact (hkept rfl hfalls).elim
      · rename_i hstale
        exact (haccepted (fun held hheld => world.ledger.isStale_eq_false
          (Bool.not_eq_true _ ▸ hstale) hheld) hfalls).elim
  | issue => exact (hkept rfl hfalls).elim
  | fold index serverId scopeId frontier =>
      rw [LedgerWorld.step] at hfalls
      split at hfalls
      · exact (hkept rfl hfalls).elim
      · rename_i request hrequest
        rw [LedgerWorld.applyFold] at hfalls
        have heffect := world.ledger.snapshotEffect serverId scopeId frontier request.generation
        generalize world.ledger.consumeReadStateSnapshot serverId scopeId frontier
          request.generation =
          folded at heffect hfalls
        cases heffect with
        | kept => exact (hkept rfl hfalls).elim
        | nothingHeld => exact (hkept rfl hfalls).elim
        | deleted held hheld hearlier =>
            by_cases hkey : key = readStateKey serverId scopeId
            · refine ⟨index, serverId, scopeId, rfl, hkey.symm, fun hsuperseded => ?_⟩
              exact absurd (h.later_of_superseded hrequest hsuperseded (hkey ▸ hheld))
                hearlier.not_gt
            · dsimp only at hfalls
              rw [ReadStateLedger.entry_clear, if_neg hkey] at hfalls
              simp [hentry] at hfalls
        | accepted version maxReadSeq latestActivity parsed evidence hserver hscope hparsed
          hearlier =>
            exact (haccepted (fun held hheld => (hearlier held hheld).2) hfalls).elim

theorem step_of_corrupt {index : Nat} {serverId scopeId : JsString}
    {frontier : InboxScopeReadFrontier}
    (hcorrupt : frontier = .corrupt ∨ ∃ version maxReadSeq latestActivity,
      frontier = .present version maxReadSeq latestActivity ∧ parsedMaxReadSeq maxReadSeq = none) :
    world.step (.fold index serverId scopeId frontier) = world := by
  rw [LedgerWorld.step]
  split
  · rfl
  · rename_i request hrequest
    rw [applyFold, ReadStateLedger.consumeReadStateSnapshot]
    rcases hcorrupt with rfl | ⟨version, maxReadSeq, latestActivity, rfl, hnone⟩
    · split <;> simp
    · simp only [hnone]
      split <;> simp

theorem Ordered.neverRollsBack_iff (h : world.Ordered) {event : LedgerEvent} :
    world.NeverRollsBack event ↔ ¬ world.Resurrects event := by
  constructor
  · rintro hkept ⟨index, serverId, scopeId, version, maxReadSeq, latestActivity, hserver, hscope,
      hvalid,
      hcleared, hsuperseded⟩
    have hchanged :=
      entry_of_resurrects (.fold index serverId scopeId version maxReadSeq latestActivity
      hserver hscope hvalid hcleared hsuperseded)
    exact hchanged.2 (hkept.superseded index serverId scopeId _ rfl hsuperseded)
  · intro hkept
    refine ⟨fun index serverId scopeId frontier hevent hsuperseded => ?_,
      fun key entry hentry hfalls => h.falls hentry hfalls,
      fun index serverId scopeId frontier hevent hcorrupt => ?_⟩
    · subst hevent
      exact h.entry_of_superseded hsuperseded hkept
    · subst hevent
      exact step_of_corrupt hcorrupt

theorem run_ordered (events : List LedgerEvent) : (run step freshWorld events).Ordered :=
  run_invariant Ordered events (fun _ event h => h.step event) freshWorld_ordered

/-- No response rolls the ledger back in a run exactly when none lands on a scope that another call
cleared since its request was issued. -/
theorem in_flight_never_rolls_back_iff (events : List LedgerEvent) :
    (∀ before event, before ++ [event] <+: events →
        (run step freshWorld before).NeverRollsBack event) ↔
      ∀ before event, before ++ [event] <+: events →
        ¬ (run step freshWorld before).Resurrects event :=
  forall_congr' fun before => forall_congr' fun _ => imp_congr_right fun _ =>
    (run_ordered before).neverRollsBack_iff

/-- Two requests are in flight when the scope holds version 5, and the first response clears it. -/
def clearedRun : List LedgerEvent :=
  [.update ⟨js "server", js "scope", 7, 5⟩, .issue, .issue, .fold 1 (js "server") (js "scope")
    .absent]

/-- The older response then brings version 3 back. -/
theorem late_response_resurrects :
    ¬ ∀ events before event, before ++ [event] <+: events →
      (run step freshWorld before).NeverRollsBack event := by
  intro hall
  have hkept := (hall _ clearedRun (.fold 0 (js "server") (js "scope") (.present 3 (js "4") none))
    (List.prefix_refl _)).superseded 0 _ _ _ rfl
    ⟨⟨1, 1⟩, rfl, ⟨readStateKey (js "server") (js "scope"), some 1⟩, by decide, rfl, by decide⟩
  exact absurd hkept (by decide)

end LedgerWorld

end Raft.ReadLedger
