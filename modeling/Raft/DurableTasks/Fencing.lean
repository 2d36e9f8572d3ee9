import Raft.DurableTasks.Table
import Raft.Foundation.Run

/-!
# Durable tasks are fenced and bounded

Every statement is one step.  A recovery claim takes two, the update and the read
that returns its claims, and a crash only leaves out the steps that would follow.
Each process reads its own clock.
-/

namespace Raft.DurableTasks

open Raft.Foundation

/-! ## Runs -/

structure ClaimRecord where
  token : JsString
  attempt : Nat
  maxAttempts : Nat
  deriving DecidableEq

/-- A recovery claim between its update and its read. -/
structure ClaimCall where
  token : JsString
  ids : List Nat
  deriving DecidableEq

structure TaskWorld where
  rows : DurableTaskTable
  lastId : Nat
  /-- Every token drawn so far. -/
  tokens : List JsString
  calls : List ClaimCall
  /-- The claims returned to a caller, in the order of their return. -/
  issued : List DurableTaskClaim
  /-- The claims of each task that succeeded, in the order of their statements. -/
  claimed : Nat → List ClaimRecord

def emptyWorld : TaskWorld := ⟨fun _ => none, 0, [], [], [], fun _ => []⟩

inductive TaskEvent where
  | create (id : Nat) (definition : DurableTaskDefinition) (payload : JsValue) (token : JsString)
      (now : Int)
  | extendLease (claim : DurableTaskClaim) (leaseMs now : Int)
  | finish (claim : DurableTaskClaim) (definition : Option DurableTaskDefinition)
      (handled : Except TaskError Unit) (now : Int) (backoffMs : Nat → Int)
  | sweep (now : Int)
  | claim (token : JsString) (kinds : List JsString) (limit : Nat) (leaseMs now : Int)
      (ids : List Nat)
  | readBack (call : ClaimCall)
  | prune (now : Int) (ids : List Nat)

def DurableTaskClaim.record (claim : DurableTaskClaim) : ClaimRecord :=
  ⟨claim.claimedBy, claim.attempt, claim.task.maxAttempts⟩

namespace TaskWorld

variable (world : TaskWorld)

def recordsOf (token : JsString) (ids : List Nat) (id : Nat) : List ClaimRecord :=
  if id ∈ ids then
    ((world.rows id).map fun row => ⟨token, row.attempts + 1, row.maxAttempts⟩).toList
  else
    []

def step : TaskEvent → TaskWorld
  | .create id definition payload token now =>
      let row := createdRow id definition payload token now
      { world with
        rows := insertRow world.rows row
        lastId := id
        tokens := token :: world.tokens
        issued := world.issued ++ [⟨row, token, 1⟩]
        claimed := fun other =>
          if other = id then [⟨token, 1, definition.maxAttempts⟩] else world.claimed other }
  | .extendLease claim leaseMs now =>
      { world with rows := (extendDurableTaskLease world.rows claim leaseMs now).1 }
  | .finish claim definition handled now backoffMs =>
      { world with
        rows :=
          (finishDurableTask world.rows claim (taskResult definition claim handled)
            now backoffMs).1 }
  | .sweep now => { world with rows := sweepSpent world.rows now }
  | .claim token _ _ leaseMs now ids =>
      { world with
        rows := claimRows world.rows ids token leaseMs now
        tokens := token :: world.tokens
        calls := ⟨token, ids⟩ :: world.calls
        claimed := fun id => world.claimed id ++ world.recordsOf token ids id }
  | .readBack call =>
      { world with
        calls := world.calls.erase call
        issued := world.issued ++ readClaims world.rows call.ids call.token }
  | .prune _ ids => { world with rows := pruneRows world.rows ids }

/-- Ids and tokens are fresh, a claim locks rows that its subquery selects, and only issued claims
are extended or finished. -/
def Possible : TaskEvent → Prop
  | .create id definition _ token _ =>
      world.lastId < id ∧ token ∉ world.tokens ∧ 1 ≤ definition.maxAttempts
  | .extendLease claim _ _ => claim ∈ world.issued
  | .finish claim _ _ _ _ => claim ∈ world.issued
  | .sweep _ => True
  | .claim token kinds limit _ now ids =>
      token ∉ world.tokens ∧ ids.Nodup ∧ ids.length ≤ limit ∧
        ∀ id ∈ ids, (world.rows id).any (isClaimable now kinds) = true
  | .readBack call => call ∈ world.calls
  | .prune now ids => ids.length ≤ 1000 ∧ ∀ id ∈ ids, (world.rows id).any (isPrunable now) = true

def issuedOf (id : Nat) : List DurableTaskClaim :=
  world.issued.filter fun claim => claim.task.id = id

/-! ## The invariant -/

structure RowAccounted (id : Nat) (row : DurableTaskRow) : Prop where
  key : row.id = id
  known : id ≤ world.lastId
  attempts : row.attempts = (world.claimed id).length
  bounded : row.attempts ≤ row.maxAttempts
  limit : ∀ record ∈ world.claimed id, record.maxAttempts = row.maxAttempts
  held : ∀ token, row.claimedBy = some token →
    (world.claimed id).getLast? = some ⟨token, row.attempts, row.maxAttempts⟩

structure Accounted : Prop where
  row : ∀ id row, world.rows id = some row → world.RowAccounted id row
  unknown : ∀ id, world.lastId < id → world.claimed id = [] ∧ world.issuedOf id = []
  counted : ∀ id, (world.claimed id).map (·.attempt) = List.range' 1 (world.claimed id).length
  limited : ∀ id, ∀ record ∈ world.claimed id, (world.claimed id).length ≤ record.maxAttempts
  tokens : ∀ id, ∀ record ∈ world.claimed id, record.token ∈ world.tokens
  calls : ∀ call ∈ world.calls, call.token ∈ world.tokens ∧ call.ids.Nodup
  distinct : (world.calls.map (·.token)).Nodup
  issued : ∀ id, ((world.issuedOf id).map (·.record)).Sublist (world.claimed id)
  unread : ∀ call ∈ world.calls, ∀ claim ∈ world.issued, claim.claimedBy ≠ call.token

variable {world}

theorem emptyWorld_accounted : emptyWorld.Accounted where
  row _ _ hrow := by cases hrow
  unknown _ _ := ⟨rfl, rfl⟩
  counted _ := rfl
  limited _ _ hrecord := by cases hrecord
  tokens _ _ hrecord := by cases hrecord
  calls _ hcall := by cases hcall
  distinct := List.nodup_nil
  issued _ := List.nil_sublist _
  unread _ hcall := by cases hcall

structure Keeps (row next : DurableTaskRow) : Prop where
  id : next.id = row.id
  attempts : next.attempts = row.attempts
  maxAttempts : next.maxAttempts = row.maxAttempts
  claimedBy : next.claimedBy = row.claimedBy ∨ next.claimedBy = none

theorem Keeps.rfl {row : DurableTaskRow} : Keeps row row :=
  ⟨Eq.refl _, Eq.refl _, Eq.refl _, .inl (Eq.refl _)⟩

theorem RowAccounted.keeps {id : Nat} {row next : DurableTaskRow} (h : world.RowAccounted id row)
    (hkeeps : Keeps row next) : world.RowAccounted id next where
  key := hkeeps.id.trans h.key
  known := h.known
  attempts := hkeeps.attempts.trans h.attempts
  bounded := by
    rw [hkeeps.attempts, hkeeps.maxAttempts]
    exact h.bounded
  limit record hrecord := (h.limit record hrecord).trans hkeeps.maxAttempts.symm
  held token htoken := by
    rw [hkeeps.attempts, hkeeps.maxAttempts]
    rcases hkeeps.claimedBy with hsame | hnone
    · exact h.held token (hsame ▸ htoken)
    · rw [hnone] at htoken
      cases htoken

theorem RowAccounted.congr {next : TaskWorld} {id : Nat} {row : DurableTaskRow}
    (h : world.RowAccounted id row) (hlast : world.lastId ≤ next.lastId)
    (hclaimed : next.claimed id = world.claimed id) : next.RowAccounted id row := by
  refine ⟨h.key, h.known.trans hlast, ?_, h.bounded, ?_, ?_⟩
  · rw [hclaimed]
    exact h.attempts
  · rw [hclaimed]
    exact h.limit
  · rw [hclaimed]
    exact h.held

theorem Accounted.withRows (h : world.Accounted) {rows : DurableTaskTable}
    (hrows : ∀ id next, rows id = some next → ∃ row, world.rows id = some row ∧ Keeps row next) :
    { world with rows }.Accounted :=
  { h with
    row := fun id next hnext =>
      have ⟨row, hrow, hkeeps⟩ := hrows id next hnext
      ((h.row id row hrow).keeps hkeeps).congr le_rfl rfl }

theorem updateWhere_keeps {condition : DurableTaskRow → Bool}
    {set : DurableTaskRow → DurableTaskRow}
    (hset : ∀ row, Keeps row (set row)) {rows : DurableTaskTable} (id : Nat) (next : DurableTaskRow)
    (h : updateWhere condition set rows id = some next) :
    ∃ row, rows id = some row ∧ Keeps row next := by
  obtain ⟨row, hrow, rfl⟩ := Option.map_eq_some_iff.mp h
  refine ⟨row, hrow, ?_⟩
  split
  · exact hset row
  · exact .rfl

theorem keeps_finishedRow (claim : DurableTaskClaim) (result : TaskResult) (now : Int)
    (backoffMs : Nat → Int) (row : DurableTaskRow) :
    Keeps row (finishedRow claim result now backoffMs row) := by
  cases result with
  | ok => exact ⟨rfl, rfl, rfl, .inr rfl⟩
  | failed retryable errorCode =>
      rw [finishedRow]
      split <;> exact ⟨rfl, rfl, rfl, .inr rfl⟩

theorem pruneRows_keeps {rows : DurableTaskTable} {ids : List Nat} (id : Nat)
    (next : DurableTaskRow)
    (h : pruneRows rows ids id = some next) : ∃ row, rows id = some row ∧ Keeps row next := by
  rw [pruneRows] at h
  split at h
  · cases h
  · exact ⟨next, h, .rfl⟩

theorem Accounted.create (h : world.Accounted) {id : Nat} {definition : DurableTaskDefinition}
    {payload : JsValue} {token : JsString} {now : Int}
    (hpossible : world.Possible (.create id definition payload token now)) :
    (world.step (.create id definition payload token now)).Accounted := by
  obtain ⟨hid, htoken, hmax⟩ := hpossible
  have hissued (other : Nat) : (world.step (.create id definition payload token now)).issuedOf
    other =
      if other = id then [⟨createdRow id definition payload token now, token, 1⟩]
      else world.issuedOf other := by
    have hold : (world.step (.create id definition payload token now)).issuedOf other =
        world.issuedOf other ++ if other = id then
          [⟨createdRow id definition payload token now, token, 1⟩] else [] := by
      rw [issuedOf, step, List.filter_append, issuedOf]
      by_cases hother : other = id
      · simp [hother, createdRow]
      · simp [hother, createdRow, Ne.symm hother]
    rw [hold]
    split
    · rename_i hother
      rw [hother, (h.unknown id hid).2, List.nil_append]
    · exact List.append_nil _
  refine ⟨fun other row hrow => ?_, fun other hother => ?_, fun other => ?_,
    fun other record hrecord => ?_,
    fun other record hrecord => ?_, fun call hcall => ?_, h.distinct, fun other => ?_,
    fun call hcall claim hclaim => ?_⟩
  · simp only [step, insertRow] at hrow
    by_cases hother : other = id
    · subst hother
      rw [if_pos (show other = (createdRow other definition payload token now).id from rfl)] at hrow
      cases hrow
      exact ⟨rfl, le_rfl, by simp [step, createdRow], hmax, by simp [step, createdRow],
        by simp [step, createdRow]⟩
    · rw [if_neg (show other ≠ (createdRow id definition payload token now).id from hother)] at hrow
      exact (h.row other row hrow).congr hid.le (if_neg hother)
  · have hother : id < other := hother
    rw [hissued, if_neg hother.ne']
    simp only [step, if_neg hother.ne']
    exact h.unknown other (hid.trans hother)
  · simp only [step]
    split
    · rfl
    · exact h.counted other
  · simp only [step] at hrecord ⊢
    split at hrecord
    · rename_i hother
      rw [if_pos hother]
      cases List.mem_singleton.mp hrecord
      exact hmax
    · rename_i hother
      rw [if_neg hother]
      exact h.limited other record hrecord
  · simp only [step] at hrecord
    split at hrecord
    · cases List.mem_singleton.mp hrecord
      exact List.mem_cons_self
    · exact List.mem_cons_of_mem _ (h.tokens other record hrecord)
  · have hold := h.calls call hcall
    exact ⟨List.mem_cons_of_mem _ hold.1, hold.2⟩
  · rw [hissued]
    simp only [step]
    split
    · exact List.Sublist.refl _
    · exact h.issued other
  · rcases List.mem_append.mp hclaim with hold | hnew
    · exact h.unread call hcall claim hold
    · cases List.mem_singleton.mp hnew
      rintro rfl
      exact htoken (h.calls call hcall).1

theorem mem_claimable {now : Int} {kinds : List JsString} {ids : List Nat}
    (h : ∀ id ∈ ids, (world.rows id).any (isClaimable now kinds) = true) {id : Nat}
    (hid : id ∈ ids) : ∃ row, world.rows id = some row ∧ row.attempts < row.maxAttempts := by
  obtain ⟨row, hrow, hclaimable⟩ := (Option.any_eq_true _ _).mp (h id hid)
  simp only [isClaimable, Bool.and_eq_true, decide_eq_true_eq] at hclaimable
  exact ⟨row, hrow, hclaimable.2⟩

theorem recordsOf_of_mem {token : JsString} {ids : List Nat} {id : Nat} {row : DurableTaskRow}
    (hid : id ∈ ids) (hrow : world.rows id = some row) :
    world.recordsOf token ids id = [⟨token, row.attempts + 1, row.maxAttempts⟩] := by
  rw [recordsOf, if_pos hid, hrow]
  rfl

theorem recordsOf_of_not_mem {token : JsString} {ids : List Nat} {id : Nat} (hid : id ∉ ids) :
    world.recordsOf token ids id = [] := if_neg hid

theorem Accounted.claim (h : world.Accounted) {token : JsString} {kinds : List JsString}
    {limit : Nat}
    {leaseMs now : Int} {ids : List Nat}
    (hpossible : world.Possible (.claim token kinds limit leaseMs now ids)) :
    (world.step (.claim token kinds limit leaseMs now ids)).Accounted := by
  obtain ⟨htoken, hids, _, hclaimable⟩ := hpossible
  have hstep (id : Nat) : (world.step (.claim token kinds limit leaseMs now ids)).claimed id =
      world.claimed id ++ world.recordsOf token ids id := rfl
  refine ⟨fun id next hnext => ?_, fun id hid => ?_, fun id => ?_, fun id record hrecord => ?_,
    fun id record hrecord => ?_, fun call hcall => ?_, ?_, fun id => ?_,
      fun call hcall claim hclaim => ?_⟩
  · obtain ⟨row, hrow, rfl⟩ := Option.map_eq_some_iff.mp hnext
    have hold := h.row id row hrow
    by_cases hid : id ∈ ids
    · obtain ⟨found, hfound, hroom⟩ := mem_claimable hclaimable hid
      cases hrow.symm.trans hfound
      rw [if_pos (by simpa [hold.key] using hid)]
      refine ⟨hold.key, hold.known, ?_, hroom, fun record hrecord => ?_, fun held hheld => ?_⟩
      · rw [hstep, recordsOf_of_mem hid hrow]
        simp [hold.attempts]
      · rw [hstep, recordsOf_of_mem hid hrow] at hrecord
        rcases List.mem_append.mp hrecord with hmem | hmem
        · exact hold.limit record hmem
        · cases List.mem_singleton.mp hmem
          rfl
      · rw [hstep, recordsOf_of_mem hid hrow, List.getLast?_concat]
        cases hheld
        rfl
    · rw [if_neg (by simpa [hold.key] using hid)]
      refine hold.congr le_rfl ?_
      rw [hstep, recordsOf_of_not_mem hid, List.append_nil]
  · have hunknown := h.unknown id hid
    refine ⟨?_, hunknown.2⟩
    rw [hstep, hunknown.1, List.nil_append, recordsOf]
    split
    · rename_i hmem
      obtain ⟨row, hrow, _⟩ := mem_claimable hclaimable hmem
      exact absurd (h.row id row hrow).known (not_le.mpr hid)
    · rfl
  · rw [hstep]
    by_cases hid : id ∈ ids
    · obtain ⟨row, hrow, _⟩ := mem_claimable hclaimable hid
      rw [recordsOf_of_mem hid hrow, List.map_append, h.counted, List.length_append,
        List.length_singleton, List.range'_concat, List.map_singleton, (h.row id row hrow).attempts,
        Nat.one_mul, Nat.add_comm]
    · rw [recordsOf_of_not_mem hid, List.append_nil]
      exact h.counted id
  · rw [hstep] at hrecord ⊢
    by_cases hid : id ∈ ids
    · obtain ⟨row, hrow, hroom⟩ := mem_claimable hclaimable hid
      have hold := h.row id row hrow
      rw [recordsOf_of_mem hid hrow] at hrecord ⊢
      have hlimit : record.maxAttempts = row.maxAttempts := by
        rcases List.mem_append.mp hrecord with hmem | hmem
        · exact hold.limit record hmem
        · cases List.mem_singleton.mp hmem
          rfl
      rw [List.length_append, ← hold.attempts, hlimit]
      exact hroom
    · rw [recordsOf_of_not_mem hid, List.append_nil] at hrecord ⊢
      exact h.limited id record hrecord
  · rw [hstep] at hrecord
    rcases List.mem_append.mp hrecord with hmem | hmem
    · exact List.mem_cons_of_mem _ (h.tokens id record hmem)
    · rw [recordsOf] at hmem
      split at hmem
      · obtain ⟨row, _, rfl⟩ := Option.map_eq_some_iff.mp (Option.mem_toList.mp hmem)
        exact List.mem_cons_self
      · cases hmem
  · rcases List.mem_cons.mp hcall with rfl | hold
    · exact ⟨List.mem_cons_self, hids⟩
    · exact ⟨List.mem_cons_of_mem _ (h.calls call hold).1, (h.calls call hold).2⟩
  · refine List.nodup_cons.mpr ⟨fun hmem => ?_, h.distinct⟩
    obtain ⟨call, hcall, rfl⟩ := List.mem_map.mp hmem
    exact htoken (h.calls call hcall).1
  · rw [hstep]
    exact (h.issued id).trans (List.sublist_append_left _ _)
  · rcases List.mem_cons.mp hcall with rfl | hold
    · -- The token of every issued claim was drawn before.
      rintro rfl
      have hrecord : claim.record ∈ world.claimed claim.task.id :=
        (h.issued claim.task.id).subset (List.mem_map_of_mem
          (List.mem_filter.mpr ⟨hclaim, by simp⟩))
      exact htoken (h.tokens _ _ hrecord)
    · exact h.unread call hold claim hclaim

theorem filter_readClaims {rows : DurableTaskTable}
    (hkeys : ∀ id row, rows id = some row → row.id = id)
    {ids : List Nat} (hids : ids.Nodup) (token : JsString) (id : Nat) :
    (readClaims rows ids token).filter (fun claim => claim.task.id = id) =
      if id ∈ ids then
        (((rows id).filter fun task => task.claimedBy = some token).map fun task =>
          (⟨task, token, task.attempts⟩ : DurableTaskClaim)).toList
      else [] := by
  induction ids with
  | nil => rfl
  | cons head rest ih =>
      rw [List.nodup_cons] at hids
      rw [readClaims, List.filterMap_cons]
      have hrest := ih hids.2
      rw [readClaims] at hrest
      cases hhead : (rows head).filter fun task => task.claimedBy = some token with
      | none =>
          rw [Option.map_none]
          dsimp only
          rw [hrest]
          by_cases hid : id = head
          · rw [hid, hhead, if_neg hids.1, if_pos List.mem_cons_self]
            rfl
          · simp [hid]
      | some task =>
          have hkey := hkeys head task (Option.filter_eq_some_iff.mp hhead).1
          rw [Option.map_some]
          dsimp only
          rw [List.filter_cons, hrest]
          by_cases hid : id = head
          · rw [hid, hhead, if_neg hids.1, if_pos List.mem_cons_self,
              if_pos (show decide (task.id = head) = true by simpa using hkey)]
            rfl
          · rw [if_neg (show ¬ decide (task.id = id) = true by simpa [hkey] using Ne.symm hid)]
            simp [hid]

theorem sublist_of_sublist_concat {α : Type} {part all : List α} {last : α}
    (h : part.Sublist (all ++ [last])) (hlast : last ∉ part) : part.Sublist all := by
  obtain ⟨front, back, rfl, hfront, hback⟩ := List.sublist_append_iff.mp h
  cases back with
  | nil => rwa [List.append_nil]
  | cons head rest =>
      have hhead := hback.subset List.mem_cons_self
      rw [List.mem_singleton] at hhead
      exact absurd (List.mem_append_right front (hhead ▸ List.mem_cons_self)) hlast

theorem Accounted.readBack (h : world.Accounted) {call : ClaimCall} (hcall : call ∈ world.calls) :
    (world.step (.readBack call)).Accounted := by
  have hissued (id : Nat) : (world.step (.readBack call)).issuedOf id =
      world.issuedOf id ++ if id ∈ call.ids then
        (((world.rows id).filter fun task => task.claimedBy = some call.token).map fun task =>
          (⟨task, call.token, task.attempts⟩ : DurableTaskClaim)).toList
      else [] := by
    rw [issuedOf, step, List.filter_append,
      filter_readClaims (fun id row hrow => (h.row id row hrow).key) (h.calls call hcall).2]
    rfl
  refine { h with
    row := fun id row hrow => (h.row id row hrow).congr le_rfl rfl
    unknown := fun id hid => ⟨(h.unknown id hid).1, ?_⟩
    calls := fun other hother => h.calls other (List.mem_of_mem_erase hother)
    distinct := h.distinct.sublist (List.erase_sublist.map _)
    issued := fun id => ?_
    unread := fun other hother claim hclaim => ?_ }
  · rw [hissued, (h.unknown id hid).2, List.nil_append]
    split
    · cases hrow : world.rows id with
      | none => rfl
      | some row => exact absurd (h.row id row hrow).known (not_le.mpr hid)
    · rfl
  · rw [hissued, List.map_append]
    split
    · cases htask : (world.rows id).filter fun task => task.claimedBy = some call.token with
      | none =>
          rw [Option.map_none, Option.toList_none, List.map_nil, List.append_nil]
          exact h.issued id
      | some task =>
          obtain ⟨hrow, hheld⟩ := Option.filter_eq_some_iff.mp htask
          have hlast := (h.row id task hrow).held call.token (by simpa using hheld)
          obtain ⟨earlier, hclaimed⟩ := List.getLast?_eq_some_iff.mp hlast
          have hold := h.issued id
          rw [hclaimed] at hold
          have hnew := sublist_of_sublist_concat hold fun hmem => by
            obtain ⟨claim, hclaim, hrecord⟩ := List.mem_map.mp hmem
            exact h.unread call hcall claim (List.mem_filter.mp hclaim).1
              (congrArg (·.token) hrecord)
          show List.Sublist _ (world.claimed id)
          rw [hclaimed]
          exact hnew.append (List.Sublist.refl _)
    · rw [List.map_nil, List.append_nil]
      exact h.issued id
  · have hne : other ≠ call ∧ other ∈ world.calls :=
      (h.distinct.of_map _).mem_erase_iff.mp hother
    rcases List.mem_append.mp hclaim with hold | hnew
    · exact h.unread other hne.2 claim hold
    · obtain ⟨id, _, hread⟩ := List.mem_filterMap.mp hnew
      obtain ⟨task, _, rfl⟩ := Option.map_eq_some_iff.mp hread
      intro htoken
      exact hne.1 (List.inj_on_of_nodup_map h.distinct hne.2 hcall htoken.symm)

theorem Accounted.step (h : world.Accounted) {event : TaskEvent}
    (hpossible : world.Possible event) :
    (world.step event).Accounted := by
  cases event with
  | create id definition payload token now => exact h.create hpossible
  | extendLease claim leaseMs now =>
      refine h.withRows fun id next hnext => updateWhere_keeps (fun row => ?_) id next hnext
      exact ⟨rfl, rfl, rfl, .inl rfl⟩
  | finish claim definition handled now backoffMs =>
      exact h.withRows (updateWhere_keeps (keeps_finishedRow claim _ now backoffMs))
  | sweep now =>
      refine h.withRows fun id next hnext => updateWhere_keeps (fun row => ?_) id next hnext
      exact ⟨rfl, rfl, rfl, .inr rfl⟩
  | claim token kinds limit leaseMs now ids => exact h.claim hpossible
  | readBack call => exact h.readBack hpossible
  | prune now ids => exact h.withRows pruneRows_keeps

/-! ## Fences, bounds and final states -/

theorem fenced_iff {claim : DurableTaskClaim} {row : DurableTaskRow} :
    fenced claim row = true ↔ row.id = claim.task.id ∧ row.state = .opened ∧
      row.claimedBy = some claim.claimedBy ∧ row.attempts = claim.attempt := by
  simp [fenced, and_assoc]

def Superseded (world : TaskWorld) (claim : DurableTaskClaim) : Prop :=
  ∃ before after, world.claimed claim.task.id = before ++ claim.record :: after ∧ after ≠ []

theorem Accounted.attempt_of_split (h : world.Accounted) {id : Nat}
    {before after : List ClaimRecord}
    {record : ClaimRecord} (hsplit : world.claimed id = before ++ record :: after) :
    record.attempt = before.length + 1 := by
  have hcounted := h.counted id
  have hget := congrArg (fun attempts => attempts[before.length]?) hcounted
  simp only [hsplit, List.map_append, List.map_cons] at hget
  rw [List.getElem?_append_right (by simp), List.getElem?_range' (by simp)] at hget
  simp only [List.length_map, Nat.sub_self, List.getElem?_cons_zero, Option.some.injEq] at hget
  omega

theorem Accounted.holdsFence_of_superseded (h : world.Accounted) {claim : DurableTaskClaim}
    (hsuperseded : world.Superseded claim) : holdsFence world.rows claim = false := by
  obtain ⟨before, after, hsplit, hafter⟩ := hsuperseded
  by_contra hholds
  obtain ⟨row, hrow, hfenced⟩ := (Option.any_eq_true _ _).mp (Bool.not_eq_false _ ▸ hholds)
  have ⟨_, _, _, hattempts⟩ := fenced_iff.mp hfenced
  have hcount := (h.row _ row hrow).attempts
  have hattempt : claim.attempt = before.length + 1 := h.attempt_of_split hsplit
  rw [hsplit, List.length_append, List.length_cons] at hcount
  have hsome := List.length_pos_iff.mpr hafter
  omega

theorem Accounted.updateWhere_fenced (h : world.Accounted) {claim : DurableTaskClaim}
    (hholds : holdsFence world.rows claim = false) (set : DurableTaskRow → DurableTaskRow) :
    updateWhere (fenced claim) set world.rows = world.rows := by
  funext id
  rw [updateWhere]
  cases hrow : world.rows id with
  | none => rfl
  | some row =>
      have hunfenced : fenced claim row = false := by
        by_contra hfenced
        rw [Bool.not_eq_false] at hfenced
        have hid : id = claim.task.id :=
          (h.row id row hrow).key.symm.trans (fenced_iff.mp hfenced).1
        rw [holdsFence, ← hid, hrow, Option.any_some, hfenced] at hholds
        cases hholds
      rw [Option.map_some, hunfenced]
      rfl

theorem Accounted.attempts_increase (h : world.Accounted) (id : Nat) :
    ((world.issuedOf id).map (·.attempt)).Pairwise (· < ·) := by
  have hsublist := (h.issued id).map (·.attempt)
  rw [List.map_map, h.counted id] at hsublist
  exact (List.pairwise_lt_range' 1).sublist hsublist

theorem Accounted.one_holder (h : world.Accounted) (id : Nat) :
    ((world.issuedOf id).filter (holdsFence world.rows)).length ≤ 1 := by
  have hnodup : (((world.issuedOf id).filter (holdsFence world.rows)).map (·.attempt)).Nodup :=
    ((h.attempts_increase id).sublist (List.filter_sublist.map _)).imp Nat.ne_of_lt
  -- A claim that can write holds the attempt of the row.
  have hattempt : ((world.issuedOf id).filter (holdsFence world.rows)).map (·.attempt) ⊆
      [((world.rows id).map (·.attempts)).getD 0] := by
    intro attempt hmem
    obtain ⟨claim, hclaim, rfl⟩ := List.mem_map.mp hmem
    obtain ⟨hissued, hholds⟩ := List.mem_filter.mp hclaim
    have hid : claim.task.id = id := by simpa using (List.mem_filter.mp hissued).2
    obtain ⟨row, hrow, hfenced⟩ := (Option.any_eq_true _ _).mp hholds
    rw [← hid, hrow, Option.map_some, Option.getD_some, (fenced_iff.mp hfenced).2.2.2]
    exact List.mem_singleton_self _
  have hlength := (hnodup.subperm hattempt).length_le
  rwa [List.length_map] at hlength

theorem Accounted.issued_bounded (h : world.Accounted) {claim : DurableTaskClaim}
    (hclaim : claim ∈ world.issued) :
    claim.record ∈ world.claimed claim.task.id ∧
      (world.issuedOf claim.task.id).length ≤ claim.task.maxAttempts := by
  have hrecord : claim.record ∈ world.claimed claim.task.id :=
    (h.issued _).subset (List.mem_map_of_mem (List.mem_filter.mpr ⟨hclaim, by simp⟩))
  have hlength := (h.issued claim.task.id).length_le
  rw [List.length_map] at hlength
  exact ⟨hrecord, hlength.trans (h.limited _ _ hrecord)⟩

/-- At every moment of the run. -/
structure FencedAndBounded (world : TaskWorld) : Prop where
  current : ∀ id, ((world.issuedOf id).filter (holdsFence world.rows)).length ≤ 1
  extend : ∀ claim ∈ world.issued, world.Superseded claim → ∀ leaseMs now,
    extendDurableTaskLease world.rows claim leaseMs now = (world.rows, false)
  finish : ∀ claim ∈ world.issued, world.Superseded claim → ∀ result now backoffMs,
    finishDurableTask world.rows claim result now backoffMs = (world.rows, .fenced)
  increasing : ∀ id, ((world.issuedOf id).map (·.attempt)).Pairwise (· < ·)
  bounded : ∀ claim ∈ world.issued, (world.issuedOf claim.task.id).length ≤ claim.task.maxAttempts

inductive LegalMove (world : TaskWorld) (event : TaskEvent) (row next : DurableTaskRow) : Prop
  | kept (hstate : next.state = row.state)
  | succeeded (claim : DurableTaskClaim) (definition : Option DurableTaskDefinition)
      (handled : Except TaskError Unit) (now : Int) (backoffMs : Nat → Int)
      (hevent : event = .finish claim definition handled now backoffMs)
      (hissued : claim ∈ world.issued)
      (hcurrent : fenced claim row = true) (hok : taskResult definition claim handled = .ok)
      (hopen : row.state = .opened) (hnext : next.state = .succeeded)
  | failed (claim : DurableTaskClaim) (definition : Option DurableTaskDefinition)
      (handled : Except TaskError Unit) (now : Int) (backoffMs : Nat → Int) (errorCode : JsString)
      (hevent : event = .finish claim definition handled now backoffMs)
      (hissued : claim ∈ world.issued)
      (hcurrent : fenced claim row = true)
      (hfailed : taskResult definition claim handled = .failed false errorCode)
      (hopen : row.state = .opened) (hnext : next.state = .needsAttention)
  | spent (hspent : row.maxAttempts ≤ row.attempts) (hopen : row.state = .opened)
      (hnext : next.state = .needsAttention)

structure LegalStep (world : TaskWorld) (event : TaskEvent) : Prop where
  moves : ∀ id row next, world.rows id = some row → (world.step event).rows id = some next →
    LegalMove world event row next
  deleted : ∀ id row, world.rows id = some row → (world.step event).rows id = none →
    row.state = .succeeded

theorem Accounted.fencedAndBounded (h : world.Accounted) : FencedAndBounded world where
  current := h.one_holder
  extend claim _ hsuperseded leaseMs now := by
    have hholds := h.holdsFence_of_superseded hsuperseded
    rw [extendDurableTaskLease, h.updateWhere_fenced hholds, hholds]
  finish claim _ hsuperseded result now backoffMs := by
    have hholds := h.holdsFence_of_superseded hsuperseded
    rw [finishDurableTask, h.updateWhere_fenced hholds, hholds, if_neg Bool.false_ne_true]
  increasing := h.attempts_increase
  bounded claim hclaim := (h.issued_bounded hclaim).2

theorem legalMove_of_updateWhere {event : TaskEvent} {condition : DurableTaskRow → Bool}
    {set : DurableTaskRow → DurableTaskRow} {id : Nat} {row next : DurableTaskRow}
    (hset : condition row = true → LegalMove world event row (set row))
    (hrow : world.rows id = some row)
    (hnext : updateWhere condition set world.rows id = some next) :
    LegalMove world event row next := by
  rw [updateWhere, hrow, Option.map_some] at hnext
  cases hnext
  split
  · exact hset ‹_›
  · exact .kept rfl

theorem Accounted.legalMove_finish (h : world.Accounted) {claim : DurableTaskClaim}
    {definition : Option DurableTaskDefinition} {handled : Except TaskError Unit} {now : Int}
    {backoffMs : Nat → Int} (hissued : claim ∈ world.issued) {row : DurableTaskRow} {id : Nat}
    (hrow : world.rows id = some row) (hfenced : fenced claim row = true) :
    LegalMove world (.finish claim definition handled now backoffMs) row
      (finishedRow claim (taskResult definition claim handled) now backoffMs row) := by
  have ⟨hid, hopen, _, hattempts⟩ := fenced_iff.mp hfenced
  cases hresult : taskResult definition claim handled with
  | ok =>
      exact .succeeded claim definition handled now backoffMs rfl hissued hfenced hresult hopen rfl
  | failed retryable errorCode =>
      rw [finishedRow]
      cases retryable with
      | false =>
          exact .failed claim definition handled now backoffMs errorCode rfl hissued hfenced
            hresult hopen
            rfl
      | true =>
          split
          · exact .kept rfl
          · rename_i hspent
            simp only [Bool.true_and, decide_eq_true_eq, not_lt] at hspent
            have hkey : claim.task.id = id := hid.symm.trans (h.row id row hrow).key
            have hlimit := (h.row id row hrow).limit claim.record
              (hkey ▸ (h.issued_bounded hissued).1)
            exact .spent (by rw [← hlimit, hattempts]; exact hspent) hopen rfl

theorem Accounted.legalStep (h : world.Accounted) {event : TaskEvent}
    (hpossible : world.Possible event) : LegalStep world event := by
  have hupdated {condition : DurableTaskRow → Bool} {set : DurableTaskRow → DurableTaskRow}
    {id : Nat}
      {row : DurableTaskRow} (hrow : world.rows id = some row) :
      updateWhere condition set world.rows id ≠ none := by
    rw [updateWhere, hrow]
    exact Option.some_ne_none _
  constructor
  · intro id row next hrow hnext
    cases event with
    | create newId definition payload token now =>
        have hold : id ≠ newId := ((h.row id row hrow).known.trans_lt hpossible.1).ne
        change (if id = newId then _ else world.rows id) = _ at hnext
        rw [if_neg hold, hrow] at hnext
        cases hnext
        exact .kept rfl
    | extendLease claim leaseMs now =>
        exact legalMove_of_updateWhere (fun _ => .kept rfl) hrow hnext
    | finish claim definition handled now backoffMs =>
        exact legalMove_of_updateWhere (h.legalMove_finish hpossible hrow) hrow hnext
    | sweep now =>
        refine legalMove_of_updateWhere (fun hspent => ?_) hrow hnext
        simp only [isSpent, Bool.and_eq_true, decide_eq_true_eq] at hspent
        exact .spent hspent.2 hspent.1.1 rfl
    | claim token kinds limit leaseMs now ids =>
        exact legalMove_of_updateWhere (fun _ => .kept rfl) hrow hnext
    | readBack call =>
        cases hrow.symm.trans hnext
        exact .kept rfl
    | prune now ids =>
        change (if id ∈ ids then none else world.rows id) = _ at hnext
        split at hnext
        · cases hnext
        · cases hrow.symm.trans hnext
          exact .kept rfl
  · intro id row hrow hnext
    cases event with
    | create newId definition payload token now =>
        change (if id = newId then _ else world.rows id) = _ at hnext
        split at hnext
        · cases hnext
        · cases hrow.symm.trans hnext
    | extendLease claim leaseMs now => exact absurd hnext (hupdated hrow)
    | finish claim definition handled now backoffMs => exact absurd hnext (hupdated hrow)
    | sweep now => exact absurd hnext (hupdated hrow)
    | claim token kinds limit leaseMs now ids => exact absurd hnext (hupdated hrow)
    | readBack call => cases hrow.symm.trans hnext
    | prune now ids =>
        change (if id ∈ ids then none else world.rows id) = _ at hnext
        split at hnext
        · rename_i hid
          have hprunable := hpossible.2 id hid
          rw [hrow, Option.any_some, isPrunable, Bool.and_eq_true, decide_eq_true_eq] at hprunable
          exact hprunable.1
        · cases hrow.symm.trans hnext

/-- In every run a task has at most one claim that can write, superseded claims write nothing,
claims are counted and bounded, and every step moves rows as the task's states allow. -/
theorem durable_tasks_fenced_and_bounded {events : List TaskEvent}
    (hrun : Admitted step Possible emptyWorld events) :
    FencedAndBounded (run step emptyWorld events) ∧
      ∀ before event, before ++ [event] <+: events →
        LegalStep (run step emptyWorld before) event := by
  have haccounted {inputs : List TaskEvent} (hinputs : Admitted step Possible emptyWorld inputs) :
      (run step emptyWorld inputs).Accounted :=
    hinputs.invariant Accounted (fun _ _ h hpossible => h.step hpossible) emptyWorld_accounted
  refine ⟨(haccounted hrun).fencedAndBounded, fun before event hstarts => ?_⟩
  obtain ⟨hbefore, hpossible⟩ := admitted_concat.mp (hrun.of_initial hstarts)
  exact (haccounted hbefore).legalStep hpossible

/-! ## A slow run beside its recovery -/

def mailDefinition : DurableTaskDefinition :=
  ⟨js "mail.send", 1, fun _ _ => .ok (), 10, 2, none, none, none⟩

def inlineClaim : DurableTaskClaim :=
  ⟨createdRow 1 mailDefinition .null (js "inline:1") 0, js "inline:1", 1⟩

/-- The inline run outlives its lease, a worker claims the task, and only the worker's result
counts. -/
def slowInlineRun : List TaskEvent :=
  [.create 1 mailDefinition .null (js "inline:1") 0, .claim (js "worker:1") [js "mail.send"]
    1 10 11 [1],
    .readBack ⟨js "worker:1", [1]⟩, .finish inlineClaim (some mailDefinition) (.ok ()) 12
      fun _ => 0]

theorem slowInlineRun_fenced :
    (run step emptyWorld slowInlineRun).Superseded inlineClaim ∧
      FencedAndBounded (run step emptyWorld slowInlineRun) := by
  refine ⟨⟨[], _, rfl, by decide⟩, (durable_tasks_fenced_and_bounded ?_).1⟩
  exact ⟨⟨by decide, by decide, by decide⟩,
    ⟨by decide, by decide, by decide, by decide⟩, List.mem_singleton_self _,
    List.mem_cons_self, trivial⟩

end TaskWorld

end Raft.DurableTasks
