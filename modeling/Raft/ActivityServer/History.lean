import Raft.Activity.Fold
import Raft.ActivityServer.Responses

/-!
# Runs of reconciles

Within an epoch the change log of a scope only grows, and the register of each
row moves from one logged item to the next with strictly rising versions.  The
relation `Follows` between two states of a scope says so; one reconcile
establishes it for every filter, and it composes along a run.
-/

namespace Raft.ActivityServer

open Raft.Foundation Raft.Activity

/-! ## Registers -/

def RowRecord.item : RowRecord → RowItem
  | .active rowVersion payload _ => .live (payload.toRow rowVersion)
  | .inactive rowVersion _ => .buried (UInt64String.ofNat rowVersion)

def Change.item : Change → Option RowItem
  | .upsert rowVersion payload => some (.live (payload.toRow rowVersion))
  | .tombstone _ rowVersion _ => some (.buried (UInt64String.ofNat rowVersion))
  | .scope _ => none

def itemsOf (rowId : RowId) (changes : List Change) : List RowItem :=
  (changes.filter fun change => change.rowId = some rowId).filterMap Change.item

def itemAt (rows : InsertionMap RowId RowRecord) (rowId : RowId) : Option RowItem :=
  (rows.get rowId).map RowRecord.item

theorem itemsOf_append (rowId : RowId) (first second : List Change) :
    itemsOf rowId (first ++ second) = itemsOf rowId first ++ itemsOf rowId second := by
  simp [itemsOf]

def Moves (before : Option RowItem) (items : List RowItem) (after : Option RowItem) : Prop :=
  (before.toList ++ items).IsChain (fun left right => left.rank < right.rank) ∧
    after = (before.toList ++ items).getLast?

theorem Moves.refl (held : Option RowItem) : Moves held [] held := by
  cases held with
  | none => exact ⟨List.isChain_nil, rfl⟩
  | some item => exact ⟨List.isChain_singleton item, rfl⟩

theorem Moves.trans {first second third : Option RowItem} {items more : List RowItem}
    (h : Moves first items second) (h' : Moves second more third) :
    Moves first (items ++ more) third := by
  obtain ⟨hchain, rfl⟩ := h
  obtain ⟨hmore, rfl⟩ := h'
  rw [Moves, ← List.append_assoc]
  cases hlast : (first.toList ++ items).getLast? with
  | none =>
      rw [hlast] at hmore
      rw [List.getLast?_eq_none_iff.mp hlast]
      exact ⟨hmore, rfl⟩
  | some last =>
      rw [hlast] at hmore
      refine ⟨List.isChain_append.mpr ⟨hchain, ?_, ?_⟩, ?_⟩
      · exact (List.isChain_append.mp hmore).2.1
      · intro left hleft right hright
        rw [hlast] at hleft
        cases hleft
        exact (List.isChain_append.mp hmore).2.2 last rfl right hright
      · rw [List.getLast?_append, List.getLast?_append, hlast]
        cases more.getLast? <;> rfl

theorem Moves.snoc {before held : Option RowItem} {items : List RowItem}
    (h : Moves before items held)
    (next : RowItem) (hrises : ∀ old, held = some old → old.rank < next.rank) :
    Moves before (items ++ [next]) (some next) := by
  refine h.trans ?_
  cases held with
  | none => exact ⟨List.isChain_singleton next, rfl⟩
  | some old => exact ⟨List.isChain_pair.mpr (hrises old rfl), rfl⟩

theorem Moves.last {before after : Option RowItem} {items : List RowItem}
    (h : Moves before items after) :
    after = items.getLast?.or before ∧
      ∀ old item, before = some old → items.getLast? = some item → old.rank < item.rank := by
  obtain ⟨hchain, rfl⟩ := h
  constructor
  · rw [List.getLast?_append]
    cases before <;> rfl
  · rintro old item rfl hlast
    have hpairwise := List.isChain_iff_pairwise.mp hchain
    exact List.rel_of_pairwise_cons hpairwise (List.mem_of_getLast? hlast)

/-! ## The row loops -/

/-- The pending changes account for every difference between the rows as read and as written. -/
def Tracks (rows : InsertionMap RowId RowRecord) (work : Reconciling) : Prop :=
  ∀ rowId, Moves (itemAt rows rowId) (itemsOf rowId work.pending) (itemAt work.rows rowId)

def Filed (rows : InsertionMap RowId RowRecord) : Prop :=
  ∀ rowId rowVersion payload payloadDigest,
    rows.get rowId = some (.active rowVersion payload payloadDigest) → payload.rowId = rowId

structure Bounded (principalVersion : Nat) (authorities : RowId → Option RowAuthority)
    (rows : InsertionMap RowId RowRecord) : Prop where
  authority : ∀ rowId authority, authorities rowId = some authority →
    authority.lastVersion ≤ principalVersion
  row : ∀ rowId record, rows.get rowId = some record → record.rowVersion ≤ principalVersion

structure Sound (rows : InsertionMap RowId RowRecord) (work : Reconciling) : Prop where
  tracks : Tracks rows work
  filed : Filed work.rows
  bounded : Bounded work.principalVersion work.authorities work.rows

section

variable {rows : InsertionMap RowId RowRecord} {work : Reconciling}

theorem rank_lt_of_rowVersion_lt {first second : RowRecord}
    (h : first.rowVersion < second.rowVersion) : first.item.rank < second.item.rank := by
  cases first <;> cases second <;>
    simp only [RowRecord.rowVersion] at h <;>
    simp only [RowRecord.item, RowItem.rank, ActivityRowPayload.rowVersion_toRow,
      UInt64String.value_ofNat] <;>
    omega

theorem Sound.write (h : Sound rows work) {rowId : RowId} {record : RowRecord} {change : Change}
    (hrowId : change.rowId = some rowId) (hitem : change.item = some record.item)
    (hfiled : ∀ rowVersion payload payloadDigest,
      record = .active rowVersion payload payloadDigest → payload.rowId = rowId)
    (hbound : record.rowVersion ≤ work.principalVersion)
    (hrises : ∀ old, work.rows.get rowId = some old → old.rowVersion < record.rowVersion) :
    Sound rows { work with
      rows := work.rows.set rowId record
      pending := work.pending ++ [change] } := by
  refine ⟨?_, ?_, h.bounded.authority, ?_⟩
  · intro other
    have hbefore := h.tracks other
    simp only [itemsOf_append, itemAt, InsertionMap.get_set]
    by_cases hother : other = rowId
    · subst hother
      have hitems : itemsOf other [change] = [record.item] := by simp [itemsOf, hrowId, hitem]
      rw [hitems, if_pos rfl]
      refine hbefore.snoc record.item fun old hold => ?_
      obtain ⟨oldRecord, hget, rfl⟩ := Option.map_eq_some_iff.mp hold
      exact rank_lt_of_rowVersion_lt (hrises oldRecord hget)
    · have hne : change.rowId ≠ some other := by
        rw [hrowId]
        exact fun heq => hother (Option.some.inj heq).symm
      have hitems : itemsOf other [change] = [] := by simp [itemsOf, hne]
      rw [hitems, if_neg hother, List.append_nil]
      exact hbefore
  · intro other rowVersion payload payloadDigest hget
    rw [InsertionMap.get_set] at hget
    by_cases hother : other = rowId
    · subst hother
      rw [if_pos rfl] at hget
      exact hfiled rowVersion payload payloadDigest (Option.some.inj hget)
    · rw [if_neg hother] at hget
      exact h.filed other rowVersion payload payloadDigest hget
  · intro other found hget
    rw [InsertionMap.get_set] at hget
    by_cases hother : other = rowId
    · rw [if_pos hother] at hget
      cases hget
      exact hbound
    · rw [if_neg hother] at hget
      exact h.bounded.row other found hget

theorem Sound.issueVersion (h : Sound rows work) (rowId : RowId) (payloadDigest : Option JsString) :
    Sound rows (work.issueVersion rowId payloadDigest) ∧
      ∀ other old, work.rows.get other = some old →
        old.rowVersion < (work.issueVersion rowId payloadDigest).principalVersion := by
  have habove : ∀ version, version ≤ work.principalVersion →
      version < (work.issueVersion rowId payloadDigest).principalVersion :=
    fun version hversion => Nat.lt_succ_of_le hversion
  refine ⟨⟨h.tracks, h.filed, ?_, fun other record hget => ?_⟩, fun other old hget => ?_⟩
  · intro other authority hauthority
    simp only [Reconciling.issueVersion, Function.update_apply] at hauthority
    split at hauthority
    · cases hauthority
      exact le_refl _
    · exact (habove _ (h.bounded.authority other authority hauthority)).le
  · exact (habove _ (h.bounded.row other record hget)).le
  · exact habove _ (h.bounded.row other old hget)

theorem Sound.buryRow (h : Sound rows work) (reasons : RowId → TombstoneReason) (rowId : RowId) :
    Sound rows (buryRow reasons work rowId) := by
  obtain ⟨hissued, hrises⟩ := h.issueVersion rowId none
  refine hissued.write rfl rfl ?_ (le_refl _) fun old hget => hrises rowId old hget
  intro rowVersion payload payloadDigest heq
  cases heq

theorem reusableVersion_spec {authority : Option RowAuthority} {current : Option RowRecord}
    {payloadDigest : JsString} {rowVersion : Nat}
    (h : reusableVersion authority current payloadDigest = some rowVersion) :
    (∃ found, authority = some found ∧ found.payloadDigest = some payloadDigest ∧
      found.lastVersion = rowVersion) ∧
      ∀ old, current = some old → old.rowVersion < rowVersion := by
  cases authority with
  | none => cases h
  | some authority =>
      obtain ⟨hreuse, heq⟩ := Option.ite_none_right_eq_some.mp h
      simp only [Bool.and_eq_true, decide_eq_true_eq] at hreuse
      refine ⟨⟨authority, rfl, hreuse.1.2, Option.some.inj heq⟩, ?_⟩
      rintro old rfl
      simp only [decide_eq_true_eq] at hreuse
      exact lt_of_lt_of_eq hreuse.2 (Option.some.inj heq)

theorem Sound.reconcileRow (h : Sound rows work) (digest : JsValue → JsString)
    {before : Reconciling} {payload : ActivityRowPayload}
    (hauthorities : ∀ rowId authority, before.authorities rowId = some authority →
      authority.lastVersion ≤ work.principalVersion)
    (hcurrent : work.rows.get payload.rowId = before.rows.get payload.rowId) :
    Sound rows (reconcileRow digest before work payload) := by
  have hfiled : ∀ version rowVersion other payloadDigest,
      RowRecord.active version payload (digest (.object payload.fields)) =
        .active rowVersion other payloadDigest → other.rowId = payload.rowId := by
    intro version rowVersion other payloadDigest heq
    cases heq
    rfl
  simp only [ActivityServer.reconcileRow]
  split
  · exact h
  · split
    · rename_i rowVersion hreuse
      obtain ⟨⟨authority, hauthority, -, rfl⟩, hrises⟩ := reusableVersion_spec hreuse
      refine h.write rfl rfl (hfiled _) (hauthorities _ authority hauthority) fun old hold => ?_
      exact hrises old (hcurrent ▸ hold)
    · obtain ⟨hissued, hrises⟩ := h.issueVersion payload.rowId
        (some (digest (.object payload.fields)))
      exact hissued.write rfl rfl (hfiled _) (le_refl _) fun old hget => hrises _ old hget

theorem reconcileRow_frame (digest : JsValue → JsString) (before work : Reconciling)
    (payload : ActivityRowPayload) :
    work.principalVersion ≤ (reconcileRow digest before work payload).principalVersion ∧
      ∀ other, other ≠ payload.rowId →
        (reconcileRow digest before work payload).rows.get other = work.rows.get other := by
  simp only [reconcileRow]
  split
  · exact ⟨le_refl _, fun _ _ => rfl⟩
  · split
    · exact ⟨le_refl _, fun other hne => work.rows.get_set_of_ne _ hne⟩
    · exact ⟨Nat.le_succ _, fun other hne => work.rows.get_set_of_ne _ hne⟩

theorem Sound.foldl_reconcileRow (h : Sound rows work) (digest : JsValue → JsString)
    {before : Reconciling} {payloads : List ActivityRowPayload}
    (hdistinct : (payloads.map ActivityRowPayload.rowId).Nodup)
    (hauthorities : ∀ rowId authority, before.authorities rowId = some authority →
      authority.lastVersion ≤ work.principalVersion)
    (hcurrent : ∀ payload ∈ payloads,
      work.rows.get payload.rowId = before.rows.get payload.rowId) :
    Sound rows (payloads.foldl (ActivityServer.reconcileRow digest before) work) := by
  induction payloads generalizing work with
  | nil => exact h
  | cons payload payloads ih =>
      rw [List.map_cons, List.nodup_cons] at hdistinct
      obtain ⟨hversion, hframe⟩ := reconcileRow_frame digest before work payload
      refine ih (h.reconcileRow digest hauthorities (hcurrent payload List.mem_cons_self))
        hdistinct.2 ?_ ?_
      · intro rowId authority hauthority
        exact le_trans (hauthorities rowId authority hauthority) hversion
      · intro other hother
        have hne : other.rowId ≠ payload.rowId := fun heq =>
          hdistinct.1 (heq ▸ List.mem_map_of_mem hother)
        rw [hframe other.rowId hne]
        exact hcurrent other (List.mem_cons_of_mem _ hother)

theorem Sound.foldl_buryRow (h : Sound rows work) (reasons : RowId → TombstoneReason)
    (rowIds : List RowId) :
    Sound rows (rowIds.foldl (ActivityServer.buryRow reasons) work) := by
  induction rowIds generalizing work with
  | nil => exact h
  | cons rowId rowIds ih => exact ih (h.buryRow reasons rowId)

end

/-! ## Scopes -/

theorem numbered_append (watermark : Nat) (first second : List Change) :
    numbered watermark (first ++ second) =
      numbered watermark first ++ numbered (watermark + first.length) second := by
  rw [numbered, List.zipIdx_append, List.map_append, numbered, numbered, Nat.add_right_comm]

theorem map_change_numbered (watermark : Nat) (changes : List Change) :
    (numbered watermark changes).map LoggedChange.change = changes := by
  rw [numbered, List.map_map]
  exact List.zipIdx_map_fst _ _

def Dense (scope : ScopeTables) : Prop :=
  ∃ changes, scope.changes = numbered 0 changes ∧ scope.watermark = changes.length

structure ScopeSound (principalVersion : Nat) (scope : ScopeTables) : Prop where
  filed : Filed scope.rows
  row : ∀ rowId record, scope.rows.get rowId = some record → record.rowVersion ≤ principalVersion
  dense : Dense scope

structure TablesSound (tables : ActivityTables) : Prop where
  authority : ∀ rowId authority, tables.authorities rowId = some authority →
    authority.lastVersion ≤ tables.principalVersion
  scope : ∀ filter, ScopeSound tables.principalVersion (tables.scopes filter)

/-- The second state has logged the changes that lead from the first one to it. -/
def Extends (first second : ScopeTables) : Prop :=
  ∃ changes : List Change,
    second.changes = first.changes ++ numbered first.watermark changes ∧
      second.watermark = first.watermark + changes.length ∧
      (∀ rowId, Moves (itemAt first.rows rowId) (itemsOf rowId changes)
        (itemAt second.rows rowId)) ∧
      (changes = [] → second.metadata = first.metadata)

theorem Extends.refl (scope : ScopeTables) : Extends scope scope :=
  ⟨[], by simp [numbered], rfl, fun _ => Moves.refl _, fun _ => rfl⟩

theorem Extends.trans {first second third : ScopeTables} (h : Extends first second)
    (h' : Extends second third) : Extends first third := by
  obtain ⟨changes, hlog, hwatermark, hmoves, hmetadata⟩ := h
  obtain ⟨changes', hlog', hwatermark', hmoves', hmetadata'⟩ := h'
  refine ⟨changes ++ changes', ?_, ?_, fun rowId => ?_, fun hnil => ?_⟩
  · rw [hlog', hlog, hwatermark, numbered_append, List.append_assoc]
  · rw [hwatermark', hwatermark, List.length_append, Nat.add_assoc]
  · rw [itemsOf_append]
    exact (hmoves rowId).trans (hmoves' rowId)
  · obtain ⟨hfirst, hsecond⟩ := List.append_eq_nil_iff.mp hnil
    exact (hmetadata' hsecond).trans (hmetadata hfirst)

theorem Extends.of_le {first second : ScopeTables} (h : Extends second first)
    (hle : first.watermark ≤ second.watermark) : Extends first second := by
  obtain ⟨changes, hlog, hwatermark, hmoves, hmetadata⟩ := h
  obtain rfl : changes = [] := List.length_eq_zero_iff.mp (by omega)
  refine ⟨[], ?_, ?_, fun rowId => ?_, fun _ => (hmetadata rfl).symm⟩
  · simpa [numbered] using hlog.symm
  · simpa using hwatermark.symm
  · have hitem : itemAt first.rows rowId = itemAt second.rows rowId := by
      simpa [itemsOf] using (hmoves rowId).last.1
    rw [hitem]
    exact Moves.refl _

def Follows (first second : ScopeTables) : Prop :=
  first.epoch ≤ second.epoch ∧ (first.epoch = second.epoch → Extends first second)

theorem Follows.refl (scope : ScopeTables) : Follows scope scope :=
  ⟨le_refl _, fun _ => Extends.refl scope⟩

theorem Follows.trans {first second third : ScopeTables} (h : Follows first second)
    (h' : Follows second third) : Follows first third := by
  refine ⟨le_trans h.1 h'.1, fun heq => ?_⟩
  have hmiddle : first.epoch = second.epoch := le_antisymm h.1 (heq ▸ h'.1)
  exact (h.2 hmiddle).trans (h'.2 (hmiddle ▸ heq))

section

variable {scope : ScopeTables} {input : ReconcileInput} {work : Reconciling}

theorem itemsOf_pendingChanges (digest : JsValue → JsString) (rowId : RowId) :
    itemsOf rowId (pendingChanges digest scope input work) = itemsOf rowId work.pending := by
  simp only [pendingChanges]
  split
  · rw [itemsOf_append]
    exact List.append_nil _
  · rfl

theorem extends_logChanges {rows : InsertionMap RowId RowRecord} {pending : List Change}
    {scopeDigest : JsString} {metadata : ScopeMetadata}
    (hmoves : ∀ rowId, Moves (itemAt scope.rows rowId) (itemsOf rowId pending)
      (itemAt rows rowId)) :
    Extends scope (logChanges { scope with rows } pending scopeDigest metadata) := by
  rw [logChanges]
  split
  · rename_i hnil
    exact ⟨[], by simp [numbered], rfl, hnil ▸ hmoves, fun _ => rfl⟩
  · rename_i hne
    exact ⟨pending, rfl, rfl, hmoves, fun hnil => absurd hnil hne⟩

theorem dense_logChanges (h : Dense scope) (pending : List Change) (scopeDigest : JsString)
    (metadata : ScopeMetadata) : Dense (logChanges scope pending scopeDigest metadata) := by
  obtain ⟨changes, hlog, hwatermark⟩ := h
  rw [logChanges]
  split
  · exact ⟨changes, hlog, hwatermark⟩
  · refine ⟨changes ++ pending, ?_, ?_⟩
    · rw [numbered_append, Nat.zero_add, ← hlog, ← hwatermark]
    · simp [hwatermark]

@[simp] theorem rows_logChanges (pending : List Change) (scopeDigest : JsString)
    (metadata : ScopeMetadata) :
    (logChanges scope pending scopeDigest metadata).rows = scope.rows := by
  rw [logChanges]
  split <;> rfl

@[simp] theorem epoch_logChanges (pending : List Change) (scopeDigest : JsString)
    (metadata : ScopeMetadata) :
    (logChanges scope pending scopeDigest metadata).epoch = scope.epoch := by
  rw [logChanges]
  split <;> rfl

theorem reconcileScope_sound {principalVersion : Nat} (digest : JsValue → JsString)
    (input : ReconcileInput) (hscope : ScopeSound principalVersion scope)
    (hwork : Sound scope.rows work) :
    ScopeSound work.principalVersion (reconcileScope digest scope input work) ∧
      Follows scope (reconcileScope digest scope input work) := by
  simp only [reconcileScope]
  cases hrolls : rollsOver scope (pendingChanges digest scope input work) with
  | false =>
      have hdense : Dense { scope with rows := work.rows } := hscope.dense
      simp only [Bool.false_eq_true, if_false]
      refine ⟨⟨?_, ?_, ?_⟩, ?_, fun _ => ?_⟩
      · rw [rows_logChanges]
        exact hwork.filed
      · rw [rows_logChanges]
        exact hwork.bounded.row
      · exact dense_logChanges hdense _ _ _
      · rw [epoch_logChanges]
      · apply extends_logChanges
        intro rowId
        rw [itemsOf_pendingChanges]
        exact hwork.tracks rowId
  | true =>
      simp only [if_true]
      refine ⟨⟨?_, ?_, ?_⟩, ?_, fun heq => ?_⟩
      · intro rowId rowVersion payload payloadDigest hget
        rw [rows_logChanges, rollover, InsertionMap.get_filter] at hget
        exact hwork.filed rowId rowVersion payload payloadDigest
          (Option.filter_eq_some_iff.mp hget).1
      · intro rowId record hget
        rw [rows_logChanges, rollover, InsertionMap.get_filter] at hget
        exact hwork.bounded.row rowId record (Option.filter_eq_some_iff.mp hget).1
      · exact dense_logChanges ⟨[], rfl, rfl⟩ _ _ _
      · rw [epoch_logChanges]
        exact Nat.le_succ _
      · rw [epoch_logChanges] at heq
        exact absurd heq (Nat.succ_ne_self _).symm

end

/-! ## Steps and runs -/

theorem reconcileRows_sound (digest : JsValue → JsString) {tables : ActivityTables}
    (h : TablesSound tables) (input : ReconcileInput) :
    Sound (tables.scopes input.filter).rows (reconcileRows digest tables input) := by
  have hscope := h.scope input.filter
  have hstart : Sound (tables.scopes input.filter).rows (startReconciling tables input.filter) :=
    ⟨fun _ => Moves.refl _, hscope.filed, h.authority, hscope.row⟩
  exact (hstart.foldl_reconcileRow digest input.canonical.distinct h.authority
    fun _ _ => rfl).foldl_buryRow _ _

theorem principalVersion_le_reconcileRows (digest : JsValue → JsString) (tables : ActivityTables)
    (input : ReconcileInput) :
    tables.principalVersion ≤ (reconcileRows digest tables input).principalVersion := by
  have hstart : tables.principalVersion ≤
      (startReconciling tables input.filter).principalVersion := le_refl _
  let AtLeast (work : Reconciling) : Prop := tables.principalVersion ≤ work.principalVersion
  have hrows := run_invariant AtLeast
    input.canonical.rows
    (fun work payload h => le_trans h
      (reconcileRow_frame digest (startReconciling tables input.filter) work payload).1)
    hstart
  exact run_invariant AtLeast _ (fun _ _ h => le_trans h (Nat.le_succ _)) hrows

theorem reconcile_step (digest : JsValue → JsString) {tables : ActivityTables}
    (h : TablesSound tables) (input : ReconcileInput) :
    TablesSound (reconcileInTransaction digest tables input) ∧
      ∀ filter, Follows (tables.scopes filter)
        ((reconcileInTransaction digest tables input).scopes filter) := by
  have hwork := reconcileRows_sound digest h input
  have hversion := principalVersion_le_reconcileRows digest tables input
  obtain ⟨hscope, hfollows⟩ :=
    reconcileScope_sound digest input (h.scope input.filter) hwork
  refine ⟨⟨hwork.bounded.authority, fun filter => ?_⟩, fun filter => ?_⟩
  · by_cases hfilter : filter = input.filter
    · subst hfilter
      simpa [reconcileInTransaction] using hscope
    · have hold := h.scope filter
      simp only [reconcileInTransaction, Function.update_of_ne hfilter]
      exact ⟨hold.filed, fun rowId record hget =>
        le_trans (hold.row rowId record hget) hversion, hold.dense⟩
  · by_cases hfilter : filter = input.filter
    · subst hfilter
      simpa [reconcileInTransaction] using hfollows
    · simp only [reconcileInTransaction, Function.update_of_ne hfilter]
      exact Follows.refl _

theorem tablesSound_initial : TablesSound {} := by
  refine ⟨?_, fun _ => ⟨?_, ?_, [], rfl, rfl⟩⟩
  · intro rowId authority h
    cases h
  · intro rowId rowVersion payload payloadDigest h
    cases h
  · intro rowId record h
    cases h

theorem tablesSound_run (digest : JsValue → JsString) {tables : ActivityTables}
    (h : TablesSound tables) (inputs : List ReconcileInput) :
    TablesSound (run (reconcileInTransaction digest) tables inputs) :=
  run_invariant TablesSound inputs (fun _ input h => (reconcile_step digest h input).1) h

theorem follows_run (digest : JsValue → JsString) {tables : ActivityTables}
    (h : TablesSound tables) (inputs : List ReconcileInput) (filter : ActivityFilter) :
    Follows (tables.scopes filter)
      ((run (reconcileInTransaction digest) tables inputs).scopes filter) := by
  have hrun : Admitted (reconcileInTransaction digest) (fun _ _ => True) tables inputs :=
    admitted_of_forall fun _ _ _ => trivial
  refine hrun.chain TablesSound
    (fun first second => Follows (first.scopes filter) (second.scopes filter))
    (fun _ => Follows.refl _) Follows.trans ?_ h
  exact fun _ input hsound _ =>
    ⟨(reconcile_step digest hsound input).1, (reconcile_step digest hsound input).2 filter⟩

/-! ## Answers -/

theorem map_seq_numbered (watermark : Nat) (changes : List Change) :
    (numbered watermark changes).map LoggedChange.seq =
      List.range' (watermark + 1) changes.length := by
  rw [numbered, List.map_map]
  exact List.zipIdx_map_snd _ _

theorem seq_of_mem_numbered {watermark : Nat} {changes : List Change} {logged : LoggedChange}
    (h : logged ∈ numbered watermark changes) :
    watermark < logged.seq ∧ logged.seq ≤ watermark + changes.length := by
  have hseq : logged.seq ∈ (numbered watermark changes).map LoggedChange.seq :=
    List.mem_map_of_mem h
  rw [map_seq_numbered, List.mem_range'_1] at hseq
  omega

theorem sorted_numbered (watermark : Nat) (changes : List Change) :
    (numbered watermark changes).Pairwise fun left right => left.seq ≤ right.seq := by
  have hsorted : ((numbered watermark changes).map LoggedChange.seq).Pairwise (· < ·) := by
    rw [map_seq_numbered]
    exact List.pairwise_lt_range'
  exact (List.pairwise_map.mp hsorted).imp le_of_lt

theorem changesAfter_numbered {scope : ScopeTables} {first second : List Change}
    (h : scope.changes = numbered 0 (first ++ second)) :
    changesAfter scope first.length = numbered first.length second := by
  have hfirst : (numbered 0 first).filter (fun logged => first.length < logged.seq) = [] := by
    rw [List.filter_eq_nil_iff]
    intro logged hlogged
    have hseq := seq_of_mem_numbered hlogged
    rw [decide_eq_true_eq]
    omega
  have hsecond : (numbered first.length second).filter
      (fun logged => first.length < logged.seq) = numbered first.length second := by
    rw [List.filter_eq_self]
    intro logged hlogged
    rw [decide_eq_true_eq]
    exact (seq_of_mem_numbered hlogged).1
  rw [changesAfter, h, numbered_append, Nat.zero_add, List.filter_append, hfirst, hsecond,
    List.nil_append]
  exact (sorted_numbered _ _).insertionSort_eq

/-- On a dense log the answer depends on epoch and position only; a page starts right after the
requested position. -/
theorem differenceAnswer_of_dense (localeCompare : JsString → JsString → Int) (caller : Caller)
    (filter : ActivityFilter) {scope : ScopeTables} {changes : List Change}
    (hlog : scope.changes = numbered 0 changes) (hwatermark : scope.watermark = changes.length)
    (requestedEpoch after : Nat) :
    differenceAnswer localeCompare caller filter scope requestedEpoch after =
      if requestedEpoch ≠ scope.epoch ∨ scope.watermark < after then
        .conflict (snapshotRequiredJson caller filter scope)
      else if after = scope.watermark then .ok (notModifiedJson caller filter scope)
      else .ok (differenceJson caller filter scope after
        (latestByRow (numbered after (changes.drop after))).values
        (materializeWindow localeCompare scope).metadata) := by
  simp only [differenceAnswer, Nat.lt_one_iff, Nat.add_eq_zero_iff,
    one_ne_zero, and_false, decide_false, Bool.and_false, Bool.or_false, Bool.or_eq_true,
    decide_eq_true_eq]
  split
  · rfl
  · rename_i haccepted
    split
    · rfl
    · rename_i hne
      have hafter : after < changes.length := by
        rw [← hwatermark]
        omega
      have hlength : (changes.take after).length = after := List.length_take_of_le hafter.le
      have hpage : changesAfter scope after = numbered after (changes.drop after) := by
        rw [← List.take_append_drop after changes] at hlog
        have hnumbered := changesAfter_numbered hlog
        rwa [hlength] at hnumbered
      have hhead : (numbered after (changes.drop after)).head? =
          some ⟨after + 1, changes[after]⟩ := by
        rw [List.drop_eq_getElem_cons hafter]
        rfl
      rw [hpage, hhead]
      simp

end Raft.ActivityServer
