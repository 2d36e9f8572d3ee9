import Raft.ActivityServer.Versions
import Raft.Foundation.CanonicalJson
import Raft.Foundation.JsText

/-!
# Versions, logs and repeated reconciles over a run

What a run of reconciles leaves behind: the writes of all scopes name one item
for each row and version, the log of a scope is dense and bounded, and a window
that has been reconciled is not reconciled again.
-/

namespace Raft.ActivityServer

open Raft.Foundation Raft.Activity

/-! ## Digests -/

section Digest

-- SHA-256 in hexadecimal, `JSON.stringify` of a number, `String.prototype.localeCompare`
variable (sha256 : JsString → JsString) (numberText : JsNumber → JsString)
  (localeCompare : JsString → JsString → Int)

def canonicalJson (value : JsValue) : JsString :=
  canonicalText numberText (fun left right => localeCompare left right ≤ 0) value

def digest (value : JsValue) : JsString := sha256 (canonicalJson numberText localeCompare value)

end Digest

/-! ## The writes of a run -/

section Runs

variable {digest : JsValue → JsString}

theorem tablesLedger_initial : TablesLedger digest {} [] := VersionLedger.initial

theorem TablesLedger.run {tables : ActivityTables} {writes : List RowWrite}
    (h : TablesLedger digest tables writes) (inputs : List ReconcileInput) :
    TablesLedger digest (run (reconcileInTransaction digest) tables inputs)
      (writes ++ runWrites digest tables inputs) := by
  induction inputs generalizing tables writes with
  | nil => rwa [run_nil, runWrites, List.append_nil]
  | cons input inputs ih =>
      rw [run_cons, runWrites, ← List.append_assoc]
      exact ih (h.reconcile input)

def Upserts (payloads : List ActivityRowPayload) (work : Reconciling) : Prop :=
  ∀ rowVersion payload, Change.upsert rowVersion payload ∈ work.pending → payload ∈ payloads

theorem upserts_reconcileRow {payloads : List ActivityRowPayload} {before work : Reconciling}
    (h : Upserts payloads work) {payload : ActivityRowPayload} (hmem : payload ∈ payloads) :
    Upserts payloads (reconcileRow digest before work payload) := by
  have hwritten (issued : Reconciling) (hissued : Upserts payloads issued)
      (payloadDigest : JsString) (version : Nat) :
      Upserts payloads (issued.writeActive payload payloadDigest version) := by
    intro rowVersion other hother
    rw [Reconciling.writeActive, List.mem_append, List.mem_singleton] at hother
    rcases hother with hother | heq
    · exact hissued rowVersion other hother
    · cases heq
      exact hmem
  simp only [reconcileRow]
  split
  · exact h
  · split
    · exact hwritten work h (digest (.object payload.fields)) _
    · exact hwritten (work.issueVersion payload.rowId (some (digest (.object payload.fields)))) h
        (digest (.object payload.fields)) _

theorem upserts_reconcileRows (tables : ActivityTables) (input : ReconcileInput) :
    Upserts input.canonical.rows (reconcileRows digest tables input) := by
  have hstart : Upserts input.canonical.rows (startReconciling tables input.filter) := nofun
  have hrows := List.foldlRecOn input.canonical.rows
    (reconcileRow digest (startReconciling tables input.filter)) hstart
    fun _ hwork _ hmem => upserts_reconcileRow hwork hmem
  refine List.foldlRecOn _ _ hrows fun work hwork rowId _ rowVersion payload hupsert => ?_
  rw [buryRow, Reconciling.writeInactive, List.mem_append, List.mem_singleton] at hupsert
  rcases hupsert with hupsert | heq
  · exact hwork rowVersion payload hupsert
  · cases heq

theorem payload_of_mem_runWrites {tables : ActivityTables} {inputs : List ReconcileInput}
    {write : RowWrite} (h : write ∈ runWrites digest tables inputs)
    {payload : ActivityRowPayload} (hitem : write.item = .upserted payload) :
    ∃ input ∈ inputs, payload ∈ input.canonical.rows := by
  induction inputs generalizing tables with
  | nil => cases h
  | cons input inputs ih =>
      rw [runWrites, List.mem_append] at h
      rcases h with hstep | hrest
      · obtain ⟨change, hchange, hwrite⟩ := List.mem_filterMap.mp hstep
        cases change with
        | upsert rowVersion other =>
            cases hwrite
            cases hitem
            exact ⟨input, List.mem_cons_self,
              upserts_reconcileRows tables input rowVersion payload hchange⟩
        | tombstone rowId rowVersion reason =>
            cases hwrite
            cases hitem
        | scope metadata => cases hwrite
      · obtain ⟨later, hlater, hmem⟩ := ih hrest
        exact ⟨later, List.mem_cons_of_mem _ hlater, hmem⟩

/-! ## The log -/

theorem filterMap_pendingChanges (scope : ScopeTables) (input : ReconcileInput)
    (work : Reconciling) (filter : ActivityFilter) :
    (pendingChanges digest scope input work).filterMap (Change.write filter) =
      work.pending.filterMap (Change.write filter) := by
  simp only [pendingChanges]
  split
  · rw [List.filterMap_append]
    exact List.append_nil _
  · rfl

theorem changes_logChanges (scope : ScopeTables) (pending : List Change) (scopeDigest : JsString)
    (metadata : ScopeMetadata) :
    (logChanges scope pending scopeDigest metadata).changes =
      scope.changes ++ numbered scope.watermark pending := by
  rw [logChanges]
  split
  · next hnil =>
      rw [hnil, numbered, List.zipIdx_nil, List.map_nil, List.append_nil]
  · rfl

theorem changes_reconcileScope (scope : ScopeTables) (input : ReconcileInput)
    (work : Reconciling) :
    (reconcileScope digest scope input work).changes =
      if rollsOver scope (pendingChanges digest scope input work) then
        numbered 0 (pendingChanges digest scope input work)
      else scope.changes ++ numbered scope.watermark (pendingChanges digest scope input work) := by
  simp only [reconcileScope]
  rw [changes_logChanges]
  split <;> rfl

theorem length_numbered (watermark : Nat) (pending : List Change) :
    (numbered watermark pending).length = pending.length := by
  rw [numbered, List.length_map, List.length_zipIdx]

/-- What the last rollover of the scope left in its log: the effects of that one reconcile. -/
def RolledOver (digest : JsValue → JsString) (inputs : List ReconcileInput)
    (filter : ActivityFilter) (changes : List LoggedChange) : Prop :=
  ∃ before input after, inputs = before ++ input :: after ∧ input.filter = filter ∧
    let tables := run (reconcileInTransaction digest) {} before
    let pending := pendingChanges digest (tables.scopes filter) input
      (reconcileRows digest tables input)
    rollsOver (tables.scopes filter) pending = true ∧ changes = numbered 0 pending

theorem RolledOver.snoc {inputs : List ReconcileInput} {filter : ActivityFilter}
    {changes : List LoggedChange} (h : RolledOver digest inputs filter changes)
    (input : ReconcileInput) : RolledOver digest (inputs ++ [input]) filter changes := by
  obtain ⟨before, rolled, after, rfl, hfilter, hchanges⟩ := h
  exact ⟨before, rolled, after ++ [input], by simp, hfilter, hchanges⟩

theorem log_bounded (inputs : List ReconcileInput) (filter : ActivityFilter) :
    let changes := ((run (reconcileInTransaction digest) {} inputs).scopes filter).changes
    changes.length ≤ CHANGE_RETENTION ∨ RolledOver digest inputs filter changes := by
  induction inputs using List.reverseRecOn with
  | nil => exact Or.inl (Nat.zero_le _)
  | append_singleton inputs input ih =>
      rw [run_concat]
      by_cases hfilter : filter = input.filter
      · subst hfilter
        simp only [reconcileInTransaction, Function.update_self, changes_reconcileScope]
        split
        · next hrolls => exact Or.inr ⟨inputs, input, [], rfl, rfl, hrolls, rfl⟩
        · next hkeeps =>
            by_cases hnil : pendingChanges digest
                ((run (reconcileInTransaction digest) {} inputs).scopes input.filter) input
                (reconcileRows digest (run (reconcileInTransaction digest) {} inputs) input) = []
            · rw [hnil, numbered, List.zipIdx_nil, List.map_nil, List.append_nil]
              exact ih.imp_right fun hrolled => hrolled.snoc input
            · left
              have hpos := List.length_pos_iff.mpr hnil
              rw [List.length_append, length_numbered]
              simp only [rollsOver, Bool.and_eq_true, decide_eq_true_eq, not_and,
                Nat.not_lt] at hkeeps
              exact hkeeps hpos
      · simp only [reconcileInTransaction, Function.update_of_ne hfilter]
        exact ih.imp_right fun hrolled => hrolled.snoc input

theorem change_of_mem_numbered {watermark : Nat} {pending : List Change} {logged : LoggedChange}
    (h : logged ∈ numbered watermark pending) : logged.change ∈ pending := by
  rw [← map_change_numbered watermark pending]
  exact List.mem_map_of_mem h

theorem logged_mem_runWrites {tables : ActivityTables} {writes : List RowWrite}
    (h : ∀ filter, ∀ logged ∈ (tables.scopes filter).changes,
      ∀ write ∈ logged.change.write filter, write ∈ writes)
    (inputs : List ReconcileInput) (filter : ActivityFilter) :
    ∀ logged ∈ ((run (reconcileInTransaction digest) tables inputs).scopes filter).changes,
      ∀ write ∈ logged.change.write filter, write ∈ writes ++ runWrites digest tables inputs := by
  induction inputs generalizing tables writes with
  | nil =>
      rw [run_nil, runWrites, List.append_nil]
      exact h filter
  | cons input inputs ih =>
      rw [run_cons, runWrites, ← List.append_assoc]
      refine ih fun other logged hlogged write hwrite => ?_
      rw [List.mem_append]
      by_cases hother : other = input.filter
      · subst hother
        simp only [reconcileInTransaction, Function.update_self, changes_reconcileScope] at hlogged
        have hpending : logged.change ∈ pendingChanges digest (tables.scopes input.filter) input
            (reconcileRows digest tables input) → write ∈ stepWrites digest tables input := by
          intro hmem
          rw [stepWrites, ← filterMap_pendingChanges (tables.scopes input.filter) input]
          exact List.mem_filterMap.mpr ⟨logged.change, hmem, hwrite⟩
        split at hlogged
        · exact Or.inr (hpending (change_of_mem_numbered hlogged))
        · rcases List.mem_append.mp hlogged with hold | hnew
          · exact Or.inl (h input.filter logged hold write hwrite)
          · exact Or.inr (hpending (change_of_mem_numbered hnew))
      · simp only [reconcileInTransaction, Function.update_of_ne hother] at hlogged
        exact Or.inl (h other logged hlogged write hwrite)

end Runs

/-! ## Reconciling twice -/

section Settled

variable {digest : JsValue → JsString}

def Matches (digest : JsValue → JsString) (rows : InsertionMap RowId RowRecord)
    (payload : ActivityRowPayload) : Prop :=
  unchanged (rows.get payload.rowId) (digest (.object payload.fields)) = true

structure Settled (digest : JsValue → JsString) (scope : ScopeTables)
    (canonical : CanonicalWindow) : Prop where
  present : ∀ payload ∈ canonical.rows, Matches digest scope.rows payload
  absent : ∀ rowId, isActiveRow scope.rows rowId = true →
    rowId ∈ canonical.rows.map ActivityRowPayload.rowId
  recorded : scope.scopeDigest =
    some (digest (scopeFact digest canonical (projectedTombstones scope.rows)))

theorem matches_reconcileRow {before work : Reconciling} {payload : ActivityRowPayload}
    (hcurrent : work.rows.get payload.rowId = before.rows.get payload.rowId) :
    Matches digest (reconcileRow digest before work payload).rows payload := by
  have hwritten (issued : Reconciling) (version : Nat) :
      Matches digest (issued.writeActive payload (digest (.object payload.fields)) version).rows
        payload := by
    rw [Matches, Reconciling.writeActive, InsertionMap.get_set_self, unchanged]
    exact decide_eq_true rfl
  simp only [reconcileRow]
  split
  · next hunchanged => rwa [Matches, hcurrent]
  · split
    · exact hwritten work _
    · exact hwritten (work.issueVersion payload.rowId _) _

theorem foldl_reconcileRow_frame {before work : Reconciling} (payloads : List ActivityRowPayload)
    {rowId : RowId} (h : rowId ∉ payloads.map ActivityRowPayload.rowId) :
    (payloads.foldl (reconcileRow digest before) work).rows.get rowId = work.rows.get rowId := by
  induction payloads generalizing work with
  | nil => rfl
  | cons payload payloads ih =>
      rw [List.map_cons, List.mem_cons, not_or] at h
      rw [List.foldl_cons, ih h.2, (reconcileRow_frame digest before work payload).2 rowId h.1]

theorem matches_foldl_reconcileRow {before work : Reconciling}
    {payloads : List ActivityRowPayload}
    (hdistinct : (payloads.map ActivityRowPayload.rowId).Nodup)
    (hcurrent : ∀ payload ∈ payloads,
      work.rows.get payload.rowId = before.rows.get payload.rowId) :
    ∀ payload ∈ payloads,
      Matches digest (payloads.foldl (reconcileRow digest before) work).rows payload := by
  induction payloads generalizing work with
  | nil => nofun
  | cons first payloads ih =>
      rw [List.map_cons, List.nodup_cons] at hdistinct
      intro payload hmem
      rcases List.mem_cons.mp hmem with rfl | hrest
      · rw [Matches, List.foldl_cons, foldl_reconcileRow_frame payloads hdistinct.1]
        exact matches_reconcileRow (hcurrent payload List.mem_cons_self)
      · refine ih hdistinct.2 (fun other hother => ?_) payload hrest
        have hne : other.rowId ≠ first.rowId := fun heq =>
          hdistinct.1 (heq ▸ List.mem_map_of_mem hother)
        rw [(reconcileRow_frame digest before work first).2 other.rowId hne]
        exact hcurrent other (List.mem_cons_of_mem _ hother)

theorem foldl_buryRow_frame {reasons : RowId → TombstoneReason} {work : Reconciling}
    (rowIds : List RowId) {rowId : RowId} (h : rowId ∉ rowIds) :
    (rowIds.foldl (buryRow reasons) work).rows.get rowId = work.rows.get rowId := by
  induction rowIds generalizing work with
  | nil => rfl
  | cons first rowIds ih =>
      rw [List.mem_cons, not_or] at h
      rw [List.foldl_cons, ih h.2]
      exact InsertionMap.get_set_of_ne _ _ h.1

theorem inactive_foldl_buryRow {reasons : RowId → TombstoneReason} {work : Reconciling}
    {rowIds : List RowId} {rowId : RowId} (h : rowId ∈ rowIds) :
    isActiveRow (rowIds.foldl (buryRow reasons) work).rows rowId = false := by
  induction rowIds generalizing work with
  | nil => cases h
  | cons first rowIds ih =>
      rw [List.foldl_cons]
      by_cases hlater : rowId ∈ rowIds
      · exact ih hlater
      · obtain rfl : rowId = first := (List.mem_cons.mp h).resolve_right hlater
        have hburied : (buryRow reasons work rowId).rows.get rowId =
            some (.inactive (work.principalVersion + 1) (reasons rowId)) :=
          InsertionMap.get_set_self _ _ _
        rw [isActiveRow, foldl_buryRow_frame rowIds hlater, hburied]
        rfl

theorem reconcileRows_settles (tables : ActivityTables) (input : ReconcileInput)
    (hscan : ∀ rowId ∈ (tables.scopes input.filter).rows.keys, rowId ∈ input.scan) :
    (∀ payload ∈ input.canonical.rows,
      Matches digest (reconcileRows digest tables input).rows payload) ∧
    ∀ rowId, isActiveRow (reconcileRows digest tables input).rows rowId = true →
      rowId ∈ input.canonical.rows.map ActivityRowPayload.rowId := by
  have hspared : ∀ rowId ∈ input.canonical.rows.map ActivityRowPayload.rowId,
      rowId ∉ missingActive (startReconciling tables input.filter).rows input := by
    intro rowId hmem hmissing
    have hnot := (List.mem_filter.mp hmissing).2
    simp only [Bool.and_eq_true, decide_eq_true_eq] at hnot
    exact hnot.2 hmem
  constructor
  · intro payload hmem
    rw [Matches, reconcileRows, foldl_buryRow_frame _ (hspared _ (List.mem_map_of_mem hmem))]
    exact matches_foldl_reconcileRow input.canonical.distinct (fun _ _ => rfl) payload hmem
  · intro rowId hactive
    by_contra habsent
    by_cases hmissing : rowId ∈ missingActive (startReconciling tables input.filter).rows input
    · rw [reconcileRows, inactive_foldl_buryRow hmissing] at hactive
      cases hactive
    · rw [reconcileRows, isActiveRow, foldl_buryRow_frame _ hmissing,
        foldl_reconcileRow_frame _ habsent, ← isActiveRow] at hactive
      refine hmissing (List.mem_filter.mpr ⟨?_, ?_⟩)
      · apply hscan
        rw [isActiveRow] at hactive
        cases hget : (startReconciling tables input.filter).rows.get rowId with
        | none =>
            rw [hget] at hactive
            cases hactive
        | some record => exact (InsertionMap.mem_keys_iff _ _).mpr ⟨record, hget⟩
      · simp [hactive, habsent]

theorem projectedTombstones_active (rows : InsertionMap RowId RowRecord) :
    projectedTombstones (rows.filter RowRecord.isActive) = [] := by
  rw [projectedTombstones, List.filterMap_eq_nil_iff]
  rintro ⟨rowId, record⟩ hmem
  have hentry := (List.mem_insertionSort _).mp hmem
  have hactive : record.isActive = true := (List.mem_filter.mp hentry).2
  cases record with
  | active _ _ _ => rfl
  | inactive _ _ => cases hactive

theorem matches_active {rows : InsertionMap RowId RowRecord} {payload : ActivityRowPayload}
    (h : Matches digest rows payload) :
    Matches digest (rows.filter RowRecord.isActive) payload := by
  rw [Matches] at h
  rw [Matches, InsertionMap.get_filter]
  cases hget : rows.get payload.rowId with
  | none =>
      rw [hget] at h
      cases h
  | some record =>
      rw [hget] at h
      cases record with
      | active _ _ _ => exact h
      | inactive _ _ => cases h

theorem isActiveRow_active (rows : InsertionMap RowId RowRecord) (rowId : RowId) :
    isActiveRow (rows.filter RowRecord.isActive) rowId = isActiveRow rows rowId := by
  rw [isActiveRow, InsertionMap.get_filter, isActiveRow]
  cases rows.get rowId with
  | none => rfl
  | some record => cases record <;> rfl

theorem scopeDigest_logChanges (scope : ScopeTables) (pending : List Change)
    (scopeDigest : JsString) (metadata : ScopeMetadata)
    (h : pending = [] → scope.scopeDigest = some scopeDigest) :
    (logChanges scope pending scopeDigest metadata).scopeDigest = some scopeDigest := by
  rw [logChanges]
  split
  · next hnil => exact h hnil
  · rfl

theorem settled_reconcile (tables : ActivityTables) (input : ReconcileInput)
    (hscan : ∀ rowId ∈ (tables.scopes input.filter).rows.keys, rowId ∈ input.scan) :
    Settled digest ((reconcileInTransaction digest tables input).scopes input.filter)
      input.canonical := by
  obtain ⟨hpresent, habsent⟩ := @reconcileRows_settles digest tables input hscan
  simp only [reconcileInTransaction, Function.update_self]
  cases hrolls : rollsOver (tables.scopes input.filter) (pendingChanges digest
      (tables.scopes input.filter) input (reconcileRows digest tables input)) with
  | true =>
      refine ⟨fun payload hmem => ?_, fun rowId hactive => ?_, ?_⟩
      · rw [rows_reconcileScope, if_pos hrolls]
        exact matches_active (hpresent payload hmem)
      · rw [rows_reconcileScope, if_pos hrolls, isActiveRow_active] at hactive
        exact habsent rowId hactive
      · rw [rows_reconcileScope, if_pos hrolls, projectedTombstones_active]
        simp only [reconcileScope, hrolls, if_true]
        apply scopeDigest_logChanges
        intro hnil
        rw [hnil] at hrolls
        cases hrolls
  | false =>
      have hkeeps : ¬ rollsOver (tables.scopes input.filter) (pendingChanges digest
          (tables.scopes input.filter) input (reconcileRows digest tables input)) = true := by
        rw [hrolls]
        exact Bool.false_ne_true
      refine ⟨fun payload hmem => ?_, fun rowId hactive => ?_, ?_⟩
      · rw [rows_reconcileScope, if_neg hkeeps]
        exact hpresent payload hmem
      · rw [rows_reconcileScope, if_neg hkeeps] at hactive
        exact habsent rowId hactive
      · rw [rows_reconcileScope, if_neg hkeeps]
        simp only [reconcileScope, hrolls, Bool.false_eq_true, if_false]
        apply scopeDigest_logChanges
        -- Nothing pending means that the digest did not move.
        intro hnil
        by_contra hmoved
        simp only [pendingChanges] at hnil
        rw [if_pos hmoved] at hnil
        simp at hnil

theorem Settled.reconcile {tables : ActivityTables} {input : ReconcileInput}
    (h : Settled digest (tables.scopes input.filter) input.canonical) :
    reconcileInTransaction digest tables input = tables := by
  have hrows : input.canonical.rows.foldl
      (reconcileRow digest (startReconciling tables input.filter))
      (startReconciling tables input.filter) = startReconciling tables input.filter := by
    refine List.foldlRecOn (motive := fun work => work = startReconciling tables input.filter)
      _ _ rfl fun work hwork payload hmem => ?_
    subst hwork
    have hunchanged := h.present payload hmem
    simp only [reconcileRow]
    exact if_pos hunchanged
  have hmissing : missingActive (startReconciling tables input.filter).rows input = [] := by
    rw [missingActive, List.filter_eq_nil_iff]
    intro rowId _ hmissing
    simp only [Bool.and_eq_true, decide_eq_true_eq] at hmissing
    exact hmissing.2 (h.absent rowId hmissing.1)
  have hwork : reconcileRows digest tables input = startReconciling tables input.filter := by
    simp only [reconcileRows]
    rw [hrows, hmissing, List.foldl_nil]
  have hpending : pendingChanges digest (tables.scopes input.filter) input
      (startReconciling tables input.filter) = [] := by
    simp only [pendingChanges]
    exact if_neg (not_not_intro h.recorded)
  have hscope : reconcileScope digest (tables.scopes input.filter) input
      (startReconciling tables input.filter) = tables.scopes input.filter := by
    simp only [reconcileScope, hpending, logChanges, rollsOver]
    rfl
  rw [reconcileInTransaction, hwork, hscope, Function.update_eq_self]
  rfl

end Settled

/-! ## Authoritative versions -/

def SameItem : WrittenItem → WrittenItem → Prop
  | .upserted payload, .upserted other =>
      SameUpToKeys (.object payload.fields) (.object other.fields)
  | .buried reason, .buried other => reason = other
  | _, _ => False

structure RowVersionsAuthoritative (digest : JsValue → JsString) (inputs : List ReconcileInput) :
    Prop where
  one_item : ∀ write ∈ runWrites digest {} inputs, ∀ other ∈ runWrites digest {} inputs,
    write.rowId = other.rowId → write.rowVersion = other.rowVersion →
      SameItem write.item other.item
  rows_written : ∀ filter rowId record,
    ((run (reconcileInTransaction digest) {} inputs).scopes filter).rows.get rowId = some record →
      record.write filter rowId ∈ runWrites digest {} inputs
  changes_written : ∀ filter,
    ∀ logged ∈ ((run (reconcileInTransaction digest) {} inputs).scopes filter).changes,
      ∀ write ∈ logged.change.write filter, write ∈ runWrites digest {} inputs
  rising : ∀ filter rowId,
    (versionsOf filter rowId (runWrites digest {} inputs)).Pairwise (· < ·)
  bounded : ∀ write ∈ runWrites digest {} inputs,
    write.rowVersion ≤ (run (reconcileInTransaction digest) {} inputs).principalVersion
  never_decreases : ∀ before, before <+: inputs →
    (run (reconcileInTransaction digest) {} before).principalVersion ≤
      (run (reconcileInTransaction digest) {} inputs).principalVersion
  dense_log : ∀ filter,
    let scope := (run (reconcileInTransaction digest) {} inputs).scopes filter
    scope.changes.map LoggedChange.seq = List.range' 1 scope.watermark
  bounded_log : ∀ filter,
    let changes := ((run (reconcileInTransaction digest) {} inputs).scopes filter).changes
    changes.length ≤ CHANGE_RETENTION ∨ RolledOver digest inputs filter changes
  -- The select of the first call returns every row of the scope.
  settled : ∀ input again, again.filter = input.filter → again.canonical = input.canonical →
    (∀ rowId ∈ ((run (reconcileInTransaction digest) {} inputs).scopes input.filter).rows.keys,
      rowId ∈ input.scan) →
    reconcileInTransaction digest
        (reconcileInTransaction digest (run (reconcileInTransaction digest) {} inputs) input)
        again =
      reconcileInTransaction digest (run (reconcileInTransaction digest) {} inputs) input

theorem principalVersion_le_run (digest : JsValue → JsString) (tables : ActivityTables)
    (inputs : List ReconcileInput) :
    tables.principalVersion ≤
      (run (reconcileInTransaction digest) tables inputs).principalVersion := by
  let AtLeast (later : ActivityTables) : Prop := tables.principalVersion ≤ later.principalVersion
  have hstart : AtLeast tables := le_rfl
  exact run_invariant AtLeast inputs (fun later input hle =>
    hle.trans (principalVersion_le_reconcileRows digest later input)) hstart

theorem sameItem_of_agree {sha256 : JsString → JsString} {numberText : JsNumber → JsString}
    {localeCompare : JsString → JsString → Int} {numbers : Set JsNumber}
    (htexts : NumberTexts numberText numbers) {inputs : List ReconcileInput}
    (hjson : ∀ input ∈ inputs, ∀ payload ∈ input.canonical.rows,
      JsonValued numbers (.object payload.fields))
    (hsha256 : Set.InjOn sha256 {text | ∃ input ∈ inputs, ∃ payload ∈ input.canonical.rows,
      text = canonicalJson numberText localeCompare (.object payload.fields)})
    {item other : WrittenItem}
    (hitem : ∀ payload, item = .upserted payload →
      ∃ input ∈ inputs, payload ∈ input.canonical.rows)
    (hother : ∀ payload, other = .upserted payload →
      ∃ input ∈ inputs, payload ∈ input.canonical.rows)
    (h : Agree (digest sha256 numberText localeCompare) item other) : SameItem item other := by
  cases item with
  | upserted payload =>
      cases other with
      | upserted payload' =>
          obtain ⟨input, hinput, hpayload⟩ := hitem payload rfl
          obtain ⟨input', hinput', hpayload'⟩ := hother payload' rfl
          exact canonicalText_injective htexts (hjson input hinput payload hpayload)
            (hjson input' hinput' payload' hpayload')
            (hsha256 ⟨input, hinput, payload, hpayload, rfl⟩
              ⟨input', hinput', payload', hpayload', rfl⟩ h)
      | buried reason => cases h
  | buried reason =>
      cases other with
      | upserted payload => cases h
      | buried reason' => exact h

theorem row_versions_authoritative {sha256 : JsString → JsString}
    {numberText : JsNumber → JsString} {localeCompare : JsString → JsString → Int}
    {numbers : Set JsNumber} (htexts : NumberTexts numberText numbers)
    {inputs : List ReconcileInput}
    (hjson : ∀ input ∈ inputs, ∀ payload ∈ input.canonical.rows,
      JsonValued numbers (.object payload.fields))
    (hsha256 : Set.InjOn sha256 {text | ∃ input ∈ inputs, ∃ payload ∈ input.canonical.rows,
      text = canonicalJson numberText localeCompare (.object payload.fields)}) :
    RowVersionsAuthoritative (digest sha256 numberText localeCompare) inputs := by
  have hledger : TablesLedger (digest sha256 numberText localeCompare) _
      ([] ++ runWrites (digest sha256 numberText localeCompare) {} inputs) :=
    tablesLedger_initial.run inputs
  have hlogged := @logged_mem_runWrites (digest sha256 numberText localeCompare) {} [] nofun inputs
  rw [List.nil_append] at hledger hlogged
  have hsound := tablesSound_run (digest sha256 numberText localeCompare) tablesSound_initial inputs
  refine
    { one_item := fun write hwrite other hother hrowId hversion =>
        sameItem_of_agree htexts hjson hsha256
          (fun _ hitem => payload_of_mem_runWrites hwrite hitem)
          (fun _ hitem => payload_of_mem_runWrites hother hitem)
          (hledger.agree write hwrite other hother hrowId hversion)
      rows_written := hledger.recorded
      changes_written := hlogged
      rising := hledger.rising
      bounded := fun write hwrite => hledger.rowVersion_le hwrite
      never_decreases := fun before hbefore => ?_
      dense_log := fun filter => ?_
      bounded_log := log_bounded inputs
      settled := fun input again hfilter hcanonical hscan => ?_ }
  · obtain ⟨after, rfl⟩ := hbefore
    rw [run_append]
    exact principalVersion_le_run _ _ after
  · obtain ⟨changes, hlog, hwatermark⟩ := (hsound.scope filter).dense
    change List.map _ (ScopeTables.changes _) = _
    rw [hlog, hwatermark, map_seq_numbered]
  · have hsettled := @settled_reconcile (digest sha256 numberText localeCompare) _ input hscan
    rw [← hfilter, ← hcanonical] at hsettled
    exact hsettled.reconcile

def directPayload : ActivityRowPayload where
  fields :=
    [(js "rowId", .string (js "3f1c0f5a-9a44-4c1e-8d0b-52f6c7e9a001")),
      (js "channelId", .string (js "3f1c0f5a-9a44-4c1e-8d0b-52f6c7e9a001")),
      (js "channelName", .string (js "ada")),
      (js "lastMessageId", .string (js "m1")),
      (js "latestActivitySeq", .string (js "5")),
      (js "firstUnreadMessageId", .string (js "m1")),
      (js "firstMentionMessageId", .null),
      (js "lastActivityAt", .string (js "2026-01-02T03:04:05.000Z")),
      (js "lastMessagePreview", .string (js "hello")),
      (js "lastMessageSenderKind", .string (js "user")),
      (js "lastMessageSenderId", .string (js "u1")),
      (js "lastMessageSenderName", .null),
      (js "unreadCount", .number (.ofNat 1)),
      (js "hasMention", .boolean false),
      (js "maxReadSeq", .string (js "4")),
      (js "readStateVersion", .string (js "2")),
      (js "type", .string (js "dm")),
      (js "channelKind", .string (js "dm"))]
  conforms := by decide +kernel
  isUuid_rowId := by decide +kernel

def directWindow : CanonicalWindow where
  rows := [directPayload]
  metadata := ⟨none, false, true, 1, 1⟩
  distinct := List.nodup_singleton _

def directInputs : List ReconcileInput :=
  [⟨.all, directWindow, fun _ => .outOfWindow, []⟩,
    ⟨.unread, directWindow, fun _ => .outOfWindow, []⟩]

/-- The order of texts made of ASCII letters that differ in more than case. -/
def letterCompare (left right : JsString) : Int :=
  if left.map lowerUnit < right.map lowerUnit then -1
  else if left.map lowerUnit = right.map lowerUnit then 0 else 1

theorem jsonValued_directPayload :
    JsonValued safeCounters (.object directPayload.fields) := by
  refine .object (by decide +kernel) ?_
  simp only [directPayload, List.forall_mem_cons, List.not_mem_nil, false_implies, implies_true,
    and_true]
  refine ⟨.string _, .string _, .string _, .string _, .string _, .string _, .null, .string _,
    .string _, .string _, .string _, .null, .number ⟨1, by decide, rfl⟩, .boolean _, .string _,
    .string _, .string _, .string _⟩

theorem row_versions_authoritative_direct :
    RowVersionsAuthoritative (digest id counterText letterCompare) directInputs :=
  row_versions_authoritative numberTexts_counterText (by
    intro input hinput payload hpayload
    have hrows : input.canonical = directWindow := by
      simp only [directInputs, List.mem_cons, List.not_mem_nil, or_false] at hinput
      rcases hinput with rfl | rfl
      all_goals rfl
    rw [hrows, directWindow, List.mem_singleton] at hpayload
    rw [hpayload]
    exact jsonValued_directPayload) (Set.injOn_id _)

end Raft.ActivityServer
