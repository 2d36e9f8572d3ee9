import Raft.ActivityServer.History

/-!
# Row versions as an authority

Every write of a row, in whatever scope, carries a version of the principal's
counter or one that the row authority has already issued for the same payload.
The ledger relates the writes of a run to the authorities and to the recorded
rows, and keeps what a reuse needs: an authority that is still active has issued
its last version for the payload it names.
-/

namespace Raft.ActivityServer

open Raft.Foundation Raft.Activity

/-! ## Writes -/

inductive WrittenItem where
  | upserted (payload : ActivityRowPayload)
  | buried (reason : TombstoneReason)

/-- One write of `activity_sync_rows` and of `activity_sync_changes`. -/
structure RowWrite where
  filter : ActivityFilter
  rowId : RowId
  rowVersion : Nat
  item : WrittenItem

def Change.write (filter : ActivityFilter) : Change → Option RowWrite
  | .upsert rowVersion payload => some ⟨filter, payload.rowId, rowVersion, .upserted payload⟩
  | .tombstone rowId rowVersion reason => some ⟨filter, rowId, rowVersion, .buried reason⟩
  | .scope _ => none

def RowRecord.write (filter : ActivityFilter) (rowId : RowId) : RowRecord → RowWrite
  | .active rowVersion payload _ => ⟨filter, rowId, rowVersion, .upserted payload⟩
  | .inactive rowVersion reason => ⟨filter, rowId, rowVersion, .buried reason⟩

def stepWrites (digest : JsValue → JsString) (tables : ActivityTables) (input : ReconcileInput) :
    List RowWrite :=
  (reconcileRows digest tables input).pending.filterMap (Change.write input.filter)

def runWrites (digest : JsValue → JsString) :
    ActivityTables → List ReconcileInput → List RowWrite
  | _, [] => []
  | tables, input :: inputs =>
      stepWrites digest tables input ++
        runWrites digest (reconcileInTransaction digest tables input) inputs

def versionsOf (filter : ActivityFilter) (rowId : RowId) (writes : List RowWrite) : List Nat :=
  (writes.filter fun write => write.filter = filter && write.rowId = rowId).map RowWrite.rowVersion

def WrittenItem.digest (digest : JsValue → JsString) : WrittenItem → Option JsString
  | .upserted payload => some (digest (.object payload.fields))
  | .buried _ => none

/-- One payload, as far as its digest tells, or one tombstone. -/
def Agree (digest : JsValue → JsString) : WrittenItem → WrittenItem → Prop
  | .upserted payload, .upserted other =>
      digest (.object payload.fields) = digest (.object other.fields)
  | .buried reason, .buried other => reason = other
  | _, _ => False

/-! ## The ledger -/

abbrev RecordedRows := ActivityFilter → RowId → Option RowRecord

structure VersionLedger (digest : JsValue → JsString) (principalVersion : Nat)
    (authorities : RowId → Option RowAuthority) (rows : RecordedRows) (writes : List RowWrite) :
    Prop where
  bound : ∀ rowId authority, authorities rowId = some authority →
    authority.lastVersion ≤ principalVersion
  authority : ∀ write ∈ writes, ∃ authority, authorities write.rowId = some authority ∧
    write.rowVersion ≤ authority.lastVersion ∧
      (write.rowVersion = authority.lastVersion →
        authority.payloadDigest = write.item.digest digest)
  held : ∀ write ∈ writes, ∀ record, rows write.filter write.rowId = some record →
    write.rowVersion ≤ record.rowVersion
  -- A row that rollover has forgotten is superseded before its authority is active again.
  forgotten : ∀ write ∈ writes, rows write.filter write.rowId = none →
    ∀ authority, authorities write.rowId = some authority → authority.active = true →
      write.rowVersion < authority.lastVersion
  recorded : ∀ filter rowId record, rows filter rowId = some record →
    record.write filter rowId ∈ writes
  agree : ∀ write ∈ writes, ∀ other ∈ writes, write.rowId = other.rowId →
    write.rowVersion = other.rowVersion → Agree digest write.item other.item
  rising : ∀ filter rowId, (versionsOf filter rowId writes).Pairwise (· < ·)

namespace VersionLedger

variable {digest : JsValue → JsString} {principalVersion : Nat}
  {authorities : RowId → Option RowAuthority} {rows : RecordedRows} {writes : List RowWrite}

theorem initial : VersionLedger digest 0 (fun _ => none) (fun _ _ => none) [] where
  bound := nofun
  authority := nofun
  held := nofun
  forgotten := nofun
  recorded := nofun
  agree := nofun
  rising := fun _ _ => List.Pairwise.nil

theorem rowVersion_le (h : VersionLedger digest principalVersion authorities rows writes)
    {write : RowWrite} (hmem : write ∈ writes) : write.rowVersion ≤ principalVersion := by
  obtain ⟨authority, hauthority, hle, -⟩ := h.authority write hmem
  exact hle.trans (h.bound write.rowId authority hauthority)

theorem versionsOf_append (filter : ActivityFilter) (rowId : RowId) (first second : List RowWrite) :
    versionsOf filter rowId (first ++ second) =
      versionsOf filter rowId first ++ versionsOf filter rowId second := by
  rw [versionsOf, List.filter_append, List.map_append, versionsOf, versionsOf]

theorem mem_versionsOf {filter : ActivityFilter} {rowId : RowId} {version : Nat} :
    version ∈ versionsOf filter rowId writes ↔
      ∃ write ∈ writes, write.filter = filter ∧ write.rowId = rowId ∧
        write.rowVersion = version := by
  simp only [versionsOf, List.mem_map, List.mem_filter, Bool.and_eq_true, decide_eq_true_eq]
  constructor
  · rintro ⟨write, ⟨hmem, hfilter, hrowId⟩, hversion⟩
    exact ⟨write, hmem, hfilter, hrowId, hversion⟩
  · rintro ⟨write, hmem, hfilter, hrowId, hversion⟩
    exact ⟨write, ⟨hmem, hfilter, hrowId⟩, hversion⟩

theorem rising_append {write : RowWrite}
    (hrising : ∀ filter rowId, (versionsOf filter rowId writes).Pairwise (· < ·))
    (habove : ∀ other ∈ writes, other.filter = write.filter → other.rowId = write.rowId →
      other.rowVersion < write.rowVersion) (filter : ActivityFilter) (rowId : RowId) :
    (versionsOf filter rowId (writes ++ [write])).Pairwise (· < ·) := by
  rw [versionsOf_append, List.pairwise_append]
  refine ⟨hrising filter rowId, ?_, ?_⟩
  · rw [versionsOf, List.pairwise_map]
    exact (List.pairwise_singleton _ _).sublist List.filter_sublist
  · intro version hversion added hadded
    obtain ⟨other, hother, hfilter, hrowId, rfl⟩ := mem_versionsOf.mp hversion
    obtain ⟨added, hmem, hfilter', hrowId', rfl⟩ := mem_versionsOf.mp hadded
    obtain rfl := List.mem_singleton.mp hmem
    exact habove other hother (hfilter.trans hfilter'.symm) (hrowId.trans hrowId'.symm)

theorem agree_self (item : WrittenItem) : Agree digest item item := by
  cases item with
  | upserted payload => exact rfl
  | buried reason => exact rfl

theorem agree_symm {item other : WrittenItem} (h : Agree digest item other) :
    Agree digest other item := by
  cases item <;> cases other
  · exact Eq.symm h
  · exact h
  · exact h
  · exact Eq.symm h

theorem agree_append {write : RowWrite}
    (hagree : ∀ write ∈ writes, ∀ other ∈ writes, write.rowId = other.rowId →
      write.rowVersion = other.rowVersion → Agree digest write.item other.item)
    (hnew : ∀ other ∈ writes, other.rowId = write.rowId → other.rowVersion = write.rowVersion →
      Agree digest other.item write.item) :
    ∀ first ∈ writes ++ [write], ∀ second ∈ writes ++ [write], first.rowId = second.rowId →
      first.rowVersion = second.rowVersion → Agree digest first.item second.item := by
  intro first hfirst second hsecond hrowId hversion
  rw [List.mem_append, List.mem_singleton] at hfirst hsecond
  rcases hfirst with hfirst | rfl <;> rcases hsecond with hsecond | rfl
  · exact hagree first hfirst second hsecond hrowId hversion
  · exact hnew first hfirst hrowId hversion
  · exact agree_symm (hnew second hsecond hrowId.symm hversion.symm)
  · exact agree_self _

def setRow (rows : RecordedRows) (filter : ActivityFilter) (rowId : RowId) (record : RowRecord) :
    RecordedRows :=
  Function.update rows filter (Function.update (rows filter) rowId (some record))

theorem setRow_self (rows : RecordedRows) (filter : ActivityFilter) (rowId : RowId)
    (record : RowRecord) : setRow rows filter rowId record filter rowId = some record := by
  rw [setRow, Function.update_self, Function.update_self]

theorem setRow_of_ne (rows : RecordedRows) {filter other : ActivityFilter} {rowId otherId : RowId}
    (record : RowRecord) (h : ¬ (other = filter ∧ otherId = rowId)) :
    setRow rows filter rowId record other otherId = rows other otherId := by
  by_cases hfilter : other = filter
  · subst hfilter
    rw [setRow, Function.update_self, Function.update_of_ne fun heq => h ⟨rfl, heq⟩]
  · rw [setRow, Function.update_of_ne hfilter]

theorem recorded_append {filter : ActivityFilter} {rowId : RowId} {record : RowRecord}
    (hrecorded : ∀ filter rowId record, rows filter rowId = some record →
      record.write filter rowId ∈ writes) (other : ActivityFilter) (otherId : RowId)
    (found : RowRecord) (hfound : setRow rows filter rowId record other otherId = some found) :
    found.write other otherId ∈ writes ++ [record.write filter rowId] := by
  by_cases hsame : other = filter ∧ otherId = rowId
  · obtain ⟨rfl, rfl⟩ := hsame
    rw [setRow_self] at hfound
    cases hfound
    exact List.mem_append_right _ List.mem_cons_self
  · rw [setRow_of_ne rows record hsame] at hfound
    exact List.mem_append_left _ (hrecorded other otherId found hfound)

theorem write_filter (filter : ActivityFilter) (rowId : RowId) (record : RowRecord) :
    (record.write filter rowId).filter = filter ∧ (record.write filter rowId).rowId = rowId ∧
      (record.write filter rowId).rowVersion = record.rowVersion := by
  cases record <;> exact ⟨rfl, rfl, rfl⟩

theorem fresh (h : VersionLedger digest principalVersion authorities rows writes)
    (filter : ActivityFilter) (rowId : RowId) {record : RowRecord}
    (hversion : record.rowVersion = principalVersion + 1) {payloadDigest : Option JsString}
    (hdigest : payloadDigest = (record.write filter rowId).item.digest digest) :
    VersionLedger digest (principalVersion + 1)
      (Function.update authorities rowId (some ⟨principalVersion + 1, payloadDigest⟩))
      (setRow rows filter rowId record) (writes ++ [record.write filter rowId]) := by
  obtain ⟨hfilter, hrowId, hwritten⟩ := write_filter filter rowId record
  have hold : ∀ write ∈ writes, write.rowVersion < principalVersion + 1 :=
    fun write hmem => Nat.lt_succ_of_le (h.rowVersion_le hmem)
  refine
    { bound := fun other authority hauthority => ?_
      authority := fun write hmem => ?_
      held := fun write hmem found hfound => ?_
      forgotten := fun write hmem hnone authority hauthority hactive => ?_
      recorded := recorded_append h.recorded
      agree := agree_append h.agree fun other hother _ hsame => ?_
      rising := rising_append h.rising fun other hother _ _ => ?_ }
  · rw [Function.update_apply] at hauthority
    split at hauthority
    · cases hauthority
      exact le_rfl
    · exact (h.bound other authority hauthority).trans (Nat.le_succ _)
  · rw [List.mem_append, List.mem_singleton] at hmem
    rcases hmem with hmem | rfl
    · by_cases hsame : write.rowId = rowId
      · rw [hsame, Function.update_self]
        exact ⟨_, rfl, (hold write hmem).le, fun heq => absurd heq (hold write hmem).ne⟩
      · rw [Function.update_of_ne hsame]
        exact h.authority write hmem
    · rw [hrowId, Function.update_self]
      exact ⟨_, rfl, by rw [hwritten, hversion], fun _ => hdigest⟩
  · by_cases hsame : write.filter = filter ∧ write.rowId = rowId
    · rw [hsame.1, hsame.2, setRow_self] at hfound
      cases hfound
      rw [List.mem_append, List.mem_singleton] at hmem
      rcases hmem with hmem | rfl
      · rw [hversion]
        exact (hold write hmem).le
      · rw [hwritten]
    · rw [setRow_of_ne rows record hsame] at hfound
      rw [List.mem_append, List.mem_singleton] at hmem
      rcases hmem with hmem | rfl
      · exact h.held write hmem found hfound
      · exact absurd ⟨hfilter, hrowId⟩ hsame
  · by_cases hsame : write.filter = filter ∧ write.rowId = rowId
    · rw [hsame.1, hsame.2, setRow_self] at hnone
      cases hnone
    · rw [setRow_of_ne rows record hsame] at hnone
      rw [List.mem_append, List.mem_singleton] at hmem
      rcases hmem with hmem | rfl
      · rw [Function.update_apply] at hauthority
        split at hauthority
        · cases hauthority
          exact hold write hmem
        · exact h.forgotten write hmem hnone authority hauthority hactive
      · exact absurd ⟨hfilter, hrowId⟩ hsame
  · rw [hwritten, hversion] at hsame
    exact absurd hsame (hold other hother).ne
  · rw [hwritten, hversion]
    exact hold other hother

theorem reuse (h : VersionLedger digest principalVersion authorities rows writes)
    (filter : ActivityFilter) {payload : ActivityRowPayload} {authority : RowAuthority}
    (hauthority : authorities payload.rowId = some authority)
    (hactive : authority.payloadDigest = some (digest (.object payload.fields)))
    (hnewer : ∀ record, rows filter payload.rowId = some record →
      record.rowVersion < authority.lastVersion) (payloadDigest : JsString) :
    VersionLedger digest principalVersion authorities
      (setRow rows filter payload.rowId (.active authority.lastVersion payload payloadDigest))
      (writes ++ [(RowRecord.active authority.lastVersion payload payloadDigest).write filter
        payload.rowId]) := by
  have hissued : ∀ write ∈ writes, write.rowId = payload.rowId →
      write.rowVersion ≤ authority.lastVersion ∧ (write.rowVersion = authority.lastVersion →
        authority.payloadDigest = write.item.digest digest) := by
    intro write hmem hrowId
    obtain ⟨found, hfound, hle, hsame⟩ := h.authority write hmem
    rw [hrowId, hauthority] at hfound
    cases hfound
    exact ⟨hle, hsame⟩
  refine
    { bound := h.bound
      authority := fun write hmem => ?_
      held := fun write hmem found hfound => ?_
      forgotten := fun write hmem hnone => ?_
      recorded := recorded_append h.recorded
      agree := agree_append h.agree fun other hother hrowId hsame => ?_
      rising := rising_append h.rising fun other hother hfilter hrowId => ?_ }
  · rw [List.mem_append, List.mem_singleton] at hmem
    rcases hmem with hmem | rfl
    · exact h.authority write hmem
    · exact ⟨authority, hauthority, le_rfl, fun _ => hactive⟩
  · by_cases hsame : write.filter = filter ∧ write.rowId = payload.rowId
    · rw [hsame.1, hsame.2, setRow_self] at hfound
      cases hfound
      rw [List.mem_append, List.mem_singleton] at hmem
      rcases hmem with hmem | rfl
      · exact (hissued write hmem hsame.2).1
      · exact le_rfl
    · rw [setRow_of_ne rows _ hsame] at hfound
      rw [List.mem_append, List.mem_singleton] at hmem
      rcases hmem with hmem | rfl
      · exact h.held write hmem found hfound
      · exact absurd ⟨rfl, rfl⟩ hsame
  · by_cases hsame : write.filter = filter ∧ write.rowId = payload.rowId
    · rw [hsame.1, hsame.2, setRow_self] at hnone
      cases hnone
    · rw [setRow_of_ne rows _ hsame] at hnone
      rw [List.mem_append, List.mem_singleton] at hmem
      rcases hmem with hmem | rfl
      · exact h.forgotten write hmem hnone
      · exact absurd ⟨rfl, rfl⟩ hsame
  · have hdigest := (hissued other hother hrowId).2 hsame
    rw [hactive] at hdigest
    cases hitem : other.item with
    | upserted found =>
        rw [hitem] at hdigest
        exact (Option.some.inj hdigest).symm
    | buried reason =>
        rw [hitem] at hdigest
        cases hdigest
  · change other.filter = filter at hfilter
    change other.rowId = payload.rowId at hrowId
    cases hrecord : rows filter payload.rowId with
    | some record =>
        have hheld := h.held other hother record (by rw [hfilter, hrowId, hrecord])
        exact lt_of_le_of_lt hheld (hnewer record hrecord)
    | none =>
        refine h.forgotten other hother (by rw [hfilter, hrowId, hrecord]) authority
          (by rw [hrowId, hauthority]) ?_
        rw [RowAuthority.active, hactive]
        rfl

theorem rollover (h : VersionLedger digest principalVersion authorities rows writes)
    (filter : ActivityFilter) :
    VersionLedger digest principalVersion authorities
      (Function.update rows filter fun rowId => (rows filter rowId).filter RowRecord.isActive)
      writes := by
  have hkept : ∀ other rowId record,
      Function.update rows filter (fun rowId => (rows filter rowId).filter RowRecord.isActive)
        other rowId = some record → rows other rowId = some record := by
    intro other rowId record hfound
    by_cases hother : other = filter
    · subst hother
      rw [Function.update_self] at hfound
      exact (Option.filter_eq_some_iff.mp hfound).1
    · rwa [Function.update_of_ne hother] at hfound
  refine
    { bound := h.bound
      authority := h.authority
      held := fun write hmem record hfound => h.held write hmem record (hkept _ _ _ hfound)
      forgotten := fun write hmem hnone authority hauthority hactive => ?_
      recorded := fun other rowId record hfound => h.recorded other rowId record
        (hkept _ _ _ hfound)
      agree := h.agree
      rising := h.rising }
  cases hrecord : rows write.filter write.rowId with
  | none => exact h.forgotten write hmem hrecord authority hauthority hactive
  | some record =>
      -- The forgotten record is a tombstone, so an active authority has moved on since.
      have hfilter : write.filter = filter := by
        by_contra hne
        rw [Function.update_of_ne hne, hrecord] at hnone
        cases hnone
      cases record with
      | active rowVersion payload payloadDigest =>
          rw [hfilter] at hrecord
          rw [hfilter, Function.update_self, hrecord] at hnone
          cases hnone
      | inactive rowVersion reason =>
          have hburied := h.recorded _ _ _ hrecord
          obtain ⟨found, hfound, hle, hsame⟩ := h.authority _ hburied
          rw [RowRecord.write, hauthority] at hfound
          cases hfound
          have hheld := h.held write hmem _ hrecord
          refine lt_of_le_of_lt hheld (lt_of_le_of_ne hle fun heq => ?_)
          have hdigest := hsame heq
          rw [RowAuthority.active, hdigest] at hactive
          cases hactive

end VersionLedger

/-! ## One reconcile -/

def recordedRows (tables : ActivityTables) : RecordedRows :=
  fun filter => (tables.scopes filter).rows.get

section Step

variable {digest : JsValue → JsString} {rows : RecordedRows} {filter : ActivityFilter}
  {earlier : List RowWrite} {work : Reconciling}

def WorkLedger (digest : JsValue → JsString) (rows : RecordedRows) (filter : ActivityFilter)
    (earlier : List RowWrite) (work : Reconciling) : Prop :=
  VersionLedger digest work.principalVersion work.authorities
    (Function.update rows filter work.rows.get)
    (earlier ++ work.pending.filterMap (Change.write filter))

theorem update_set (rowId : RowId) (record : RowRecord) :
    Function.update rows filter (work.rows.set rowId record).get =
      VersionLedger.setRow (Function.update rows filter work.rows.get) filter rowId record := by
  have hget : (work.rows.set rowId record).get =
      Function.update work.rows.get rowId (some record) := by
    funext other
    rw [InsertionMap.get_set, Function.update_apply]
  rw [VersionLedger.setRow, Function.update_idem, Function.update_self, hget]

theorem writes_snoc {change : Change} {write : RowWrite}
    (h : change.write filter = some write) :
    earlier ++ (work.pending ++ [change]).filterMap (Change.write filter) =
      (earlier ++ work.pending.filterMap (Change.write filter)) ++ [write] := by
  rw [List.filterMap_append, List.append_assoc, List.filterMap_cons_some h, List.filterMap_nil]

theorem WorkLedger.issued (h : WorkLedger digest rows filter earlier work) (rowId : RowId)
    (record : RowRecord) (change : Change)
    (hversion : record.rowVersion = work.principalVersion + 1) {payloadDigest : Option JsString}
    (hdigest : payloadDigest = (record.write filter rowId).item.digest digest)
    (hchange : change.write filter = some (record.write filter rowId)) :
    WorkLedger digest rows filter earlier
      { work.issueVersion rowId payloadDigest with
        rows := work.rows.set rowId record
        pending := work.pending ++ [change] } := by
  rw [WorkLedger, update_set, writes_snoc hchange]
  exact h.fresh filter rowId hversion hdigest

theorem WorkLedger.buryRow (h : WorkLedger digest rows filter earlier work)
    (reasons : RowId → TombstoneReason) (rowId : RowId) :
    WorkLedger digest rows filter earlier (buryRow reasons work rowId) :=
  h.issued rowId (.inactive (work.principalVersion + 1) (reasons rowId))
    (.tombstone rowId (work.principalVersion + 1) (reasons rowId)) rfl rfl rfl

theorem WorkLedger.reconcileRow (h : WorkLedger digest rows filter earlier work)
    {before : Reconciling} {payload : ActivityRowPayload}
    (hauthority : work.authorities payload.rowId = before.authorities payload.rowId)
    (hcurrent : work.rows.get payload.rowId = before.rows.get payload.rowId) :
    WorkLedger digest rows filter earlier (reconcileRow digest before work payload) := by
  simp only [ActivityServer.reconcileRow]
  split
  · exact h
  · split
    · rename_i rowVersion hreuse
      obtain ⟨⟨authority, hfound, hactive, rfl⟩, hnewer⟩ := reusableVersion_spec hreuse
      have hwrite : (Change.upsert authority.lastVersion payload).write filter =
          some ((RowRecord.active authority.lastVersion payload
            (digest (.object payload.fields))).write filter payload.rowId) := rfl
      rw [WorkLedger, Reconciling.writeActive, update_set, writes_snoc hwrite]
      refine VersionLedger.reuse h filter (hauthority.trans hfound) hactive ?_ _
      intro record hrecord
      rw [Function.update_self, hcurrent] at hrecord
      exact hnewer record hrecord
    · exact h.issued payload.rowId
        (.active (work.principalVersion + 1) payload (digest (.object payload.fields)))
        (.upsert (work.principalVersion + 1) payload) rfl rfl rfl

theorem reconcileRow_authorities (before : Reconciling) (payload : ActivityRowPayload)
    {other : RowId} (hne : other ≠ payload.rowId) :
    (ActivityServer.reconcileRow digest before work payload).authorities other =
      work.authorities other := by
  simp only [ActivityServer.reconcileRow]
  split
  · rfl
  · split
    · rfl
    · exact Function.update_of_ne hne _ _

theorem WorkLedger.foldl_reconcileRow (h : WorkLedger digest rows filter earlier work)
    {before : Reconciling} {payloads : List ActivityRowPayload}
    (hdistinct : (payloads.map ActivityRowPayload.rowId).Nodup)
    (hcurrent : ∀ payload ∈ payloads,
      work.authorities payload.rowId = before.authorities payload.rowId ∧
        work.rows.get payload.rowId = before.rows.get payload.rowId) :
    WorkLedger digest rows filter earlier
      (payloads.foldl (ActivityServer.reconcileRow digest before) work) := by
  induction payloads generalizing work with
  | nil => exact h
  | cons payload payloads ih =>
      rw [List.map_cons, List.nodup_cons] at hdistinct
      obtain ⟨hauthority, hrow⟩ := hcurrent payload List.mem_cons_self
      refine ih (h.reconcileRow hauthority hrow) hdistinct.2 fun other hother => ?_
      have hne : other.rowId ≠ payload.rowId := fun heq =>
        hdistinct.1 (heq ▸ List.mem_map_of_mem hother)
      rw [reconcileRow_authorities before payload hne,
        (reconcileRow_frame digest before work payload).2 other.rowId hne]
      exact hcurrent other (List.mem_cons_of_mem _ hother)

theorem WorkLedger.foldl_buryRow (h : WorkLedger digest rows filter earlier work)
    (reasons : RowId → TombstoneReason) (rowIds : List RowId) :
    WorkLedger digest rows filter earlier
      (rowIds.foldl (ActivityServer.buryRow reasons) work) := by
  induction rowIds generalizing work with
  | nil => exact h
  | cons rowId rowIds ih => exact ih (h.buryRow reasons rowId)

end Step

def TablesLedger (digest : JsValue → JsString) (tables : ActivityTables) (writes : List RowWrite) :
    Prop :=
  VersionLedger digest tables.principalVersion tables.authorities (recordedRows tables) writes

theorem rows_reconcileScope (digest : JsValue → JsString) (scope : ScopeTables)
    (input : ReconcileInput) (work : Reconciling) :
    (reconcileScope digest scope input work).rows =
      if rollsOver scope (pendingChanges digest scope input work) then
        work.rows.filter RowRecord.isActive
      else work.rows := by
  simp only [reconcileScope]
  rw [rows_logChanges]
  split <;> rfl

theorem TablesLedger.reconcile {digest : JsValue → JsString} {tables : ActivityTables}
    {writes : List RowWrite} (h : TablesLedger digest tables writes) (input : ReconcileInput) :
    TablesLedger digest (reconcileInTransaction digest tables input)
      (writes ++ stepWrites digest tables input) := by
  have hstart : WorkLedger digest (recordedRows tables) input.filter writes
      (startReconciling tables input.filter) := by
    have hrows : Function.update (recordedRows tables) input.filter
        (startReconciling tables input.filter).rows.get = recordedRows tables :=
      Function.update_eq_self _ _
    rw [WorkLedger, hrows, startReconciling, List.filterMap_nil, List.append_nil]
    exact h
  have hwork : WorkLedger digest (recordedRows tables) input.filter writes
      (reconcileRows digest tables input) :=
    (hstart.foldl_reconcileRow input.canonical.distinct fun _ _ => ⟨rfl, rfl⟩).foldl_buryRow _ _
  have hrows : recordedRows (reconcileInTransaction digest tables input) =
      Function.update (recordedRows tables) input.filter
        (reconcileScope digest (tables.scopes input.filter) input
          (reconcileRows digest tables input)).rows.get := by
    funext filter
    by_cases hfilter : filter = input.filter
    · subst hfilter
      simp [recordedRows, reconcileInTransaction]
    · simp [recordedRows, reconcileInTransaction, Function.update_of_ne hfilter]
  rw [TablesLedger, hrows, rows_reconcileScope]
  split
  · have hdropped := VersionLedger.rollover hwork input.filter
    rw [Function.update_idem, Function.update_self] at hdropped
    have hget : ((reconcileRows digest tables input).rows.filter RowRecord.isActive).get =
        fun rowId => ((reconcileRows digest tables input).rows.get rowId).filter
          RowRecord.isActive := funext fun rowId => InsertionMap.get_filter _ _ _
    rw [hget]
    exact hdropped
  · exact hwork

end Raft.ActivityServer
