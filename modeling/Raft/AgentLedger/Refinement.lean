import Raft.AgentLedger.Ledger
import Raft.Foundation.Run

/-!
# The ledger refines the reference store

The refinement relation says that every table answers a keyed lookup as the
store's map does and that the counter's text is the store's counter.  Each
booking keeps it; the four readers only look keys up, so they answer alike.
-/

namespace Raft.AgentLedger

open Raft.Foundation Raft.SeenPolicy

/-! ## The relation -/

structure SameTables (ledger : Ledger) (store : MemoryStore) : Prop where
  streams : ∀ key, ledger.streams.select key = store.streams.get key
  exact : ∀ key, ledger.streamExactSeqs.select key = store.exact.get key
  aliases : ∀ key, ledger.targetAliases.select key = store.aliases.get key

structure Refines (ledger : Ledger) (store : MemoryStore) : Prop extends
    SameTables ledger store where
  counter : ledger.metaRows.select (js "nextReadOrder") =
    some (decimalText store.nextReadOrder)

theorem numberOfText_decimalText (n : Nat) : numberOfText (decimalText n) = .ofNat n := by
  rw [numberOfText, if_pos (isCanonicalDecimal_decimalText n), decimalValue_decimalText]

theorem Refines.nextReadOrder_eq {ledger : Ledger} {store : MemoryStore}
    (h : Refines ledger store) : ledger.nextReadOrder = store.nextReadOrder := by
  rw [Ledger.nextReadOrder, h.counter, Option.bind_some, numberOfText_decimalText,
    JsNumber.positiveInteger_ofNat, Option.getD_some]

theorem refines_empty (contextId : Option JsString) :
    Refines emptyLedger (createMemoryCommandStateStore contextId) where
  streams := fun _ => rfl
  exact := fun _ => rfl
  aliases := fun _ => rfl
  counter := by
    rw [emptyLedger, Sql.Table.select_insertOrReplace, if_pos rfl]
    rfl

/-! ## Stream bookings -/

section Streams

variable {ledger : Ledger} {store : MemoryStore} {target : JsString}
  {contextId : Option JsString}

/-- The three-way `CASE` is the store's choice of the next mark. -/
theorem onConflict_seq (streams excluded : StreamRow) :
    (Ledger.onConflict streams excluded).seq =
      StreamRow.nextSeq (some streams) excluded.seq excluded.contextId := by
  simp only [Ledger.onConflict, Sql.caseWhen, Sql.isNot, Option.some.injEq, decide_eq_true_eq,
    StreamRow.nextSeq]
  split
  · rfl
  · cases excluded.seq with
    | none => cases streams.seq <;> simp [Sql.isNull]
    | some seq =>
        cases streams.seq with
        | none => simp [Sql.isNull, Sql.either]
        | some kept =>
            by_cases hgreater : seq > kept
            · simp [Sql.isNull, Sql.either, Sql.greater, hgreater]
            · simp [Sql.isNull, Sql.either, Sql.greater, hgreater]

theorem readExactSeqsRow_eq (ledger : Ledger) (target : JsString) :
    ledger.readExactSeqsRow target =
      normalizeSeqs (((ledger.streamExactSeqs.select target).map ExactRow.seqs).getD []) 0 := by
  rw [Ledger.readExactSeqsRow]
  cases ledger.streamExactSeqs.select target with
  | none => rw [Option.map_none, Option.getD_none, normalizeSeqs_nil]
  | some row => rfl

theorem select_pruneExactSeqsBelow (afterSeq : ℚ) (key : JsString) :
    (ledger.pruneExactSeqsBelow target afterSeq).streamExactSeqs.select key =
      if key = target then
        ExactRow.retire (ledger.streamExactSeqs.select target) afterSeq
      else ledger.streamExactSeqs.select key := by
  rw [Ledger.pruneExactSeqsBelow, ExactRow.retire.eq_def]
  by_cases hnone : afterSeq ≤ 0
  · rw [if_pos hnone]
    cases hrow : ledger.streamExactSeqs.select target with
    | none =>
        by_cases hkey : key = target
        · rw [if_pos hkey, hkey, hrow]
        · rw [if_neg hkey]
    | some row =>
        by_cases hkey : key = target
        · simp [hkey, hrow, hnone]
        · simp [hkey]
  · have hfloor : afterSeq > 0 := lt_of_not_ge hnone
    rw [if_neg hnone, readExactSeqsRow_eq, normalizeSeqs_normalizeSeqs hfloor.le]
    cases hrow : ledger.streamExactSeqs.select target with
    | none =>
        rw [Option.map_none, Option.getD_none, normalizeSeqs_nil, if_pos rfl,
          Sql.Table.select_deleteWhere, hrow]
        rfl
    | some row =>
        by_cases hkept : normalizeSeqs row.seqs afterSeq = []
        · simp [hkept, hfloor, Sql.Table.select_deleteWhere, hrow, Option.filter]
        · simp [hkept, hfloor, Sql.Table.select_updateWhere, hrow]

theorem streams_pruneExactSeqsBelow (afterSeq : ℚ) :
    (ledger.pruneExactSeqsBelow target afterSeq).streams = ledger.streams := by
  rw [Ledger.pruneExactSeqsBelow]
  split
  · rfl
  · simp only
    split <;> rfl

theorem aliases_pruneExactSeqsBelow (afterSeq : ℚ) :
    (ledger.pruneExactSeqsBelow target afterSeq).targetAliases = ledger.targetAliases := by
  rw [Ledger.pruneExactSeqsBelow]
  split
  · rfl
  · simp only
    split <;> rfl

theorem metaRows_pruneExactSeqsBelow (afterSeq : ℚ) :
    (ledger.pruneExactSeqsBelow target afterSeq).metaRows = ledger.metaRows := by
  rw [Ledger.pruneExactSeqsBelow]
  split
  · rfl
  · simp only
    split <;> rfl

theorem dropOtherContext_eq_filter (existing : Option ExactRow) (contextId : Option JsString) :
    (existing.filter fun row => Sql.isNot row.contextId contextId ≠ some true) =
      ExactRow.dropOtherContext existing contextId := by
  cases existing with
  | none => rfl
  | some row =>
      by_cases hcontext : row.contextId = contextId
      · simp [Option.filter, Sql.isNot, ExactRow.dropOtherContext, hcontext]
      · simp [Option.filter, Sql.isNot, ExactRow.dropOtherContext, hcontext]

theorem SameTables.bookStreamEntry (h : SameTables ledger store) (htarget : target ≠ [])
    (seq : Option JsNumber) :
    SameTables
        (Ledger.bookStreamEntry contextId (ledger, store.nextReadOrder) target seq).1
        (store.bookStreamEntry contextId target seq) := by
  have hupsert : ∀ key, (ledger.streams.upsert target
      ⟨seq.bind JsNumber.positiveFinite, some store.nextReadOrder, contextId⟩
      Ledger.onConflict).select key =
        (store.bookStreamEntry contextId target seq).streams.get key := by
    intro key
    rw [Sql.Table.select_upsert, MemoryStore.get_streams_bookStreamEntry _ htarget, h.streams,
      h.streams]
    split
    · cases store.streams.get target with
      | none => rfl
      | some prior =>
          have hseq := onConflict_seq prior
            ⟨seq.bind JsNumber.positiveFinite, some store.nextReadOrder, contextId⟩
          simp only at hseq ⊢
          rw [← hseq]
          rfl
    · rfl
  constructor
  · intro key
    rw [Ledger.bookStreamEntry, streams_pruneExactSeqsBelow]
    exact hupsert key
  · intro key
    rw [Ledger.bookStreamEntry, select_pruneExactSeqsBelow,
      MemoryStore.get_exact_bookStreamEntry _ htarget]
    simp only [Sql.Table.select_deleteWhere, dropOtherContext_eq_filter, h.exact, if_true]
    have hfloor := hupsert target
    rw [MemoryStore.get_streams_bookStreamEntry _ htarget, if_pos rfl] at hfloor
    rw [hfloor]
    split <;> rfl
  · intro key
    rw [Ledger.bookStreamEntry, aliases_pruneExactSeqsBelow, h.aliases, MemoryStore.bookStreamEntry,
      if_neg htarget]

theorem metaRows_bookStreamEntry (state : Ledger × ℕ+) (seq : Option JsNumber) :
    (Ledger.bookStreamEntry contextId state target seq).1.metaRows = state.1.metaRows := by
  rw [Ledger.bookStreamEntry, metaRows_pruneExactSeqsBelow]

theorem SameTables.foldl_bookStreamEntry {entries : List (JsString × Option JsNumber)}
    (hentries : ∀ entry ∈ entries, entry.1 ≠ []) (h : SameTables ledger store) :
    let final := entries.foldl
      (fun state entry => Ledger.bookStreamEntry contextId state entry.1 entry.2)
      (ledger, store.nextReadOrder)
    SameTables final.1 (store.bookStreamEntries entries contextId) ∧
      final.2 = (store.bookStreamEntries entries contextId).nextReadOrder ∧
      final.1.metaRows = ledger.metaRows := by
  induction entries generalizing ledger store with
  | nil => exact ⟨h, rfl, rfl⟩
  | cons entry entries ih =>
      have htarget := hentries entry List.mem_cons_self
      have hnext : (Ledger.bookStreamEntry contextId (ledger, store.nextReadOrder) entry.1
          entry.2).2 = (store.bookStreamEntry contextId entry.1 entry.2).nextReadOrder := by
        rw [MemoryStore.bookStreamEntry, if_neg htarget]
        rfl
      obtain ⟨htables, hcounter, hmeta⟩ :=
        ih (fun other hother => hentries other (List.mem_cons_of_mem _ hother))
          (h.bookStreamEntry htarget entry.2)
      rw [← hnext] at htables hcounter hmeta
      exact ⟨htables, hcounter, hmeta.trans (metaRows_bookStreamEntry _ _)⟩

theorem bookStreamEntries_filter (entries : List (JsString × Option JsNumber)) :
    store.bookStreamEntries (entries.filter fun entry => entry.1.length > 0) contextId =
      store.bookStreamEntries entries contextId := by
  rw [MemoryStore.bookStreamEntries, MemoryStore.bookStreamEntries]
  induction entries generalizing store with
  | nil => rfl
  | cons entry entries ih =>
      by_cases htarget : entry.1 = []
      · rw [List.filter_cons_of_neg (by simp [htarget]), ih, List.foldl_cons,
          MemoryStore.bookStreamEntry, if_pos htarget]
      · rw [List.filter_cons_of_pos (by simpa [List.length_pos_iff] using htarget),
          List.foldl_cons, List.foldl_cons, ih]

theorem Refines.bookStreamEntries (h : Refines ledger store)
    (entries : List (JsString × Option JsNumber)) :
    Refines (ledger.bookStreamEntries entries contextId)
      (store.bookStreamEntries entries contextId) := by
  rw [Ledger.bookStreamEntries, ← bookStreamEntries_filter]
  split
  · next hempty =>
      rw [hempty]
      exact h
  · have hentries : ∀ entry ∈ entries.filter (fun entry => entry.1.length > 0), entry.1 ≠ [] :=
      fun entry hentry => by
        simpa [List.length_pos_iff] using (List.mem_filter.mp hentry).2
    obtain ⟨htables, hcounter, hmeta⟩ :=
      @SameTables.foldl_bookStreamEntry _ _ contextId _ hentries h.toSameTables
    rw [h.nextReadOrder_eq]
    exact {
      streams := htables.streams
      exact := htables.exact
      aliases := htables.aliases
      counter := by
        simp only
        rw [Sql.Table.select_updateWhere, if_pos rfl, hmeta, h.counter, hcounter]
        rfl }

end Streams

/-! ## Exact seqs and aliases -/

section Exact

variable {ledger : Ledger} {store : MemoryStore} {contextId : Option JsString}

theorem SameTables.exactFloor_eq (h : SameTables ledger store) (target : JsString) :
    ledger.exactFloor target contextId = store.exactFloor target contextId := by
  rw [Ledger.exactFloor, MemoryStore.exactFloor, h.streams]
  rfl

theorem Refines.bookExactSeq (h : Refines ledger store) {target : JsString}
    {rawSeqs : List JsNumber} (htarget : target ≠ []) (hseqs : normalizeExactSeqs rawSeqs 0 ≠ []) :
    Refines (ledger.bookExactSeq contextId target (normalizeExactSeqs rawSeqs 0))
      (store.bookExactSeq contextId target rawSeqs) := by
  have hmerged : normalizeSeqs
      ((if (ledger.streamExactSeqs.select target).any fun row => row.contextId = contextId
        then ledger.readExactSeqsRow target else []) ++ normalizeExactSeqs rawSeqs 0)
      (ledger.exactFloor target contextId) =
      normalizeSeqs (ExactRow.heldSeqs (store.exact.get target) contextId ++
        normalizeExactSeqs rawSeqs 0) (store.exactFloor target contextId) := by
    rw [h.exactFloor_eq, readExactSeqsRow_eq, h.exact]
    cases store.exact.get target with
    | none => rfl
    | some row =>
        by_cases hcontext : row.contextId = contextId
        · simp only [Option.any_some, hcontext, decide_true, if_true, Option.map_some,
            Option.getD_some, ExactRow.heldSeqs]
          rw [normalizeSeqs_append_comm,
            normalizeSeqs_append_normalizeSeqs (store.exactFloor_nonneg target contextId),
            normalizeSeqs_append_comm]
        · simp [hcontext, ExactRow.heldSeqs]
  rw [Ledger.bookExactSeq, MemoryStore.bookExactSeq, if_neg (not_or.mpr ⟨htarget, hseqs⟩)]
  simp only [hmerged, List.length_pos_iff]
  by_cases hempty : normalizeSeqs (ExactRow.heldSeqs (store.exact.get target) contextId ++
      normalizeExactSeqs rawSeqs 0) (store.exactFloor target contextId) = []
  · rw [if_neg (not_not.mpr hempty), if_pos hempty]
    exact h
  · rw [if_pos hempty, if_neg hempty]
    exact {
      streams := h.streams
      exact := fun key => by
        simp only
        rw [Sql.Table.select_insertOrReplace, InsertionMap.get_set, h.exact]
      aliases := h.aliases
      counter := h.counter }

theorem Refines.bookExactSeqs (h : Refines ledger store)
    (entries : List (JsString × List JsNumber)) :
    Refines (ledger.bookExactSeqs entries contextId) (store.bookExactSeqs entries contextId) := by
  rw [Ledger.bookExactSeqs, MemoryStore.bookExactSeqs]
  induction entries generalizing ledger store with
  | nil => exact h
  | cons entry entries ih =>
      rw [List.map_cons, List.foldl_cons]
      by_cases hskip : entry.1 = [] ∨ normalizeExactSeqs entry.2 0 = []
      · rw [List.filter_cons_of_neg (by
          rcases hskip with htarget | hseqs
          · simp [htarget]
          · simp [hseqs]), MemoryStore.bookExactSeq, if_pos hskip]
        exact ih h
      · obtain ⟨htarget, hseqs⟩ := not_or.mp hskip
        rw [List.filter_cons_of_pos (by simp [List.length_pos_iff, htarget, hseqs]),
          List.foldl_cons]
        exact ih (h.bookExactSeq htarget hseqs)

theorem Refines.bookTargetAlias (h : Refines ledger store) (spelling canonical : JsString) :
    Refines (ledger.bookTargetAlias spelling canonical)
      (store.bookTargetAlias spelling canonical) := by
  rw [Ledger.bookTargetAlias, MemoryStore.bookTargetAlias]
  split
  · exact h
  · exact {
      streams := h.streams
      exact := h.exact
      aliases := fun key => by
        simp only
        rw [Sql.Table.select_insertOrReplace, InsertionMap.get_set, h.aliases]
      counter := h.counter }

end Exact

/-! ## Runs -/

abbrev SafeInteger := { value : JsNumber // value.isSafeInteger = true }

inductive StoreCall where
  | bookStreamEntries (entries : List (JsString × Option SafeInteger))
      (contextId : Option JsString)
  | bookExactSeqs (entries : List (JsString × List SafeInteger)) (contextId : Option JsString)
  | bookTargetAlias (spelling canonicalTarget : JsString)

def numberEntries (entries : List (JsString × Option SafeInteger)) :
    List (JsString × Option JsNumber) :=
  entries.map fun entry => (entry.1, entry.2.map Subtype.val)

def numberLists (entries : List (JsString × List SafeInteger)) :
    List (JsString × List JsNumber) :=
  entries.map fun entry => (entry.1, entry.2.map Subtype.val)

def ledgerStep (ledger : Ledger) : StoreCall → Ledger
  | .bookStreamEntries entries contextId =>
      ledger.bookStreamEntries (numberEntries entries) contextId
  | .bookExactSeqs entries contextId => ledger.bookExactSeqs (numberLists entries) contextId
  | .bookTargetAlias spelling canonicalTarget => ledger.bookTargetAlias spelling canonicalTarget

def storeStep (store : MemoryStore) : StoreCall → MemoryStore
  | .bookStreamEntries entries contextId =>
      store.bookStreamEntries (numberEntries entries) contextId
  | .bookExactSeqs entries contextId => store.bookExactSeqs (numberLists entries) contextId
  | .bookTargetAlias spelling canonicalTarget => store.bookTargetAlias spelling canonicalTarget

theorem Refines.step {ledger : Ledger} {store : MemoryStore} (h : Refines ledger store)
    (call : StoreCall) : Refines (ledgerStep ledger call) (storeStep store call) := by
  cases call with
  | bookStreamEntries entries contextId => exact h.bookStreamEntries _
  | bookExactSeqs entries contextId => exact h.bookExactSeqs _
  | bookTargetAlias spelling canonicalTarget => exact h.bookTargetAlias _ _

theorem Refines.run {ledger : Ledger} {store : MemoryStore} (h : Refines ledger store)
    (calls : List StoreCall) :
    Refines (run ledgerStep ledger calls) (run storeStep store calls) := by
  induction calls generalizing ledger store with
  | nil => exact h
  | cons call calls ih => exact ih (h.step call)

/-! ## Answers -/

section Answers

variable {ledger : Ledger} {store : MemoryStore}

theorem Refines.readStreamEntry_eq (h : Refines ledger store) (target : JsString) :
    ledger.readStreamEntry target = store.readStreamEntry target := by
  rw [Ledger.readStreamEntry, MemoryStore.readStreamEntry, h.streams]
  cases store.streams.get target <;> rfl

theorem Refines.readExactSeqsWithContext_eq (h : Refines ledger store) (target : JsString) :
    ledger.readExactSeqsWithContext target = store.readExactSeqsWithContext target := by
  rw [Ledger.readExactSeqsWithContext, MemoryStore.readExactSeqsWithContext, h.exactFloor_eq,
    readExactSeqsRow_eq, h.exact,
    normalizeSeqs_normalizeSeqs (store.exactFloor_nonneg _ _)]

theorem Refines.resolveCanonicalTarget_eq (h : Refines ledger store) (target : JsString) :
    ledger.resolveCanonicalTarget target = store.resolveCanonicalTarget target :=
  MemoryStore.followAliases_congr h.aliases _ _

def addEntry (entries : PlainObject CommandStateStreamEntry) (row : JsString × StreamRow) :
    PlainObject CommandStateStreamEntry :=
  match row.2.toEntry with
  | some value => entries.set row.1 value
  | none => entries

theorem addEntry_comm (entries : PlainObject CommandStateStreamEntry)
    {first second : JsString × StreamRow} (h : first.1 ≠ second.1) :
    addEntry (addEntry entries first) second = addEntry (addEntry entries second) first := by
  rw [addEntry, addEntry, addEntry, addEntry]
  cases first.2.toEntry with
  | none => rfl
  | some firstValue =>
      cases second.2.toEntry with
      | none => rfl
      | some secondValue => exact PlainObject.set_comm entries firstValue secondValue h

theorem readAllStreamEntries_eq_foldl (rows : List (JsString × StreamRow)) :
    Ledger.readAllStreamEntries rows = rows.foldl addEntry .empty := by
  rw [Ledger.readAllStreamEntries]
  congr 1
  funext entries row
  rw [addEntry, StreamRow.toEntry]
  split
  · rfl
  · rfl

theorem Refines.readAllStreamEntries_eq (h : Refines ledger store)
    {rows : List (JsString × StreamRow)} (hrows : rows.Perm ledger.streams.rows.entries) :
    Ledger.readAllStreamEntries rows = store.readAllStreamEntries := by
  have hsame : ledger.streams.rows.entries.Perm store.streams.entries :=
    InsertionMap.perm_entries h.streams
  have hcomm : ∀ first ∈ rows, ∀ second ∈ rows, ∀ entries,
      addEntry (addEntry entries first) second = addEntry (addEntry entries second) first := by
    intro first hfirst second hsecond entries
    by_cases hkey : first.1 = second.1
    · rw [ledger.streams.rows.eq_of_mem_entries (hrows.mem_iff.mp hfirst)
        (hrows.mem_iff.mp hsecond) hkey]
    · exact addEntry_comm entries hkey
  rw [readAllStreamEntries_eq_foldl, MemoryStore.readAllStreamEntries,
    (hrows.trans hsame).foldl_eq' hcomm]
  rfl

end Answers

theorem ledger_answers_as_store (contextId : Option JsString) (calls : List StoreCall) :
    let ledger := run ledgerStep emptyLedger calls
    let store := run storeStep (createMemoryCommandStateStore contextId) calls
    (∀ target, ledger.readStreamEntry target = store.readStreamEntry target) ∧
    (∀ rows, rows.Perm ledger.streams.rows.entries →
      Ledger.readAllStreamEntries rows = store.readAllStreamEntries) ∧
    (∀ target, ledger.readExactSeqsWithContext target =
      store.readExactSeqsWithContext target) ∧
    ∀ target, ledger.resolveCanonicalTarget target = store.resolveCanonicalTarget target := by
  intro ledger store
  have h : Refines ledger store := (refines_empty contextId).run calls
  exact ⟨h.readStreamEntry_eq, fun rows hrows => h.readAllStreamEntries_eq hrows,
    h.readExactSeqsWithContext_eq, h.resolveCanonicalTarget_eq⟩

end Raft.AgentLedger
