import Mathlib.Data.Prod.Lex
import Raft.ActivityServer.VersionAuthority

/-!
# The change log across epochs

A rollover drops the log of a scope and numbers the next one from one again.
The service keeps beside its tables every change it has ever logged, under its
epoch and position.  Replaying the entries up to a position gives the rows that
the scope had there.
-/

namespace Raft.ActivityServer

open Raft.Foundation Raft.Activity

/-! ## Entries -/

abbrev LogPosition := ℕ ×ₗ ℕ

structure LogEntry extends LoggedChange where
  epoch : Nat

def LogEntry.position (entry : LogEntry) : LogPosition := toLex (entry.epoch, entry.seq)

def ScopeTables.position (scope : ScopeTables) : LogPosition := toLex (scope.epoch, scope.watermark)

def tag (epoch : Nat) (logged : LoggedChange) : LogEntry := { logged with epoch }

def changesOf (entries : List LogEntry) : List Change := entries.map fun entry => entry.change

def through (log : List LogEntry) (position : LogPosition) : List LogEntry :=
  log.filter fun entry => entry.position ≤ position

/-! ## The service -/

/-- What one transaction has added to `activity_sync_changes`. -/
def appended (before after : ScopeTables) : List LogEntry :=
  (after.changes.drop (if after.epoch = before.epoch then before.changes.length else 0)).map
    (tag after.epoch)

structure ActivityService where
  tables : ActivityTables := {}
  log : ActivityFilter → List LogEntry := fun _ => []

def ActivityService.reconcile (digest : JsValue → JsString) (service : ActivityService)
    (input : ReconcileInput) : ActivityService :=
  let tables := reconcileInTransaction digest service.tables input
  { tables
    log := Function.update service.log input.filter (service.log input.filter ++
      appended (service.tables.scopes input.filter) (tables.scopes input.filter)) }

/-! ## Replay -/

def replayEntry (rows : InsertionMap RowId WindowRow) (entry : LogEntry) :
    InsertionMap RowId WindowRow :=
  match entry.change with
  | .upsert rowVersion payload => rows.set payload.rowId ⟨payload, rowVersion⟩
  | .tombstone rowId _ _ => rows.delete rowId
  | .scope _ => rows

def activeRowsAt (log : List LogEntry) (position : LogPosition) : List WindowRow :=
  ((through log position).foldl replayEntry InsertionMap.empty).values

theorem itemsOf_snoc (rowId : RowId) (changes : List Change) (change : Change) :
    itemsOf rowId (changes ++ [change]) =
      if change.rowId = some rowId then itemsOf rowId changes ++ change.item.toList
      else itemsOf rowId changes := by
  rw [itemsOf_append]
  by_cases hrowId : change.rowId = some rowId
  · rw [if_pos hrowId]
    cases hitem : change.item <;> simp [itemsOf, hrowId, hitem]
  · rw [if_neg hrowId]
    simp [itemsOf, hrowId]

theorem get_replay (entries : List LogEntry) (rowId : RowId) :
    let replayed := (entries.foldl replayEntry InsertionMap.empty).get rowId
    (∀ window, replayed = some window → window.payload.rowId = rowId) ∧
      ∀ row, (∃ window, replayed = some window ∧
          window.payload.toRow window.rowVersion = row) ↔
        (itemsOf rowId (changesOf entries)).getLast? = some (.live row) := by
  induction entries using List.reverseRecOn with
  | nil => simp [changesOf, itemsOf]
  | append_singleton entries entry ih =>
      have hchanges : changesOf (entries ++ [entry]) = changesOf entries ++ [entry.change] := by
        simp [changesOf]
      simp only [List.foldl_append, List.foldl_cons, List.foldl_nil, hchanges, itemsOf_snoc]
      cases hchange : entry.change with
      | scope metadata => simpa [replayEntry, hchange, Change.rowId] using ih
      | upsert rowVersion payload =>
          by_cases hrowId : payload.rowId = rowId
          · subst hrowId
            simp [replayEntry, hchange, Change.rowId, Change.item]
          · simpa [replayEntry, hchange, Change.rowId, hrowId,
              InsertionMap.get_set_of_ne _ _ (Ne.symm hrowId)] using ih
      | tombstone buried rowVersion reason =>
          by_cases hrowId : buried = rowId
          · subst hrowId
            simp [replayEntry, hchange, Change.rowId, Change.item]
          · simpa [replayEntry, hchange, Change.rowId, hrowId,
              InsertionMap.get_delete_of_ne _ (Ne.symm hrowId)] using ih

/-! ## Positions -/

section Positions

variable {log more : List LogEntry} {position : LogPosition}

theorem changesOf_append (first second : List LogEntry) :
    changesOf (first ++ second) = changesOf first ++ changesOf second := by
  rw [changesOf, List.map_append, changesOf, changesOf]

@[simp] theorem changesOf_tag (epoch : Nat) (logged : List LoggedChange) :
    changesOf (logged.map (tag epoch)) = logged.map LoggedChange.change := by
  rw [changesOf, List.map_map]
  rfl

theorem through_append (log more : List LogEntry) (position : LogPosition) :
    through (log ++ more) position = through log position ++ through more position := by
  rw [through, List.filter_append, through, through]

theorem through_of_le (h : ∀ entry ∈ log, entry.position ≤ position) :
    through log position = log :=
  List.filter_eq_self.mpr fun entry hentry => decide_eq_true (h entry hentry)

theorem through_of_lt (h : ∀ entry ∈ log, position < entry.position) :
    through log position = [] :=
  List.filter_eq_nil_iff.mpr fun entry hentry => by
    simpa using h entry hentry

theorem through_append_of_lt (h : ∀ entry ∈ more, position < entry.position) :
    through (log ++ more) position = through log position := by
  rw [through_append, through_of_lt h, List.append_nil]

theorem through_through {lower : LogPosition} (h : lower ≤ position) :
    through (through log position) lower = through log lower := by
  rw [through, through, through, List.filter_filter]
  apply List.filter_congr
  intro entry _
  rw [Bool.eq_iff_iff]
  simp only [Bool.and_eq_true, decide_eq_true_eq]
  exact ⟨fun hboth => hboth.1, fun hle => ⟨hle, hle.trans h⟩⟩

theorem through_next (hsorted : log.Pairwise fun first second => first.position < second.position)
    {entry : LogEntry} (hmem : entry ∈ log) (hafter : position < entry.position)
    (hnext : ∀ other : LogEntry, other.position < entry.position → other.position ≤ position) :
    through log entry.position = through log position ++ [entry] := by
  obtain ⟨before, after, rfl⟩ := List.mem_iff_append.mp hmem
  obtain ⟨-, hrest, hbefore⟩ := List.pairwise_append.mp hsorted
  rw [List.pairwise_cons] at hrest
  have hlower : ∀ other ∈ before, other.position < entry.position :=
    fun other hother => hbefore other hother entry List.mem_cons_self
  have hself : through [entry] entry.position = [entry] :=
    through_of_le (by simp)
  have hnone : through (entry :: after) position = [] := by
    apply through_of_lt
    intro other hother
    rcases List.mem_cons.mp hother with rfl | hother
    · exact hafter
    · exact hafter.trans (hrest.1 other hother)
  rw [through_append, through_append, hnone, List.append_nil,
    through_of_le fun other hother => (hlower other hother).le,
    through_of_le fun other hother => hnext other (hlower other hother),
    ← List.singleton_append, through_append, hself, through_of_lt hrest.1, List.append_nil]

theorem position_tag (epoch : Nat) (logged : LoggedChange) :
    (tag epoch logged).position = toLex (epoch, logged.seq) := rfl

theorem rising_numbered (watermark : Nat) (changes : List Change) :
    (numbered watermark changes).Pairwise fun left right => left.seq < right.seq := by
  have hsorted : ((numbered watermark changes).map LoggedChange.seq).Pairwise (· < ·) := by
    rw [map_seq_numbered]
    exact List.pairwise_lt_range'
  exact List.pairwise_map.mp hsorted

theorem sorted_tag (epoch watermark : Nat) (changes : List Change) :
    ((numbered watermark changes).map (tag epoch)).Pairwise
      fun first second => first.position < second.position := by
  refine List.pairwise_map.mpr ((rising_numbered watermark changes).imp ?_)
  intro left right hlt
  rw [position_tag, position_tag, Prod.Lex.toLex_lt_toLex]
  exact Or.inr ⟨rfl, hlt⟩

end Positions

/-! ## What a row shows -/

/-- The held item is one of those logged, and it is live exactly where the last of them is. -/
def Shows (held : Option RowItem) (items : List RowItem) : Prop :=
  (∀ item, held = some item → item ∈ items) ∧
    ∀ row, held = some (.live row) ↔ items.getLast? = some (.live row)

theorem shows_nil : Shows none [] := ⟨nofun, fun _ => by simp⟩

theorem getLast?_of_suffix {items page : List RowItem} {last : RowItem} (h : page <:+ items)
    (hlast : page.getLast? = some last) : items.getLast? = some last := by
  obtain ⟨before, rfl⟩ := h
  rw [List.getLast?_append, hlast]
  rfl

theorem Shows.catch_up {held : Option RowItem} {items more page : List RowItem}
    (h : Shows held items) (hpage : page <:+ items ++ more) (hmore : more <:+ page) :
    Shows (page.getLast?.or held) (items ++ more) := by
  cases hlast : page.getLast? with
  | none =>
      obtain rfl : page = [] := List.getLast?_eq_none_iff.mp hlast
      obtain rfl : more = [] := List.suffix_nil.mp hmore
      rwa [List.append_nil, Option.none_or]
  | some last =>
      have htop := getLast?_of_suffix hpage hlast
      refine ⟨?_, fun row => by rw [htop, Option.some_or]⟩
      rintro _ ⟨⟩
      exact List.mem_of_getLast? htop

theorem Shows.forget {version : UInt64String} {items : List RowItem}
    (h : Shows (some (.buried version)) items) : Shows none items := by
  refine ⟨nofun, fun row => ?_⟩
  rw [← h.2 row]
  simp

/-! ## Recorded scopes -/

/-- A state the scope has been in, as the log of all epochs records it. -/
structure Recorded (log : List LogEntry) (scope : ScopeTables) : Prop where
  started : 0 < scope.epoch
  filed : Filed scope.rows
  logged : ∃ earlier changes, scope.changes = numbered 0 changes ∧
    scope.watermark = changes.length ∧
    through log scope.position = earlier ++ (numbered 0 changes).map (tag scope.epoch) ∧
    ∀ entry ∈ earlier, entry.epoch < scope.epoch
  shows : ∀ rowId, Shows (itemAt scope.rows rowId)
    (itemsOf rowId (changesOf (through log scope.position)))

theorem Recorded.append {log more : List LogEntry} {scope : ScopeTables} (h : Recorded log scope)
    (hlater : ∀ entry ∈ more, scope.position < entry.position) : Recorded (log ++ more) scope := by
  have hthrough : through (log ++ more) scope.position = through log scope.position :=
    through_append_of_lt hlater
  refine ⟨h.started, h.filed, ?_, ?_⟩
  · rw [hthrough]
    exact h.logged
  · rw [hthrough]
    exact h.shows

theorem Recorded.page {log : List LogEntry} {scope : ScopeTables} (h : Recorded log scope)
    {changes : List Change} (hlog : scope.changes = numbered 0 changes) {after : Nat}
    (hafter : after ≤ scope.watermark) :
    through log scope.position = through log (toLex (scope.epoch, after)) ++
      (numbered after (changes.drop after)).map (tag scope.epoch) := by
  obtain ⟨earlier, logged, hlogged, hwatermark, hthrough, hearlier⟩ := h.logged
  obtain rfl : logged = changes := by
    rw [← map_change_numbered 0 logged, ← hlogged, hlog, map_change_numbered]
  have hlength : (logged.take after).length = after :=
    List.length_take_of_le (hwatermark ▸ hafter)
  have hsplit : numbered 0 logged =
      numbered 0 (logged.take after) ++ numbered after (logged.drop after) := by
    rw [← List.take_append_drop after logged, numbered_append, hlength, Nat.zero_add,
      List.take_append_drop]
  have hlower : toLex (scope.epoch, after) ≤ scope.position :=
    Prod.Lex.toLex_le_toLex.mpr (Or.inr ⟨rfl, hafter⟩)
  have hkept : through log (toLex (scope.epoch, after)) =
      earlier ++ (numbered 0 (logged.take after)).map (tag scope.epoch) := by
    rw [← through_through hlower, hthrough, hsplit, List.map_append, ← List.append_assoc,
      through_append_of_lt, through_of_le]
    · intro entry hentry
      rcases List.mem_append.mp hentry with hold | hnew
      · exact Prod.Lex.toLex_le_toLex.mpr (Or.inl (hearlier entry hold))
      · obtain ⟨change, hchange, rfl⟩ := List.mem_map.mp hnew
        have hseq := (seq_of_mem_numbered hchange).2
        rw [hlength, Nat.zero_add] at hseq
        exact Prod.Lex.toLex_le_toLex.mpr (Or.inr ⟨rfl, hseq⟩)
    · intro entry hentry
      obtain ⟨change, hchange, rfl⟩ := List.mem_map.mp hentry
      exact Prod.Lex.toLex_lt_toLex.mpr (Or.inr ⟨rfl, (seq_of_mem_numbered hchange).1⟩)
  rw [hthrough, hkept, hsplit, List.map_append, List.append_assoc]

/-! ## One reconcile -/

section Step

variable {digest : JsValue → JsString} {scope : ScopeTables} {input : ReconcileInput}
  {work : Reconciling}

/-- The log of a scope grows, or its epoch ends and the log restarts. -/
theorem reconcileScope_log :
    let pending := pendingChanges digest scope input work
    let after := reconcileScope digest scope input work
    (after.epoch = scope.epoch ∧ after.changes = scope.changes ++ numbered scope.watermark pending ∧
        after.watermark = scope.watermark + pending.length) ∨
      (after.epoch = scope.epoch + 1 ∧ after.changes = numbered 0 pending ∧
        after.watermark = pending.length) := by
  intro pending after
  have hwatermark : ∀ settled scopeDigest metadata,
      (logChanges settled pending scopeDigest metadata).watermark =
        settled.watermark + pending.length := by
    intro settled scopeDigest metadata
    rw [logChanges]
    split
    · next hnil => rw [hnil, List.length_nil, Nat.add_zero]
    · rfl
  simp only [after, changes_reconcileScope]
  simp only [reconcileScope]
  rw [epoch_logChanges, hwatermark]
  split
  · exact Or.inr ⟨rfl, rfl, Nat.zero_add _⟩
  · exact Or.inl ⟨rfl, rfl, rfl⟩

theorem appended_reconcileScope :
    ∃ start, appended scope (reconcileScope digest scope input work) =
        (numbered start (pendingChanges digest scope input work)).map
          (tag (reconcileScope digest scope input work).epoch) ∧
      scope.position ≤ toLex ((reconcileScope digest scope input work).epoch, start) ∧
      (reconcileScope digest scope input work).watermark =
        start + (pendingChanges digest scope input work).length := by
  rcases @reconcileScope_log digest scope input work with
    ⟨hepoch, hchanges, hwatermark⟩ | ⟨hepoch, hchanges, hwatermark⟩
  · refine ⟨scope.watermark, ?_, ?_, hwatermark⟩
    · rw [appended, if_pos hepoch, hchanges, List.drop_left]
    · rw [hepoch]
      exact le_refl _
  · refine ⟨0, ?_, ?_, by rw [hwatermark, Nat.zero_add]⟩
    · rw [appended, if_neg (by omega), hchanges, List.drop_zero]
    · exact Prod.Lex.toLex_le_toLex.mpr (Or.inl (by simp [hepoch]))

theorem itemAt_reconcileScope (htracks : Tracks scope.rows work) (rowId : RowId) :
    let held := (itemsOf rowId (pendingChanges digest scope input work)).getLast?.or
      (itemAt scope.rows rowId)
    itemAt (reconcileScope digest scope input work).rows rowId = held ∨
      (itemAt (reconcileScope digest scope input work).rows rowId = none ∧
        ∃ version, held = some (.buried version)) := by
  intro held
  have hwork : itemAt work.rows rowId = held := by
    simp only [held]
    rw [itemsOf_pendingChanges]
    exact (htracks rowId).last.1
  rw [rows_reconcileScope]
  split
  · rw [itemAt, InsertionMap.get_filter]
    cases hget : work.rows.get rowId with
    | none => exact Or.inl (by rw [← hwork, itemAt, hget]; rfl)
    | some record =>
        rw [itemAt, hget] at hwork
        cases record with
        | active rowVersion payload payloadDigest => exact Or.inl hwork
        | inactive rowVersion reason => exact Or.inr ⟨rfl, _, hwork.symm⟩
  · exact Or.inl hwork

end Step

/-! ## The service over a run -/

structure LogSound (log : List LogEntry) (scope : ScopeTables) : Prop where
  sorted : log.Pairwise fun first second => first.position < second.position
  bounded : ∀ entry ∈ log, entry.position ≤ scope.position
  recorded : Recorded log scope

theorem LogSound.reconcileScope {digest : JsValue → JsString} {log : List LogEntry}
    {scope : ScopeTables} {input : ReconcileInput} {work : Reconciling} (h : LogSound log scope)
    (htracks : Tracks scope.rows work)
    (hfiled : Filed (reconcileScope digest scope input work).rows) :
    LogSound (log ++ appended scope (reconcileScope digest scope input work))
        (reconcileScope digest scope input work) ∧
      scope.position ≤ (reconcileScope digest scope input work).position ∧
      ∀ entry ∈ appended scope (reconcileScope digest scope input work),
        scope.position < entry.position := by
  have hitems := @itemAt_reconcileScope digest scope input work htracks
  have hlog := @reconcileScope_log digest scope input work
  obtain ⟨start, happended, hstart, hwatermark⟩ :=
    @appended_reconcileScope digest scope input work
  generalize pendingChanges digest scope input work = pending at *
  generalize ActivityServer.reconcileScope digest scope input work = after at *
  have hnew : ∀ entry ∈ appended scope after,
      scope.position < entry.position ∧ entry.position ≤ after.position := by
    intro entry hentry
    rw [happended] at hentry
    obtain ⟨logged, hlogged, rfl⟩ := List.mem_map.mp hentry
    obtain ⟨hlower, hupper⟩ := seq_of_mem_numbered hlogged
    refine ⟨hstart.trans_lt (Prod.Lex.toLex_lt_toLex.mpr (Or.inr ⟨rfl, hlower⟩)),
      Prod.Lex.toLex_le_toLex.mpr (Or.inr ⟨rfl, ?_⟩)⟩
    exact hwatermark ▸ hupper
  have hreached : scope.position ≤ after.position :=
    hstart.trans (Prod.Lex.toLex_le_toLex.mpr (Or.inr ⟨rfl, by
      rw [hwatermark]
      exact Nat.le_add_right _ _⟩))
  have hbounded : ∀ entry ∈ log ++ appended scope after, entry.position ≤ after.position := by
    intro entry hentry
    rcases List.mem_append.mp hentry with hold | hadded
    · exact (h.bounded entry hold).trans hreached
    · exact (hnew entry hadded).2
  have hbefore : through log scope.position = log := through_of_le h.bounded
  have hstarted : 0 < after.epoch := by
    have hpositive := h.recorded.started
    rcases hlog with ⟨hepoch, -⟩ | ⟨hepoch, -⟩ <;> omega
  refine ⟨⟨?_, hbounded, hstarted, hfiled, ?_, fun rowId => ?_⟩, hreached,
    fun entry hentry => (hnew entry hentry).1⟩
  · refine List.pairwise_append.mpr ⟨h.sorted, ?_, fun first hfirst second hsecond =>
      (h.bounded first hfirst).trans_lt (hnew second hsecond).1⟩
    rw [happended]
    exact sorted_tag _ _ _
  · rw [through_of_le hbounded]
    obtain ⟨earlier, changes, hchanges, hlength, hthrough, hearlier⟩ := h.recorded.logged
    rw [hbefore] at hthrough
    rcases hlog with ⟨hepoch, hgrown, hmark⟩ | ⟨hepoch, hfresh, hmark⟩
    · obtain rfl : start = changes.length := by omega
      refine ⟨earlier, changes ++ pending, ?_, ?_, ?_, fun entry hentry => ?_⟩
      · rw [hgrown, hchanges, hlength, numbered_append, Nat.zero_add]
      · rw [hmark, hlength, List.length_append]
      · rw [happended, hthrough, numbered_append, Nat.zero_add, List.map_append,
          List.append_assoc, hepoch]
      · rw [hepoch]
        exact hearlier entry hentry
    · obtain rfl : start = 0 := by omega
      refine ⟨log, pending, hfresh, hmark, by rw [happended], fun entry hentry => ?_⟩
      have hle := h.bounded entry hentry
      rcases Prod.Lex.toLex_le_toLex.mp hle with hlt | ⟨heq, -⟩
      · exact hepoch ▸ Nat.lt_succ_of_lt hlt
      · exact hepoch ▸ Nat.lt_succ_of_le heq.le
  · have hshown : Shows ((itemsOf rowId pending).getLast?.or (itemAt scope.rows rowId))
        (itemsOf rowId (changesOf log) ++ itemsOf rowId pending) := by
      have hscope := h.recorded.shows rowId
      rw [hbefore] at hscope
      exact hscope.catch_up (List.suffix_append _ _) (List.suffix_refl _)
    rw [through_of_le hbounded, changesOf_append, happended, changesOf_tag,
      map_change_numbered, itemsOf_append]
    rcases hitems rowId with heq | ⟨hnone, version, hburied⟩
    · rw [heq]
      exact hshown
    · rw [hburied] at hshown
      rw [hnone]
      exact hshown.forget

structure ServiceSound (digest : JsValue → JsString) (service : ActivityService) : Prop where
  tables : TablesSound service.tables
  written : ∃ writes, TablesLedger digest service.tables writes ∧ ∀ filter,
    ((changesOf (service.log filter)).filterMap (Change.write filter)).Sublist writes
  log : ∀ filter, LogSound (service.log filter) (service.tables.scopes filter)

theorem serviceSound_initial (digest : JsValue → JsString) : ServiceSound digest {} := by
  refine ⟨tablesSound_initial, ⟨[], tablesLedger_initial, fun _ => List.Sublist.refl _⟩,
    fun filter => ⟨List.Pairwise.nil, nofun, Nat.one_pos, ?_, ⟨[], [], rfl, rfl, rfl, nofun⟩,
      fun _ => shows_nil⟩⟩
  exact (tablesSound_initial.scope filter).filed

theorem ServiceSound.reconcile {digest : JsValue → JsString} {service : ActivityService}
    (h : ServiceSound digest service) (input : ReconcileInput) :
    ServiceSound digest (service.reconcile digest input) ∧
      ∀ filter, (service.tables.scopes filter).position ≤
          ((service.reconcile digest input).tables.scopes filter).position ∧
        ∃ more, (service.reconcile digest input).log filter = service.log filter ++ more ∧
          ∀ entry ∈ more, (service.tables.scopes filter).position < entry.position := by
  have htables := (reconcile_step digest h.tables input).1
  have hscopes : (reconcileInTransaction digest service.tables input).scopes input.filter =
      reconcileScope digest (service.tables.scopes input.filter) input
        (reconcileRows digest service.tables input) := Function.update_self _ _ _
  have hfiled := (htables.scope input.filter).filed
  rw [hscopes] at hfiled
  obtain ⟨hlog, hreached, hlater⟩ := (h.log input.filter).reconcileScope
    (reconcileRows_sound digest h.tables input).tracks hfiled
  refine ⟨⟨htables, ?_, fun filter => ?_⟩, fun filter => ?_⟩
  · obtain ⟨writes, hledger, hwritten⟩ := h.written
    refine ⟨_, hledger.reconcile input, fun filter => ?_⟩
    simp only [ActivityService.reconcile, hscopes]
    by_cases hfilter : filter = input.filter
    · subst hfilter
      obtain ⟨start, happended, -, -⟩ := @appended_reconcileScope digest
        (service.tables.scopes input.filter) input (reconcileRows digest service.tables input)
      rw [Function.update_self, happended, changesOf_append, changesOf_tag,
        map_change_numbered, List.filterMap_append, filterMap_pendingChanges]
      exact (hwritten input.filter).append (List.Sublist.refl _)
    · rw [Function.update_of_ne hfilter]
      exact (hwritten filter).trans (List.sublist_append_left _ _)
  · simp only [ActivityService.reconcile, hscopes]
    by_cases hfilter : filter = input.filter
    · subst hfilter
      rw [Function.update_self, hscopes]
      exact hlog
    · rw [Function.update_of_ne hfilter, reconcileInTransaction]
      simp only [Function.update_of_ne hfilter]
      exact h.log filter
  · simp only [ActivityService.reconcile, hscopes]
    by_cases hfilter : filter = input.filter
    · subst hfilter
      rw [hscopes]
      exact ⟨hreached, _, Function.update_self _ _ _, hlater⟩
    · simp only [reconcileInTransaction, Function.update_of_ne hfilter]
      exact ⟨le_refl _, [], (List.append_nil _).symm, by simp⟩

theorem write_of_item (filter : ActivityFilter) {rowId : RowId} {change : Change} {item : RowItem}
    (hrowId : change.rowId = some rowId) (hitem : change.item = some item) :
    ∃ write, (change.write filter).filter
        (fun write => write.filter = filter && write.rowId = rowId) = some write ∧
      item.rank / 2 = write.rowVersion := by
  cases change with
  | scope metadata => cases hitem
  | upsert rowVersion payload =>
      cases hrowId
      cases hitem
      refine ⟨_, Option.filter_eq_some_iff.mpr ⟨rfl, by simp⟩, ?_⟩
      simp [RowItem.rank]
  | tombstone buried rowVersion reason =>
      cases hrowId
      cases hitem
      refine ⟨_, Option.filter_eq_some_iff.mpr ⟨rfl, by simp⟩, ?_⟩
      simp only [RowItem.rank, UInt64String.value_ofNat]
      omega

theorem ServiceSound.rising {digest : JsValue → JsString} {service : ActivityService}
    (h : ServiceSound digest service) (filter : ActivityFilter) (rowId : RowId) :
    (itemsOf rowId (changesOf (service.log filter))).Pairwise
      fun first second => first.rank < second.rank := by
  obtain ⟨writes, hledger, hwritten⟩ := h.written
  have hversions : (versionsOf filter rowId
      ((changesOf (service.log filter)).filterMap (Change.write filter))).Pairwise (· < ·) :=
    (hledger.rising filter rowId).sublist (((hwritten filter).filter _).map _)
  generalize changesOf (service.log filter) = changes at hversions
  rw [versionsOf, List.pairwise_map, List.filter_filterMap, List.pairwise_filterMap] at hversions
  rw [itemsOf, List.pairwise_filterMap, List.pairwise_filter]
  refine hversions.imp ?_
  intro first second hrises hfirst hsecond item hitem other hother
  obtain ⟨write, hwrite, hrank⟩ := write_of_item filter (of_decide_eq_true hfirst) hitem
  obtain ⟨next, hnext, hrank'⟩ := write_of_item filter (of_decide_eq_true hsecond) hother
  have hlt := hrises write hwrite next hnext
  omega

end Raft.ActivityServer
