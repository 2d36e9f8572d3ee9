import Raft.TerminalBreaker.Catchup

/-!
# What a batch covers

A batch claims a conversation up to a seq only when every deliverable row up to
it was rendered in order, given that the row query returned all it was asked for.
A complete batch leaves no row that was unread when the unread set was reported.
-/

namespace Raft.TerminalBreaker

open Raft.Foundation

/-! ## Maps filled entry by entry -/

section MapOf

variable {α : Type}

theorem get_foldl_set (entries : List (JsString × α)) (map : InsertionMap JsString α)
    {key : JsString} (h : key ∉ entries.map Prod.fst) :
    (entries.foldl (fun map entry => map.set entry.1 entry.2) map).get key = map.get key := by
  induction entries generalizing map with
  | nil => rfl
  | cons entry rest ih =>
      simp only [List.map_cons, List.mem_cons, not_or] at h
      rw [List.foldl_cons, ih _ h.2, map.get_set_of_ne _ h.1]

theorem get_mapOf {entries : List (JsString × α)} (hdistinct : (entries.map Prod.fst).Nodup)
    {key : JsString} {value : α} (h : (key, value) ∈ entries) :
    (mapOf entries).get key = some value := by
  rw [mapOf]
  generalize InsertionMap.empty = map
  induction entries generalizing map with
  | nil => cases h
  | cons entry rest ih =>
      rw [List.map_cons, List.nodup_cons] at hdistinct
      rcases List.mem_cons.mp h with rfl | hrest
      · rw [List.foldl_cons, get_foldl_set _ _ hdistinct.1, InsertionMap.get_set_self]
      · exact ih hdistinct.2 hrest _

theorem mem_of_get_foldl_set {entries : List (JsString × α)} {map : InsertionMap JsString α}
    {key : JsString} {value : α}
    (h : (entries.foldl (fun map entry => map.set entry.1 entry.2) map).get key = some value) :
    (key, value) ∈ entries ∨ map.get key = some value := by
  induction entries generalizing map with
  | nil => exact .inr h
  | cons entry rest ih =>
      rcases ih h with hrest | hset
      · exact .inl (List.mem_cons_of_mem _ hrest)
      · rw [InsertionMap.get_set] at hset
        split at hset
        · rename_i hkey
          cases hset
          exact .inl (hkey ▸ List.mem_cons_self)
        · exact .inr hset

theorem mem_of_get_mapOf {entries : List (JsString × α)} {key : JsString} {value : α}
    (h : (mapOf entries).get key = some value) : (key, value) ∈ entries := by
  rcases mem_of_get_foldl_set h with hmem | hempty
  · exact hmem
  · rw [InsertionMap.get_empty] at hempty
    cases hempty

end MapOf

/-! ## Rows rendered in order -/

def RenderedRows.inOrder (rows : RenderedRows) (conversationId : JsString) : List Int :=
  (rows.renderedInOrder.get conversationId).getD []

theorem mem_inOrder_renderRow {byConversation : InsertionMap JsString CatchupConversation}
    {rows : RenderedRows} {row : RenderedRow} {conversationId : JsString} {seq : Int}
    (h : seq ∈ (renderRow byConversation rows row).inOrder conversationId) :
    seq ∈ rows.inOrder conversationId ∨
      row.conversationId = conversationId ∧ row.seq = seq ∧ row.appendedOutOfOrder = false := by
  rw [renderRow] at h
  split at h
  · exact .inl h
  · rename_i happended
    split at h
    · exact .inl h
    · rw [RenderedRows.inOrder, InsertionMap.get_set] at h
      split at h
      · rename_i hconversation
        subst hconversation
        rcases List.mem_append.mp h with hmem | hmem
        · exact .inl hmem
        · simp only [Bool.or_eq_true, not_or, Bool.not_eq_true] at happended
          exact .inr ⟨rfl, (List.mem_singleton.mp hmem).symm, happended.1⟩
      · exact .inl h

theorem mem_inOrder_foldl {byConversation : InsertionMap JsString CatchupConversation}
    {rendered : List RenderedRow} {rows : RenderedRows} {conversationId : JsString} {seq : Int}
    (h : seq ∈ (rendered.foldl (renderRow byConversation) rows).inOrder conversationId) :
    seq ∈ rows.inOrder conversationId ∨ ∃ row ∈ rendered,
      row.conversationId = conversationId ∧ row.seq = seq ∧ row.appendedOutOfOrder = false := by
  induction rendered generalizing rows with
  | nil => exact .inl h
  | cons row rest ih =>
      rcases ih h with hrow | ⟨later, hlater, hmatches⟩
      · rcases mem_inOrder_renderRow hrow with hrows | hmatches
        · exact .inl hrows
        · exact .inr ⟨row, List.mem_cons_self, hmatches⟩
      · exact .inr ⟨later, List.mem_cons_of_mem _ hlater, hmatches⟩

theorem mem_renderedInOrder {input : CatchupBatchBuildInput} {conversationId : JsString} {seq : Int}
    (h : seq ∈ renderedInOrder input conversationId) : ∃ row ∈ input.rendered,
      row.conversationId = conversationId ∧ row.seq = seq ∧ row.appendedOutOfOrder = false := by
  rcases mem_inOrder_foldl h with hempty | hrow
  · simp [RenderedRows.inOrder] at hempty
  · exact hrow

/-! ## The rendered prefix of the fetched rows -/

structure Scanned (fromSeqExclusive : Int) (renderedInOrder fetched : List Int) (start : Int)
    (result : Int × Bool) : Prop where
  ends : result.1 = start ∨ result.1 ∈ fetched
  rendered : ∀ seq ∈ fetched, fromSeqExclusive < seq → seq ≤ result.1 → seq ∈ renderedInOrder
  all : result.2 = true → ∀ seq ∈ fetched, fromSeqExclusive < seq → seq ∈ renderedInOrder

theorem scanned_scanFetched (fromSeqExclusive : Int) (renderedInOrder : List Int)
    {fetched : List Int}
    (hascending : fetched.Pairwise (· < ·)) (start : Int)
    (hstart : ∀ seq ∈ fetched, fromSeqExclusive < seq → start < seq) :
    Scanned fromSeqExclusive renderedInOrder fetched start
      (scanFetched fromSeqExclusive renderedInOrder start fetched) := by
  induction fetched generalizing start with
  | nil => exact ⟨.inl rfl, by simp, by simp⟩
  | cons head rest ih =>
      rw [List.pairwise_cons] at hascending
      rw [scanFetched]
      split_ifs with hbelow hrendered
      · have hrest := ih hascending.2 start
          fun seq hseq => hstart seq (List.mem_cons_of_mem _ hseq)
        refine ⟨hrest.ends.imp_right (List.mem_cons_of_mem _), fun seq hseq hfrom => ?_,
          fun hall seq hseq hfrom => ?_⟩
        · rcases List.mem_cons.mp hseq with rfl | hseq
          · omega
          · exact hrest.rendered seq hseq hfrom
        · rcases List.mem_cons.mp hseq with rfl | hseq
          · omega
          · exact hrest.all hall seq hseq hfrom
      · have hrest := ih hascending.2 head fun seq hseq _ => hascending.1 seq hseq
        refine ⟨.inr (List.mem_cons.mpr hrest.ends), fun seq hseq hfrom hupTo => ?_,
          fun hall seq hseq hfrom => ?_⟩
        · rcases List.mem_cons.mp hseq with rfl | hseq
          · exact hrendered
          · exact hrest.rendered seq hseq hfrom hupTo
        · rcases List.mem_cons.mp hseq with rfl | hseq
          · exact hrendered
          · exact hrest.all hall seq hseq hfrom
      · refine ⟨.inl rfl, fun seq hseq hfrom hupTo => ?_, by simp⟩
        have hbeyond := hstart seq hseq hfrom
        exact absurd hupTo hbeyond.not_ge

/-! ## The contract of a build -/

structure UnreadReport where
  readCursor : JsString → Int
  /-- The latest seq posted to each conversation. -/
  latest : JsString → Int

structure FetchesAll (deliverable : JsString → Int → Prop) (latest : JsString → Int)
    (c : CatchupConversation) : Prop where
  latestSeq : c.latestSeq ≤ latest c.conversationId
  ascending : c.fetchedSeqs.Pairwise (· < ·)
  posted : ∀ seq ∈ c.fetchedSeqs, seq ≤ latest c.conversationId
  complete : ∀ seq, deliverable c.conversationId seq → c.fromSeqExclusive < seq →
    seq ≤ latest c.conversationId →
      (c.truncated = true → ∃ last ∈ c.fetchedSeqs, seq ≤ last) → seq ∈ c.fetchedSeqs

structure MeetsContract (deliverable : JsString → Int → Prop)
    (obligation : Option CatchupObligation)
    (latest : JsString → Int) (report : UnreadReport) (input : CatchupBatchBuildInput) : Prop where
  distinct : (input.conversations.map (·.conversationId)).Nodup
  lowerBound : ∀ c ∈ input.conversations, c.fromSeqExclusive =
    catchupLowerBound obligation c.conversationId (report.readCursor c.conversationId)
  fetches : ∀ c ∈ input.conversations, FetchesAll deliverable latest c
  unread : ∀ conversationId seq, deliverable conversationId seq →
    report.readCursor conversationId < seq → seq ≤ report.latest conversationId →
      ∃ latestUnread, input.unreadLatestSeqs.get conversationId = some latestUnread ∧
        seq ≤ latestUnread

theorem FetchesAll.rendered_of_covered {deliverable : JsString → Int → Prop}
    {latest : JsString → Int}
    {c : CatchupConversation} (hfetches : FetchesAll deliverable latest c)
    {renderedInOrder : List Int}
    {seq : Int} (hdeliverable : deliverable c.conversationId seq) (hfrom : c.fromSeqExclusive < seq)
    (hcovered : seq ≤ conversationCoverage c renderedInOrder) :
    seq ∈ c.fetchedSeqs ∧ seq ∈ renderedInOrder := by
  have hscan := scanned_scanFetched c.fromSeqExclusive renderedInOrder hfetches.ascending
    c.fromSeqExclusive fun _ _ h => h
  rw [conversationCoverage] at hcovered
  generalize scanFetched c.fromSeqExclusive renderedInOrder c.fromSeqExclusive c.fetchedSeqs =
    result
    at hscan hcovered
  dsimp only at hcovered
  -- Up to the last rendered row, the fetch is complete even when it was cut.
  have hstarts (hupTo : seq ≤ result.1) : seq ∈ c.fetchedSeqs ∧ seq ∈ renderedInOrder := by
    rcases hscan.ends with hstart | hlast
    · omega
    · have hfetched := hfetches.complete seq hdeliverable hfrom
        (hupTo.trans (hfetches.posted _ hlast)) fun _ => ⟨_, hlast, hupTo⟩
      exact ⟨hfetched, hscan.rendered seq hfetched hfrom hupTo⟩
  split_ifs at hcovered with hextended
  · simp only [Bool.and_eq_true, Bool.not_eq_true', decide_eq_true_eq] at hextended
    by_cases hupTo : seq ≤ result.1
    · exact hstarts hupTo
    · have hfetched := hfetches.complete seq hdeliverable hfrom
        ((by omega : seq ≤ c.latestSeq).trans hfetches.latestSeq) (by simp [hextended.1.2])
      exact ⟨hfetched, hscan.all hextended.1.1 seq hfetched hfrom⟩
  · exact hstarts hcovered

/-! ## Batches -/

/-- The row was rendered in order, inside what the batch covers. -/
def CatchupBatch.Renders (batch : CatchupBatch) (conversationId : JsString) (seq : Int) : Prop :=
  ∃ message ∈ batch.messages,
    message.conversationId = conversationId ∧ message.seq = seq ∧ message.inPrefix = true

/-- Every deliverable row that the batch claims was seen before it or is rendered in it, and a
complete one claims every row up to the latest of its report. -/
structure CatchupBatch.Backed (batch : CatchupBatch) (deliverable seen : JsString → Int → Prop)
    (latest : JsString → Int) : Prop where
  covered : ∀ entry ∈ batch.coverage, ∀ seq ≤ entry.coveredUpToSeq,
    deliverable entry.conversationId seq →
      seen entry.conversationId seq ∨ batch.Renders entry.conversationId seq
  complete : isCompleteBatch batch = true → ∀ conversationId, ∀ seq ≤ latest conversationId,
    deliverable conversationId seq → seen conversationId seq ∨ batch.Renders conversationId seq

theorem CatchupBatch.Backed.mono {batch : CatchupBatch}
    {deliverable seen seenAfter : JsString → Int → Prop}
    {latest : JsString → Int} (h : batch.Backed deliverable seen latest)
    (hseen : ∀ conversationId seq, seen conversationId seq → seenAfter conversationId seq) :
    batch.Backed deliverable seenAfter latest :=
  ⟨fun entry hentry seq hcovered hdeliverable =>
      (h.covered entry hentry seq hcovered hdeliverable).imp_left (hseen _ _),
    fun hcomplete conversationId seq hlatest hdeliverable =>
      (h.complete hcomplete conversationId seq hlatest hdeliverable).imp_left (hseen _ _)⟩

theorem CatchupBatch.Backed.withSettled {batch : CatchupBatch}
    {deliverable seen : JsString → Int → Prop}
    {latest : JsString → Int} (h : batch.Backed deliverable seen latest)
    (settled : List CatchupCursorSettlement) :
    { batch with settledByCursor := settled }.Backed deliverable seen latest :=
  ⟨h.covered, h.complete⟩

section Built

variable {deliverable seen : JsString → Int → Prop} {obligation : Option CatchupObligation}
  {latest : JsString → Int} {report : UnreadReport} {input : CatchupBatchBuildInput}

theorem keys_map_pair {α β : Type} (items : List α) (key : α → JsString) (value : α → β) :
    (items.map fun item => (key item, value item)).map Prod.fst = items.map key := by
  rw [List.map_map]
  rfl

theorem coverageOf_ids (input : CatchupBatchBuildInput) :
    (coverageOf input).map (·.conversationId) = input.conversations.map (·.conversationId) := by
  rw [coverageOf, List.map_map]
  rfl

theorem MeetsContract.renders (h : MeetsContract deliverable obligation latest report input)
    {c : CatchupConversation} (hc : c ∈ input.conversations) {seq : Int}
    (hdeliverable : deliverable c.conversationId seq) (hfrom : c.fromSeqExclusive < seq)
    (hcovered : seq ≤ conversationCoverage c (renderedInOrder input c.conversationId)) :
    (buildCatchupBatch input).Renders c.conversationId seq := by
  have ⟨hfetched, hinOrder⟩ := (h.fetches c hc).rendered_of_covered hdeliverable hfrom hcovered
  obtain ⟨row, hrow, hconversation, hseq, happended⟩ := mem_renderedInOrder hinOrder
  refine ⟨_, List.mem_map_of_mem hrow, hconversation, hseq, ?_⟩
  have hby : (conversationsById input).get c.conversationId = some c :=
    get_mapOf (by rw [keys_map_pair]; exact h.distinct) (List.mem_map.mpr ⟨c, hc, rfl⟩)
  have hcoverage : (mapOf ((coverageOf input).map fun entry =>
    (entry.conversationId, entry))).get _ =
      some _ := get_mapOf
    (by rw [keys_map_pair, coverageOf_ids]; exact h.distinct)
    (List.mem_map.mpr ⟨_, List.mem_map.mpr ⟨c, hc, rfl⟩, rfl⟩)
  dsimp only at hcoverage
  simp only [batchMessage, hconversation, hseq, hby, hcoverage, happended]
  simp [hfetched, hfrom, hcovered]

theorem MeetsContract.seen_or_renders (h : MeetsContract deliverable obligation latest report input)
    (hread : ∀ conversationId, ∀ seq ≤ report.readCursor conversationId, seen conversationId seq)
    (howed : ∀ owed, obligation = some owed → ∀ conversationId cursor,
      owed.obligationCursor.get conversationId = some cursor → ∀ seq ≤ cursor,
        deliverable conversationId seq → seen conversationId seq)
    {c : CatchupConversation} (hc : c ∈ input.conversations) {seq : Int}
    (hdeliverable : deliverable c.conversationId seq)
    (hcovered : seq ≤ conversationCoverage c (renderedInOrder input c.conversationId)) :
    seen c.conversationId seq ∨ (buildCatchupBatch input).Renders c.conversationId seq := by
  by_cases hfrom : c.fromSeqExclusive < seq
  · exact .inr (h.renders hc hdeliverable hfrom hcovered)
  · refine .inl ?_
    have hbound := h.lowerBound c hc
    rw [catchupLowerBound] at hbound
    cases hcursor : obligation.bind fun owed => owed.obligationCursor.get c.conversationId with
    | none =>
        simp only [hcursor] at hbound
        exact hread _ _ (by omega)
    | some cursor =>
        simp only [hcursor] at hbound
        obtain ⟨owed, hsome, hget⟩ := Option.bind_eq_some_iff.mp hcursor
        by_cases hle : seq ≤ report.readCursor c.conversationId
        · exact hread _ _ hle
        · exact howed owed hsome _ cursor hget seq (by omega) hdeliverable

theorem MeetsContract.backed (h : MeetsContract deliverable obligation latest report input)
    (hread : ∀ conversationId, ∀ seq ≤ report.readCursor conversationId, seen conversationId seq)
    (howed : ∀ owed, obligation = some owed → ∀ conversationId cursor,
      owed.obligationCursor.get conversationId = some cursor → ∀ seq ≤ cursor,
        deliverable conversationId seq → seen conversationId seq) :
    (buildCatchupBatch input).Backed deliverable seen report.latest := by
  refine ⟨fun entry hentry seq hcovered hdeliverable => ?_,
    fun hcomplete conversationId seq hlatest hdeliverable => ?_⟩
  · obtain ⟨c, hc, rfl⟩ := List.mem_map.mp hentry
    exact h.seen_or_renders hread howed hc hdeliverable hcovered
  · by_cases hle : seq ≤ report.readCursor conversationId
    · exact .inl (hread _ _ hle)
    · obtain ⟨latestUnread, hunread, hseq⟩ := h.unread conversationId seq hdeliverable
        (by omega) hlatest
      have hall : (buildCatchupBatch input).allUnreadCovered = true := by
        simp only [isCompleteBatch, Bool.and_eq_true] at hcomplete
        exact hcomplete.1.2
      simp only [buildCatchupBatch, Bool.and_eq_true, List.all_eq_true] at hall
      have hcovers := hall.2 _ ((input.unreadLatestSeqs.mem_entries_iff _ _).mpr hunread)
      obtain ⟨covered, hcovered, hreaches⟩ := (Option.any_eq_true _ _).mp hcovers
      have hmem := mem_of_get_mapOf hcovered
      simp only [coverageOf, List.map_map, List.mem_map, Function.comp, Prod.mk.injEq] at hmem
      obtain ⟨c, hc, rfl, rfl⟩ := hmem
      exact h.seen_or_renders hread howed hc hdeliverable
        (hseq.trans (by simpa using hreaches))

end Built

end Raft.TerminalBreaker
