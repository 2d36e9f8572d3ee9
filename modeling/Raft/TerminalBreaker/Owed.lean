import Raft.TerminalBreaker.Coverage

/-!
# How an obligation moves

A raise owes more, read cursors settle what they passed, and an echo claims what
its batch covers.  A conversation's cursor never falls.
-/

namespace Raft.TerminalBreaker

open Raft.Foundation

/-! ## What an obligation claims and owes -/

namespace CatchupObligation

variable {obligation : CatchupObligation} {conversationId : JsString} {seq : Int}

def Claims (obligation : CatchupObligation) (conversationId : JsString) (seq : Int) : Prop :=
  ∃ cursor, obligation.obligationCursor.get conversationId = some cursor ∧ seq ≤ cursor

def Ceils (obligation : CatchupObligation) (conversationId : JsString) (seq : Int) : Prop :=
  ∃ ceiling, obligation.owedCeilings.get conversationId = some ceiling ∧ seq ≤ ceiling

def Owes (obligation : CatchupObligation) (conversationId : JsString) (seq : Int) : Prop :=
  obligation.Ceils conversationId seq ∨ obligation.owedOverflow = true

theorem Claims.le {lower : Int} (h : obligation.Claims conversationId seq) (hle : lower ≤ seq) :
    obligation.Claims conversationId lower :=
  have ⟨cursor, hget, hseq⟩ := h
  ⟨cursor, hget, hle.trans hseq⟩

theorem claims_of_fulfilled (h : isCatchupObligationFulfilled obligation = true)
    (hceils : obligation.Ceils conversationId seq) : obligation.Claims conversationId seq := by
  obtain ⟨ceiling, hget, hseq⟩ := hceils
  simp only [isCatchupObligationFulfilled, Bool.and_eq_true, List.all_eq_true] at h
  have hconversation := h.2 conversationId
    ((obligation.owedCeilings.mem_keys_iff conversationId).mpr ⟨ceiling, hget⟩)
  simp only [isConversationFulfilled, hget] at hconversation
  cases hcursor : obligation.obligationCursor.get conversationId with
  | none => simp [hcursor] at hconversation
  | some cursor =>
      simp only [hcursor, decide_eq_true_eq] at hconversation
      exact ⟨cursor, hcursor, hseq.trans hconversation⟩

theorem not_overflow_of_fulfilled (h : isCatchupObligationFulfilled obligation = true) :
    obligation.owedOverflow = false := by
  simp only [isCatchupObligationFulfilled, Bool.and_eq_true, Bool.not_eq_true'] at h
  exact h.1

end CatchupObligation

/-! ## Raising -/

structure Raised (before after : CatchupObligation) : Prop where
  obligationCursor : after.obligationCursor = before.obligationCursor
  pendingBatch : after.pendingBatch = before.pendingBatch
  owes : ∀ {conversationId seq}, before.Owes conversationId seq → after.Owes conversationId seq

theorem Raised.trans {first second third : CatchupObligation} (h : Raised first second)
    (hnext : Raised second third) : Raised first third :=
  ⟨hnext.obligationCursor.trans h.obligationCursor, hnext.pendingBatch.trans h.pendingBatch,
    fun howes => hnext.owes (h.owes howes)⟩

theorem ceils_set {obligation : CatchupObligation} {key conversationId : JsString} {value seq : Int}
    (hkept : ∀ existing, obligation.owedCeilings.get key = some existing → existing ≤ value)
    (h : obligation.Ceils conversationId seq) :
    { obligation with owedCeilings := obligation.owedCeilings.set key value }.Ceils
      conversationId seq := by
  obtain ⟨ceiling, hget, hseq⟩ := h
  by_cases hkey : conversationId = key
  · subst hkey
    exact ⟨value, InsertionMap.get_set_self .., hseq.trans (hkept _ hget)⟩
  · exact ⟨ceiling, (InsertionMap.get_set_of_ne _ _ hkey).trans hget, hseq⟩

theorem raised_raiseCeiling (obligation : CatchupObligation) (entry : JsString × Int) :
    Raised obligation (raiseCeiling obligation entry) ∧
      (raiseCeiling obligation entry).Owes entry.1 entry.2 := by
  rw [raiseCeiling]
  split
  · rename_i existing hexisting
    refine ⟨⟨rfl, rfl, Or.imp_left (ceils_set fun ceiling hget => ?_)⟩, .inl ⟨_,
      InsertionMap.get_set_self .., le_max_right _ _⟩⟩
    rw [hexisting, Option.some.injEq] at hget
    exact hget ▸ le_max_left _ _
  · rename_i hnone
    split
    · exact ⟨⟨rfl, rfl, fun _ => .inr rfl⟩, .inr rfl⟩
    · refine ⟨⟨rfl, rfl, Or.imp_left (ceils_set fun ceiling hget => ?_)⟩, .inl ⟨_,
        InsertionMap.get_set_self .., le_rfl⟩⟩
      rw [hnone] at hget
      cases hget

theorem raised_foldl_raiseCeiling (obligation : CatchupObligation)
    (entries : List (JsString × Int)) :
    Raised obligation (entries.foldl raiseCeiling obligation) ∧
      ∀ entry ∈ entries, (entries.foldl raiseCeiling obligation).Owes entry.1 entry.2 := by
  induction entries generalizing obligation with
  | nil => exact ⟨⟨rfl, rfl, id⟩, by simp⟩
  | cons entry rest ih =>
      have ⟨hhead, howes⟩ := raised_raiseCeiling obligation entry
      have ⟨hrest, hall⟩ := ih (raiseCeiling obligation entry)
      refine ⟨hhead.trans hrest, fun other hother => ?_⟩
      rcases List.mem_cons.mp hother with rfl | hother
      · exact hrest.owes howes
      · exact hall other hother

def raisedEntries (ceilings : Option (InsertionMap JsString Int)) : List (JsString × Int) :=
  (ceilings.map (·.entries)).getD []

theorem raised_raiseCatchupObligation (current : Option CatchupObligation)
    (ceilings : Option (InsertionMap JsString Int)) (origin : CatchupObligationOrigin) :
    Raised (current.getD emptyObligation) (raiseCatchupObligation current ceilings origin) ∧
      ∀ entry ∈ raisedEntries ceilings,
        (raiseCatchupObligation current ceilings origin).Owes entry.1 entry.2 := by
  have hengaged : Raised (current.getD emptyObligation)
      (if origin = .failure then { current.getD emptyObligation with engagedByFailure := true }
        else current.getD emptyObligation) := by
    split <;> exact ⟨rfl, rfl, id⟩
  cases ceilings with
  | none => exact ⟨hengaged.trans ⟨rfl, rfl, fun _ => .inr rfl⟩, by simp [raisedEntries]⟩
  | some ceilings =>
      have ⟨hfold, howes⟩ := raised_foldl_raiseCeiling
        (if origin = .failure then { current.getD emptyObligation with engagedByFailure := true }
          else current.getD emptyObligation) ceilings.entries
      exact ⟨hengaged.trans hfold, howes⟩

/-! ## Settling and echoing -/

theorem claims_set_max {obligation : CatchupObligation} {key conversationId : JsString}
    {value seq : Int}
    (hkept : ∀ existing, obligation.obligationCursor.get key = some existing → existing ≤ value)
    (h : obligation.Claims conversationId seq) :
    { obligation with obligationCursor := obligation.obligationCursor.set key value }.Claims
      conversationId seq := by
  obtain ⟨cursor, hget, hseq⟩ := h
  by_cases hkey : conversationId = key
  · subst hkey
    exact ⟨value, InsertionMap.get_set_self .., hseq.trans (hkept _ hget)⟩
  · exact ⟨cursor, (InsertionMap.get_set_of_ne _ _ hkey).trans hget, hseq⟩

theorem claims_settleConversation {readCursors : InsertionMap JsString Int}
    {settling : CursorSettling}
    {owed : JsString × Int} {conversationId : JsString} {seq : Int} :
    (settling.obligation.Claims conversationId seq →
      (settleConversation readCursors settling owed).obligation.Claims conversationId seq) ∧
    ((settleConversation readCursors settling owed).obligation.Claims conversationId seq →
      settling.obligation.Claims conversationId seq ∨
        ∃ readCursor, readCursors.get conversationId = some readCursor ∧ seq ≤ readCursor) := by
  rw [settleConversation]
  split
  · exact ⟨id, .inl⟩
  · rename_i readCursor hread
    split
    · exact ⟨id, .inl⟩
    · rename_i hbelow
      simp only [Bool.or_eq_true, decide_eq_true_eq, not_or, not_lt] at hbelow
      refine ⟨claims_set_max fun existing hget => ?_, ?_⟩
      · simp [hget]
      · rintro ⟨cursor, hget, hseq⟩
        dsimp only at hget
        rw [InsertionMap.get_set] at hget
        split at hget
        · rename_i hconversation
          subst hconversation
          cases hget
          by_cases hceiling : seq ≤ owed.2
          · exact .inr ⟨readCursor, hread, hceiling.trans hbelow.1⟩
          · cases hcursor : settling.obligation.obligationCursor.get owed.1 with
            | none =>
                rw [hcursor, Option.getD_none, max_self] at hseq
                exact absurd hseq hceiling
            | some cursor =>
                rw [hcursor, Option.getD_some] at hseq
                exact .inl ⟨cursor, hcursor, by omega⟩
        · exact .inl ⟨cursor, hget, hseq⟩

theorem claims_foldl_settle {readCursors : InsertionMap JsString Int} {owed : List (JsString × Int)}
    {settling : CursorSettling} {conversationId : JsString} {seq : Int} :
    (settling.obligation.Claims conversationId seq →
      (owed.foldl (settleConversation readCursors) settling).obligation.Claims conversationId seq) ∧
    ((owed.foldl (settleConversation readCursors) settling).obligation.Claims conversationId seq →
      settling.obligation.Claims conversationId seq ∨
        ∃ readCursor, readCursors.get conversationId = some readCursor ∧ seq ≤ readCursor) := by
  induction owed generalizing settling with
  | nil => exact ⟨id, .inl⟩
  | cons entry rest ih =>
      refine ⟨fun h => ih.1 (claims_settleConversation.1 h), fun h => ?_⟩
      rcases ih.2 h with hsettled | hread
      · exact claims_settleConversation.2 hsettled
      · exact .inr hread

/-- What an obligation becomes when read cursors settle it: the same but for its cursor, which
claims more by what was read, and null only once fulfilled. -/
structure Settled (obligation after : CatchupObligation) (readCursors : InsertionMap JsString Int) :
    Prop where
  owedCeilings : after.owedCeilings = obligation.owedCeilings
  owedOverflow : after.owedOverflow = obligation.owedOverflow
  pendingBatch : after.pendingBatch = obligation.pendingBatch
  claims : ∀ {conversationId seq}, obligation.Claims conversationId seq →
    after.Claims conversationId seq
  read : ∀ {conversationId seq}, after.Claims conversationId seq →
    obligation.Claims conversationId seq ∨
      ∃ readCursor, readCursors.get conversationId = some readCursor ∧ seq ≤ readCursor

theorem Settled.owes {obligation after : CatchupObligation}
    {readCursors : InsertionMap JsString Int}
    (h : Settled obligation after readCursors) {conversationId : JsString} {seq : Int}
    (howes : obligation.Owes conversationId seq) : after.Owes conversationId seq := by
  rw [CatchupObligation.Owes, CatchupObligation.Ceils, h.owedCeilings, h.owedOverflow]
  exact howes

theorem settled_foldl (obligation : CatchupObligation) (readCursors : InsertionMap JsString Int)
    (owed : List (JsString × Int)) :
    Settled obligation (owed.foldl (settleConversation readCursors) ⟨obligation, []⟩).obligation
      readCursors := by
  obtain ⟨cursor, hfold⟩ := foldl_settleConversation readCursors owed ⟨obligation, []⟩
  have hclaims (conversationId : JsString) (seq : Int) :=
    @claims_foldl_settle readCursors owed ⟨obligation, []⟩ conversationId seq
  exact ⟨by rw [hfold], by rw [hfold], by rw [hfold], (hclaims _ _).1, (hclaims _ _).2⟩

theorem settleCatchupByReadCursor_settled (obligation : CatchupObligation)
    (readCursors : InsertionMap JsString Int) :
    ∃ after, Settled obligation after readCursors ∧
      ((settleCatchupByReadCursor obligation readCursors).1 = some after ∨
        (settleCatchupByReadCursor obligation readCursors).1 = none ∧
          isCatchupObligationFulfilled after = true) := by
  have hfold := settled_foldl obligation readCursors obligation.owedCeilings.entries
  rw [settleCatchupByReadCursor]
  split_ifs with hnone hfulfilled
  · exact ⟨obligation, ⟨rfl, rfl, rfl, id, .inl⟩, .inl rfl⟩
  · exact ⟨_, hfold, .inr ⟨rfl, hfulfilled⟩⟩
  · exact ⟨_, hfold, .inl rfl⟩

theorem claims_foldl_echoCoverage {coverage : List CatchupCoverage} {obligation : CatchupObligation}
    {conversationId : JsString} {seq : Int} :
    { obligation with
        obligationCursor := coverage.foldl echoCoverage obligation.obligationCursor }.Claims
      conversationId seq ↔ obligation.Claims conversationId seq ∨
        ∃ entry ∈ coverage, entry.conversationId = conversationId ∧ seq ≤ entry.coveredUpToSeq := by
  induction coverage generalizing obligation with
  | nil => simp [CatchupObligation.Claims]
  | cons entry rest ih =>
      have hhead : { obligation with
            obligationCursor := echoCoverage obligation.obligationCursor entry }.Claims
          conversationId seq ↔ obligation.Claims conversationId seq ∨
            entry.conversationId = conversationId ∧ seq ≤ entry.coveredUpToSeq := by
        rw [CatchupObligation.Claims, CatchupObligation.Claims, echoCoverage]
        by_cases hconversation : conversationId = entry.conversationId
        · subst hconversation
          cases obligation.obligationCursor.get entry.conversationId <;>
            simp [InsertionMap.get_set_self]
        · have hother : entry.conversationId ≠ conversationId := fun h => hconversation h.symm
          cases obligation.obligationCursor.get entry.conversationId <;>
            simp [InsertionMap.get_set_of_ne _ _ hconversation, hother]
      have hrest := @ih { obligation with
        obligationCursor := echoCoverage obligation.obligationCursor entry }
      rw [List.foldl_cons]
      refine hrest.trans ?_
      rw [hhead, or_assoc]
      simp

structure Echoed (obligation after : CatchupObligation) (batch : CatchupBatch) : Prop where
  owedCeilings : after.owedCeilings = obligation.owedCeilings
  owedOverflow : after.owedOverflow = (obligation.owedOverflow && !isCompleteBatch batch)
  pendingBatch : ∀ pending, after.pendingBatch = some pending →
    obligation.pendingBatch = some pending
  claims : ∀ conversationId seq, after.Claims conversationId seq ↔
    obligation.Claims conversationId seq ∨ ∃ entry ∈ batch.coverage,
      entry.conversationId = conversationId ∧ seq ≤ entry.coveredUpToSeq

theorem of_not_echoed {held pending : CatchupBatch} {batchId : JsString}
    (h : (if held.batchId = batchId then none else some held) = some pending) :
    some held = some pending := by
  split at h
  · cases h
  · exact h

theorem applyCatchupEcho_echoed (obligation : CatchupObligation) (batch : CatchupBatch) :
    ∃ after, Echoed obligation after batch ∧
      (applyCatchupEcho obligation batch = some after ∨
        applyCatchupEcho obligation batch = none ∧ isCatchupObligationFulfilled after = true) := by
  have hclaims (conversationId : JsString) (seq : Int) :=
    @claims_foldl_echoCoverage batch.coverage obligation conversationId seq
  rw [applyCatchupEcho]
  split_ifs with hfulfilled
  · refine ⟨_, ?_, .inr ⟨rfl, hfulfilled⟩⟩
    refine ⟨rfl, rfl, fun pending h => ?_, hclaims⟩
    cases hbatch : obligation.pendingBatch with
    | none =>
        rw [hbatch] at h
        cases h
    | some held =>
        rw [hbatch] at h
        exact of_not_echoed h
  · refine ⟨_, ?_, .inl rfl⟩
    refine ⟨rfl, rfl, fun pending h => ?_, hclaims⟩
    cases hbatch : obligation.pendingBatch with
    | none =>
        rw [hbatch] at h
        cases h
    | some held =>
        rw [hbatch] at h
        exact of_not_echoed h

end Raft.TerminalBreaker
