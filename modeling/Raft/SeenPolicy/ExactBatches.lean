import Raft.SeenPolicy.Batches

/-!
# Exact seqs of a batch

A call books one list for each key, the last non-empty one.  The answer for the
key is that of the list merged with what the context held, or the earlier
answer when the list has nothing above the mark.
-/

namespace Raft.SeenPolicy

open Raft.Foundation

namespace MemoryStore

section Bookings

variable {store : MemoryStore} {context : Option JsString} {key : JsString}

@[simp] theorem contextId_bookExactSeq (context : Option JsString) (target : JsString)
    (rawSeqs : List JsNumber) :
    (store.bookExactSeq context target rawSeqs).contextId = store.contextId := by
  rw [bookExactSeq]
  split
  · rfl
  · simp only
    split
    all_goals rfl

theorem bookExactSeqs_frame (bookings : List (JsString × List JsNumber)) :
    (store.bookExactSeqs bookings context).contextId = store.contextId ∧
      (store.bookExactSeqs bookings context).aliases = store.aliases := by
  rw [bookExactSeqs]
  induction bookings generalizing store with
  | nil => exact ⟨rfl, rfl⟩
  | cons booking bookings ih => simpa using @ih (store.bookExactSeq context booking.1 booking.2)

theorem get_exact_bookExactSeq_of_ne {target : JsString} (hkey : key ≠ target)
    (rawSeqs : List JsNumber) :
    (store.bookExactSeq context target rawSeqs).exact.get key = store.exact.get key := by
  by_cases hskip : target = [] ∨ normalizeExactSeqs rawSeqs 0 = []
  · rw [bookExactSeq, if_pos hskip]
  · obtain ⟨htarget, hseqs⟩ := not_or.mp hskip
    rw [get_exact_bookExactSeq rawSeqs htarget hseqs, if_neg hkey]

theorem get_exact_bookExactSeqs {bookings : List (JsString × List JsNumber)}
    (hkey : ∀ booking ∈ bookings, booking.1 ≠ key) :
    (store.bookExactSeqs bookings context).exact.get key = store.exact.get key := by
  rw [bookExactSeqs]
  induction bookings generalizing store with
  | nil => rfl
  | cons booking bookings ih =>
      have hrest : ∀ other ∈ bookings, other.1 ≠ key :=
        fun other hother => hkey other (List.mem_cons_of_mem _ hother)
      rw [List.foldl_cons, ih hrest]
      exact get_exact_bookExactSeq_of_ne (Ne.symm (hkey booking List.mem_cons_self)) _

theorem get_exact_bookExactSeq_congr {first second : MemoryStore}
    (hrow : first.exact.get key = second.exact.get key) (hstreams : first.streams = second.streams)
    (rawSeqs : List JsNumber) :
    (first.bookExactSeq context key rawSeqs).exact.get key =
      (second.bookExactSeq context key rawSeqs).exact.get key := by
  by_cases hskip : key = [] ∨ normalizeExactSeqs rawSeqs 0 = []
  · rw [bookExactSeq, bookExactSeq, if_pos hskip, if_pos hskip, hrow]
  · obtain ⟨htarget, hseqs⟩ := not_or.mp hskip
    have hfloor : first.exactFloor key context = second.exactFloor key context :=
      exactFloor_congr (by rw [hstreams])
    rw [get_exact_bookExactSeq rawSeqs htarget hseqs, get_exact_bookExactSeq rawSeqs htarget hseqs,
      if_pos rfl, if_pos rfl, hrow, hfloor]

theorem get_exact_bookExactSeqs_booked {bookings : List (JsString × List JsNumber)}
    (hnodup : (bookings.map Prod.fst).Nodup) {rawSeqs : List JsNumber}
    (hbooked : (key, rawSeqs) ∈ bookings) :
    (store.bookExactSeqs bookings context).exact.get key =
      (store.bookExactSeq context key rawSeqs).exact.get key := by
  induction bookings generalizing store with
  | nil => cases hbooked
  | cons booking bookings ih =>
      rw [List.map_cons, List.nodup_cons] at hnodup
      obtain ⟨hfresh, hrest⟩ := hnodup
      have hcons : store.bookExactSeqs (booking :: bookings) context =
          (store.bookExactSeq context booking.1 booking.2).bookExactSeqs bookings context := rfl
      rw [hcons]
      rcases List.mem_cons.mp hbooked with rfl | htail
      · exact get_exact_bookExactSeqs fun other hother hkey =>
          hfresh (List.mem_map.mpr ⟨other, hother, hkey⟩)
      · have hkey : key ≠ booking.1 := by
          rintro rfl
          exact hfresh (List.mem_map.mpr ⟨_, htail, rfl⟩)
        rw [ih hrest htail]
        exact get_exact_bookExactSeq_congr (get_exact_bookExactSeq_of_ne hkey _)
          (streams_bookExactSeq _) rawSeqs

end Bookings

def listCandidates (entries : List (JsString × List JsNumber)) : List (JsString × List JsNumber) :=
  entries.filter fun entry => entry.2 ≠ []

theorem recordConsumedExactSeqs_batch (store : MemoryStore)
    (entries : List (JsString × List JsNumber)) :
    ∃ bookings, store.recordConsumedExactSeqs entries =
        store.bookExactSeqs bookings store.contextId ∧ (bookings.map Prod.fst).Nodup ∧
      ∀ key seqs, (key, seqs) ∈ bookings ↔
        IsCollected key ∧ store.lastFor (listCandidates entries) key = some seqs := by
  refine ⟨ownEntries (store.keyedUpdates (listCandidates entries)), ?_, nodup_ownEntries _,
    fun key seqs => mem_ownEntries_keyedUpdates⟩
  rw [recordConsumedExactSeqs, listCandidates]
  split
  · next hnone =>
      rw [ownEntries_eq_nil hnone]
      rfl
  · rfl

end MemoryStore

/-! ## Answers -/

section Answers

open MemoryStore

variable (ledger : ConsumedSeqLedger) {store : MemoryStore} {target : JsString}

theorem getConsumedExactSeqs_value (store : MemoryStore) (target : JsString) :
    (ledger.getConsumedExactSeqs store target).1 =
      if store.canonicalTargetKey target = [] then []
      else ((store.exact.get (store.canonicalTargetKey target)).map fun row =>
        if store.contextId = none ∨ row.contextId = store.contextId then
          normalizeSeqs row.seqs
            (store.exactFloor (store.canonicalTargetKey target) row.contextId)
        else []).getD [] := by
  rw [ConsumedSeqLedger.getConsumedExactSeqs]
  split
  · rfl
  · rw [MemoryStore.readExactSeqsWithContext]
    cases store.exact.get (store.canonicalTargetKey target) with
    | none => simp [ConsumedSeqLedger.inThisContext]
    | some row =>
        simp only [Option.map_some, Option.getD_some, Option.bind_some]
        generalize normalizeSeqs _ _ = answer
        by_cases hempty : answer = []
        · simp [hempty, ConsumedSeqLedger.inThisContext]
        · by_cases hrow : store.contextId = none ∨ row.contextId = store.contextId
          · simp [hempty, ConsumedSeqLedger.inThisContext, hrow]
          · simp [hempty, ConsumedSeqLedger.inThisContext, hrow]

theorem getConsumedExactSeqs_congr {first second : MemoryStore}
    (hcontext : first.contextId = second.contextId) (haliases : first.aliases = second.aliases)
    (hstreams : first.streams = second.streams)
    (hrow : first.exact.get (second.canonicalTargetKey target) =
      second.exact.get (second.canonicalTargetKey target)) :
    (ledger.getConsumedExactSeqs first target).1 =
      (ledger.getConsumedExactSeqs second target).1 := by
  have hfloor (context : Option JsString) :
      first.exactFloor (second.canonicalTargetKey target) context =
        second.exactFloor (second.canonicalTargetKey target) context :=
    exactFloor_congr (by rw [hstreams])
  rw [getConsumedExactSeqs_value, getConsumedExactSeqs_value, canonicalTargetKey_congr haliases,
    hcontext, hrow]
  simp only [hfloor]

theorem getConsumedExactSeqs_batch_untouched {entries : List (JsString × List JsNumber)}
    (h : ¬ (IsCollected (store.canonicalTargetKey target) ∧ ∃ last,
      store.lastFor (listCandidates entries) (store.canonicalTargetKey target) = some last)) :
    (ledger.getConsumedExactSeqs (store.recordConsumedExactSeqs entries) target).1 =
      (ledger.getConsumedExactSeqs store target).1 := by
  obtain ⟨bookings, hbatch, -, hbookings⟩ := store.recordConsumedExactSeqs_batch entries
  obtain ⟨hcontext, haliases⟩ := @bookExactSeqs_frame store store.contextId bookings
  rw [hbatch]
  refine getConsumedExactSeqs_congr ledger hcontext haliases (streams_bookExactSeqs _) ?_
  refine get_exact_bookExactSeqs fun booking hbooking hkey => h ?_
  obtain ⟨hcollected, hlast⟩ := (hbookings booking.1 booking.2).mp hbooking
  rw [hkey] at hcollected hlast
  exact ⟨hcollected, booking.2, hlast⟩

theorem getConsumedExactSeqs_of_row {row : ExactRow} (hkey : store.canonicalTargetKey target ≠ [])
    (hrow : store.exact.get (store.canonicalTargetKey target) = some row)
    (hcontext : row.contextId = store.contextId) :
    (ledger.getConsumedExactSeqs store target).1 =
      normalizeSeqs row.seqs
        (store.exactFloor (store.canonicalTargetKey target) store.contextId) := by
  rw [getConsumedExactSeqs_value, if_neg hkey, hrow, Option.map_some, Option.getD_some,
    if_pos (Or.inr hcontext), hcontext]

section Booked

variable {entries : List (JsString × List JsNumber)} {last : List JsNumber}

theorem normalizeExactSeqs_zero_eq_nil {seqs : List JsNumber}
    (h : normalizeExactSeqs seqs 0 = []) : seqs.filterMap JsNumber.positiveInteger = [] := by
  refine List.eq_nil_iff_forall_not_mem.mpr fun seq hseq => ?_
  exact normalizeSeqs_eq_nil_iff.mp h seq hseq (by exact_mod_cast seq.pos)

theorem normalizeSeqs_append_of_below {first second : List ℕ+} {afterSeq : ℚ}
    (h : ∀ seq ∈ second, ¬ afterSeq < (seq : ℕ)) :
    normalizeSeqs (first ++ second) afterSeq = normalizeSeqs first afterSeq := by
  have hnone : (second.filter fun seq : ℕ+ => afterSeq < (seq : ℕ)) = [] :=
    List.filter_eq_nil_iff.mpr fun seq hseq => by simpa using h seq hseq
  rw [normalizeSeqs, normalizeSeqs, List.filter_append, hnone, List.append_nil]

theorem get_exact_batch (hcollected : IsCollected (store.canonicalTargetKey target))
    (hlast : store.lastFor (listCandidates entries) (store.canonicalTargetKey target) = some last)
    (hseqs : normalizeExactSeqs last 0 ≠ []) :
    (store.recordConsumedExactSeqs entries).exact.get (store.canonicalTargetKey target) =
      ExactRow.merge (store.exact.get (store.canonicalTargetKey target))
        (last.filterMap JsNumber.positiveInteger)
        (store.exactFloor (store.canonicalTargetKey target) store.contextId) store.contextId := by
  obtain ⟨bookings, hbatch, hnodup, hbookings⟩ := store.recordConsumedExactSeqs_batch entries
  rw [hbatch, get_exact_bookExactSeqs_booked hnodup ((hbookings _ _).mpr ⟨hcollected, hlast⟩),
    get_exact_bookExactSeq last hcollected.1 hseqs, if_pos rfl, ExactRow.merge, ExactRow.merge,
    normalizeExactSeqs, normalizeSeqs_append_normalizeSeqs (exactFloor_nonneg _ _ _)]

theorem batch_frame (store : MemoryStore) (entries : List (JsString × List JsNumber)) :
    (store.recordConsumedExactSeqs entries).contextId = store.contextId ∧
      (store.recordConsumedExactSeqs entries).aliases = store.aliases ∧
      (store.recordConsumedExactSeqs entries).streams = store.streams := by
  obtain ⟨bookings, hbatch, -, -⟩ := store.recordConsumedExactSeqs_batch entries
  obtain ⟨hcontext, haliases⟩ := @bookExactSeqs_frame store store.contextId bookings
  rw [hbatch]
  exact ⟨hcontext, haliases, streams_bookExactSeqs _⟩

theorem getConsumedExactSeqs_batch_booked
    (hcollected : IsCollected (store.canonicalTargetKey target))
    (hlast : store.lastFor (listCandidates entries) (store.canonicalTargetKey target) = some last)
    (hmerged : normalizeSeqs (ExactRow.heldSeqs
      (store.exact.get (store.canonicalTargetKey target)) store.contextId ++
        last.filterMap JsNumber.positiveInteger)
      (store.exactFloor (store.canonicalTargetKey target) store.contextId) ≠ [])
    (hseqs : normalizeExactSeqs last 0 ≠ []) :
    (ledger.getConsumedExactSeqs (store.recordConsumedExactSeqs entries) target).1 =
      normalizeSeqs (ExactRow.heldSeqs
        (store.exact.get (store.canonicalTargetKey target)) store.contextId ++
          last.filterMap JsNumber.positiveInteger)
        (store.exactFloor (store.canonicalTargetKey target) store.contextId) := by
  obtain ⟨hcontext, haliases, hstreams⟩ := batch_frame store entries
  have hrow := get_exact_batch hcollected hlast hseqs
  rw [ExactRow.merge, if_neg hmerged, ← canonicalTargetKey_congr haliases] at hrow
  have hkey : (store.recordConsumedExactSeqs entries).canonicalTargetKey target ≠ [] := by
    rw [canonicalTargetKey_congr haliases]
    exact hcollected.1
  have hfloor : (store.recordConsumedExactSeqs entries).exactFloor
      (store.canonicalTargetKey target) store.contextId =
      store.exactFloor (store.canonicalTargetKey target) store.contextId :=
    exactFloor_congr (by rw [hstreams])
  rw [getConsumedExactSeqs_of_row ledger hkey hrow hcontext.symm, hcontext,
    canonicalTargetKey_congr haliases, hfloor, normalizeSeqs_normalizeSeqs (le_refl _)]

theorem getConsumedExactSeqs_batch_below
    (hcollected : IsCollected (store.canonicalTargetKey target))
    (hlast : store.lastFor (listCandidates entries) (store.canonicalTargetKey target) = some last)
    (hbelow : ∀ seq ∈ last.filterMap JsNumber.positiveInteger,
      ¬ store.exactFloor (store.canonicalTargetKey target) store.contextId < (seq : ℕ)) :
    (ledger.getConsumedExactSeqs (store.recordConsumedExactSeqs entries) target).1 =
      (ledger.getConsumedExactSeqs store target).1 := by
  obtain ⟨hcontext, haliases, hstreams⟩ := batch_frame store entries
  have hkeep (hrow : (store.recordConsumedExactSeqs entries).exact.get
      (store.canonicalTargetKey target) = store.exact.get (store.canonicalTargetKey target)) :
      (ledger.getConsumedExactSeqs (store.recordConsumedExactSeqs entries) target).1 =
        (ledger.getConsumedExactSeqs store target).1 :=
    getConsumedExactSeqs_congr ledger hcontext haliases hstreams hrow
  by_cases hseqs : normalizeExactSeqs last 0 = []
  · obtain ⟨bookings, hbatch, hnodup, hbookings⟩ := store.recordConsumedExactSeqs_batch entries
    refine hkeep ?_
    rw [hbatch, get_exact_bookExactSeqs_booked hnodup ((hbookings _ _).mpr ⟨hcollected, hlast⟩),
      bookExactSeq, if_pos (Or.inr hseqs)]
  · by_cases hmerged : normalizeSeqs (ExactRow.heldSeqs
        (store.exact.get (store.canonicalTargetKey target)) store.contextId ++
          last.filterMap JsNumber.positiveInteger)
        (store.exactFloor (store.canonicalTargetKey target) store.contextId) = []
    · refine hkeep ?_
      rw [get_exact_batch hcollected hlast hseqs, ExactRow.merge, if_pos hmerged]
    · rw [getConsumedExactSeqs_batch_booked ledger hcollected hlast hmerged hseqs]
      rw [normalizeSeqs_append_of_below hbelow] at hmerged ⊢
      cases hget : store.exact.get (store.canonicalTargetKey target) with
      | none => simp [hget, ExactRow.heldSeqs] at hmerged
      | some row =>
          rw [hget, ExactRow.heldSeqs] at hmerged
          split at hmerged
          · next hrow =>
              rw [getConsumedExactSeqs_of_row ledger hcollected.1 hget hrow, ExactRow.heldSeqs,
                if_pos hrow]
          · simp at hmerged

end Booked

/-- The seq is there, or as many as are kept for a target lie above it. -/
def Keeps (seqs : List ℕ+) (seq : ℕ+) : Prop :=
  seq ∈ seqs ∨ MAX_EXACT_SEQS_PER_TARGET ≤ (seqs.toFinset.filter (seq < ·)).card

theorem keeps_normalizeSeqs {seqs : List ℕ+} {afterSeq : ℚ} {seq : ℕ+}
    (h : afterSeq < (seq : ℕ)) : Keeps (normalizeSeqs seqs afterSeq) seq ↔ Keeps seqs seq := by
  have habove : (seqs.toFinset.filter fun other : ℕ+ => afterSeq < (other : ℕ)).filter
      (seq < ·) = seqs.toFinset.filter (seq < ·) := by
    rw [Finset.filter_filter]
    refine Finset.filter_congr fun other _ => ⟨fun hboth => hboth.2, fun hlt => ⟨?_, hlt⟩⟩
    exact h.trans (by exact_mod_cast hlt)
  rw [Keeps, Keeps, normalizeSeqs_eq, Finset.mem_sort, Finset.sort_toFinset,
    mem_newest_or_card_le, habove]
  simp [h]

/-- The seqs that the answer for the target is taken from after a call with these entries. -/
def pooledSeqs (store : MemoryStore) (entries : List (JsString × List JsNumber))
    (target : JsString) : List ℕ+ :=
  let key := store.canonicalTargetKey target
  let booked := if IsCollected key then store.lastFor (listCandidates entries) key else none
  let seqs := (booked.getD []).filterMap JsNumber.positiveInteger
  if ∃ seq ∈ seqs, store.exactFloor key store.contextId < (seq : ℕ) then
    ExactRow.heldSeqs (store.exact.get key) store.contextId ++ seqs
  else (ledger.getConsumedExactSeqs store target).1

theorem keeps_batch (entries : List (JsString × List JsNumber)) {seq : ℕ+}
    (h : store.exactFloor (store.canonicalTargetKey target) store.contextId < (seq : ℕ)) :
    Keeps (ledger.getConsumedExactSeqs (store.recordConsumedExactSeqs entries) target).1 seq ↔
      Keeps (pooledSeqs ledger store entries target) seq := by
  by_cases hbooked : IsCollected (store.canonicalTargetKey target) ∧ ∃ last,
      store.lastFor (listCandidates entries) (store.canonicalTargetKey target) = some last
  · obtain ⟨hcollected, last, hlast⟩ := hbooked
    rw [pooledSeqs, if_pos hcollected, hlast, Option.getD_some]
    split
    · next habove =>
        obtain ⟨other, hother, hlt⟩ := habove
        have hmerged : normalizeSeqs (ExactRow.heldSeqs
            (store.exact.get (store.canonicalTargetKey target)) store.contextId ++
              last.filterMap JsNumber.positiveInteger)
            (store.exactFloor (store.canonicalTargetKey target) store.contextId) ≠ [] :=
          fun hnil => normalizeSeqs_eq_nil_iff.mp hnil other
            (List.mem_append_right _ hother) hlt
        have hseqs : normalizeExactSeqs last 0 ≠ [] := fun hnil => by
          rw [normalizeExactSeqs_zero_eq_nil hnil] at hother
          cases hother
        rw [getConsumedExactSeqs_batch_booked ledger hcollected hlast hmerged hseqs,
          keeps_normalizeSeqs h]
    · next hbelow =>
        push Not at hbelow
        rw [getConsumedExactSeqs_batch_below ledger hcollected hlast
          fun other hother => (hbelow other hother).not_gt]
  · have hnone : (if IsCollected (store.canonicalTargetKey target) then
        store.lastFor (listCandidates entries) (store.canonicalTargetKey target) else none) =
        none := by
      split
      · next hcollected =>
          exact Option.eq_none_iff_forall_ne_some.mpr fun last hlast =>
            hbooked ⟨hcollected, last, hlast⟩
      · rfl
    rw [getConsumedExactSeqs_batch_untouched ledger hbooked, pooledSeqs, hnone]
    simp

/-! ## The exact seqs of a batch -/

/-- Each listed seq above its mark is kept, but for those that enough newer ones push out. -/
def ExactSeqsBooked (store : MemoryStore) (entries : List (JsString × List JsNumber)) : Prop :=
  ∀ entry ∈ entries, ∀ seq ∈ entry.2.filterMap JsNumber.positiveInteger,
    store.exactFloor (store.canonicalTargetKey entry.1) store.contextId < (seq : ℕ) →
      Keeps (ledger.getConsumedExactSeqs (store.recordConsumedExactSeqs entries) entry.1).1 seq

/-- Each listed seq above its mark is one of those that the key's last list and what the context
held make up, but for those that enough newer ones push out. -/
def ExactSeqsSurvive (store : MemoryStore) (entries : List (JsString × List JsNumber)) : Prop :=
  ∀ entry ∈ entries, ∀ seq ∈ entry.2.filterMap JsNumber.positiveInteger,
    store.exactFloor (store.canonicalTargetKey entry.1) store.contextId < (seq : ℕ) →
      Keeps (pooledSeqs ledger store entries entry.1) seq

/-- A batch of seqs books what one call for each entry does exactly when no seq is above both its
mark and the last one of its key; a batch of exact seqs keeps those that the last lists keep. -/
theorem batch_books_iff (store : MemoryStore) (entries : List (JsString × PositiveNumber))
    (exactEntries : List (JsString × List JsNumber)) :
    (SeqsBooked ledger store entries ↔ SeqsSurvive ledger store entries) ∧
      (ExactSeqsBooked ledger store exactEntries ↔
        ExactSeqsSurvive ledger store exactEntries) := by
  refine ⟨seqsBooked_iff ledger store entries, ?_⟩
  constructor
  · intro hbooked entry hentry seq hseq habove
    exact (keeps_batch ledger exactEntries habove).mp (hbooked entry hentry seq hseq habove)
  · intro hsurvive entry hentry seq hseq habove
    exact (keeps_batch ledger exactEntries habove).mpr (hsurvive entry hentry seq hseq habove)

/-- The seq 9 of one spelling goes when a later spelling of the target brings 4. -/
theorem later_spelling_replaces :
    let store := (createMemoryCommandStateStore none).recordTargetAlias (js "#A") (js "#a")
    let ledger : ConsumedSeqLedger := ⟨[]⟩
    ¬ SeqsBooked ledger store [(js "#a", ⟨9, by decide⟩), (js "#A", ⟨4, by decide⟩)] ∧
      ¬ ExactSeqsBooked ledger store [(js "#a", [.ofNat 9]), (js "#A", [.ofNat 4])] := by
  intro store ledger
  have hspelled : store.aliases.get (js "#A") = some (js "#a") := by decide
  have hcanonical : store.aliases.get (js "#a") = none := by decide
  have hkey : store.canonicalTargetKey (js "#a") = js "#a" := by
    have hresolve : store.resolveCanonicalTarget (js "#a") = js "#a" :=
      followAliases_of_none hcanonical
    exact hresolve
  have hkeySpelled : store.canonicalTargetKey (js "#A") = js "#a" := by
    have hresolve : store.resolveCanonicalTarget (js "#A") = js "#a" := by
      rw [resolveCanonicalTarget, followAliases_of_some hspelled, if_neg (by decide),
        followAliases_of_none hcanonical]
    exact hresolve
  have hfloor : store.exactFloor (js "#a") store.contextId = 0 := rfl
  constructor
  · rw [seqsBooked_iff]
    intro hsurvive
    obtain ⟨-, hentry⟩ := hsurvive _ List.mem_cons_self
    rw [hkey, if_neg (by decide), hfloor] at hentry
    obtain ⟨last, hlast, hle⟩ := hentry
    simp [lastFor, hkeySpelled] at hlast
    rw [← hlast] at hle
    exact absurd hle (by decide)
  · intro hbooked
    have hkept := hbooked _ List.mem_cons_self 9 (by decide) (by rw [hkey, hfloor]; decide)
    have hcollected : IsCollected (js "#a") := by decide
    have hlast : store.lastFor (listCandidates [(js "#a", [.ofNat 9]), (js "#A", [.ofNat 4])])
        (js "#a") = some [.ofNat 4] := by
      simp [lastFor, listCandidates, hkeySpelled]
    have hseqs : [JsNumber.ofNat 4].filterMap JsNumber.positiveInteger = [4] := by decide
    have hpool : pooledSeqs ledger store [(js "#a", [.ofNat 9]), (js "#A", [.ofNat 4])]
        (js "#a") = [4] := by
      rw [pooledSeqs]
      simp only [hkey, hcollected, if_true, hlast, Option.getD_some, hseqs, hfloor]
      rw [if_pos ⟨4, List.mem_singleton_self _, by decide⟩]
      rfl
    rw [keeps_batch ledger _ (by rw [hkey, hfloor]; decide), hpool, Keeps,
      MAX_EXACT_SEQS_PER_TARGET] at hkept
    exact absurd hkept (by decide)

end Answers

end Raft.SeenPolicy
