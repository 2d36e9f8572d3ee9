import Mathlib.Order.Bounds.Basic
import Raft.SeenPolicy.Evidence

/-!
# Many spellings in one call

A call with many entries collects one value for each key before it books, and
a later spelling of the key replaces what an earlier one brought.  One call for
each entry merges them.
-/

namespace Raft.SeenPolicy

open Raft.Foundation

namespace MemoryStore

/-! ## What is collected for a key -/

section Collected

variable {α : Type} (store : MemoryStore)

/-- The value of the last entry whose spelling has this key. -/
def lastFor (candidates : List (JsString × α)) (key : JsString) : Option α :=
  (candidates.reverse.find? fun candidate => store.canonicalTargetKey candidate.1 = key).map
    Prod.snd

def IsCollected (key : JsString) : Prop := key ≠ [] ∧ key ≠ js "__proto__"

instance (key : JsString) : Decidable (IsCollected key) :=
  inferInstanceAs (Decidable (key ≠ [] ∧ key ≠ js "__proto__"))

variable {store}

theorem lastFor_concat (candidates : List (JsString × α)) (candidate : JsString × α)
    (key : JsString) :
    store.lastFor (candidates ++ [candidate]) key =
      if store.canonicalTargetKey candidate.1 = key then some candidate.2
      else store.lastFor candidates key := by
  rw [lastFor, lastFor, List.reverse_concat, List.find?_cons]
  by_cases hkey : store.canonicalTargetKey candidate.1 = key
  · simp [hkey]
  · simp [hkey]

theorem lastFor_isSome {candidates : List (JsString × α)} {candidate : JsString × α}
    (h : candidate ∈ candidates) :
    ∃ value, store.lastFor candidates (store.canonicalTargetKey candidate.1) = some value := by
  rw [lastFor]
  have hfound : (candidates.reverse.find? fun other =>
      store.canonicalTargetKey other.1 = store.canonicalTargetKey candidate.1).isSome := by
    rw [List.find?_isSome]
    exact ⟨candidate, List.mem_reverse.mpr h, by simp⟩
  obtain ⟨found, hfound⟩ := Option.isSome_iff_exists.mp hfound
  exact ⟨found.2, by rw [hfound, Option.map_some]⟩

theorem mem_of_lastFor {candidates : List (JsString × α)} {key : JsString} {value : α}
    (h : store.lastFor candidates key = some value) :
    ∃ spelling, (spelling, value) ∈ candidates ∧ store.canonicalTargetKey spelling = key := by
  obtain ⟨⟨spelling, found⟩, hfound, rfl⟩ := Option.map_eq_some_iff.mp h
  refine ⟨spelling, List.mem_reverse.mp (List.mem_of_find?_eq_some hfound), ?_⟩
  simpa using List.find?_some hfound

theorem get_keyedUpdates (candidates : List (JsString × α)) (key : JsString) :
    (store.keyedUpdates candidates).get key =
      if IsCollected key then store.lastFor candidates key else none := by
  induction candidates using List.reverseRecOn with
  | nil => simp [keyedUpdates, lastFor]
  | append_singleton candidates candidate ih =>
      have hfold : store.keyedUpdates (candidates ++ [candidate]) =
          if store.canonicalTargetKey candidate.1 = [] then store.keyedUpdates candidates
          else assignOwn (store.keyedUpdates candidates)
            (store.canonicalTargetKey candidate.1) candidate.2 := by
        rw [keyedUpdates, List.foldl_concat]
        rfl
      rw [hfold, lastFor_concat]
      by_cases hcollected : IsCollected key
      · rw [if_pos hcollected] at ih ⊢
        by_cases hkey : store.canonicalTargetKey candidate.1 = key
        · rw [hkey, if_neg hcollected.1, if_pos rfl, assignOwn, if_neg hcollected.2,
            InsertionMap.get_set_self]
        · rw [if_neg hkey]
          split
          · exact ih
          · rw [assignOwn]
            split
            · exact ih
            · rw [InsertionMap.get_set_of_ne _ _ (Ne.symm hkey), ih]
      · rw [if_neg hcollected] at ih ⊢
        split
        · exact ih
        · next hne =>
            rw [assignOwn]
            split
            · exact ih
            · next hproto =>
                have hother : key ≠ store.canonicalTargetKey candidate.1 := by
                  rintro rfl
                  exact hcollected ⟨hne, hproto⟩
                rw [InsertionMap.get_set_of_ne _ _ hother, ih]

theorem mem_ownEntries_keyedUpdates {candidates : List (JsString × α)} {key : JsString}
    {value : α} :
    (key, value) ∈ ownEntries (store.keyedUpdates candidates) ↔
      IsCollected key ∧ store.lastFor candidates key = some value := by
  rw [mem_ownEntries, InsertionMap.mem_entries_iff, get_keyedUpdates]
  by_cases hcollected : IsCollected key
  · rw [if_pos hcollected, and_iff_right hcollected]
  · rw [if_neg hcollected]
    simp [hcollected]

end Collected

/-! ## Marks -/

section Marks

variable {store : MemoryStore} {context : Option JsString} {key : JsString}

def raisedMark (floor : ℚ) (seq : PositiveNumber) : PositiveNumber :=
  ⟨max floor seq.1, lt_max_of_lt_right seq.2⟩

theorem exactFloor_eq (store : MemoryStore) (key : JsString) (context : Option JsString) :
    store.exactFloor key context = StreamRow.floor (store.highWater key context) := by
  rw [exactFloor, highWater]
  cases store.streams.get key with
  | none => rfl
  | some row =>
      simp only [Option.bind_some]
      split
      · rfl
      · rfl

theorem highWater_bookStreamEntry_self {target : JsString} (htarget : target ≠ [])
    (seq : PositiveNumber) :
    (store.bookStreamEntry context target (some (.finite seq.1))).highWater target context =
      some (raisedMark (store.exactFloor target context) seq) := by
  rw [exactFloor_eq, highWater, get_streams_bookStreamEntry _ htarget, if_pos rfl, Option.bind_some,
    if_pos rfl, Option.bind_some, positiveFinite_finite]
  rw [StreamRow.nextSeq.eq_def]
  have hfresh : raisedMark (StreamRow.floor none) seq = seq :=
    Subtype.ext (max_eq_right seq.2.le)
  cases hprior : store.streams.get target with
  | none => simp only [highWater, hprior, Option.bind_none, hfresh]
  | some prior =>
      by_cases hcontext : prior.contextId = context
      · simp only [highWater, hprior, Option.bind_some, hcontext, if_true, ne_eq,
          not_true_eq_false, if_false]
        cases prior.seq with
        | none => rw [hfresh]
        | some kept =>
            have hfloor : StreamRow.floor (some kept) = kept.1 := rfl
            rw [hfloor]
            by_cases hgreater : seq > kept
            · have hle : kept.1 ≤ seq.1 := hgreater.le
              exact (if_pos hgreater).trans (congrArg some (Subtype.ext (max_eq_right hle).symm))
            · have hle : seq.1 ≤ kept.1 := not_lt.mp hgreater
              exact (if_neg hgreater).trans (congrArg some (Subtype.ext (max_eq_left hle).symm))
      · simp only [highWater, hprior, Option.bind_some, hcontext, if_false, ne_eq,
          not_false_eq_true, if_true, hfresh]

theorem get_streams_bookStreamEntry_of_ne {target : JsString} (hkey : key ≠ target)
    (rawSeq : Option JsNumber) :
    (store.bookStreamEntry context target rawSeq).streams.get key = store.streams.get key := by
  by_cases htarget : target = []
  · rw [bookStreamEntry, if_pos htarget]
  · rw [get_streams_bookStreamEntry _ htarget, if_neg hkey]

def bookSeqs (store : MemoryStore) (context : Option JsString)
    (bookings : List (JsString × PositiveNumber)) : MemoryStore :=
  store.bookStreamEntries
    (bookings.map fun booking => (booking.1, some (JsNumber.finite booking.2.1))) context

theorem bookSeqs_concat (bookings : List (JsString × PositiveNumber))
    (booking : JsString × PositiveNumber) :
    store.bookSeqs context (bookings ++ [booking]) =
      (store.bookSeqs context bookings).bookStreamEntry context booking.1
        (some (.finite booking.2.1)) := by
  rw [bookSeqs, bookStreamEntries, List.map_append, List.foldl_append]
  rfl

theorem get_streams_bookSeqs {bookings : List (JsString × PositiveNumber)}
    (hkey : ∀ booking ∈ bookings, booking.1 ≠ key) :
    (store.bookSeqs context bookings).streams.get key = store.streams.get key := by
  induction bookings using List.reverseRecOn with
  | nil => rfl
  | append_singleton bookings booking ih =>
      rw [bookSeqs_concat, get_streams_bookStreamEntry_of_ne
        (Ne.symm (hkey booking (List.mem_append_right _ (List.mem_singleton_self _))))]
      exact ih fun other hother => hkey other (List.mem_append_left _ hother)

/-- The numbers that compete for the mark of the key: the one it has in the context, or 0, and
those that are booked for it. -/
def competing (store : MemoryStore) (context : Option JsString)
    (bookings : List (JsString × PositiveNumber)) (key : JsString) : Set ℚ :=
  insert (store.exactFloor key context) { value | ∃ seq, (key, seq) ∈ bookings ∧ seq.1 = value }

theorem exactFloor_congr {first second : MemoryStore}
    (h : first.streams.get key = second.streams.get key) :
    first.exactFloor key context = second.exactFloor key context := by
  rw [exactFloor, exactFloor, h]

theorem isGreatest_concat {bookings : List (JsString × PositiveNumber)} {mark : ℚ}
    (h : IsGreatest (store.competing context bookings key) mark) (seq : PositiveNumber) :
    IsGreatest (store.competing context (bookings ++ [(key, seq)]) key) (max mark seq.1) := by
  have hset : store.competing context (bookings ++ [(key, seq)]) key =
      insert seq.1 (store.competing context bookings key) := by
    ext value
    simp only [competing, List.mem_append, List.mem_singleton, Prod.mk.injEq, true_and,
      Set.mem_insert_iff, Set.mem_ofPred_eq]
    constructor
    · rintro (hfloor | ⟨other, hmem | rfl, hvalue⟩)
      · exact Or.inr (Or.inl hfloor)
      · exact Or.inr (Or.inr ⟨other, hmem, hvalue⟩)
      · exact Or.inl hvalue.symm
    · rintro (rfl | hfloor | ⟨other, hmem, hvalue⟩)
      · exact Or.inr ⟨seq, Or.inr rfl, rfl⟩
      · exact Or.inl hfloor
      · exact Or.inr ⟨other, Or.inl hmem, hvalue⟩
  rw [hset, max_comm]
  exact h.insert seq.1

theorem highWater_congr {first second : MemoryStore}
    (h : first.streams.get key = second.streams.get key) :
    first.highWater key context = second.highWater key context := by
  rw [highWater, highWater, h]

theorem exactFloor_bookSeqs {bookings : List (JsString × PositiveNumber)}
    (hnonempty : ∀ booking ∈ bookings, booking.1 ≠ []) :
    IsGreatest (store.competing context bookings key)
      ((store.bookSeqs context bookings).exactFloor key context) := by
  induction bookings using List.reverseRecOn with
  | nil =>
      have hset : store.competing context [] key = {store.exactFloor key context} := by
        simp [competing]
      rw [hset]
      exact isGreatest_singleton
  | append_singleton bookings booking ih =>
      obtain ⟨target, seq⟩ := booking
      have hearlier := ih fun other hother => hnonempty other (List.mem_append_left _ hother)
      rw [bookSeqs_concat]
      by_cases hkey : key = target
      · subst hkey
        have htarget : key ≠ [] := hnonempty _ (List.mem_append_right _ (List.mem_singleton_self _))
        rw [exactFloor_eq, highWater_bookStreamEntry_self htarget]
        exact isGreatest_concat hearlier seq
      · rw [exactFloor_congr (get_streams_bookStreamEntry_of_ne hkey _)]
        have hset : store.competing context (bookings ++ [(target, seq)]) key =
            store.competing context bookings key := by
          simp [competing, hkey]
        rwa [hset]

theorem highWater_bookSeqs {bookings : List (JsString × PositiveNumber)}
    (hnonempty : ∀ booking ∈ bookings, booking.1 ≠ []) {seq : PositiveNumber}
    (hbooked : (key, seq) ∈ bookings) :
    ∃ mark, (store.bookSeqs context bookings).highWater key context = some mark ∧
      IsGreatest (store.competing context bookings key) mark.1 := by
  have hmark : ∃ mark, (store.bookSeqs context bookings).highWater key context = some mark := by
    induction bookings using List.reverseRecOn with
    | nil => cases hbooked
    | append_singleton bookings booking ih =>
        obtain ⟨target, last⟩ := booking
        rw [bookSeqs_concat]
        by_cases hkey : key = target
        · subst hkey
          have htarget : key ≠ [] :=
            hnonempty _ (List.mem_append_right _ (List.mem_singleton_self _))
          exact ⟨_, highWater_bookStreamEntry_self htarget _⟩
        · rw [highWater_congr (get_streams_bookStreamEntry_of_ne hkey _)]
          refine ih (fun other hother => hnonempty other (List.mem_append_left _ hother)) ?_
          simpa [hkey] using hbooked
  obtain ⟨mark, hmark⟩ := hmark
  refine ⟨mark, hmark, ?_⟩
  have hgreatest := @exactFloor_bookSeqs store context key bookings hnonempty
  rwa [exactFloor_eq, hmark] at hgreatest

end Marks

/-! ## The bookings of a call -/

section Calls

variable {store : MemoryStore} {key : JsString}

def numberedSeqs (entries : List (JsString × PositiveNumber)) : List (JsString × JsNumber) :=
  entries.map fun entry => (entry.1, .finite entry.2.1)

theorem readCandidates_numberedSeqs (entries : List (JsString × PositiveNumber)) :
    readCandidates (numberedSeqs entries) = numberedSeqs entries := by
  refine List.filter_eq_self.mpr fun entry hentry => ?_
  obtain ⟨booked, -, rfl⟩ := List.mem_map.mp hentry
  simp [positiveFinite_finite]

theorem lastFor_map {α β : Type} (f : α → β) (entries : List (JsString × α)) :
    store.lastFor (entries.map fun entry => (entry.1, f entry.2)) key =
      (store.lastFor entries key).map f := by
  rw [lastFor, lastFor, ← List.map_reverse, List.find?_map, Option.map_map, Option.map_map]
  rfl

@[simp] theorem contextId_bookStreamEntry (context : Option JsString) (target : JsString)
    (rawSeq : Option JsNumber) :
    (store.bookStreamEntry context target rawSeq).contextId = store.contextId := by
  rw [bookStreamEntry]
  split
  all_goals rfl

@[simp] theorem aliases_bookStreamEntry (context : Option JsString) (target : JsString)
    (rawSeq : Option JsNumber) :
    (store.bookStreamEntry context target rawSeq).aliases = store.aliases := by
  rw [bookStreamEntry]
  split
  all_goals rfl

theorem bookSeqs_frame (context : Option JsString) (bookings : List (JsString × PositiveNumber)) :
    (store.bookSeqs context bookings).contextId = store.contextId ∧
      (store.bookSeqs context bookings).aliases = store.aliases := by
  induction bookings using List.reverseRecOn with
  | nil => exact ⟨rfl, rfl⟩
  | append_singleton bookings booking ih => rw [bookSeqs_concat]; simpa using ih

theorem canonicalTargetKey_congr {first second : MemoryStore} (h : first.aliases = second.aliases)
    (target : JsString) : first.canonicalTargetKey target = second.canonicalTargetKey target := by
  rw [canonicalTargetKey, canonicalTargetKey]
  simp only [resolveCanonicalTarget, h]

theorem recordConsumedSeqs_batch (store : MemoryStore)
    (entries : List (JsString × PositiveNumber)) :
    ∃ bookings, store.recordConsumedSeqs (numberedSeqs entries) =
        store.bookSeqs store.contextId bookings ∧
      ∀ key seq, (key, seq) ∈ bookings ↔
        IsCollected key ∧ store.lastFor entries key = some seq := by
  set updates := store.keyedUpdates (numberedSeqs entries) with hupdates
  have hget (key : JsString) (number : JsNumber) : (key, number) ∈ ownEntries updates ↔
      IsCollected key ∧ ∃ seq : PositiveNumber, store.lastFor entries key = some seq ∧
        JsNumber.finite seq.1 = number := by
    rw [hupdates, mem_ownEntries_keyedUpdates, numberedSeqs,
      @lastFor_map store key _ _ fun seq : PositiveNumber => JsNumber.finite seq.1,
      Option.map_eq_some_iff]
  refine ⟨(ownEntries updates).filterMap fun update =>
    update.2.positiveFinite.map fun seq => (update.1, seq), ?_, fun key seq => ?_⟩
  · have hbooked : ((ownEntries updates).filterMap fun update =>
        update.2.positiveFinite.map fun seq => (update.1, seq)).map
          (fun booking => (booking.1, some (JsNumber.finite booking.2.1))) =
        (ownEntries updates).map fun update => (update.1, some update.2) := by
      rw [List.map_filterMap, ← List.filterMap_eq_map]
      refine List.filterMap_congr fun update hupdate => ?_
      obtain ⟨-, seq, -, hseq⟩ := (hget update.1 update.2).mp hupdate
      rw [← hseq, positiveFinite_finite]
      simp [← hseq]
    rw [recordConsumedSeqs, readCandidates_numberedSeqs, bookSeqs, hbooked]
    split
    · next hnone =>
        rw [ownEntries_eq_nil hnone]
        rfl
    · rfl
  · simp only [List.mem_filterMap, Option.map_eq_some_iff]
    constructor
    · rintro ⟨⟨other, number⟩, hmem, found, hfound, heq⟩
      obtain ⟨hcollected, last, hlast, rfl⟩ := (hget other number).mp hmem
      rw [positiveFinite_finite] at hfound
      cases hfound
      cases heq
      exact ⟨hcollected, hlast⟩
    · rintro ⟨hcollected, hlast⟩
      exact ⟨(key, .finite seq.1), (hget _ _).mpr ⟨hcollected, seq, hlast, rfl⟩, seq,
        positiveFinite_finite seq, rfl⟩

def singleBookings (store : MemoryStore) (entries : List (JsString × PositiveNumber)) :
    List (JsString × PositiveNumber) :=
  entries.filterMap fun entry =>
    if IsCollected (store.canonicalTargetKey entry.1) then
      some (store.canonicalTargetKey entry.1, entry.2)
    else none

theorem mem_singleBookings {entries : List (JsString × PositiveNumber)} {seq : PositiveNumber} :
    (key, seq) ∈ store.singleBookings entries ↔
      IsCollected key ∧ ∃ spelling, (spelling, seq) ∈ entries ∧
        store.canonicalTargetKey spelling = key := by
  rw [singleBookings, List.mem_filterMap]
  constructor
  · rintro ⟨⟨spelling, found⟩, hmem, heq⟩
    split at heq
    · next hcollected =>
        cases heq
        exact ⟨hcollected, spelling, hmem, rfl⟩
    · cases heq
  · rintro ⟨hcollected, spelling, hmem, rfl⟩
    exact ⟨(spelling, seq), hmem, if_pos hcollected⟩

theorem recordConsumedSeqs_single (store : MemoryStore) (entry : JsString × PositiveNumber) :
    store.recordConsumedSeqs (numberedSeqs [entry]) =
      store.bookSeqs store.contextId (store.singleBookings [entry]) := by
  rw [recordConsumedSeqs, readCandidates_numberedSeqs]
  have hupdates : store.keyedUpdates (numberedSeqs [entry]) =
      if store.canonicalTargetKey entry.1 = [] then .empty
      else assignOwn .empty (store.canonicalTargetKey entry.1) (.finite entry.2.1) := rfl
  rw [hupdates]
  by_cases hempty : store.canonicalTargetKey entry.1 = []
  · simp [singleBookings, IsCollected, hempty, InsertionMap.keys, InsertionMap.empty, bookSeqs,
      bookStreamEntries]
  · rw [if_neg hempty, assignOwn]
    by_cases hproto : store.canonicalTargetKey entry.1 = js "__proto__"
    · simp [singleBookings, IsCollected, hproto, InsertionMap.keys, InsertionMap.empty, bookSeqs,
        bookStreamEntries]
    · have hcollected : IsCollected (store.canonicalTargetKey entry.1) := ⟨hempty, hproto⟩
      rw [if_neg hproto, ownEntries_single, if_neg (by
        simp [InsertionMap.keys, InsertionMap.set, InsertionMap.empty])]
      simp [singleBookings, hcollected, bookSeqs]

theorem singleBookings_congr {first second : MemoryStore} (h : first.aliases = second.aliases)
    (entries : List (JsString × PositiveNumber)) :
    first.singleBookings entries = second.singleBookings entries := by
  have hkeys : first.canonicalTargetKey = second.canonicalTargetKey :=
    funext (canonicalTargetKey_congr h)
  simp only [singleBookings, hkeys]

/-- One call for each entry, in order. -/
def recordOneByOne (store : MemoryStore) (entries : List (JsString × PositiveNumber)) :
    MemoryStore :=
  run (fun store entry => store.recordConsumedSeqs (numberedSeqs [entry])) store entries

theorem recordOneByOne_eq (store : MemoryStore) (entries : List (JsString × PositiveNumber)) :
    store.recordOneByOne entries =
      store.bookSeqs store.contextId (store.singleBookings entries) := by
  induction entries using List.reverseRecOn with
  | nil => rfl
  | append_singleton entries entry ih =>
      obtain ⟨hcontext, haliases⟩ :=
        store.bookSeqs_frame store.contextId (store.singleBookings entries)
      have hsplit : store.singleBookings (entries ++ [entry]) =
          store.singleBookings entries ++ store.singleBookings [entry] := List.filterMap_append
      rw [recordOneByOne, run_concat]
      rw [recordOneByOne] at ih
      rw [ih, recordConsumedSeqs_single, hcontext, singleBookings_congr haliases, hsplit]
      simp only [bookSeqs, bookStreamEntries, List.map_append, List.foldl_append]

end Calls

end MemoryStore

/-! ## Answers -/

section Answers

open MemoryStore

variable {store : MemoryStore}

theorem getConsumedSeq_value (ledger : ConsumedSeqLedger) (store : MemoryStore)
    (target : JsString) :
    (ledger.getConsumedSeq store target).1 =
      if store.canonicalTargetKey target = [] then none
      else (store.streams.get (store.canonicalTargetKey target)).bind fun row =>
        if store.contextId = none ∨ row.contextId = store.contextId then row.seq else none := by
  rw [ConsumedSeqLedger.getConsumedSeq]
  split
  · rfl
  · rw [MemoryStore.readStreamEntry]
    cases store.streams.get (store.canonicalTargetKey target) with
    | none => rfl
    | some row =>
        simp only [Option.bind_some, StreamRow.toEntry]
        by_cases hempty : row.seq = none ∧ row.readOrder = none
        · simp [hempty, ConsumedSeqLedger.inThisContext]
        · by_cases hrow : store.contextId = none ∨ row.contextId = store.contextId
          · simp [hempty, ConsumedSeqLedger.inThisContext, hrow]
          · simp [hempty, ConsumedSeqLedger.inThisContext, hrow]

theorem getConsumedSeq_of_highWater (ledger : ConsumedSeqLedger) {target : JsString}
    {mark : PositiveNumber} (hkey : store.canonicalTargetKey target ≠ [])
    (h : store.highWater (store.canonicalTargetKey target) store.contextId = some mark) :
    (ledger.getConsumedSeq store target).1 = some mark := by
  obtain ⟨row, hget, hrow⟩ := Option.bind_eq_some_iff.mp h
  rw [getConsumedSeq_value, if_neg hkey, hget, Option.bind_some]
  split at hrow
  · next hcontext => rw [if_pos (Or.inr hcontext), hrow]
  · cases hrow

theorem getConsumedSeq_bookSeqs (ledger : ConsumedSeqLedger) {target : JsString}
    {bookings : List (JsString × PositiveNumber)}
    (hnone : ∀ booking ∈ bookings, booking.1 ≠ store.canonicalTargetKey target) :
    (ledger.getConsumedSeq (store.bookSeqs store.contextId bookings) target).1 =
      (ledger.getConsumedSeq store target).1 := by
  obtain ⟨hcontext, haliases⟩ := store.bookSeqs_frame store.contextId bookings
  rw [getConsumedSeq_value, getConsumedSeq_value, hcontext, canonicalTargetKey_congr haliases,
    get_streams_bookSeqs hnone]

theorem getConsumedSeq_booked (ledger : ConsumedSeqLedger) {target : JsString}
    {bookings : List (JsString × PositiveNumber)}
    (hnonempty : ∀ booking ∈ bookings, booking.1 ≠ []) {seq : PositiveNumber}
    (hbooked : (store.canonicalTargetKey target, seq) ∈ bookings) :
    ∃ mark, (ledger.getConsumedSeq (store.bookSeqs store.contextId bookings) target).1 = some mark ∧
      IsGreatest (store.competing store.contextId bookings (store.canonicalTargetKey target))
        mark.1 := by
  obtain ⟨hcontext, haliases⟩ := store.bookSeqs_frame store.contextId bookings
  obtain ⟨mark, hmark, hgreatest⟩ :=
    @highWater_bookSeqs store store.contextId _ bookings hnonempty seq hbooked
  refine ⟨mark, getConsumedSeq_of_highWater ledger ?_ ?_, hgreatest⟩
  · rw [canonicalTargetKey_congr haliases]
    exact hnonempty _ hbooked
  · rw [hcontext, canonicalTargetKey_congr haliases, hmark]

/-! ## Marks of a batch -/

/-- Each entry's seq is covered, and the batch answers as one call for each entry does. -/
def SeqsBooked (ledger : ConsumedSeqLedger) (store : MemoryStore)
    (entries : List (JsString × PositiveNumber)) : Prop :=
  (∀ entry ∈ entries, ∃ value,
    (ledger.getConsumedSeq (store.recordConsumedSeqs (numberedSeqs entries)) entry.1).1 =
      some value ∧ entry.2 ≤ value) ∧
  ∀ target, (ledger.getConsumedSeq (store.recordConsumedSeqs (numberedSeqs entries)) target).1 =
    (ledger.getConsumedSeq (store.recordOneByOne entries) target).1

def SeqsSurvive (ledger : ConsumedSeqLedger) (store : MemoryStore)
    (entries : List (JsString × PositiveNumber)) : Prop :=
  ∀ entry ∈ entries, store.canonicalTargetKey entry.1 ≠ [] ∧
    if store.canonicalTargetKey entry.1 = js "__proto__" then
      ∃ value, (ledger.getConsumedSeq store entry.1).1 = some value ∧ entry.2 ≤ value
    else
      ∃ last, store.lastFor entries (store.canonicalTargetKey entry.1) = some last ∧
        entry.2.1 ≤ max (store.exactFloor (store.canonicalTargetKey entry.1) store.contextId) last.1

theorem competing_batch {bookings entries : List (JsString × PositiveNumber)} {key : JsString}
    {last : PositiveNumber}
    (hbookings : ∀ key seq, (key, seq) ∈ bookings ↔
      IsCollected key ∧ store.lastFor entries key = some seq)
    (hcollected : IsCollected key) (hlast : store.lastFor entries key = some last)
    {mark : ℚ} (hmark : IsGreatest (store.competing store.contextId bookings key) mark) :
    mark = max (store.exactFloor key store.contextId) last.1 := by
  have hset : store.competing store.contextId bookings key =
      {store.exactFloor key store.contextId, last.1} := by
    ext value
    simp only [competing, hbookings, hcollected, hlast, true_and, Option.some.injEq,
      Set.mem_insert_iff, Set.mem_ofPred_eq, Set.mem_singleton_iff]
    constructor
    · rintro (hfloor | ⟨seq, rfl, hvalue⟩)
      · exact Or.inl hfloor
      · exact Or.inr hvalue.symm
    · rintro (hfloor | rfl)
      · exact Or.inl hfloor
      · exact Or.inr ⟨last, rfl, rfl⟩
  rw [hset] at hmark
  exact hmark.unique isGreatest_pair

section Booked

variable (ledger : ConsumedSeqLedger) {entries : List (JsString × PositiveNumber)}
  {target : JsString} {last : PositiveNumber}

theorem getConsumedSeq_batch (hcollected : IsCollected (store.canonicalTargetKey target))
    (hlast : store.lastFor entries (store.canonicalTargetKey target) = some last) :
    ∃ mark, (ledger.getConsumedSeq (store.recordConsumedSeqs (numberedSeqs entries)) target).1 =
        some mark ∧
      mark.1 = max (store.exactFloor (store.canonicalTargetKey target) store.contextId) last.1 := by
  obtain ⟨bookings, hbatch, hbookings⟩ := store.recordConsumedSeqs_batch entries
  have hnonempty : ∀ booking ∈ bookings, booking.1 ≠ [] := fun booking hbooking =>
    ((hbookings booking.1 booking.2).mp hbooking).1.1
  obtain ⟨mark, hmark, hgreatest⟩ := getConsumedSeq_booked ledger hnonempty
    ((hbookings _ _).mpr ⟨hcollected, hlast⟩)
  rw [hbatch]
  exact ⟨mark, hmark, competing_batch hbookings hcollected hlast hgreatest⟩

theorem getConsumedSeq_batch_untouched
    (h : ¬ (IsCollected (store.canonicalTargetKey target) ∧
      ∃ last, store.lastFor entries (store.canonicalTargetKey target) = some last)) :
    (ledger.getConsumedSeq (store.recordConsumedSeqs (numberedSeqs entries)) target).1 =
      (ledger.getConsumedSeq store target).1 := by
  obtain ⟨bookings, hbatch, hbookings⟩ := store.recordConsumedSeqs_batch entries
  rw [hbatch]
  refine getConsumedSeq_bookSeqs ledger fun booking hbooking hkey => h ?_
  obtain ⟨hcollected, hlast⟩ := (hbookings booking.1 booking.2).mp hbooking
  rw [hkey] at hcollected hlast
  exact ⟨hcollected, booking.2, hlast⟩

theorem getConsumedSeq_oneByOne_untouched
    (h : ¬ (IsCollected (store.canonicalTargetKey target) ∧
      ∃ last, store.lastFor entries (store.canonicalTargetKey target) = some last)) :
    (ledger.getConsumedSeq (store.recordOneByOne entries) target).1 =
      (ledger.getConsumedSeq store target).1 := by
  rw [recordOneByOne_eq]
  refine getConsumedSeq_bookSeqs ledger fun booking hbooking hkey => h ?_
  obtain ⟨hcollected, spelling, hmem, hspelling⟩ := mem_singleBookings.mp hbooking
  rw [hkey] at hcollected hspelling
  obtain ⟨last, hlast⟩ := @lastFor_isSome _ store entries (spelling, booking.2) hmem
  exact ⟨hcollected, last, by rw [← hspelling]; exact hlast⟩

/-- One by one, the mark is that of the batch when the last seq of the key covers the others. -/
theorem getConsumedSeq_oneByOne (hcollected : IsCollected (store.canonicalTargetKey target))
    (hlast : store.lastFor entries (store.canonicalTargetKey target) = some last)
    (hcovers : ∀ entry ∈ entries,
      store.canonicalTargetKey entry.1 = store.canonicalTargetKey target → entry.2.1 ≤
        max (store.exactFloor (store.canonicalTargetKey target) store.contextId) last.1) :
    ∃ mark, (ledger.getConsumedSeq (store.recordOneByOne entries) target).1 = some mark ∧
      mark.1 = max (store.exactFloor (store.canonicalTargetKey target) store.contextId) last.1 := by
  obtain ⟨spelling, hmem, hspelling⟩ := mem_of_lastFor hlast
  have hbooked : (store.canonicalTargetKey target, last) ∈ store.singleBookings entries :=
    mem_singleBookings.mpr ⟨hcollected, spelling, hmem, hspelling⟩
  have hnonempty : ∀ booking ∈ store.singleBookings entries, booking.1 ≠ [] :=
    fun booking hbooking => (mem_singleBookings.mp hbooking).1.1
  obtain ⟨mark, hmark, hgreatest⟩ := getConsumedSeq_booked ledger hnonempty hbooked
  rw [recordOneByOne_eq]
  refine ⟨mark, hmark, le_antisymm ?_ (max_le ?_ ?_)⟩
  · rcases hgreatest.1 with hfloor | ⟨seq, hseq, hvalue⟩
    · exact hfloor.le.trans (le_max_left _ _)
    · obtain ⟨-, other, hother, hotherkey⟩ := mem_singleBookings.mp hseq
      rw [← hvalue]
      exact hcovers _ hother hotherkey
  · exact hgreatest.2 (Set.mem_insert _ _)
  · exact hgreatest.2 (Set.mem_insert_of_mem _ ⟨last, hbooked, rfl⟩)

end Booked

theorem seqsBooked_iff (ledger : ConsumedSeqLedger) (store : MemoryStore)
    (entries : List (JsString × PositiveNumber)) :
    SeqsBooked ledger store entries ↔ SeqsSurvive ledger store entries := by
  have huntouched {target : JsString} (hproto : store.canonicalTargetKey target = js "__proto__") :
      (ledger.getConsumedSeq (store.recordConsumedSeqs (numberedSeqs entries)) target).1 =
        (ledger.getConsumedSeq store target).1 :=
    getConsumedSeq_batch_untouched ledger fun h => h.1.2 hproto
  constructor
  · rintro ⟨hcovered, -⟩ entry hentry
    obtain ⟨value, hvalue, hle⟩ := hcovered entry hentry
    have hne : store.canonicalTargetKey entry.1 ≠ [] := by
      intro hempty
      have hfree : ¬ (IsCollected (store.canonicalTargetKey entry.1) ∧
          ∃ last, store.lastFor entries (store.canonicalTargetKey entry.1) = some last) :=
        fun h => h.1.1 hempty
      rw [getConsumedSeq_batch_untouched ledger hfree, getConsumedSeq_value, if_pos hempty]
        at hvalue
      cases hvalue
    refine ⟨hne, ?_⟩
    split
    · next hproto => exact ⟨value, by rw [← huntouched hproto, hvalue], hle⟩
    · next hproto =>
        obtain ⟨last, hlast⟩ := @lastFor_isSome _ store entries entry hentry
        obtain ⟨mark, hmark, heq⟩ := getConsumedSeq_batch ledger ⟨hne, hproto⟩ hlast
        rw [hmark] at hvalue
        cases hvalue
        exact ⟨last, hlast, heq ▸ hle⟩
  · intro hsurvive
    refine ⟨fun entry hentry => ?_, fun target => ?_⟩
    · obtain ⟨hne, hentry⟩ := hsurvive entry hentry
      split at hentry
      · next hproto =>
          obtain ⟨value, hvalue, hle⟩ := hentry
          exact ⟨value, by rw [huntouched hproto, hvalue], hle⟩
      · next hproto =>
          obtain ⟨last, hlast, hle⟩ := hentry
          obtain ⟨mark, hmark, heq⟩ := getConsumedSeq_batch ledger ⟨hne, hproto⟩ hlast
          exact ⟨mark, hmark, by rw [← heq] at hle; exact hle⟩
    · by_cases htouched : IsCollected (store.canonicalTargetKey target) ∧
          ∃ last, store.lastFor entries (store.canonicalTargetKey target) = some last
      · obtain ⟨hcollected, last, hlast⟩ := htouched
        obtain ⟨mark, hmark, heq⟩ := getConsumedSeq_batch ledger hcollected hlast
        have hcovers : ∀ entry ∈ entries,
            store.canonicalTargetKey entry.1 = store.canonicalTargetKey target → entry.2.1 ≤
              max (store.exactFloor (store.canonicalTargetKey target) store.contextId)
                last.1 := by
          intro entry hentry hkey
          obtain ⟨-, hsurvives⟩ := hsurvive entry hentry
          rw [hkey, if_neg hcollected.2, hlast] at hsurvives
          obtain ⟨other, hother, hle⟩ := hsurvives
          cases hother
          exact hle
        obtain ⟨single, hsingle, hsingleEq⟩ :=
          getConsumedSeq_oneByOne ledger hcollected hlast hcovers
        rw [hmark, hsingle]
        exact congrArg some (Subtype.ext (heq.trans hsingleEq.symm))
      · rw [getConsumedSeq_batch_untouched ledger htouched,
          getConsumedSeq_oneByOne_untouched ledger htouched]

end Answers

end Raft.SeenPolicy
