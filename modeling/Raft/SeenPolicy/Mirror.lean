import Raft.SeenPolicy.Frontier

/-!
# Where the frontier mirrors the store

Both sides run the same bookings.  The relation between a target's record in
the frontier and its two rows in the store says that marks, exact seqs and
context tags agree as far as either side can observe them.  A high-water
booking keeps it always.  An exact booking keeps it unless it clears another
context's seqs without booking one of its own: the store then keeps them.
-/

namespace Raft.SeenPolicy

open Raft.Foundation

/-! ## Bookings -/

inductive SeenBooking where
  | recordUpTo (target : JsString) (seq : ℕ+)
  | recordExact (target : JsString) (seqs : List ℕ+)

def SeenBooking.target : SeenBooking → JsString
  | .recordUpTo target _ => target
  | .recordExact target _ => target

abbrev ScopedBooking := Option JsString × SeenBooking

def frontierStep (frontier : SeenFrontier) (booking : ScopedBooking) : SeenFrontier :=
  let view := frontier.inContext booking.1
  let booked := match booking.2 with
    | .recordUpTo target seq => view.recordUpTo target (.ofNat seq)
    | .recordExact target seqs => view.recordExact target (seqs.map fun seq : ℕ+ => .ofNat seq)
  { frontier with core := booked.core }

def policyStep (store : MemoryStore) (booking : ScopedBooking) : MemoryStore :=
  let store := store.setContextId booking.1
  match booking.2 with
  | .recordUpTo target seq => store.recordConsumedRead target (some (.ofNat seq))
  | .recordExact target seqs =>
      store.recordConsumedExactSeqs [(target, seqs.map fun seq : ℕ+ => .ofNat seq)]

/-- The exact booking books a seq of its own or takes no other context's seqs away. -/
def KeepsEvidence (state : TargetState) (context : Option JsString) (seqs : List ℕ+) : Prop :=
  state.exact = ∅ ∨ state.exactContext = context ∨
    ∃ seq ∈ seqs, TargetState.above
      (if state.upToContext = context then state.upTo else none) seq = true

instance decidableKeepsEvidence (state : TargetState) (context : Option JsString)
    (seqs : List ℕ+) : Decidable (KeepsEvidence state context seqs) :=
  inferInstanceAs (Decidable (_ ∨ _ ∨ _))

def MirrorsPolicy (frontier : SeenFrontier) (booking : ScopedBooking) : Prop :=
  booking.1 ≠ some [] ∧
    canonicalizeConsumedTarget booking.2.target = some booking.2.target ∧
    match booking.2 with
    | .recordUpTo _ _ => True
    | .recordExact target seqs =>
        target ≠ js "__proto__" ∧ KeepsEvidence (frontier.state target) booking.1 seqs

/-! ## Answers -/

def SameAnswer (frontier : SeenFrontier) (store : MemoryStore) (contextId : Option JsString)
    (target : JsString) : Prop :=
  let attested := (frontier.inContext contextId).attestation target
  let asked := store.setContextId contextId
  let ledger : ConsumedSeqLedger := ⟨[]⟩
  let mark := (ledger.getConsumedSeq asked target).1
  attested.seenUpToSeq.map (fun seq => ((seq : ℕ) : ℚ)) = mark.map Subtype.val ∧
    attested.seenExactSeqs = (ledger.getConsumedExactSeqs asked target).1.filter fun seq : ℕ+ =>
      mark.all fun mark => mark.1 < ((seq : ℕ) : ℚ)

/-! ## Rows -/

def seqValue (seq : ℕ+) : PositiveNumber := ⟨(seq : ℕ), by exact_mod_cast seq.pos⟩

structure MirrorsStream (state : TargetState) (stream : Option StreamRow) : Prop where
  absent : stream = none → state.upTo = none
  present : ∀ row, stream = some row → ∃ upTo, state.upTo = some upTo ∧
    row.seq = some (seqValue upTo) ∧ row.contextId = state.upToContext

structure MirrorsExact (state : TargetState) (exact : Option ExactRow) : Prop where
  absent : exact = none → state.exact = ∅
  present : ∀ row, exact = some row → state.exact ≠ ∅ ∧
    row.seqs = state.exact.sort (· ≤ ·) ∧ row.contextId = state.exactContext

structure MirrorsRows (state : TargetState) (stream : Option StreamRow)
    (exact : Option ExactRow) : Prop where
  stream : MirrorsStream state stream
  exact : MirrorsExact state exact
  /-- Exact seqs of the mark's own context lie above it. -/
  retired : state.exactContext = state.upToContext →
    ∀ seq ∈ state.exact, TargetState.above state.upTo seq = true
  bounded : state.exact.card ≤ MAX_EXACT_SEQS_PER_TARGET

theorem mirrorsRows_fresh : MirrorsRows .fresh none none where
  stream := ⟨fun _ => rfl, fun _ hrow => by cases hrow⟩
  exact := ⟨fun _ => rfl, fun _ hrow => by cases hrow⟩
  retired := fun _ _ hseq => by cases hseq
  bounded := Nat.zero_le _

theorem above_iff_floor (mark : Option ℕ+) (seq : ℕ+) :
    TargetState.above mark seq = true ↔ StreamRow.floor (mark.map seqValue) < (seq : ℕ) := by
  cases mark with
  | none => simp [TargetState.above, StreamRow.floor]
  | some mark => simp [TargetState.above, StreamRow.floor, seqValue]

theorem normalizeSeqs_sort {exact : Finset ℕ+} {afterSeq : ℚ} :
    normalizeSeqs (exact.sort (· ≤ ·)) afterSeq =
      (newest MAX_EXACT_SEQS_PER_TARGET
        (exact.filter fun seq : ℕ+ => afterSeq < (seq : ℕ))).sort (· ≤ ·) := by
  rw [normalizeSeqs_eq, Finset.sort_toFinset]

def contextFloor (stream : Option StreamRow) (context : Option JsString) : ℚ :=
  match stream with
  | some row => if row.contextId = context then StreamRow.floor row.seq else 0
  | none => 0

theorem exactFloor_eq (store : MemoryStore) (target : JsString) (context : Option JsString) :
    store.exactFloor target context = contextFloor (store.streams.get target) context := by
  rw [MemoryStore.exactFloor]
  cases store.streams.get target <;> rfl

section Rows

variable {state : TargetState} {stream : Option StreamRow} {exact : Option ExactRow}
  {context : Option JsString}

theorem MirrorsStream.bookUpTo (h : MirrorsStream state stream) (seq : ℕ+)
    (readOrder : Option ℕ+) :
    StreamRow.nextSeq stream (some (seqValue seq)) context =
        ((state.bookUpTo seq context).upTo.map seqValue) ∧
      MirrorsStream (state.bookUpTo seq context)
        (some ⟨StreamRow.nextSeq stream (some (seqValue seq)) context, readOrder, context⟩) := by
  have hnext : StreamRow.nextSeq stream (some (seqValue seq)) context =
      ((state.bookUpTo seq context).upTo.map seqValue) := by
    cases stream with
    | none => simp [StreamRow.nextSeq, TargetState.bookUpTo, h.absent rfl]
    | some row =>
        obtain ⟨upTo, hupTo, hseq, hcontext⟩ := h.present row rfl
        have hgreater : seqValue seq > seqValue upTo ↔ seq > upTo := by
          simp [seqValue]
        by_cases hsame : state.upToContext = context
        · by_cases hlarger : seq > upTo
          · simp [StreamRow.nextSeq, TargetState.bookUpTo, hupTo, hseq, hcontext, hsame, hlarger,
              hgreater]
          · simp [StreamRow.nextSeq, TargetState.bookUpTo, hupTo, hseq, hcontext, hsame, hlarger,
              hgreater]
        · simp [StreamRow.nextSeq, TargetState.bookUpTo, hupTo, hcontext, hsame]
  refine ⟨hnext, nofun, ?_⟩
  rintro row ⟨⟩
  exact ⟨_, rfl, hnext, rfl⟩

theorem MirrorsExact.bookUpTo (h : MirrorsExact state exact)
    (hbounded : state.exact.card ≤ MAX_EXACT_SEQS_PER_TARGET) (seq upTo : ℕ+)
    (hupTo : (state.bookUpTo seq context).upTo = some upTo) :
    MirrorsExact (state.bookUpTo seq context)
      (ExactRow.retire (ExactRow.dropOtherContext exact context) ((upTo : ℕ) : ℚ)) := by
  have hexact : (state.bookUpTo seq context).exact =
      (if state.exact.card > 0 ∧ state.exactContext ≠ context then ∅
        else state.exact).filter fun seq => ¬ seq ≤ upTo := by
    rw [← Option.some.inj hupTo]
    rfl
  have hcontext : (state.bookUpTo seq context).exactContext = context := rfl
  cases exact with
  | none =>
      refine ⟨fun _ => ?_, nofun⟩
      rw [hexact, h.absent rfl]
      simp
  | some row =>
      obtain ⟨hne, hseqs, hrow⟩ := h.present row rfl
      have hcard : state.exact.card > 0 :=
        Finset.card_pos.mpr (Finset.nonempty_iff_ne_empty.mpr hne)
      by_cases hsame : state.exactContext = context
      · have hfilter : (state.exact.filter fun seq : ℕ+ => ((upTo : ℕ) : ℚ) < (seq : ℕ)) =
            state.exact.filter fun seq => ¬ seq ≤ upTo :=
          Finset.filter_congr fun seq _ => by simp
        have hkept : normalizeSeqs row.seqs ((upTo : ℕ) : ℚ) =
            (state.exact.filter fun seq => ¬ seq ≤ upTo).sort (· ≤ ·) := by
          rw [hseqs, normalizeSeqs_sort, hfilter, newest_of_card_le
            ((Finset.card_filter_le _ _).trans hbounded)]
        have hpos : ((upTo : ℕ) : ℚ) > 0 := by exact_mod_cast upTo.pos
        rw [ExactRow.dropOtherContext, if_pos (hrow.trans hsame), ExactRow.retire, if_pos hpos,
          hkept]
        rw [hsame] at hexact
        simp only [ne_eq, not_true_eq_false, and_false, if_false] at hexact
        by_cases hempty : (state.exact.filter fun seq => ¬ seq ≤ upTo) = ∅
        · rw [hempty, Finset.sort_empty, if_pos rfl]
          exact ⟨fun _ => hexact.trans hempty, nofun⟩
        · rw [if_neg (by rwa [sort_eq_nil_iff])]
          refine ⟨nofun, ?_⟩
          rintro kept ⟨⟩
          exact ⟨hexact ▸ hempty, by rw [hexact], hrow.trans (hsame.trans hcontext.symm)⟩
      · rw [ExactRow.dropOtherContext, if_neg fun heq => hsame (hrow.symm.trans heq)]
        refine ⟨fun _ => ?_, nofun⟩
        rw [hexact, if_pos ⟨hcard, hsame⟩]
        rfl

theorem MirrorsRows.bookUpTo (h : MirrorsRows state stream exact) (seq : ℕ+)
    (readOrder : Option ℕ+) :
    MirrorsRows (state.bookUpTo seq context)
      (some ⟨StreamRow.nextSeq stream (some (seqValue seq)) context, readOrder, context⟩)
      (ExactRow.retire (ExactRow.dropOtherContext exact context)
        (StreamRow.floor (StreamRow.nextSeq stream (some (seqValue seq)) context))) := by
  obtain ⟨hnext, hstream⟩ := @MirrorsStream.bookUpTo _ _ context h.stream seq readOrder
  obtain ⟨upTo, hupTo⟩ : ∃ upTo, (state.bookUpTo seq context).upTo = some upTo := ⟨_, rfl⟩
  have hfloor : StreamRow.floor (StreamRow.nextSeq stream (some (seqValue seq)) context) =
      (upTo : ℕ) := by
    rw [hnext, hupTo]
    rfl
  rw [hfloor]
  have hexact : (state.bookUpTo seq context).exact =
      (if state.exact.card > 0 ∧ state.exactContext ≠ context then ∅
        else state.exact).filter fun seq => ¬ seq ≤ upTo := by
    rw [← Option.some.inj hupTo]
    rfl
  refine ⟨hstream, h.exact.bookUpTo h.bounded seq upTo hupTo, fun _ kept hkept => ?_, ?_⟩
  · rw [hexact, Finset.mem_filter] at hkept
    rw [hupTo]
    simpa [TargetState.above] using hkept.2
  · rw [hexact]
    refine (Finset.card_filter_le _ _).trans ?_
    split
    · exact Nat.zero_le _
    · exact h.bounded

theorem MirrorsStream.contextFloor_eq (h : MirrorsStream state stream)
    (context : Option JsString) :
    contextFloor stream context =
      StreamRow.floor ((if state.upToContext = context then state.upTo else none).map
        seqValue) := by
  cases hstream : stream with
  | none =>
      rw [h.absent hstream]
      split <;> rfl
  | some row =>
      obtain ⟨upTo, hupTo, hseq, hcontext⟩ := h.present row hstream
      rw [contextFloor, hcontext, hupTo, hseq]
      split <;> rfl

theorem MirrorsExact.heldSeqs_eq (h : MirrorsExact state exact) (context : Option JsString) :
    (ExactRow.heldSeqs exact context).toFinset =
      if state.exactContext ≠ context then ∅ else state.exact := by
  cases exact with
  | none =>
      rw [h.absent rfl]
      split <;> rfl
  | some row =>
      obtain ⟨_, hseqs, hrow⟩ := h.present row rfl
      by_cases hsame : state.exactContext = context
      · simp [ExactRow.heldSeqs, hrow, hsame, hseqs]
      · simp [ExactRow.heldSeqs, hrow, hsame]

theorem exact_bookExact (seqs : List ℕ+) :
    (state.bookExact seqs context).exact =
      newest MAX_EXACT_SEQS_PER_TARGET
        ((if state.exactContext ≠ context then ∅ else state.exact) ∪
          (seqs.filter (TargetState.above
            (if state.upToContext = context then state.upTo else none))).toFinset) := by
  rw [TargetState.bookExact, MAX_EXACT_SEQS_eq]
  generalize ((if state.exactContext ≠ context then ∅ else state.exact) ∪ _) = added
  by_cases hlarge : added.card > MAX_EXACT_SEQS_PER_TARGET
  · simp only [hlarge, if_true]
    exact take_sort_newest
  · simp only [hlarge, if_false]
    exact (newest_of_card_le (not_lt.mp hlarge)).symm

theorem MirrorsRows.held_above (h : MirrorsRows state stream exact) {seq : ℕ+}
    (hseq : seq ∈ if state.exactContext ≠ context then ∅ else state.exact) :
    TargetState.above (if state.upToContext = context then state.upTo else none) seq = true := by
  split at hseq
  · cases hseq
  · next hexact =>
      split
      · next hupTo => exact h.retired ((not_not.mp hexact).trans hupTo.symm) seq hseq
      · rfl

theorem MirrorsRows.merged_eq (h : MirrorsRows state stream exact) (seqs : List ℕ+) :
    normalizeSeqs (ExactRow.heldSeqs exact context ++ normalizeSeqs seqs 0)
        (contextFloor stream context) =
      (state.bookExact seqs context).exact.sort (· ≤ ·) := by
  have hfloor : 0 ≤ contextFloor stream context := by
    rw [h.stream.contextFloor_eq]
    exact StreamRow.floor_nonneg _
  rw [normalizeSeqs_append_normalizeSeqs hfloor, normalizeSeqs_eq, exact_bookExact,
    List.toFinset_append, h.exact.heldSeqs_eq, h.stream.contextFloor_eq]
  congr 2
  ext seq
  simp only [Finset.mem_filter, Finset.mem_union, List.mem_toFinset, List.mem_filter,
    ← above_iff_floor]
  constructor
  · rintro ⟨hheld | hnew, habove⟩
    · exact Or.inl hheld
    · exact Or.inr ⟨hnew, habove⟩
  · rintro (hheld | ⟨hnew, habove⟩)
    · exact ⟨Or.inl hheld, h.held_above hheld⟩
    · exact ⟨Or.inr hnew, habove⟩

theorem KeepsEvidence.exact_eq_empty {seqs : List ℕ+}
    (hkeeps : KeepsEvidence state context seqs)
    (hnone : (state.bookExact seqs context).exact = ∅) : state.exact = ∅ := by
  rw [exact_bookExact, newest_eq_empty_iff (by rw [MAX_EXACT_SEQS_PER_TARGET]; decide),
    Finset.union_eq_empty] at hnone
  rcases hkeeps with hempty | hsame | ⟨seq, hseq, habove⟩
  · exact hempty
  · simpa [hsame] using hnone.1
  · have hadded := List.mem_toFinset.mpr (List.mem_filter.mpr ⟨hseq, habove⟩)
    rw [hnone.2] at hadded
    cases hadded

theorem MirrorsExact.eq_none_iff (h : MirrorsExact state exact) :
    exact = none ↔ state.exact = ∅ := by
  refine ⟨h.absent, fun hempty => Option.eq_none_iff_forall_ne_some.mpr fun row hrow => ?_⟩
  exact (h.present row hrow).1 hempty

theorem mirrorsExact_none {state : TargetState} (hempty : state.exact = ∅) :
    MirrorsExact state none :=
  ⟨fun _ => hempty, nofun⟩

theorem MirrorsRows.bookExact (h : MirrorsRows state stream exact) {seqs : List ℕ+}
    (hkeeps : KeepsEvidence state context seqs) :
    MirrorsRows (state.bookExact seqs context) stream
      (ExactRow.merge exact (normalizeSeqs seqs 0) (contextFloor stream context) context) := by
  have hmerged := @MirrorsRows.merged_eq _ _ _ context h seqs
  refine ⟨⟨h.stream.absent, h.stream.present⟩, ?_, fun hcontext seq hseq => ?_, ?_⟩
  · rw [ExactRow.merge, hmerged]
    by_cases hempty : (state.bookExact seqs context).exact = ∅
    · rw [if_pos (sort_eq_nil_iff.mpr hempty),
        h.exact.eq_none_iff.mpr (hkeeps.exact_eq_empty hempty)]
      exact mirrorsExact_none hempty
    · rw [if_neg (sort_eq_nil_iff.not.mpr hempty)]
      refine ⟨by simp, ?_⟩
      rintro row ⟨⟩
      exact ⟨hempty, rfl, rfl⟩
  · have hupTo : state.upToContext = context := hcontext.symm
    change TargetState.above state.upTo seq = true
    rw [exact_bookExact] at hseq
    rcases Finset.mem_union.mp (newest_subset hseq) with hheld | hnew
    · simpa [hupTo] using h.held_above hheld
    · simpa [hupTo] using (List.mem_filter.mp (List.mem_toFinset.mp hnew)).2
  · rw [exact_bookExact, card_newest]
    exact min_le_left _ _

theorem MirrorsRows.bookExact_nil (h : MirrorsRows state stream exact)
    (hkeeps : KeepsEvidence state context []) :
    MirrorsRows (state.bookExact [] context) stream exact := by
  have hexact : (state.bookExact [] context).exact = state.exact := by
    rw [exact_bookExact, List.filter_nil, List.toFinset_nil, Finset.union_empty]
    rcases hkeeps with hempty | hsame | ⟨seq, hseq, _⟩
    · rw [hempty, ite_self, newest_of_card_le (Nat.zero_le _)]
    · rw [if_neg (not_not.mpr hsame), newest_of_card_le h.bounded]
    · cases hseq
  have htag : state.exact ≠ ∅ → state.exactContext = context := fun hne => by
    rcases hkeeps with hempty | hsame | ⟨seq, hseq, _⟩
    · exact absurd hempty hne
    · exact hsame
    · cases hseq
  refine ⟨⟨h.stream.absent, h.stream.present⟩, ⟨?_, ?_⟩, ?_, ?_⟩
  · rw [hexact]
    exact h.exact.absent
  · intro row hrow
    obtain ⟨hne, hseqs, hcontext⟩ := h.exact.present row hrow
    rw [hexact]
    exact ⟨hne, hseqs, hcontext.trans (htag hne)⟩
  · rw [hexact]
    intro hcontext seq hseq
    have hsame := htag (Finset.ne_empty_of_mem hseq)
    exact h.retired (hsame.trans hcontext) seq hseq
  · rw [hexact]
    exact h.bounded

end Rows

/-! ## Runs -/

structure Mirrors (frontier : SeenFrontier) (store : MemoryStore) : Prop where
  frontierAliases : frontier.core.aliases = .empty
  storeAliases : store.aliases = .empty
  rows : ∀ target, MirrorsRows (frontier.state target) (store.streams.get target)
    (store.exact.get target)

theorem mirrors_fresh (contextId : Option JsString) :
    Mirrors .fresh (createMemoryCommandStateStore contextId) where
  frontierAliases := rfl
  storeAliases := rfl
  rows := fun _ => mirrorsRows_fresh

theorem canonicalTargetKey_of_unaliased {store : MemoryStore} {target : JsString}
    (haliases : store.aliases = .empty)
    (htarget : canonicalizeConsumedTarget target = some target) :
    store.canonicalTargetKey target = target := by
  simp only [MemoryStore.canonicalTargetKey, htarget, MemoryStore.resolveCanonicalTarget, haliases]
  exact MemoryStore.followAliases_of_none rfl

theorem ne_nil_of_canonicalizeConsumedTarget {target : JsString}
    (h : canonicalizeConsumedTarget target = some target) : target ≠ [] := by
  rintro rfl
  cases h

theorem contextOrNull_eq {context : Option JsString} (h : context ≠ some []) :
    contextOrNull context = context := by
  cases context with
  | none => rfl
  | some text =>
      have hne : text ≠ [] := fun hempty => h (congrArg some hempty)
      simp [contextOrNull, Option.filter, List.length_pos_iff, hne]

section Steps

variable {frontier : SeenFrontier} {store : MemoryStore}

theorem Mirrors.of_rows (h : Mirrors frontier store) {target : JsString} {state : TargetState}
    {next : MemoryStore} (haliases : next.aliases = store.aliases)
    (hstreams : ∀ key, key ≠ target → next.streams.get key = store.streams.get key)
    (hexact : ∀ key, key ≠ target → next.exact.get key = store.exact.get key)
    (hrows : MirrorsRows state (next.streams.get target) (next.exact.get target)) :
    Mirrors { frontier with core := (frontier.setState target state).core } next where
  frontierAliases := h.frontierAliases
  storeAliases := haliases.trans h.storeAliases
  rows := fun key => by
    rw [SeenFrontier.state]
    simp only [SeenFrontier.setState]
    by_cases hkey : key = target
    · rw [hkey, InsertionMap.get_set_self]
      exact hrows
    · rw [InsertionMap.get_set_of_ne _ _ hkey, hstreams key hkey, hexact key hkey]
      exact h.rows key

theorem positiveFinite_ofNat (seq : ℕ+) :
    (JsNumber.ofNat seq).positiveFinite = some (seqValue seq) := by
  rw [JsNumber.ofNat, JsNumber.positiveFinite, dif_pos (by exact_mod_cast seq.pos)]
  rfl

theorem normalizeExactSeqs_ofNat (seqs : List ℕ+) (afterSeq : ℚ) :
    normalizeExactSeqs (seqs.map fun seq : ℕ+ => .ofNat seq) afterSeq =
      normalizeSeqs seqs afterSeq := by
  rw [normalizeExactSeqs, List.filterMap_map]
  simp

theorem normalizeSeqs_zero_ne_nil {seqs : List ℕ+} (h : seqs ≠ []) :
    normalizeSeqs seqs 0 ≠ [] := by
  obtain ⟨seq, rest, rfl⟩ := List.exists_cons_of_ne_nil h
  intro hnil
  exact normalizeSeqs_eq_nil_iff.mp hnil seq List.mem_cons_self (by exact_mod_cast seq.pos)

theorem recordConsumedRead_eq {target : JsString} (haliases : store.aliases = .empty)
    (htarget : canonicalizeConsumedTarget target = some target) (seq : ℕ+) :
    store.recordConsumedRead target (some (.ofNat seq)) =
      store.bookStreamEntry store.contextId target (some (.ofNat seq)) := by
  rw [MemoryStore.recordConsumedRead, canonicalTargetKey_of_unaliased haliases htarget,
    if_neg (ne_nil_of_canonicalizeConsumedTarget htarget)]
  simp only [Option.bind_some, positiveFinite_ofNat, Option.map_some]
  rfl

theorem recordConsumedExactSeqs_eq {target : JsString} (haliases : store.aliases = .empty)
    (htarget : canonicalizeConsumedTarget target = some target)
    (hproto : target ≠ js "__proto__") {seqs : List JsNumber} (hseqs : seqs ≠ []) :
    store.recordConsumedExactSeqs [(target, seqs)] =
      store.bookExactSeq store.contextId target seqs := by
  have hupdates : store.keyedUpdates [(target, seqs)] = InsertionMap.empty.set target seqs := by
    simp only [MemoryStore.keyedUpdates, List.foldl_cons, List.foldl_nil,
      canonicalTargetKey_of_unaliased haliases htarget,
      ne_nil_of_canonicalizeConsumedTarget htarget, if_false, assignOwn, hproto]
  rw [MemoryStore.recordConsumedExactSeqs, List.filter_cons_of_pos (by simpa using hseqs),
    List.filter_nil, hupdates, ownEntries_single]
  rw [if_neg (by simp [InsertionMap.keys, InsertionMap.set, InsertionMap.empty])]
  rfl

section Booking

variable {context : Option JsString} {target : JsString}

theorem canonical_inContext (h : Mirrors frontier store) :
    (frontier.inContext context).canonical target = target := by
  rw [SeenFrontier.canonical, SeenFrontier.inContext, h.frontierAliases]
  rfl

theorem frontierStep_recordUpTo (h : Mirrors frontier store) (hcontext : context ≠ some [])
    (seq : ℕ+) :
    frontierStep frontier (context, .recordUpTo target seq) =
      { frontier with
        core := (frontier.setState target
          ((frontier.state target).bookUpTo seq context)).core } := by
  have hview : (frontier.inContext context).contextId = context := contextOrNull_eq hcontext
  simp only [frontierStep, SeenFrontier.recordUpTo, JsNumber.positiveInteger_ofNat,
    canonical_inContext h, hview]
  rfl

theorem frontierStep_recordExact (h : Mirrors frontier store) (hcontext : context ≠ some [])
    (seqs : List ℕ+) :
    frontierStep frontier (context, .recordExact target seqs) =
      { frontier with
        core := (frontier.setState target
          ((frontier.state target).bookExact seqs context)).core } := by
  have hview : (frontier.inContext context).contextId = context := contextOrNull_eq hcontext
  simp only [frontierStep, SeenFrontier.recordExact, List.filterMap_map, Function.comp_def,
    JsNumber.positiveInteger_ofNat, List.filterMap_some, canonical_inContext h, hview]
  rfl

theorem Mirrors.recordUpTo (h : Mirrors frontier store) (hcontext : context ≠ some [])
    (htarget : canonicalizeConsumedTarget target = some target) (seq : ℕ+) :
    Mirrors (frontierStep frontier (context, .recordUpTo target seq))
      (policyStep store (context, .recordUpTo target seq)) := by
  have hne := ne_nil_of_canonicalizeConsumedTarget htarget
  have hstore : policyStep store (context, .recordUpTo target seq) =
      (store.setContextId context).bookStreamEntry context target (some (.ofNat seq)) :=
    @recordConsumedRead_eq (store.setContextId context) _ h.storeAliases htarget seq
  rw [frontierStep_recordUpTo h hcontext, hstore]
  refine h.of_rows ?_ (fun key hkey => ?_) (fun key hkey => ?_) ?_
  · rw [MemoryStore.bookStreamEntry, if_neg hne]
    rfl
  · rw [MemoryStore.get_streams_bookStreamEntry _ hne, if_neg hkey]
    rfl
  · rw [MemoryStore.get_exact_bookStreamEntry _ hne, if_neg hkey]
    rfl
  · rw [MemoryStore.get_streams_bookStreamEntry _ hne, if_pos rfl,
      MemoryStore.get_exact_bookStreamEntry _ hne, if_pos rfl, Option.bind_some,
      positiveFinite_ofNat]
    exact (h.rows target).bookUpTo seq _

theorem Mirrors.recordExact (h : Mirrors frontier store) (hcontext : context ≠ some [])
    (htarget : canonicalizeConsumedTarget target = some target)
    (hproto : target ≠ js "__proto__") {seqs : List ℕ+}
    (hkeeps : KeepsEvidence (frontier.state target) context seqs) :
    Mirrors (frontierStep frontier (context, .recordExact target seqs))
      (policyStep store (context, .recordExact target seqs)) := by
  have hne := ne_nil_of_canonicalizeConsumedTarget htarget
  rw [frontierStep_recordExact h hcontext]
  by_cases hseqs : seqs = []
  · subst hseqs
    have hstore : policyStep store (context, .recordExact target []) =
        store.setContextId context := rfl
    rw [hstore]
    exact h.of_rows rfl (fun _ _ => rfl) (fun _ _ => rfl) ((h.rows target).bookExact_nil hkeeps)
  · have hstore : policyStep store (context, .recordExact target seqs) =
        (store.setContextId context).bookExactSeq context target
          (seqs.map fun seq : ℕ+ => .ofNat seq) :=
      @recordConsumedExactSeqs_eq (store.setContextId context) _ h.storeAliases htarget
        hproto _ (by simpa using hseqs)
    have hraw := normalizeExactSeqs_ofNat seqs 0
    have hnonempty := normalizeSeqs_zero_ne_nil hseqs
    rw [← hraw] at hnonempty
    rw [hstore]
    refine h.of_rows ?_ (fun key hkey => ?_) (fun key hkey => ?_) ?_
    · rw [MemoryStore.aliases_bookExactSeq]
      rfl
    · rw [MemoryStore.streams_bookExactSeq]
      rfl
    · rw [MemoryStore.get_exact_bookExactSeq _ hne hnonempty, if_neg hkey]
      rfl
    · rw [MemoryStore.streams_bookExactSeq, MemoryStore.get_exact_bookExactSeq _ hne hnonempty,
        if_pos rfl, hraw, exactFloor_eq]
      exact (h.rows target).bookExact hkeeps

end Booking

theorem Mirrors.step (h : Mirrors frontier store) {booking : ScopedBooking}
    (hguard : MirrorsPolicy frontier booking) :
    Mirrors (frontierStep frontier booking) (policyStep store booking) := by
  obtain ⟨context, booking⟩ := booking
  obtain ⟨hcontext, htarget, hkeeps⟩ := hguard
  cases booking with
  | recordUpTo target seq => exact h.recordUpTo hcontext htarget seq
  | recordExact target seqs => exact h.recordExact hcontext htarget hkeeps.1 hkeeps.2

theorem Mirrors.run (h : Mirrors frontier store) {bookings : List ScopedBooking}
    (hguard : Admitted frontierStep MirrorsPolicy frontier bookings) :
    Mirrors (run frontierStep frontier bookings) (run policyStep store bookings) := by
  induction bookings generalizing frontier store with
  | nil => exact h
  | cons booking bookings ih => exact ih (h.step hguard.1) hguard.2

/-! ## Queries -/

section Queries

variable {contextId : Option JsString} {target : JsString}

theorem MirrorsStream.answer {state : TargetState} {stream : Option StreamRow}
    (h : MirrorsStream state stream) (ledger : ConsumedSeqLedger) (asked : MemoryStore)
    (key : JsString) :
    ((ledger.inThisContext asked key
        ((stream.bind StreamRow.toEntry).bind CommandStateStreamEntry.contextId)
        (stream.bind StreamRow.toEntry)).1.bind CommandStateStreamEntry.seq) =
      (state.attest asked.contextId).seenUpToSeq.map seqValue := by
  cases hstream : stream with
  | none => simp [ConsumedSeqLedger.inThisContext, TargetState.attest, h.absent hstream]
  | some row =>
      obtain ⟨upTo, hupTo, hseq, hcontext⟩ := h.present row hstream
      by_cases hasked : asked.contextId = none ∨ state.upToContext = asked.contextId
      · simp [ConsumedSeqLedger.inThisContext, StreamRow.toEntry, TargetState.attest, hupTo, hseq,
          hcontext, hasked]
      · simp [ConsumedSeqLedger.inThisContext, StreamRow.toEntry, TargetState.attest, hseq,
          hcontext, hasked]

theorem MirrorsRows.stored_eq {state : TargetState} {stream : Option StreamRow} {row : ExactRow}
    (h : MirrorsRows state stream (some row)) :
    normalizeSeqs row.seqs (contextFloor stream row.contextId) = state.exact.sort (· ≤ ·) := by
  obtain ⟨_, hseqs, hcontext⟩ := h.exact.present row rfl
  have habove : ∀ seq ∈ state.exact, contextFloor stream row.contextId < (seq : ℕ) := by
    intro seq hseq
    rw [h.stream.contextFloor_eq, ← above_iff_floor, hcontext]
    exact @MirrorsRows.held_above _ _ _ state.exactContext h _ (by simpa using hseq)
  rw [hseqs, normalizeSeqs_sort, Finset.filter_true_of_mem habove, newest_of_card_le h.bounded]

theorem Mirrors.mark_eq (h : Mirrors frontier store)
    (htarget : canonicalizeConsumedTarget target = some target) (ledger : ConsumedSeqLedger) :
    (ledger.getConsumedSeq (store.setContextId contextId) target).1 =
      (((frontier.state target).attest contextId).seenUpToSeq).map seqValue := by
  have hkey : (store.setContextId contextId).canonicalTargetKey target = target :=
    canonicalTargetKey_of_unaliased h.storeAliases htarget
  rw [ConsumedSeqLedger.getConsumedSeq, hkey,
    if_neg (ne_nil_of_canonicalizeConsumedTarget htarget)]
  exact (h.rows target).stream.answer ledger (store.setContextId contextId) target

theorem Mirrors.exact_eq (h : Mirrors frontier store)
    (htarget : canonicalizeConsumedTarget target = some target) (ledger : ConsumedSeqLedger) :
    (ledger.getConsumedExactSeqs (store.setContextId contextId) target).1 =
      (if contextId = none ∨ (frontier.state target).exactContext = contextId then
        (frontier.state target).exact else ∅).sort (· ≤ ·) := by
  have hkey : (store.setContextId contextId).canonicalTargetKey target = target :=
    canonicalTargetKey_of_unaliased h.storeAliases htarget
  have hrows := h.rows target
  have hread : (store.setContextId contextId).readExactSeqsWithContext target =
      (normalizeSeqs (((store.exact.get target).map ExactRow.seqs).getD [])
        (contextFloor (store.streams.get target)
          ((store.exact.get target).bind ExactRow.contextId)),
        (store.exact.get target).bind ExactRow.contextId) := by
    rw [MemoryStore.readExactSeqsWithContext, exactFloor_eq]
    rfl
  rw [ConsumedSeqLedger.getConsumedExactSeqs, hkey,
    if_neg (ne_nil_of_canonicalizeConsumedTarget htarget), hread]
  cases hexact : store.exact.get target with
  | none =>
      rw [hrows.exact.absent hexact, ite_self]
      simp [ConsumedSeqLedger.inThisContext]
  | some row =>
      rw [hexact] at hrows
      obtain ⟨hne, _, hcontext⟩ := hrows.exact.present row rfl
      simp only [Option.bind_some, Option.map_some, Option.getD_some]
      rw [hrows.stored_eq, if_neg (sort_eq_nil_iff.not.mpr hne), ConsumedSeqLedger.inThisContext,
        hcontext]
      change (if contextId = none ∨ (frontier.state target).exactContext = contextId then _
        else _ : Option (List ℕ+) × ConsumedSeqLedger).1.getD [] = _
      split
      · rfl
      · rw [Finset.sort_empty]
        rfl

theorem attestation_eq (frontier : SeenFrontier) (target : JsString) :
    frontier.attestation target =
      (frontier.state (frontier.canonical target)).attest frontier.contextId := by
  rw [SeenFrontier.attestation, SeenFrontier.state]
  cases frontier.core.targets.get (frontier.canonical target) with
  | none =>
      rw [Option.getD_none, TargetState.attest]
      by_cases hcontext : frontier.contextId = none
      · simp [TargetState.fresh, hcontext]
      · simp [TargetState.fresh, hcontext, Ne.symm hcontext]
  | some state => rfl

theorem Mirrors.sameAnswer (h : Mirrors frontier store) (hcontext : contextId ≠ some [])
    (htarget : canonicalizeConsumedTarget target = some target) :
    SameAnswer frontier store contextId target := by
  have hattested : (frontier.inContext contextId).attestation target =
      (frontier.state target).attest contextId := by
    rw [attestation_eq, canonical_inContext h]
    exact congrArg _ (contextOrNull_eq hcontext)
  rw [SameAnswer, hattested]
  simp only [h.mark_eq htarget, h.exact_eq htarget]
  constructor
  · cases ((frontier.state target).attest contextId).seenUpToSeq <;> rfl
  · rw [filter_sort, TargetState.attest]
    refine congrArg (fun kept : Finset ℕ+ => kept.sort (· ≤ ·)) (Finset.ext fun seq => ?_)
    rw [Finset.mem_filter, Finset.mem_filter]
    refine and_congr_right fun _ => ?_
    cases (if contextId = none ∨ (frontier.state target).upToContext = contextId then
      (frontier.state target).upTo else none) with
    | none => simp [TargetState.above]
    | some upTo => simp [TargetState.above, seqValue]

end Queries

end Steps

theorem frontier_mirrors_policy (bookings : List ScopedBooking)
    (initialContextId contextId : Option JsString) (target : JsString)
    (hbookings : Admitted frontierStep MirrorsPolicy .fresh bookings)
    (hcontext : contextId ≠ some [])
    (htarget : canonicalizeConsumedTarget target = some target) :
    SameAnswer (run frontierStep .fresh bookings)
      (run policyStep (createMemoryCommandStateStore initialContextId) bookings) contextId
      target :=
  ((mirrors_fresh initialContextId).run hbookings).sameAnswer hcontext htarget

/-- Two contexts take turns, and each replaces what the other left. -/
def alternatingBookings : List ScopedBooking :=
  [(some (js "A"), .recordExact (js "#t") [5, 8]), (some (js "B"), .recordUpTo (js "#t") 3),
    (some (js "B"), .recordExact (js "#t") [9, 2]), (some (js "A"), .recordUpTo (js "#t") 7),
    (some (js "A"), .recordExact (js "#t") [4, 10])]

theorem frontier_mirrors_policy_alternating :
    ((run frontierStep .fresh alternatingBookings).inContext (some (js "A"))).attestation
        (js "#t") = ⟨some 7, [10]⟩ ∧
      SameAnswer (run frontierStep .fresh alternatingBookings)
        (run policyStep (createMemoryCommandStateStore none) alternatingBookings) (some (js "A"))
        (js "#t") := by
  have hbookings : Admitted frontierStep MirrorsPolicy .fresh alternatingBookings :=
    ⟨⟨by decide, by decide, by decide, Or.inl rfl⟩, ⟨by decide, by decide, trivial⟩,
      ⟨by decide, by decide, by decide, by decide +kernel⟩, ⟨by decide, by decide, trivial⟩,
      ⟨by decide, by decide, by decide, by decide +kernel⟩, trivial⟩
  exact ⟨by decide +kernel, frontier_mirrors_policy _ none _ _ hbookings (by decide) (by decide)⟩

def retaggedBookings : List ScopedBooking :=
  [(some (js "A"), .recordExact (js "#t") [5]), (some (js "B"), .recordExact (js "#t") [])]

-- The empty booking through B drops A's evidence on one side only.
theorem exact_booking_drops_evidence :
    ¬ SameAnswer (run frontierStep .fresh retaggedBookings)
      (run policyStep (createMemoryCommandStateStore none) retaggedBookings) (some (js "A"))
      (js "#t") := by
  unfold SameAnswer
  decide +kernel

end Raft.SeenPolicy
