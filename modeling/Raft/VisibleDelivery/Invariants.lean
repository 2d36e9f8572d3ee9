import Raft.Foundation.Run
import Raft.VisibleDelivery.Ledger

/-!
# The ledger's invariants over its runs

A boundary is the greatest seq that verified calls have passed for its target.
A refused call changes nothing, the ledger's own checks pass, and what a call
suppresses has been seen by the model, or shares its seq with a message of
that very call.
-/

namespace Raft.VisibleDelivery

open Raft.Foundation

variable {rules : TextRules}

/-! ## The buckets of a call -/

def messageSeqs (messages : List VisibleMessage) : List Nat :=
  messages.filterMap fun message => flooredSeq message.seq

def greatest (seqs : List Nat) : Nat := seqs.foldr max 0

@[simp] theorem greatest_append (first second : List Nat) :
    greatest (first ++ second) = max (greatest first) (greatest second) := by
  induction first with
  | nil => simp [greatest]
  | cons seq first ih =>
      simp only [greatest, List.cons_append, List.foldr_cons] at ih ⊢
      omega

@[simp] theorem greatest_singleton (seq : Nat) : greatest [seq] = seq := by
  simp [greatest]

theorem le_greatest {seqs : List Nat} {seq : Nat} (h : seq ∈ seqs) : seq ≤ greatest seqs := by
  induction seqs with
  | nil => simp at h
  | cons first seqs ih =>
      simp only [greatest, List.foldr_cons] at ih ⊢
      rcases List.mem_cons.mp h with rfl | hmem
      · omega
      · have := ih hmem
        omega

namespace VisibleBucket

variable (bucket : VisibleBucket)

theorem maxSeq_foldl_add (messages : List VisibleMessage) :
    (messages.foldl add bucket).maxSeq = max bucket.maxSeq (greatest (messageSeqs messages)) := by
  induction messages generalizing bucket with
  | nil => simp [messageSeqs, greatest]
  | cons message messages ih =>
      rw [List.foldl_cons, ih]
      cases hseq : flooredSeq message.seq <;>
        simp only [add, messageSeqs, List.filterMap_cons, hseq, greatest, List.foldr_cons] <;>
        split <;> simp [max_assoc]

@[simp] theorem boundarySeq_foldl_add (messages : List VisibleMessage) :
    (messages.foldl add bucket).boundarySeq = bucket.boundarySeq := by
  induction messages generalizing bucket with
  | nil => rfl
  | cons message messages ih =>
      rw [List.foldl_cons, ih]
      cases hseq : flooredSeq message.seq <;> simp only [add, hseq] <;> split <;> rfl

theorem mem_seqs_foldl_add (messages : List VisibleMessage) (seq : Nat) :
    seq ∈ (messages.foldl add bucket).seqs ↔ seq ∈ bucket.seqs ∨ seq ∈ messageSeqs messages := by
  induction messages generalizing bucket with
  | nil => simp [messageSeqs]
  | cons message messages ih =>
      rw [List.foldl_cons, ih]
      cases hseq : flooredSeq message.seq <;>
        simp only [add, messageSeqs, List.filterMap_cons, hseq] <;>
        split <;> simp [or_assoc, or_left_comm, eq_comm]

theorem mem_ids_foldl_add (messages : List VisibleMessage) (id : JsString) :
    id ∈ (messages.foldl add bucket).ids ↔
      id ∈ bucket.ids ∨ id ≠ [] ∧ ∃ message ∈ messages, visibleMessageId message = id := by
  induction messages generalizing bucket with
  | nil => simp
  | cons message messages ih =>
      have hadd : id ∈ (bucket.add message).ids ↔
          id ∈ bucket.ids ∨ id ≠ [] ∧ visibleMessageId message = id := by
        cases hseq : flooredSeq message.seq <;>
          simp only [add, hseq] <;> split <;>
          simp_all [List.length_pos_iff] <;> grind
      rw [List.foldl_cons, ih, hadd]
      simp [or_assoc, and_or_left]

end VisibleBucket

namespace ConsumeInput

variable {input : ConsumeInput} {key : JsString}

def messagesFor (rules : TextRules) (input : ConsumeInput) (key : JsString) :
    List VisibleMessage :=
  input.messages.filter fun message => input.keyOf rules message = key

def boundaryFor (input : ConsumeInput) (key : JsString) : Option Nat :=
  if input.explicitTarget = some key then flooredSeq input.boundarySeq else none

def passedSeqs (rules : TextRules) (input : ConsumeInput) (key : JsString) : List Nat :=
  messageSeqs (input.messagesFor rules key) ++ (input.boundaryFor key).toList

def filledBucket (rules : TextRules) (input : ConsumeInput) (key : JsString) : VisibleBucket :=
  (input.messagesFor rules key).foldl VisibleBucket.add .empty

theorem get_groups (key : JsString) :
    (groupFold (input.keyOf rules) (fun bucket message =>
      (bucket.getD VisibleBucket.empty).add message) .empty input.messages).get key =
      if input.messagesFor rules key = [] then none else some (input.filledBucket rules key) := by
  rw [get_groupFold, InsertionMap.get_empty, filledBucket, ← messagesFor]
  have hfold : ∀ (messages : List VisibleMessage) (bucket : VisibleBucket),
      messages.foldl (fun group message =>
        some ((group.getD VisibleBucket.empty).add message)) (some bucket) =
        some (messages.foldl VisibleBucket.add bucket) := by
    intro messages
    induction messages with
    | nil => exact fun _ => rfl
    | cons message messages ih => exact fun bucket => ih (bucket.add message)
  cases hmessages : input.messagesFor rules key with
  | nil => rfl
  | cons message messages =>
      rw [if_neg (by simp)]
      exact hfold messages (VisibleBucket.empty.add message)

theorem get_buckets (rules : TextRules) (input : ConsumeInput) (key : JsString) :
    (input.buckets rules).get key =
      match input.boundaryFor key with
      | some seq => some ((input.filledBucket rules key).raise seq)
      | none =>
          if input.messagesFor rules key = [] then none
          else some (input.filledBucket rules key) := by
  have hfilled : ((if input.messagesFor rules key = [] then none
      else some (input.filledBucket rules key)).getD VisibleBucket.empty) =
      input.filledBucket rules key := by
    split
    · next hnone => simp [filledBucket, hnone]
    · rfl
  rw [buckets, boundaryFor]
  cases htarget : input.explicitTarget with
  | none => simpa using get_groups key
  | some target =>
      cases hseq : flooredSeq input.boundarySeq with
      | none => simpa using get_groups key
      | some seq =>
          simp only [InsertionMap.get_set, Option.some.injEq]
          by_cases hkey : target = key
          · subst hkey
            simp [get_groups, hfilled]
          · have hne : ¬ key = target := fun h => hkey h.symm
            simpa [hkey, hne] using get_groups key

theorem passedSeqs_of_none (h : (input.buckets rules).get key = none) :
    input.passedSeqs rules key = [] := by
  rw [get_buckets] at h
  cases hboundary : input.boundaryFor key with
  | some seq => simp [hboundary] at h
  | none =>
      simp only [hboundary] at h
      split at h
      · next hnone => simp [passedSeqs, hnone, hboundary, messageSeqs]
      · cases h

/-- A bucket holds the seqs and ids of the messages with its key. -/
structure Holds (rules : TextRules) (input : ConsumeInput) (key : JsString)
    (bucket : VisibleBucket) : Prop where
  highWaterSeq : bucket.highWaterSeq = greatest (input.passedSeqs rules key)
  boundarySeq : bucket.boundarySeq ≤ bucket.highWaterSeq
  seqs : ∀ seq, seq ∈ bucket.seqs ↔ seq ∈ messageSeqs (input.messagesFor rules key)
  ids : ∀ id, id ∈ bucket.ids ↔
    id ≠ [] ∧ ∃ message ∈ input.messagesFor rules key, visibleMessageId message = id

theorem holds_of_some {bucket : VisibleBucket} (h : (input.buckets rules).get key = some bucket) :
    Holds rules input key bucket := by
  have hseqs : ∀ seq, seq ∈ (input.filledBucket rules key).seqs ↔
      seq ∈ messageSeqs (input.messagesFor rules key) := by
    simp [filledBucket, VisibleBucket.mem_seqs_foldl_add, VisibleBucket.empty]
  have hids : ∀ id, id ∈ (input.filledBucket rules key).ids ↔
      id ≠ [] ∧ ∃ message ∈ input.messagesFor rules key, visibleMessageId message = id := by
    simp [filledBucket, VisibleBucket.mem_ids_foldl_add, VisibleBucket.empty]
  have hmax : (input.filledBucket rules key).maxSeq =
      greatest (messageSeqs (input.messagesFor rules key)) := by
    simp [filledBucket, VisibleBucket.maxSeq_foldl_add, VisibleBucket.empty]
  have hbase : (input.filledBucket rules key).boundarySeq = 0 := by
    simp [filledBucket, VisibleBucket.empty]
  rw [get_buckets] at h
  cases hboundary : input.boundaryFor key with
  | some seq =>
      simp only [hboundary, Option.some.injEq] at h
      subst h
      refine ⟨?_, ?_, hseqs, hids⟩
      · simp [VisibleBucket.highWaterSeq, VisibleBucket.raise, passedSeqs, hboundary, hmax, hbase]
      · simp [VisibleBucket.highWaterSeq, VisibleBucket.raise]
  | none =>
      simp only [hboundary] at h
      split at h
      · cases h
      · obtain rfl := Option.some.inj h
        refine ⟨?_, ?_, hseqs, hids⟩
        · simp [VisibleBucket.highWaterSeq, passedSeqs, hboundary, hmax, hbase]
        · simp [VisibleBucket.highWaterSeq]

/-- The targets the call writes are the ones that queries look up. -/
def Canonical (rules : TextRules) (input : ConsumeInput) : Prop :=
  input.givenTarget = none → ∀ message ∈ input.messages,
    canonicalVisibleTarget (formatVisibleTarget rules message) = formatVisibleTarget rules message

theorem canonical_of_get {bucket : VisibleBucket} (hcanonical : input.Canonical rules)
    (h : (input.buckets rules).get key = some bucket) : canonicalVisibleTarget key = key := by
  have hkeyed : ∀ message ∈ input.messages,
      canonicalVisibleTarget (input.keyOf rules message) = input.keyOf rules message := by
    intro message hmessage
    rw [keyOf, explicitTarget]
    cases htarget : input.givenTarget with
    | none => exact hcanonical htarget message hmessage
    | some target => simp
  rw [get_buckets] at h
  cases hboundary : input.boundaryFor key with
  | some seq =>
      rw [boundaryFor] at hboundary
      split at hboundary
      · next htarget =>
          rw [explicitTarget] at htarget
          obtain ⟨target, -, rfl⟩ := Option.map_eq_some_iff.mp htarget
          simp
      · cases hboundary
  | none =>
      simp only [hboundary] at h
      split at h
      · cases h
      · next hsome =>
          obtain ⟨message, hmessage⟩ := List.exists_mem_of_ne_nil _ hsome
          obtain ⟨hmem, hkey⟩ := List.mem_filter.mp hmessage
          have heq : input.keyOf rules message = key := by simpa using hkey
          exact heq ▸ hkeyed message hmem

end ConsumeInput

/-! ## Writing the buckets -/

namespace VisibleLedger

variable {ledger : VisibleLedger} {agentId source target : JsString} {bucket : VisibleBucket}

@[simp] theorem boundaries_addMessageIds (ids : Finset JsString) :
    (ledger.addMessageIds agentId target ids).boundaries = ledger.boundaries := by
  rw [addMessageIds]
  split <;> rfl

@[simp] theorem boundaries_recordExactSeqs (seqs : Finset Nat) :
    (ledger.recordExactSeqs agentId target seqs).boundaries = ledger.boundaries := by
  rw [recordExactSeqs]
  split <;> rfl

@[simp] theorem messageIds_recordExactSeqs (seqs : Finset Nat) :
    (ledger.recordExactSeqs agentId target seqs).messageIds = ledger.messageIds := by
  rw [recordExactSeqs]
  split <;> rfl

@[simp] theorem messageIds_raiseBoundary :
    (ledger.raiseBoundary agentId source target bucket).messageIds = ledger.messageIds := by
  rw [raiseBoundary]
  split <;> rfl

theorem getBoundary_consumeBucket (htarget : canonicalVisibleTarget target = target)
    (other key : JsString) :
    (ledger.consumeBucket agentId source target bucket).getBoundary other key =
      if other = agentId ∧ canonicalVisibleTarget key = target ∧
          canAdvanceBoundaryForTarget source target = true then
        some (max ((ledger.getBoundary other key).getD 0) bucket.highWaterSeq)
      else ledger.getBoundary other key := by
  rw [getBoundary, consumeBucket, boundaries_recordExactSeqs, boundaries_addMessageIds,
    raiseBoundary]
  by_cases hadvances : canAdvanceBoundaryForTarget source target = true
  · rw [if_pos hadvances, NestedMap.find_put, getBoundary, getBoundary, htarget]
    by_cases hsame : other = agentId ∧ canonicalVisibleTarget key = target
    · simp [hsame, hadvances]
    · rw [if_neg hsame, if_neg (fun h => hsame ⟨h.1, h.2.1⟩)]
  · rw [if_neg hadvances, if_neg (fun h => hadvances h.2.2), getBoundary]

theorem messageIds_consumeBucket (other key : JsString) :
    ((ledger.consumeBucket agentId source target bucket).messageIds.find other key).getD ∅ =
      if other = agentId ∧ key = target then
        (ledger.messageIds.find other key).getD ∅ ∪ bucket.ids
      else (ledger.messageIds.find other key).getD ∅ := by
  rw [consumeBucket, messageIds_recordExactSeqs, addMessageIds]
  by_cases hids : bucket.ids.card > 0
  · simp only [if_pos hids, NestedMap.find_put, messageIds_raiseBoundary]
    by_cases hsame : other = agentId ∧ key = target
    · simp [hsame]
    · simp [hsame]
  · have hempty : bucket.ids = ∅ := Finset.card_eq_zero.mp (by omega)
    simp [hempty]

theorem assert_consumeBucket (htarget : canonicalVisibleTarget target = target) :
    (ledger.consumeBucket agentId source target bucket).assertConsumedInvariants agentId target
      bucket (canAdvanceBoundaryForTarget source target) (ledger.getBoundary agentId target) =
      true := by
  have hids : bucket.ids ⊆ ((ledger.consumeBucket agentId source target bucket).getMessageIdSet
      agentId target).getD ∅ := by
    rw [getMessageIdSet, htarget, messageIds_consumeBucket, if_pos ⟨rfl, rfl⟩]
    exact Finset.subset_union_right
  simp only [assertConsumedInvariants, getBoundary_consumeBucket htarget, hids]
  cases canAdvanceBoundaryForTarget source target <;> simp [htarget]

theorem consumeBuckets_eq {entries : List (JsString × VisibleBucket)}
    (hentries : ∀ entry ∈ entries, canonicalVisibleTarget entry.1 = entry.1) :
    ledger.consumeBuckets agentId source entries =
      (entries.foldl (fun ledger entry => ledger.consumeBucket agentId source entry.1 entry.2)
        ledger, true) := by
  induction entries generalizing ledger with
  | nil => rfl
  | cons entry entries ih =>
      rw [consumeBuckets, if_pos (assert_consumeBucket (hentries entry List.mem_cons_self)),
        ih fun other hother => hentries other (List.mem_cons_of_mem _ hother)]
      rfl

theorem getBoundary_foldl {entries : List (JsString × VisibleBucket)}
    (hentries : ∀ entry ∈ entries, canonicalVisibleTarget entry.1 = entry.1)
    (hnodup : (entries.map Prod.fst).Nodup) (other key : JsString) :
    (entries.foldl (fun ledger entry => ledger.consumeBucket agentId source entry.1 entry.2)
      ledger).getBoundary other key =
      match (entries.find? fun entry => entry.1 = canonicalVisibleTarget key).map Prod.snd with
      | none => ledger.getBoundary other key
      | some bucket =>
          if other = agentId ∧ canAdvanceBoundaryForTarget source (canonicalVisibleTarget key) =
            true
          then some (max ((ledger.getBoundary other key).getD 0) bucket.highWaterSeq)
          else ledger.getBoundary other key := by
  induction entries generalizing ledger with
  | nil => rfl
  | cons entry entries ih =>
      obtain ⟨target, bucket⟩ := entry
      rw [List.map_cons, List.nodup_cons] at hnodup
      have htarget := hentries _ List.mem_cons_self
      rw [List.foldl_cons, ih (fun other hother => hentries other (List.mem_cons_of_mem _ hother))
        hnodup.2, getBoundary_consumeBucket htarget]
      by_cases hkey : target = canonicalVisibleTarget key
      · have hrest : entries.find? (fun entry => entry.1 = canonicalVisibleTarget key) = none := by
          refine List.find?_eq_none.mpr fun other hother hsame => hnodup.1 ?_
          have hother' : other.1 = canonicalVisibleTarget key := by simpa using hsame
          exact List.mem_map.mpr ⟨other, hother, hother'.trans hkey.symm⟩
        simp [hrest, hkey]
      · have hne : ¬ canonicalVisibleTarget key = target := fun h => hkey h.symm
        simp [hkey, hne]

theorem messageIds_foldl {entries : List (JsString × VisibleBucket)}
    (hnodup : (entries.map Prod.fst).Nodup) (key : JsString) :
    ((entries.foldl (fun ledger entry => ledger.consumeBucket agentId source entry.1 entry.2)
      ledger).messageIds.find agentId key).getD ∅ =
      (ledger.messageIds.find agentId key).getD ∅ ∪
        (((entries.find? fun entry => entry.1 = key).map Prod.snd).elim ∅ VisibleBucket.ids) := by
  induction entries generalizing ledger with
  | nil => simp
  | cons entry entries ih =>
      obtain ⟨target, bucket⟩ := entry
      rw [List.map_cons, List.nodup_cons] at hnodup
      rw [List.foldl_cons, ih hnodup.2, messageIds_consumeBucket]
      by_cases hkey : target = key
      · have hrest : entries.find? (fun entry => entry.1 = key) = none := by
          refine List.find?_eq_none.mpr fun other hother hsame => hnodup.1 ?_
          have hother' : other.1 = key := by simpa using hsame
          exact List.mem_map.mpr ⟨other, hother, hother'.trans hkey.symm⟩
        simp [hrest, hkey]
      · have hne : ¬ key = target := fun h => hkey h.symm
        simp [hkey, hne]

/-! ## One call -/

variable {input : ConsumeInput}

theorem recordConsumed_of_mismatch
    (h : (ledger.recordConsumed rules agentId input).2 = .targetMismatch) :
    (ledger.recordConsumed rules agentId input).1 = ledger := by
  simp only [recordConsumed] at h ⊢
  split at h
  · cases h
  · next hsome =>
      rw [if_neg hsome]
      split at h
      · next hmismatch => rw [if_pos hmismatch]
      · split at h
        · cases h
        · split at h <;> cases h

theorem recordConsumed_cases (ledger : VisibleLedger) (agentId : JsString)
    (hcanonical : input.Canonical rules) :
    (input.messages.any (input.mismatches rules) = true ∧
        ledger.recordConsumed rules agentId input = (ledger, .targetMismatch)) ∨
      (input.messages.any (input.mismatches rules) = false ∧
        (∀ key, (input.buckets rules).get key = none) ∧
        ledger.recordConsumed rules agentId input = (ledger, .nothing)) ∨
      (input.messages.any (input.mismatches rules) = false ∧
        ledger.recordConsumed rules agentId input =
          ((input.buckets rules).entries.foldl (fun ledger entry =>
            ledger.consumeBucket agentId input.source entry.1 entry.2) ledger,
          .consumed (input.consumption rules agentId))) := by
  rw [recordConsumed]
  split
  · next hempty =>
      have hmessages : input.messages = [] := List.length_eq_zero_iff.mp hempty.1
      refine .inr (.inl ⟨by simp [hmessages], fun key => ?_, rfl⟩)
      have hboundary : input.boundaryFor key = none := by
        rw [ConsumeInput.boundaryFor, ConsumeInput.explicitTarget]
        rcases hempty.2 with hnone | hnone
        · simp [hnone]
        · simp [hnone, flooredSeq]
      rw [ConsumeInput.get_buckets, hboundary]
      simp [ConsumeInput.messagesFor, hmessages]
  · split
    · next hmismatch => exact .inl ⟨hmismatch, rfl⟩
    · next hmatches =>
        have haccepted : input.messages.any (input.mismatches rules) = false := by
          simpa using hmatches
        dsimp only
        split
        · next hnone =>
            refine .inr (.inl ⟨haccepted, fun key => ?_, rfl⟩)
            rw [InsertionMap.get, List.length_eq_zero_iff.mp hnone]
            rfl
        · rw [consumeBuckets_eq fun entry hentry => input.canonical_of_get hcanonical
            ((InsertionMap.mem_entries_iff _ _ _).mp hentry)]
          exact .inr (.inr ⟨haccepted, rfl⟩)

theorem getBoundary_recordConsumed (ledger : VisibleLedger) (agentId : JsString)
    (hcanonical : input.Canonical rules) (other target : JsString) :
    ((ledger.recordConsumed rules agentId input).1).getBoundary other target =
      match (input.buckets rules).get (canonicalVisibleTarget target) with
      | none => ledger.getBoundary other target
      | some bucket =>
          if (other = agentId ∧
              canAdvanceBoundaryForTarget input.source (canonicalVisibleTarget target) = true) ∧
              input.messages.any (input.mismatches rules) = false then
            some (max ((ledger.getBoundary other target).getD 0) bucket.highWaterSeq)
          else ledger.getBoundary other target := by
  obtain ⟨hrefused, heq⟩ | ⟨-, hnone, heq⟩ | ⟨haccepted, heq⟩ :=
    recordConsumed_cases ledger agentId hcanonical
  · rw [heq]
    split
    · rfl
    · simp [hrefused]
  · rw [heq, hnone]
  · rw [heq, getBoundary_foldl (fun entry hentry => input.canonical_of_get hcanonical
      ((InsertionMap.mem_entries_iff _ _ _).mp hentry)) (input.buckets rules).nodup]
    simp only [haccepted, and_true]
    rfl

theorem getBoundary_clearAgent (other target : JsString) :
    (ledger.clearAgent agentId).getBoundary other target =
      if other = agentId then none else ledger.getBoundary other target :=
  NestedMap.find_delete _ _ _ _

theorem flooredSeq_of_suppressedSeq {message : VisibleMessage} {seq : Nat}
    (h : suppressedSeq message = some seq) : flooredSeq message.seq = some seq := by
  rw [suppressedSeq, Option.filter_eq_some_iff] at h
  exact h.1

theorem isModelSeen_of_boundary {message : VisibleMessage} {seq boundary : Nat}
    (hseq : flooredSeq message.seq = some seq)
    (hboundary : ledger.getBoundary agentId target = some boundary) (hle : seq ≤ boundary) :
    ledger.isModelSeen agentId target message = true := by
  simp [isModelSeen, hseq, hboundary, hle]

theorem isModelSeen_of_id {message : VisibleMessage} (hne : visibleMessageId message ≠ [])
    (hid : visibleMessageId message ∈ (ledger.getMessageIdSet agentId target).getD ∅) :
    ledger.isModelSeen agentId target message = true := by
  cases hset : ledger.getMessageIdSet agentId target with
  | none => simp [hset] at hid
  | some ids =>
      rw [hset, Option.getD_some] at hid
      simp [isModelSeen, hset, hid, List.length_pos_iff, hne]

/-- What a call suppresses is seen, or shares its seq with a message of the call. -/
theorem seen_of_shouldSuppress (hcanonical : input.Canonical rules) {consumption : Consumption}
    (h : (ledger.recordConsumed rules agentId input).2 = .consumed consumption)
    (hscope : consumption.historyScope = none) {message : VisibleMessage}
    (hsuppressed : consumption.shouldSuppress rules message = true) :
    let target := formatVisibleTarget rules message
    (ledger.recordConsumed rules agentId input).1.isModelSeen agentId target message = true ∨
      canAdvanceBoundaryForTarget input.source target = false ∧
        ∃ seq, suppressedSeq message = some seq ∧
          seq ∈ messageSeqs (input.messagesFor rules target) := by
  intro target
  obtain ⟨-, heq⟩ | ⟨-, -, heq⟩ | ⟨haccepted, heq⟩ :=
    recordConsumed_cases ledger agentId hcanonical
  · rw [heq] at h
    cases h
  · rw [heq] at h
    cases h
  · rw [heq] at h
    cases h
    rw [Consumption.shouldSuppress, hscope] at hsuppressed
    cases hbucket : (input.buckets rules).get target with
    | none =>
        have hnone : (input.consumption rules agentId).buckets.get
          (formatVisibleTarget rules message) =
            none := hbucket
        simp [hnone] at hsuppressed
    | some bucket =>
        have hsome : (input.consumption rules agentId).buckets.get
            (formatVisibleTarget rules message) = some bucket := hbucket
        have hkey : canonicalVisibleTarget target = target :=
          input.canonical_of_get hcanonical hbucket
        have hholds := input.holds_of_some hbucket
        have hboundary := getBoundary_recordConsumed ledger agentId hcanonical agentId target
        simp only [hkey, hbucket, haccepted, and_true, true_and] at hboundary
        have hids : bucket.ids ⊆ (((ledger.recordConsumed rules agentId input).1).getMessageIdSet
            agentId target).getD ∅ := by
          rw [heq, getMessageIdSet, hkey, messageIds_foldl (input.buckets rules).nodup,
            ← InsertionMap.get, hbucket]
          exact Finset.subset_union_right
        simp only [hsome, Bool.or_eq_true] at hsuppressed
        rcases hsuppressed with hseq | hid
        · cases hfloor : suppressedSeq message with
          | none => simp [hfloor] at hseq
          | some seq =>
              cases hadvances : canAdvanceBoundaryForTarget input.source target with
              | false =>
                  have hmem : seq ∈ bucket.seqs := by
                    have hsource : canAdvanceBoundaryForTarget
                        (input.consumption rules agentId).source
                        (formatVisibleTarget rules message) = false := hadvances
                    simpa [hfloor, hsource] using hseq
                  exact .inr ⟨rfl, seq, rfl, (hholds.seqs seq).mp hmem⟩
              | true =>
                  rw [if_pos hadvances] at hboundary
                  have hle : seq ≤ bucket.highWaterSeq := by
                    simp only [hfloor, Option.any_some, Bool.or_eq_true, Bool.and_eq_true,
                      decide_eq_true_eq] at hseq
                    rcases hseq with hraised | hmem
                    · exact hraised.2.trans hholds.boundarySeq
                    · rw [hholds.highWaterSeq]
                      exact le_greatest (List.mem_append_left _ ((hholds.seqs seq).mp hmem))
                  exact .inl (isModelSeen_of_boundary (flooredSeq_of_suppressedSeq hfloor) hboundary
                    (hle.trans (le_max_right _ _)))
        · have hmem : visibleMessageId message ≠ [] ∧ visibleMessageId message ∈ bucket.ids := by
            simpa [List.length_pos_iff] using hid
          exact .inl (isModelSeen_of_id hmem.1 (hids hmem.2))

end VisibleLedger

/-! ## The invariants over a run -/

def LedgerCall.Canonical (rules : TextRules) : LedgerCall → Prop
  | .recordConsumed _ input => input.Canonical rules
  | .clearAgent _ => True

def callSeqs (rules : TextRules) (agentId target : JsString) : LedgerCall → List Nat
  | .recordConsumed caller input =>
      if (agentId = caller ∧ canAdvanceBoundaryForTarget input.source target = true) ∧
          input.messages.any (input.mismatches rules) = false then
        input.passedSeqs rules target
      else []
  | .clearAgent _ => []

def verifiedSeqs (rules : TextRules) (agentId target : JsString) (calls : List LedgerCall) :
    List Nat :=
  calls.foldl
    (fun seqs call => match call with
      | .clearAgent cleared => if agentId = cleared then [] else seqs
      | .recordConsumed _ _ => seqs ++ callSeqs rules agentId target call)
    []

structure KeepsInvariants (rules : TextRules) (calls : List LedgerCall) : Prop where
  boundary : ∀ agentId target,
    ((run (ledgerStep rules) .empty calls).getBoundary agentId target).getD 0 =
      greatest (verifiedSeqs rules agentId (canonicalVisibleTarget target) calls)
  kept : ∀ before caller input agentId target,
    before ++ [.recordConsumed caller input] <+: calls →
      ¬ (agentId = caller ∧
        canAdvanceBoundaryForTarget input.source (canonicalVisibleTarget target) = true) →
      (run (ledgerStep rules) .empty (before ++ [.recordConsumed caller input])).getBoundary
          agentId target =
        (run (ledgerStep rules) .empty before).getBoundary agentId target
  refused : ∀ before caller input, before ++ [.recordConsumed caller input] <+: calls →
    ((run (ledgerStep rules) .empty before).recordConsumed rules caller input).2 =
      .targetMismatch →
    run (ledgerStep rules) .empty (before ++ [.recordConsumed caller input]) =
      run (ledgerStep rules) .empty before
  suppressed : ∀ before caller input consumption message,
    before ++ [.recordConsumed caller input] <+: calls →
      ((run (ledgerStep rules) .empty before).recordConsumed rules caller input).2 =
        .consumed consumption →
      consumption.historyScope = none → consumption.shouldSuppress rules message = true →
      let target := formatVisibleTarget rules message
      (run (ledgerStep rules) .empty (before ++ [.recordConsumed caller input])).isModelSeen
          caller target message = true ∨
        canAdvanceBoundaryForTarget input.source target = false ∧
          ∃ seq, suppressedSeq message = some seq ∧
            seq ∈ messageSeqs (input.messagesFor rules target)
  checked : ∀ before caller input, before ++ [.recordConsumed caller input] <+: calls →
    ((run (ledgerStep rules) .empty before).recordConsumed rules caller input).2 ≠
      .invariantViolation

theorem getBoundary_step {ledger : VisibleLedger} {caller : JsString} {input : ConsumeInput}
    (hcanonical : input.Canonical rules) (agentId target : JsString) :
    ((ledgerStep rules ledger (.recordConsumed caller input)).getBoundary agentId target).getD 0 =
      max ((ledger.getBoundary agentId target).getD 0)
        (greatest (callSeqs rules agentId (canonicalVisibleTarget target)
          (.recordConsumed caller input))) := by
  rw [ledgerStep, VisibleLedger.getBoundary_recordConsumed _ _ hcanonical, callSeqs]
  cases hbucket : (input.buckets rules).get (canonicalVisibleTarget target) with
  | none => simp [input.passedSeqs_of_none hbucket, greatest]
  | some bucket =>
      dsimp only
      split
      · rw [Option.getD_some, (input.holds_of_some hbucket).highWaterSeq]
      · simp [greatest]

theorem getBoundary_run {calls : List LedgerCall}
    (hcanonical : ∀ call ∈ calls, call.Canonical rules) (agentId target : JsString) :
    ((run (ledgerStep rules) .empty calls).getBoundary agentId target).getD 0 =
      greatest (verifiedSeqs rules agentId (canonicalVisibleTarget target) calls) := by
  induction calls using List.reverseRecOn with
  | nil => rfl
  | append_singleton calls call ih =>
      have hbefore := ih fun other hother => hcanonical other (List.mem_append_left _ hother)
      have hcall := hcanonical call (by simp)
      rw [run_concat, verifiedSeqs, List.foldl_append, ← verifiedSeqs]
      cases call with
      | recordConsumed caller input =>
          rw [getBoundary_step hcall, hbefore]
          exact (greatest_append _ _).symm
      | clearAgent cleared =>
          rw [ledgerStep, VisibleLedger.getBoundary_clearAgent]
          by_cases hagent : agentId = cleared
          · simp [hagent, greatest]
          · simpa [hagent] using hbefore

theorem ledger_keeps_invariants (rules : TextRules) (calls : List LedgerCall)
    (hcanonical : ∀ call ∈ calls, call.Canonical rules) : KeepsInvariants rules calls := by
  have hlast : ∀ {before caller input}, before ++ [.recordConsumed caller input] <+: calls →
      input.Canonical rules := fun hstarts =>
    hcanonical _ (hstarts.subset (List.mem_append_right _ List.mem_cons_self))
  exact {
    boundary := getBoundary_run hcanonical
    kept := fun before caller input agentId target hstarts hsource => by
      rw [run_concat, ledgerStep, VisibleLedger.getBoundary_recordConsumed _ _ (hlast hstarts)]
      split
      · rfl
      · exact if_neg fun h => hsource h.1
    refused := fun before caller input _ hrefused => by
      rw [run_concat]
      exact VisibleLedger.recordConsumed_of_mismatch hrefused
    suppressed := fun before caller input consumption message hstarts hconsumed hscope hseen => by
      rw [run_concat]
      exact VisibleLedger.seen_of_shouldSuppress (hlast hstarts) hconsumed hscope hseen
    checked := fun before caller input hstarts => by
      obtain ⟨-, heq⟩ | ⟨-, -, heq⟩ | ⟨-, heq⟩ := VisibleLedger.recordConsumed_cases
        _ _ (hlast hstarts) <;> rw [heq] <;> simp }

/-! ## What the model has not seen -/

def asciiRules : TextRules where
  toLowerCase := fun text => text.map lowerUnit
  isUuid := fun text => isHexGroups [8, 4, 4, 4, 12] (text.map lowerUnit)

def channelMessage (channel id : String) (seq : Nat) : VisibleMessage where
  third_party_event := none
  seq := some (.ofNat seq)
  id := none
  message_id := some (js id)
  channel_id := none
  channel_type := some (js "channel")
  channel_name := some (js channel)
  parent_channel_type := none
  parent_channel_name := none

def wakeCall (message : VisibleMessage) : ConsumeInput where
  historyScope := none
  target := none
  messages := [message]
  boundarySeq := none
  source := js "spawn_wake_message"

theorem ledger_keeps_invariants_wake :
    KeepsInvariants asciiRules
      [.recordConsumed (js "agent-1") (wakeCall (channelMessage "general" "m-42" 42)),
        .clearAgent (js "agent-2")] := by
  refine ledger_keeps_invariants asciiRules _ fun call hcall => ?_
  rcases List.mem_cons.mp hcall with rfl | hrest
  · intro _ message hmessage
    obtain rfl := List.mem_singleton.mp hmessage
    decide +kernel
  · obtain rfl := List.mem_singleton.mp hrest
    trivial

/-- Another message with the seq of the one that woke the agent. -/
theorem suppressed_message_unseen :
    let call := wakeCall (channelMessage "general" "m-42" 42)
    let pending := channelMessage "general" "m-43" 42
    let answer := VisibleLedger.empty.recordConsumed asciiRules (js "agent-1") call
    call.historyScope = none ∧ answer.2.shouldSuppress asciiRules pending = true ∧
      answer.1.isModelSeen (js "agent-1") (formatVisibleTarget asciiRules pending) pending =
        false := by
  refine ⟨rfl, ?_, ?_⟩ <;> decide +kernel

end Raft.VisibleDelivery
