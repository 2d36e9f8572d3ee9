import Mathlib.Algebra.Order.Field.Rat
import Raft.Foundation.InsertionMap
import Raft.Foundation.JsValue
import Raft.Foundation.Newest
import Raft.Foundation.PlainObject
import Raft.SeenPolicy.Targets

/-!
# The in-memory command state store

The reference semantics of the store contract: target aliases, one stream row
and one row of exact seqs for each target, both scoped to a model context.
What a booking does to a target depends on that target's rows alone, so each
booking has a function on rows, and the store's lemmas say that it applies it
at the booked target and nowhere else.
-/

namespace Raft.SeenPolicy

open Raft.Foundation

/-! ## Exact seqs -/

@[irreducible] def MAX_EXACT_SEQS_PER_TARGET : Nat := 2500

instance firstSeq_neZero : NeZero 1 := ⟨one_ne_zero⟩

instance seqOrder_isTrans : IsTrans ℕ+ (· ≤ ·) := inferInstance

instance seqOrder_antisymm : Std.Antisymm fun first second : ℕ+ => first ≤ second := inferInstance

instance seqOrder_total : Std.Total fun first second : ℕ+ => first ≤ second := inferInstance

/-- The seqs above `afterSeq`, deduplicated, ascending, bounded. -/
def normalizeSeqs (seqs : List ℕ+) (afterSeq : ℚ) : List ℕ+ :=
  let sorted := (seqs.filter fun seq : ℕ+ => afterSeq < (seq : ℕ)).toFinset.sort (· ≤ ·)
  sorted.drop (sorted.length - MAX_EXACT_SEQS_PER_TARGET)

def normalizeExactSeqs (value : List JsNumber) (afterSeq : ℚ) : List ℕ+ :=
  normalizeSeqs (value.filterMap JsNumber.positiveInteger) afterSeq

theorem normalizeSeqs_eq (seqs : List ℕ+) (afterSeq : ℚ) :
    normalizeSeqs seqs afterSeq =
      (newest MAX_EXACT_SEQS_PER_TARGET
        (seqs.toFinset.filter fun seq : ℕ+ => afterSeq < (seq : ℕ))).sort (· ≤ ·) := by
  rw [sort_newest, normalizeSeqs, List.toFinset_filter, Finset.length_sort]
  simp

@[simp] theorem normalizeSeqs_nil (afterSeq : ℚ) : normalizeSeqs [] afterSeq = [] := by
  rw [normalizeSeqs]
  simp

theorem mem_of_mem_normalizeSeqs {seqs : List ℕ+} {afterSeq : ℚ} {seq : ℕ+}
    (h : seq ∈ normalizeSeqs seqs afterSeq) : seq ∈ seqs ∧ afterSeq < (seq : ℕ) := by
  rw [normalizeSeqs_eq, Finset.mem_sort] at h
  simpa using newest_subset h

theorem normalizeSeqs_eq_nil_iff {seqs : List ℕ+} {afterSeq : ℚ} :
    normalizeSeqs seqs afterSeq = [] ↔ ∀ seq ∈ seqs, ¬ afterSeq < (seq : ℕ) := by
  rw [normalizeSeqs_eq, sort_eq_nil_iff,
    newest_eq_empty_iff (by rw [MAX_EXACT_SEQS_PER_TARGET]; decide), Finset.filter_eq_empty_iff]
  simp

theorem normalizeSeqs_append_normalizeSeqs {first second : List ℕ+} {afterSeq lower : ℚ}
    (hlower : lower ≤ afterSeq) :
    normalizeSeqs (first ++ normalizeSeqs second lower) afterSeq =
      normalizeSeqs (first ++ second) afterSeq := by
  have hupward : ∀ a b : ℕ+, a ≤ b → afterSeq < (a : ℕ) → afterSeq < (b : ℕ) := by
    intro a b hle ha
    exact ha.trans_le (by exact_mod_cast hle)
  have hfilter : (second.toFinset.filter fun seq : ℕ+ => lower < (seq : ℕ)).filter
      (fun seq : ℕ+ => afterSeq < (seq : ℕ)) =
      second.toFinset.filter fun seq : ℕ+ => afterSeq < (seq : ℕ) := by
    rw [Finset.filter_filter]
    exact Finset.filter_congr fun seq _ =>
      ⟨fun h => h.2, fun h => ⟨hlower.trans_lt h, h⟩⟩
  rw [normalizeSeqs_eq, normalizeSeqs_eq, normalizeSeqs_eq, List.toFinset_append,
    List.toFinset_append, Finset.sort_toFinset, Finset.filter_union, Finset.filter_union,
    filter_newest hupward, hfilter, newest_union_newest]

theorem normalizeSeqs_append_comm (first second : List ℕ+) (afterSeq : ℚ) :
    normalizeSeqs (first ++ second) afterSeq = normalizeSeqs (second ++ first) afterSeq := by
  rw [normalizeSeqs_eq, normalizeSeqs_eq, List.toFinset_append, List.toFinset_append,
    Finset.union_comm]

theorem normalizeSeqs_normalizeSeqs {seqs : List ℕ+} {afterSeq lower : ℚ}
    (hlower : lower ≤ afterSeq) :
    normalizeSeqs (normalizeSeqs seqs lower) afterSeq = normalizeSeqs seqs afterSeq :=
  @normalizeSeqs_append_normalizeSeqs [] seqs afterSeq lower hlower

/-! ## Rows -/

abbrev PositiveNumber := { value : ℚ // 0 < value }

structure StreamRow where
  seq : Option PositiveNumber
  readOrder : Option ℕ+
  contextId : Option JsString
  deriving DecidableEq

structure ExactRow where
  seqs : List ℕ+
  contextId : Option JsString
  deriving DecidableEq

structure CommandStateStreamEntry where
  seq : Option PositiveNumber
  readOrder : Option ℕ+
  contextId : Option JsString
  deriving DecidableEq

namespace StreamRow

def toEntry (row : StreamRow) : Option CommandStateStreamEntry :=
  if row.seq = none ∧ row.readOrder = none then none
  else some ⟨row.seq, row.readOrder, row.contextId⟩

def floor (seq : Option PositiveNumber) : ℚ := (seq.map Subtype.val).getD 0

theorem floor_nonneg (seq : Option PositiveNumber) : 0 ≤ floor seq := by
  cases seq with
  | none => exact le_refl _
  | some value => exact value.2.le

def nextSeq (prior : Option StreamRow) (seq : Option PositiveNumber)
    (bookedContextId : Option JsString) : Option PositiveNumber :=
  match prior with
  | none => seq
  | some prior =>
      if prior.contextId ≠ bookedContextId then seq
      else
        match seq, prior.seq with
        | none, kept => kept
        | some seq, none => some seq
        | some seq, some kept => if seq > kept then some seq else some kept

end StreamRow

namespace ExactRow

def dropOtherContext (existing : Option ExactRow) (bookedContextId : Option JsString) :
    Option ExactRow :=
  match existing with
  | some row => if row.contextId = bookedContextId then some row else none
  | none => none

def retire (kept : Option ExactRow) (floor : ℚ) : Option ExactRow :=
  match kept with
  | none => none
  | some kept =>
      if floor > 0 then
        let seqs := normalizeSeqs kept.seqs floor
        if seqs = [] then none else some ⟨seqs, kept.contextId⟩
      else some kept

def heldSeqs (existing : Option ExactRow) (bookedContextId : Option JsString) : List ℕ+ :=
  match existing with
  | some existing => if existing.contextId = bookedContextId then existing.seqs else []
  | none => []

def merge (existing : Option ExactRow) (seqs : List ℕ+) (floor : ℚ)
    (bookedContextId : Option JsString) : Option ExactRow :=
  let merged := normalizeSeqs (heldSeqs existing bookedContextId ++ seqs) floor
  if merged = [] then existing else some ⟨merged, bookedContextId⟩

end ExactRow

/-! ## The store -/

structure MemoryStore where
  contextId : Option JsString
  nextReadOrder : ℕ+
  streams : InsertionMap JsString StreamRow
  exact : InsertionMap JsString ExactRow
  aliases : InsertionMap JsString JsString

def createMemoryCommandStateStore (contextId : Option JsString) : MemoryStore where
  contextId := contextId
  nextReadOrder := 1
  streams := .empty
  exact := .empty
  aliases := .empty

theorem length_filter_notMem_cons_lt {values seen : List JsString} {value : JsString}
    (hmem : value ∈ values) (hnew : value ∉ seen) :
    (values.filter fun other => other ∉ value :: seen).length <
      (values.filter fun other => other ∉ seen).length := by
  have hfilter : (values.filter fun other => other ∉ value :: seen) =
      (values.filter fun other => other ∉ seen).filter fun other => other ≠ value := by
    rw [List.filter_filter]
    apply List.filter_congr
    intro other _
    simp [not_or]
  rw [hfilter, List.length_filter_lt_length_iff_exists]
  exact ⟨value, List.mem_filter.mpr ⟨hmem, by simpa using hnew⟩, by simp⟩

/-- The walk along the aliases; `seen` holds the spellings visited so far. -/
def followAliases (aliases : InsertionMap JsString JsString) (seen : List JsString)
    (current : JsString) : JsString :=
  match _halias : aliases.get current with
  | none => current
  | some canonical =>
      if canonical ∈ seen ∨ isTrustedCanonicalTarget canonical = false then current
      else followAliases aliases (canonical :: seen) canonical
termination_by (aliases.values.filter fun value => value ∉ seen).length
decreasing_by
  exact length_filter_notMem_cons_lt ((aliases.mem_values_iff canonical).mpr ⟨current, _halias⟩)
    (not_or.mp ‹_›).1

namespace MemoryStore

variable (store : MemoryStore)

def setContextId (next : Option JsString) : MemoryStore := { store with contextId := next }

def resolveCanonicalTarget (target : JsString) : JsString :=
  followAliases store.aliases [target] target

def bookTargetAlias (spelling canonicalTarget : JsString) : MemoryStore :=
  if !isTrustedCanonicalTarget spelling || !isTrustedCanonicalTarget canonicalTarget ||
      spelling = canonicalTarget then store
  else { store with aliases := store.aliases.set spelling canonicalTarget }

def readStreamEntry (target : JsString) : Option CommandStateStreamEntry :=
  (store.streams.get target).bind StreamRow.toEntry

/-- The own properties of the answer. -/
def readAllStreamEntries : PlainObject CommandStateStreamEntry :=
  store.streams.entries.foldl (fun entries entry =>
    match entry.2.toEntry with
    | some value => entries.set entry.1 value
    | none => entries) .empty

def exactFloor (target : JsString) (exactContextId : Option JsString) : ℚ :=
  match store.streams.get target with
  | some stream => if stream.contextId = exactContextId then StreamRow.floor stream.seq else 0
  | none => 0

def dropOtherContextExact (exact : InsertionMap JsString ExactRow) (target : JsString)
    (bookedContextId : Option JsString) : InsertionMap JsString ExactRow :=
  match exact.get target with
  | some existing =>
      if existing.contextId ≠ bookedContextId then exact.delete target else exact
  | none => exact

/-- A real high-water read retires exact observations it now covers. -/
def retireExact (exact : InsertionMap JsString ExactRow) (target : JsString) (floor : ℚ) :
    InsertionMap JsString ExactRow :=
  match exact.get target with
  | some kept =>
      if floor > 0 then
        let seqs := normalizeSeqs kept.seqs floor
        if seqs = [] then exact.delete target else exact.set target ⟨seqs, kept.contextId⟩
      else exact
  | none => exact

/-- One turn of the loop of `bookStreamEntries`. -/
def bookStreamEntry (bookedContextId : Option JsString) (target : JsString)
    (rawSeq : Option JsNumber) : MemoryStore :=
  if target = [] then store
  else
    let nextSeq := StreamRow.nextSeq (store.streams.get target)
      (rawSeq.bind JsNumber.positiveFinite) bookedContextId
    { store with
      streams :=
        store.streams.set target ⟨nextSeq, some store.nextReadOrder, bookedContextId⟩
      exact := retireExact (dropOtherContextExact store.exact target bookedContextId) target
        (StreamRow.floor nextSeq)
      nextReadOrder := store.nextReadOrder + 1 }

/-- `entries` lists the own properties in enumeration order. -/
def bookStreamEntries (entries : List (JsString × Option JsNumber))
    (bookedContextId : Option JsString) : MemoryStore :=
  entries.foldl (fun store entry => store.bookStreamEntry bookedContextId entry.1 entry.2) store

def readExactSeqsWithContext (target : JsString) : List ℕ+ × Option JsString :=
  let row := store.exact.get target
  let rowContextId := row.bind ExactRow.contextId
  (normalizeSeqs ((row.map ExactRow.seqs).getD []) (store.exactFloor target rowContextId),
    rowContextId)

/-- One turn of the loop of `bookExactSeqs`. -/
def bookExactSeq (bookedContextId : Option JsString) (target : JsString)
    (rawSeqs : List JsNumber) : MemoryStore :=
  let seqs := normalizeExactSeqs rawSeqs 0
  if target = [] ∨ seqs = [] then store
  else
    let merged := normalizeSeqs
      (ExactRow.heldSeqs (store.exact.get target) bookedContextId ++ seqs)
      (store.exactFloor target bookedContextId)
    if merged = [] then store
    else { store with exact := store.exact.set target ⟨merged, bookedContextId⟩ }

def bookExactSeqs (entries : List (JsString × List JsNumber))
    (bookedContextId : Option JsString) : MemoryStore :=
  entries.foldl (fun store entry => store.bookExactSeq bookedContextId entry.1 entry.2) store

theorem exactFloor_nonneg (target : JsString) (exactContextId : Option JsString) :
    0 ≤ store.exactFloor target exactContextId := by
  rw [exactFloor]
  split
  · split
    · exact StreamRow.floor_nonneg _
    · exact le_refl _
  · exact le_refl _

theorem followAliases_of_none {aliases : InsertionMap JsString JsString} {seen : List JsString}
    {current : JsString} (h : aliases.get current = none) :
    followAliases aliases seen current = current := by
  rw [followAliases]
  split
  · rfl
  · next hget => cases h.symm.trans hget

theorem followAliases_of_some {aliases : InsertionMap JsString JsString} {seen : List JsString}
    {current canonical : JsString} (h : aliases.get current = some canonical) :
    followAliases aliases seen current =
      if canonical ∈ seen ∨ isTrustedCanonicalTarget canonical = false then current
      else followAliases aliases (canonical :: seen) canonical := by
  rw [followAliases]
  split
  · next hget => cases h.symm.trans hget
  · next hget =>
      cases h.symm.trans hget
      split <;> rfl

theorem followAliases_congr {first second : InsertionMap JsString JsString}
    (h : ∀ key, first.get key = second.get key) (seen : List JsString) (current : JsString) :
    followAliases first seen current = followAliases second seen current := by
  fun_induction followAliases first seen current with
  | case1 seen current hget => exact (followAliases_of_none ((h current).symm.trans hget)).symm
  | case2 seen current canonical hget hstop =>
      rw [followAliases_of_some ((h current).symm.trans hget), if_pos hstop]
  | case3 seen current canonical hget hstop ih =>
      rw [followAliases_of_some ((h current).symm.trans hget), if_neg hstop, ih]

/-! ## What a booking does to a target -/

section Bookings

variable {store} {bookedContextId : Option JsString} {target : JsString}

theorem get_streams_bookStreamEntry (rawSeq : Option JsNumber) (htarget : target ≠ [])
    (key : JsString) :
    (store.bookStreamEntry bookedContextId target rawSeq).streams.get key =
      if key = target then
        some ⟨StreamRow.nextSeq (store.streams.get target) (rawSeq.bind JsNumber.positiveFinite)
          bookedContextId, some store.nextReadOrder, bookedContextId⟩
      else store.streams.get key := by
  rw [bookStreamEntry, if_neg htarget]
  exact InsertionMap.get_set _ _ _ _

theorem get_dropOtherContextExact (exact : InsertionMap JsString ExactRow) (key : JsString) :
    (dropOtherContextExact exact target bookedContextId).get key =
      if key = target then ExactRow.dropOtherContext (exact.get target) bookedContextId
      else exact.get key := by
  rw [dropOtherContextExact, ExactRow.dropOtherContext.eq_def]
  cases hexisting : exact.get target with
  | none =>
      by_cases hkey : key = target
      · rw [if_pos hkey, hkey, hexisting]
      · rw [if_neg hkey]
  | some existing =>
      by_cases hkey : key = target
      · by_cases hcontext : existing.contextId = bookedContextId
        · simp [hkey, hcontext, hexisting]
        · simp [hkey, hcontext]
      · by_cases hcontext : existing.contextId = bookedContextId
        · simp [hkey, hcontext]
        · simp [hkey, hcontext, InsertionMap.get_delete]

theorem get_retireExact (exact : InsertionMap JsString ExactRow) (floor : ℚ) (key : JsString) :
    (retireExact exact target floor).get key =
      if key = target then ExactRow.retire (exact.get target) floor else exact.get key := by
  rw [retireExact, ExactRow.retire.eq_def]
  cases hkept : exact.get target with
  | none =>
      by_cases hkey : key = target
      · rw [if_pos hkey, hkey, hkept]
      · rw [if_neg hkey]
  | some kept =>
      by_cases hfloor : floor > 0
      · by_cases hseqs : normalizeSeqs kept.seqs floor = []
        · simp [hfloor, hseqs, InsertionMap.get_delete]
        · simp [hfloor, hseqs, InsertionMap.get_set]
      · by_cases hkey : key = target
        · simp [hkey, hfloor, hkept]
        · simp [hkey, hfloor]

theorem get_exact_bookStreamEntry (rawSeq : Option JsNumber) (htarget : target ≠ [])
    (key : JsString) :
    (store.bookStreamEntry bookedContextId target rawSeq).exact.get key =
      if key = target then
        ExactRow.retire (ExactRow.dropOtherContext (store.exact.get target) bookedContextId)
          (StreamRow.floor (StreamRow.nextSeq (store.streams.get target)
            (rawSeq.bind JsNumber.positiveFinite) bookedContextId))
      else store.exact.get key := by
  rw [bookStreamEntry, if_neg htarget]
  simp only [get_retireExact, get_dropOtherContextExact]
  split <;> rfl

@[simp] theorem streams_bookExactSeq (rawSeqs : List JsNumber) :
    (store.bookExactSeq bookedContextId target rawSeqs).streams = store.streams := by
  rw [bookExactSeq]
  split
  · rfl
  · simp only
    split <;> rfl

@[simp] theorem aliases_bookExactSeq (rawSeqs : List JsNumber) :
    (store.bookExactSeq bookedContextId target rawSeqs).aliases = store.aliases := by
  rw [bookExactSeq]
  split
  · rfl
  · simp only
    split <;> rfl

theorem get_exact_bookExactSeq (rawSeqs : List JsNumber) (htarget : target ≠ [])
    (hseqs : normalizeExactSeqs rawSeqs 0 ≠ []) (key : JsString) :
    (store.bookExactSeq bookedContextId target rawSeqs).exact.get key =
      if key = target then
        ExactRow.merge (store.exact.get target) (normalizeExactSeqs rawSeqs 0)
          (store.exactFloor target bookedContextId) bookedContextId
      else store.exact.get key := by
  rw [bookExactSeq, if_neg (not_or.mpr ⟨htarget, hseqs⟩), ExactRow.merge]
  generalize normalizeSeqs _ _ = merged
  by_cases hmerged : merged = []
  · by_cases hkey : key = target
    · simp [hmerged, hkey]
    · simp [hmerged, hkey]
  · simp [hmerged, InsertionMap.get_set]

end Bookings

end MemoryStore

end Raft.SeenPolicy
