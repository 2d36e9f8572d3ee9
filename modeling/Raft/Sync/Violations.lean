import Raft.Sync.Types

/-!
# The violation ring buffer

A bounded buffer of violation records.  The bound is part of the type, and so
is the fact that the retained records carry the last consecutive indexes.  The
doorbell callback of the source has no effect on the buffer and is left out.
-/

namespace Raft.Sync

open Raft.Foundation

structure SyncViolationBuffer where
  capacity : Nat
  records : List SyncViolationRecord
  nextIndex : Nat
  capacity_pos : 0 < capacity
  length_le : records.length ≤ capacity
  indexes : records.map (·.index) = List.range' (nextIndex - records.length) records.length
  length_le_nextIndex : records.length ≤ nextIndex

theorem indexes_nil : ([] : List SyncViolationRecord).map (·.index) =
    List.range' (0 - ([] : List SyncViolationRecord).length)
      ([] : List SyncViolationRecord).length := rfl

structure SyncViolationDrain where
  records : List SyncViolationRecord
  droppedCount : Int
  nextIndex : Nat

def defaultViolationBufferCapacity : Int := 128

def capacityRangeError : JsString :=
  js "SyncViolationBuffer capacity must be a positive safe integer"

def sinceIndexRangeError : JsString :=
  js "SyncViolationBuffer drain sinceIndex must be a non-negative safe integer"

def createSyncViolationBuffer (capacity : Option Int) : Except JsString SyncViolationBuffer :=
  let capacity := capacity.getD defaultViolationBufferCapacity
  if h : 0 < capacity ∧ capacity ≤ 9007199254740991 then
    .ok {
      capacity := capacity.toNat
      records := []
      nextIndex := 0
      capacity_pos := by omega
      length_le := Nat.zero_le _
      indexes := indexes_nil
      length_le_nextIndex := Nat.zero_le _ }
  else .error capacityRangeError

theorem createSyncViolationBuffer_records {capacity : Option Int} {buffer : SyncViolationBuffer}
    (h : createSyncViolationBuffer capacity = .ok buffer) : buffer.records = [] := by
  simp only [createSyncViolationBuffer] at h
  split at h
  · cases h
    rfl
  · cases h

def SyncViolationDraft.withIndex (draft : SyncViolationDraft) (index : Nat) :
    SyncViolationRecord :=
  ⟨draft, index⟩

namespace SyncViolationBuffer

/-- `records.push(record)`, then `records.shift()` when the capacity is exceeded. -/
def pushRecords (capacity : Nat) (records : List SyncViolationRecord)
    (record : SyncViolationRecord) : List SyncViolationRecord :=
  if capacity < (records ++ [record]).length then (records ++ [record]).tail
  else records ++ [record]

theorem pushRecords_length_le (buffer : SyncViolationBuffer) (record : SyncViolationRecord) :
    (pushRecords buffer.capacity buffer.records record).length ≤ buffer.capacity := by
  have hlength := buffer.length_le
  unfold pushRecords
  split <;> simp at * <;> omega

theorem pushRecords_indexes (buffer : SyncViolationBuffer) (draft : SyncViolationDraft) :
    (pushRecords buffer.capacity buffer.records (draft.withIndex buffer.nextIndex)).map (·.index) =
      List.range'
        (buffer.nextIndex + 1 -
          (pushRecords buffer.capacity buffer.records (draft.withIndex buffer.nextIndex)).length)
        (pushRecords buffer.capacity buffer.records (draft.withIndex buffer.nextIndex)).length := by
  have hnext := buffer.length_le_nextIndex
  have hall : (buffer.records ++ [draft.withIndex buffer.nextIndex]).map (·.index) =
      List.range' (buffer.nextIndex - buffer.records.length) (buffer.records.length + 1) := by
    rw [List.map_append, buffer.indexes, List.map_cons, List.map_nil, List.range'_concat]
    congr 2
    simp only [SyncViolationDraft.withIndex]
    omega
  unfold pushRecords
  split
  · rw [List.map_tail, hall, List.range'_succ, List.tail_cons]
    simp only [List.length_tail, List.length_append, List.length_cons, List.length_nil]
    congr 1
    omega
  · rw [hall]
    simp only [List.length_append, List.length_cons, List.length_nil]
    congr 1
    omega

def push (buffer : SyncViolationBuffer) (draft : SyncViolationDraft) : SyncViolationBuffer where
  capacity := buffer.capacity
  records := pushRecords buffer.capacity buffer.records (draft.withIndex buffer.nextIndex)
  nextIndex := buffer.nextIndex + 1
  capacity_pos := buffer.capacity_pos
  length_le := buffer.pushRecords_length_le _
  indexes := buffer.pushRecords_indexes draft
  length_le_nextIndex := by
    have hlength := buffer.length_le_nextIndex
    unfold pushRecords
    split <;> simp <;> omega

theorem mem_push_iff (buffer : SyncViolationBuffer) (draft : SyncViolationDraft)
    (record : SyncViolationRecord) (h : record ∈ (buffer.push draft).records) :
    record ∈ buffer.records ∨ record = draft.withIndex buffer.nextIndex := by
  simp only [push, pushRecords] at h
  split at h
  · simpa using List.mem_of_mem_tail h
  · simpa using h

def drain (buffer : SyncViolationBuffer) (sinceIndex : Option Int) :
    Except JsString SyncViolationDrain :=
  let oldestRetainedIndex : Int := buffer.nextIndex - buffer.records.length
  let requestedSinceIndex := sinceIndex.getD oldestRetainedIndex
  if requestedSinceIndex < 0 ∨ 9007199254740991 < requestedSinceIndex then
    .error sinceIndexRangeError
  else
    let firstAvailableIndex := max requestedSinceIndex oldestRetainedIndex
    .ok {
      records := buffer.records.filter fun record => firstAvailableIndex ≤ record.index
      droppedCount := max 0 (oldestRetainedIndex - requestedSinceIndex)
      nextIndex := buffer.nextIndex }

end SyncViolationBuffer

end Raft.Sync
