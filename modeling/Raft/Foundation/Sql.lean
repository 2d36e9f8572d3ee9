import Raft.Foundation.InsertionMap

/-!
# Keyed SQL tables

A table with a primary key, the statements a store issues against it, and the
three-valued conditions of SQL.  A condition holds only when it is true, not
when it is unknown; `IS NOT` compares nulls like values and is never unknown.
The rows of a table come in no particular order.
-/

namespace Raft.Foundation.Sql

universe u v

/-! ## Conditions -/

/-- `none` is the unknown truth value. -/
abbrev Truth := Option Bool

section Conditions

variable {α : Type u}

def isNull (value : Option α) : Truth := some value.isNone

def isNot [DecidableEq α] (first second : Option α) : Truth := some (first ≠ second)

def greater [LT α] [DecidableLT α] (first second : Option α) : Truth :=
  match first, second with
  | some first, some second => some (first > second)
  | _, _ => none

def either : Truth → Truth → Truth
  | some true, _ | _, some true => some true
  | some false, some false => some false
  | _, _ => none

def caseWhen (branches : List (Truth × α)) (otherwise : α) : α :=
  match branches with
  | [] => otherwise
  | (condition, value) :: rest => if condition = some true then value else caseWhen rest otherwise

end Conditions

/-! ## Statements -/

structure Table (κ : Type u) (ρ : Type v) where
  rows : InsertionMap κ ρ

namespace Table

variable {κ : Type u} {ρ : Type v}

def empty : Table κ ρ := ⟨.empty⟩

variable [DecidableEq κ] (table : Table κ ρ)

/-- `SELECT … WHERE key = ?` -/
def select (key : κ) : Option ρ := table.rows.get key

def insertOrReplace (key : κ) (row : ρ) : Table κ ρ := ⟨(table.rows.delete key).set key row⟩

/-- `INSERT … ON CONFLICT(key) DO UPDATE`, the update seeing the row and the excluded row. -/
def upsert (key : κ) (excluded : ρ) (update : ρ → ρ → ρ) : Table κ ρ :=
  match table.rows.get key with
  | none => ⟨table.rows.set key excluded⟩
  | some current => ⟨table.rows.set key (update current excluded)⟩

/-- `DELETE … WHERE key = ? AND condition` -/
def deleteWhere (key : κ) (condition : ρ → Truth) : Table κ ρ :=
  match table.rows.get key with
  | none => table
  | some row => if condition row = some true then ⟨table.rows.delete key⟩ else table

/-- `UPDATE … WHERE key = ?` -/
def updateWhere (key : κ) (update : ρ → ρ) : Table κ ρ :=
  match table.rows.get key with
  | none => table
  | some row => ⟨table.rows.set key (update row)⟩

variable {table}

theorem select_insertOrReplace (key other : κ) (row : ρ) :
    (table.insertOrReplace key row).select other =
      if other = key then some row else table.select other := by
  rw [select, insertOrReplace, InsertionMap.get_set, InsertionMap.get_delete]
  split <;> rfl

theorem select_upsert (key other : κ) (excluded : ρ) (update : ρ → ρ → ρ) :
    (table.upsert key excluded update).select other =
      if other = key then
        some (match table.select key with
          | none => excluded
          | some current => update current excluded)
      else table.select other := by
  rw [upsert]
  cases hrow : table.rows.get key with
  | none => simp only [select, InsertionMap.get_set, hrow]
  | some current => simp only [select, InsertionMap.get_set, hrow]

theorem select_deleteWhere (key other : κ) (condition : ρ → Truth) :
    (table.deleteWhere key condition).select other =
      if other = key then (table.select key).filter fun row => condition row ≠ some true
      else table.select other := by
  rw [deleteWhere]
  cases hrow : table.rows.get key with
  | none =>
      by_cases hkey : other = key
      · simp [select, hkey, hrow]
      · simp [hkey]
  | some row =>
      by_cases hkey : other = key
      · by_cases hcondition : condition row = some true
        · simp [select, hkey, hrow, hcondition, Option.filter]
        · simp [select, hkey, hrow, hcondition, Option.filter]
      · by_cases hcondition : condition row = some true
        · simp [select, hkey, hcondition, InsertionMap.get_delete]
        · simp [hkey, hcondition]

theorem select_updateWhere (key other : κ) (update : ρ → ρ) :
    (table.updateWhere key update).select other =
      if other = key then (table.select key).map update else table.select other := by
  rw [updateWhere]
  cases hrow : table.rows.get key with
  | none =>
      by_cases hkey : other = key
      · simp [select, hkey, hrow]
      · simp [hkey]
  | some row =>
      by_cases hkey : other = key
      · simp [select, hkey, hrow]
      · simp [select, hkey, InsertionMap.get_set]

end Table

end Raft.Foundation.Sql
