import SnackPortal.ImportService.Models
import SnackPortal.Lineage.Chain
import SnackPortal.Program.Transaction

/-!
# The tables of a tenant database

The lineage chain, the tenant's own records, and the bookkeeping of imports.  A change locks the
rows and the unique values it writes: the number and the id of a lineage row, and the primary key
of every other row.
-/

namespace TenantDatabase

open ImportService (Columns Value)
open Lineage (LineageRow)

/-- A row of a tenant table, told by its unique column, which is one of texts. -/
structure RecordKey where
  table : String
  keyField : String
  key : String
deriving DecidableEq, Repr

structure JobRow where
  jobId : String
  operationKey : String
  tenantId : String
  state : String
  correlationId : Option String
deriving DecidableEq, Repr

structure IdempotencyRow where
  operationKey : String
  jobId : String
  status : String
  applied : Nat
  noop : Nat
  rejected : Nat
deriving DecidableEq, Repr

structure CheckpointRow where
  jobId : String
  batchSeq : Nat
  lastOffset : Nat
  appliedCount : Nat
  status : String
  updatedAt : String
deriving DecidableEq, Repr

/-- What the columns of the tables of records make of the values that they take, by table and
column: the value that a query reads back. -/
abbrev ColumnTypes := String → String → Value → Value

/-- The columns keep every value as it is. -/
def plainColumns : ColumnTypes := fun _ _ value => value

/-- What the columns of its table make of a row. -/
def ColumnTypes.taken (columns : ColumnTypes) (key : RecordKey) (row : Columns) : Columns :=
  row.mapValues (columns key.table)

/-- The tables. -/
structure Tables where
  lineage : List LineageRow
  records : AList (fun _ : RecordKey => Columns)
  jobs : AList (fun _ : String => JobRow)
  idempotency : AList (fun _ : String => IdempotencyRow)
  checkpoints : List CheckpointRow
  columns : ColumnTypes

/-- The columns of the idempotency table that an upsert writes. -/
structure IdempotencyColumns where
  jobId : String
  status : String
  counts : Option (Nat × Nat × Nat)
deriving DecidableEq, Repr

/-- A change of the tables. -/
inductive Change where
  | appendLineage (row : LineageRow)
  | putRecord (key : RecordKey) (row : Columns)
  | putJob (row : JobRow)
  | putIdempotency (operationKey : String) (columns : IdempotencyColumns)
  | appendCheckpoint (row : CheckpointRow)
deriving DecidableEq

/-- What a session can hold: a number, an id or a primary key that a row takes, or one of the
advisory locks. -/
inductive Key where
  | lineageSeq (seq : Int)
  | lineageId (lineageId : String)
  | record (key : RecordKey)
  | job (jobId : String)
  | idempotency (operationKey : String)
  | checkpoint (jobId : String) (batchSeq : Nat)
  | chainLock
  | importLock
deriving DecidableEq

/-- The row that an upsert leaves: the columns it does not write keep their values. -/
def IdempotencyColumns.over (columns : IdempotencyColumns) (operationKey : String)
    (existing : Option IdempotencyRow) : IdempotencyRow where
  operationKey := operationKey
  jobId := columns.jobId
  status := columns.status
  applied := (columns.counts.map fun n => n.1).getD ((existing.map (·.applied)).getD 0)
  noop := (columns.counts.map fun n => n.2.1).getD ((existing.map (·.noop)).getD 0)
  rejected := (columns.counts.map fun n => n.2.2).getD ((existing.map (·.rejected)).getD 0)

/-- The tables after a change. -/
def Change.apply : Change → Tables → Tables
  | .appendLineage row, d => { d with lineage := d.lineage ++ [row] }
  | .putRecord key row, d =>
      { d with records := d.records.insert key (row ∪ (d.records.lookup key).getD ∅) }
  | .putJob row, d => { d with jobs := d.jobs.insert row.jobId row }
  | .putIdempotency k columns, d =>
      { d with
        idempotency := d.idempotency.insert k (columns.over k (d.idempotency.lookup k)) }
  | .appendCheckpoint row, d => { d with checkpoints := d.checkpoints ++ [row] }

/-- What a change locks. -/
def Change.keys : Change → List Key
  | .appendLineage row => [.lineageSeq row.seq, .lineageId row.lineageId]
  | .putRecord key _ => [.record key]
  | .putJob row => [.job row.jobId]
  | .putIdempotency k _ => [.idempotency k]
  | .appendCheckpoint row => [.checkpoint row.jobId row.batchSeq]

/-- The changes of a tenant database. -/
def tenantSchema : Schema Tables Change Key := ⟨Change.apply, Change.keys⟩

/-- Changes leave the columns what they are. -/
theorem columns_applyAll {ws : List Change} {d : Tables} :
  (tenantSchema.applyAll ws d).columns = d.columns
  := by
  induction ws generalizing d with
  | nil => rfl
  | cons w ws ih =>
      rw [Schema.applyAll_cons, ih]
      cases w with
      | appendLineage _ | putRecord _ _ | putJob _ | putIdempotency _ _ | appendCheckpoint _ => rfl

/-- The lineage row that a change appends. -/
def Change.lineageRow : Change → Option LineageRow
  | .appendLineage row => some row
  | _ => none

/-- The lineage rows that the changes append. -/
def appended (ws : List Change) : List LineageRow :=
  ws.filterMap Change.lineageRow

@[simp] theorem appended_nil :
  appended [] = []
  := rfl

@[simp] theorem appended_append {ws ws' : List Change} :
  appended (ws ++ ws') = appended ws ++ appended ws'
  := List.filterMap_append

theorem mem_appended {row : LineageRow} {ws : List Change} :
  row ∈ appended ws ↔ .appendLineage row ∈ ws
  := by
  rw [appended, List.mem_filterMap]
  constructor
  · intro ⟨w, hw, hrow⟩
    cases w with
    | appendLineage row' =>
        obtain rfl := Option.some.inj hrow
        apply hw
    | putRecord _ _ | putJob _ | putIdempotency _ _ | appendCheckpoint _ => cases hrow
  · intro hw
    use .appendLineage row, hw
    rfl

/-- Changes add their rows behind the lineage table. -/
theorem lineage_applyAll {ws : List Change} {d : Tables} :
  (tenantSchema.applyAll ws d).lineage = d.lineage ++ appended ws
  := by
  induction ws generalizing d with
  | nil => simp
  | cons w ws ih =>
      rw [Schema.applyAll_cons, ih]
      cases w with
      | appendLineage row => simp [tenantSchema, Change.apply, appended, Change.lineageRow]
      | putRecord _ _ | putJob _ | putIdempotency _ _ | appendCheckpoint _ => rfl

/-- The checkpoint that a change appends. -/
def Change.checkpointRow : Change → Option CheckpointRow
  | .appendCheckpoint row => some row
  | _ => none

/-- The checkpoints that the changes append. -/
def checkpointed (ws : List Change) : List CheckpointRow :=
  ws.filterMap Change.checkpointRow

@[simp] theorem checkpointed_nil :
  checkpointed [] = []
  := rfl

@[simp] theorem checkpointed_append {ws ws' : List Change} :
  checkpointed (ws ++ ws') = checkpointed ws ++ checkpointed ws'
  := List.filterMap_append

/-- Changes add their checkpoints behind the checkpoint table. -/
theorem checkpoints_applyAll {ws : List Change} {d : Tables} :
  (tenantSchema.applyAll ws d).checkpoints = d.checkpoints ++ checkpointed ws
  := by
  induction ws generalizing d with
  | nil => simp
  | cons w ws ih =>
      rw [Schema.applyAll_cons, ih]
      cases w with
      | appendCheckpoint row =>
          simp [tenantSchema, Change.apply, checkpointed, Change.checkpointRow]
      | putRecord _ _ | putJob _ | putIdempotency _ _ | appendLineage _ => rfl

end TenantDatabase
