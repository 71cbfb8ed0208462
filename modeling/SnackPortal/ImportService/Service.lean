import SnackPortal.Lineage.Emit

/-!
# The execution of imports

`ImportService.start_import` and `get_status` over a routed session.  An import opens a job under
its operation key, or takes up the one recorded there; it reads and validates the source, and
writes the valid records batch by batch behind the latest checkpoint of the job, each batch with
its lineage rows and its checkpoint in one transaction.  At the end it records its counts.
-/

namespace ImportService

open Lineage (Hmac LineageEmit LineageIntent)
open TenantDatabase

/-! ### The session -/

/-- The number that a value is; a truth value is the number one or zero. -/
def Value.number : Value → Option Double
  | .int n => some (.finite n)
  | .bool b => some (.finite (if b then 1 else 0))
  | .float x _ => some x
  | _ => none

/-- Python's `==` on values: numbers of all types are compared by what they are, and `nan` is not
equal to itself. -/
def Value.eq (v w : Value) : Bool :=
  match v.number, w.number with
  | some x, some y => x = y && x ≠ .nan
  | none, none => v = w
  | _, _ => false

/-- The row of the table has all columns of `row`; a column that it lacks is `None`. -/
def carries (existing row : Columns) : Bool :=
  row.entries.all fun column => (existing.read column.1).eq column.2

/-- `PgRoutedSession.upsert` on a table of records. -/
def upsertRecord (key : RecordKey) (row : Columns) : TenantProgram Bool := do
  let existing : Option Columns ← perform (.getRecord key)
  if existing.any fun existing => carries existing row then
    pure false
  else
    let _ ← perform (.putRecord key row)
    pure true

/-- `PgRoutedSession.upsert` on the table of jobs. -/
def upsertJob (row : JobRow) : TenantProgram Bool := do
  let existing : Option JobRow ← perform (.getJob row.jobId)
  if existing = some row then
    pure false
  else
    let _ ← perform (.putJob row)
    pure true

/-- `PgRoutedSession.upsert` on the idempotency table. -/
def upsertIdempotency (operationKey : String) (columns : IdempotencyColumns) :
    TenantProgram Bool := do
  let existing : Option IdempotencyRow ← perform (.getIdempotency operationKey)
  if existing.any fun existing => columns.over operationKey (some existing) = existing then
    pure false
  else
    let _ ← perform (.putIdempotency operationKey columns)
    pure true

/-! ### The service -/

/-- The settings of the service: the lineage port, the adapters, the version of the schema, and
the size of a batch. -/
structure Service where
  lineage : LineageEmit
  sources : SourceKind → Option SourceAdapter
  schemaVersion : String
  batchSize : Int

/-- `_emit_audit`. -/
def emitAudit (req : ImportRequest) (action outcome : String) : TenantProgram Unit :=
  perform (.initiate ⟨req.actorRef, action, req.correlationId, outcome, req.tenantId,
    some req.source.ref⟩)

/-- `_failed_status`. -/
def failedStatus (req : ImportRequest) (jobId : String) (applied noop rejected : Nat) :
    ImportStatus where
  importId := jobId
  tenantId := req.tenantId
  state := .failed
  appliedCount := applied
  noopCount := noop
  rejectedCount := rejected
  lastErrorSummary := "batch_failed"
  correlationId := req.correlationId
  replayed := false

/-- The status that is replayed from the idempotency table. -/
def replayStatus (req : ImportRequest) (idem : IdempotencyRow) : ImportStatus where
  importId := idem.jobId
  tenantId := req.tenantId
  state := .applied
  appliedCount := idem.applied
  noopCount := idem.noop
  rejectedCount := idem.rejected
  lastErrorSummary := ""
  correlationId := req.correlationId
  replayed := true

/-- The job row of an import. -/
def jobRow (req : ImportRequest) (jobId state : String) : JobRow where
  jobId := jobId
  operationKey := req.operationKey
  tenantId := req.tenantId
  state := state
  correlationId := some req.correlationId

/-- The job that an import works on, whether it is resumed, and the status to replay, where the
idempotency table has a row. -/
def takeUp (req : ImportRequest) (idem : IdempotencyRow) :
    TenantProgram (String × Bool × Option ImportStatus) := do
  let _ ← perform .commit
  if idem.status = "applied" then
    pure (idem.jobId, false, some (replayStatus req idem))
  else
    pure (idem.jobId, true, none)

/-- The new job of an import. -/
def openJob (req : ImportRequest) : TenantProgram (String × Bool × Option ImportStatus) := do
  let jobId : String ← perform .uuid4
  let _ ← upsertJob (jobRow req jobId "in_progress")
  let _ ← upsertIdempotency req.operationKey ⟨jobId, "in_progress", none⟩
  let _ ← perform .commit
  pure (jobId, false, none)

/-- What `_begin_job` does with the row of the idempotency table. -/
def beginWith (req : ImportRequest) :
    Option IdempotencyRow → TenantProgram (String × Bool × Option ImportStatus)
  | some idem => takeUp req idem
  | none => openJob req

/-- `_begin_job`. -/
def beginJob (req : ImportRequest) : TenantProgram (String × Bool × Option ImportStatus) := do
  let _ ← perform .begin
  let idem : Option IdempotencyRow ← perform (.getIdempotency req.operationKey)
  beginWith req idem

/-- The number after that of the latest checkpoint. -/
def seqAfter : Option CheckpointRow → Nat
  | some cp => cp.batchSeq + 1
  | none => 1

/-- `_resume_point`. -/
def resumePoint (jobId : String) : TenantProgram Nat := do
  let _ ← perform .begin
  let cp : Option CheckpointRow ← perform (.latestCheckpoint jobId)
  let _ ← perform .commit
  pure (seqAfter cp)

/-- `[valid[i : i + size] for i in range(0, len(valid), size)]`; a size of zero is refused, and
the range is empty for a negative one. -/
def batches (size : Int) (valid : List ImportRecord) : Option (List (List ImportRecord)) :=
  if size = 0 then
    none
  else
    let size := size.toNat
    some ((List.range ((valid.length + size - 1) / size)).map fun i =>
      (valid.drop (i * size)).take size)

/-- The row of a record. -/
def recordRow (req : ImportRequest) (record : ImportRecord) : Columns :=
  record.fields.insert req.naturalKeyField (.text record.naturalKey)

/-- Where the row of a record stands. -/
def recordKey (req : ImportRequest) (record : ImportRecord) : RecordKey :=
  ⟨req.targetTable, req.naturalKeyField, record.naturalKey⟩

/-- The reference to the row of a record in its lineage. -/
def recordTarget (req : ImportRequest) (record : ImportRecord) : String :=
  req.tenantId ++ ":" ++ req.targetTable ++ ":" ++ record.naturalKey

/-- What lineage calls an upsert. -/
def operationOf (changed : Bool) : String :=
  if changed then "created" else "noop"

namespace Service

variable (svc : Service)

/-- `_collect`. -/
def collect (req : ImportRequest) : TenantProgram (List ImportRecord × Nat) :=
  match svc.sources req.source.kind with
  | none =>
      Program.raise (.importFailed "unsupported_source" (failedStatus req "unknown" 0 0 0))
  | some adapter => do
      let raws : List RawRecord ← perform (.readSource adapter req.source)
      pure (validateAll req.naturalKeyField raws)

/-- The intent of the lineage row of a record. -/
def importIntent (req : ImportRequest) (jobId occurredAt : String) (record : ImportRecord)
    (changed : Bool) : LineageIntent where
  eventType := "import"
  occurredAt := occurredAt
  actorRef := req.actorRef
  sourceRef := record.sourceRef
  targetRef := recordTarget req record
  operation := operationOf changed
  schemaVersion := svc.schemaVersion
  derivationRef := some jobId
  parentLineageRef := none
  correlationId := some req.correlationId

variable (hmac : Hmac)

/-- One turn of the loop of `_apply_one_batch`. -/
def applyRecord (req : ImportRequest) (jobId : String) (record : ImportRecord) :
    TenantProgram Bool := do
  let changed ← upsertRecord (recordKey req record) (recordRow req record)
  let occurredAt : String ← perform .now
  let _ ← svc.lineage.emit hmac req.tenantId (svc.importIntent req jobId occurredAt record changed)
  pure changed

/-- The loop of `_apply_one_batch`; `bApplied` counts the rows that changed. -/
def applyRecords (req : ImportRequest) (jobId : String) :
    List ImportRecord → Nat → TenantProgram Nat
  | [], bApplied => pure bApplied
  | record :: batch, bApplied => do
      let changed ← svc.applyRecord hmac req jobId record
      applyRecords req jobId batch (if changed then bApplied + 1 else bApplied)

/-- `_apply_one_batch`. -/
def applyOneBatch (req : ImportRequest) (jobId : String) (seq : Nat)
    (batch : List ImportRecord) : TenantProgram Nat := do
  let bApplied ← svc.applyRecords hmac req jobId batch 0
  let updatedAt : String ← perform .now
  let _ ← perform (.appendCheckpoint ⟨jobId, seq, seq * svc.batchSize.toNat, bApplied, "applied",
    updatedAt⟩)
  pure bApplied

/-- What `_apply_batches` does where a batch fails. -/
def failBatch (req : ImportRequest) (jobId : String) (applied noop : Nat) :
    TenantProgram Nat := do
  let _ ← perform .rollback
  let _ ← perform .begin
  let _ ← upsertIdempotency req.operationKey ⟨jobId, "failed", none⟩
  let _ ← perform .commit
  Program.raise (.importFailed "batch" (failedStatus req jobId applied noop 0))

/-- The loop of `_apply_batches` from the batch with the number `seq` on. -/
def applyFrom (req : ImportRequest) (jobId : String) (startSeq : Nat) :
    Nat → List (List ImportRecord) → Nat → Nat → TenantProgram (Nat × Nat)
  | _, [], applied, noop => pure (applied, noop)
  | seq, batch :: rest, applied, noop =>
      if seq < startSeq then
        applyFrom req jobId startSeq (seq + 1) rest applied noop
      else do
        let _ ← perform .begin
        let bApplied ← (svc.applyOneBatch hmac req jobId seq batch).rescue
          fun _ => failBatch req jobId applied noop
        let _ ← perform .commit
        applyFrom req jobId startSeq (seq + 1) rest (applied + bApplied)
          (noop + (batch.length - bApplied))

/-- `_apply_batches`. -/
def applyBatches (req : ImportRequest) (jobId : String) (valid : List ImportRecord)
    (startSeq : Nat) : TenantProgram (Nat × Nat) :=
  match batches svc.batchSize valid with
  | none => Program.raise .valueError
  | some batches => svc.applyFrom hmac req jobId startSeq 1 batches 0 0

/-- `_finalize`. -/
def finalize (req : ImportRequest) (jobId : String) (applied noop rejected : Nat) :
    TenantProgram ImportStatus := do
  let _ ← perform .begin
  let _ ← upsertJob (jobRow req jobId "applied")
  let _ ← upsertIdempotency req.operationKey ⟨jobId, "applied", some (applied, noop, rejected)⟩
  let _ ← perform .commit
  let _ ← emitAudit req "ImportCompleted" "success"
  pure ⟨jobId, req.tenantId, .applied, applied, noop, rejected, "", req.correlationId, false⟩

/-- The import of a job from its resume point on. -/
def proceed (req : ImportRequest) (jobId : String) (resuming : Bool) :
    TenantProgram ImportStatus := do
  let _ ← emitAudit req (if resuming then "ImportResumed" else "ImportStarted") "success"
  let collected ← svc.collect req
  let startSeq ← resumePoint jobId
  let counts ← svc.applyBatches hmac req jobId collected.1 startSeq
  finalize req jobId counts.1 counts.2 collected.2

/-- The status that is replayed, or the import of the job. -/
def replayOr (req : ImportRequest) :
    String × Bool × Option ImportStatus → TenantProgram ImportStatus
  | (_, _, some replay) => do
      let _ ← emitAudit req "ImportCompleted" "replayed"
      pure replay
  | (jobId, resuming, none) => svc.proceed hmac req jobId resuming

/-- The handler of `_ImportFailed`. -/
def surface (req : ImportRequest) : ServiceError → TenantProgram ImportStatus
  | .importFailed code status => do
      let _ ← emitAudit req "ImportFailed" ("error:" ++ code)
      pure status
  | e => Program.raise e

/-- The body of `start_import` in an open session. -/
def importBody (req : ImportRequest) : TenantProgram ImportStatus := do
  let job ← beginJob req
  svc.replayOr hmac req job

/-- `ImportService.start_import`. -/
def startImport (req : ImportRequest) : TenantProgram ImportStatus := do
  let _ ← emitAudit req "ImportRequested" "success"
  let _ ← perform .openSession
  ((svc.importBody hmac req).rescue (surface req)).finally_ (perform .close)

end Service

/-- The state that a text of the idempotency table stands for. -/
def ImportState.ofStatus (status : String) : ImportState :=
  if status = "applied" then .applied
  else if status = "failed" then .failed
  else .inProgress

/-- The status of an import as its row in the idempotency table tells it. -/
def storedStatus (tenantId correlationId : String) (idem : IdempotencyRow) : ImportStatus where
  importId := idem.jobId
  tenantId := tenantId
  state := ImportState.ofStatus idem.status
  appliedCount := idem.applied
  noopCount := idem.noop
  rejectedCount := idem.rejected
  lastErrorSummary := ""
  correlationId := correlationId
  replayed := false

/-- The transaction of `get_status`. -/
def readIdempotency (operationKey : String) : TenantProgram (Option IdempotencyRow) := do
  let _ ← perform .begin
  let idem : Option IdempotencyRow ← perform (.getIdempotency operationKey)
  let _ ← perform .commit
  pure idem

/-- `ImportService.get_status`. -/
def getStatus (tenantId operationKey correlationId : String) :
    TenantProgram (Option ImportStatus) := do
  let _ ← perform .openSession
  let idem ← (readIdempotency operationKey).finally_ (perform .close)
  pure (idem.map (storedStatus tenantId correlationId))

/-! ### The calls of a batch -/

/-- The calls of a batch: on the tables of records, lineage and checkpoints, and what these
need. -/
def isBatchCall : TenantOp → Bool
  | .getRecord _ | .putRecord _ _ | .lockChain | .latestLineage | .appendLineage _
  | .appendCheckpoint _ | .currentVersion _ | .resolve _ _ | .uuid4 | .now => true
  | .initiate event => event.action == "LineageWritten"
  | _ => false

def inBatch (op : TenantOp) : Prop :=
  isBatchCall op = true

section Batch

open Program

theorem perform_inBatch {op : TenantOp} (h : isBatchCall op = true) :
  (TenantDatabase.perform op).Calls inBatch
  := Calls.perform h

theorem emit_inBatch {service : LineageEmit} {hmac : Hmac} {tenantId : String}
    {intent : LineageIntent} :
  (service.emit hmac tenantId intent).Calls inBatch
  := by
  have hlock : service.lock.Calls inBatch := by
    rw [LineageEmit.lock]
    split
    · apply perform_inBatch rfl
    · apply Calls.pure
  apply Calls.bind hlock
  intro _
  apply Calls.bind (perform_inBatch rfl)
  intro prev
  apply Calls.bind (perform_inBatch rfl)
  intro lineageId
  have hkey : (service.chainKey tenantId).Calls inBatch := by
    apply Calls.bind (perform_inBatch rfl)
    intro _
    apply perform_inBatch rfl
  apply Calls.bind hkey
  intro key
  cases LineageEmit.row hmac key prev lineageId intent with
  | error e => apply Calls.raise
  | ok row =>
      apply Calls.bind (perform_inBatch rfl)
      intro _
      have haudit : (service.auditWritten intent).Calls inBatch := by
        rw [LineageEmit.auditWritten]
        split
        · apply perform_inBatch rfl
        · apply Calls.pure
      apply Calls.bind haudit
      intro _
      apply Calls.pure

variable {svc : Service} {hmac : Hmac} {req : ImportRequest} {jobId : String}

theorem applyRecord_inBatch {record : ImportRecord} :
  (svc.applyRecord hmac req jobId record).Calls inBatch
  := by
  have hupsert : (upsertRecord (recordKey req record) (recordRow req record)).Calls
      inBatch := by
    apply Calls.bind (perform_inBatch rfl)
    intro existing
    split
    · apply Calls.pure
    · apply Calls.bind (perform_inBatch rfl)
      intro _
      apply Calls.pure
  apply Calls.bind hupsert
  intro changed
  apply Calls.bind (perform_inBatch rfl)
  intro occurredAt
  apply Calls.bind emit_inBatch
  intro _
  apply Calls.pure

theorem applyRecords_inBatch {batch : List ImportRecord} {bApplied : Nat} :
  (svc.applyRecords hmac req jobId batch bApplied).Calls inBatch
  := by
  induction batch generalizing bApplied with
  | nil => apply Calls.pure
  | cons record batch ih =>
      apply Calls.bind applyRecord_inBatch
      intro changed
      apply ih

/-- A batch calls nothing else. -/
theorem applyOneBatch_inBatch {seq : Nat} {batch : List ImportRecord} :
  (svc.applyOneBatch hmac req jobId seq batch).Calls inBatch
  := by
  apply Calls.bind applyRecords_inBatch
  intro bApplied
  apply Calls.bind (perform_inBatch rfl)
  intro updatedAt
  apply Calls.bind (perform_inBatch rfl)
  intro _
  apply Calls.pure

end Batch

end ImportService
