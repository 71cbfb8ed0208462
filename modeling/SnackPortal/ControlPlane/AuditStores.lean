import SnackPortal.ControlPlane.GatewayAudit
import SnackPortal.ControlPlane.ImportAudit
import SnackPortal.ControlPlane.RoutingAudit
import SnackPortal.Program.AppendOnce

/-!
# The audit stores

The stores of the three audits, which differ in their columns, in what they check of a record, and
in the type of the id that tells events apart.  What the database and its driver make of texts is
a parameter; a row has the values that are stored, and a replayed record is compared with those.
-/

namespace ControlPlane.AuditStores

open CodePoints (ofString)
open GatewayAudit (GatewayAuditRecord)
open ImportAudit (ImportAuditRecord)
open RoutingAudit (RoutingAuditRecord)

/-! ## Rows -/

/-- A row of an audit table, save for the columns that the database fills in by itself. -/
structure StoredRow (κ τ : Type) where
  id : κ
  eventVersion : ℤ
  occurredAt : τ
  columns : List (Option CodePoints)
deriving DecidableEq

/-- What the database, its driver and the standard library make of texts, ids and times. -/
structure Driver (υ τ : Type) where
  /-- The input of a `uuid`. -/
  uuid : CodePoints → Option υ
  /-- `str` of a loaded `uuid`. -/
  uuidText : υ → CodePoints
  /-- The input of a `timestamptz`, in the time zone of the session. -/
  timestamptz : CodePoints → Option τ
  /-- The driver can load the time. -/
  loads : τ → Bool
  /-- `datetime.fromisoformat`, a naive time being one of UTC. -/
  fromisoformat : CodePoints → Option τ
  /-- `str` of a loaded time. -/
  timeText : τ → CodePoints
  /-- `str.lower`. -/
  lower : CodePoints → CodePoints

/-- A store: the columns of its records, what it checks of them, and the type of its ids. -/
structure AuditStore (ρ κ τ : Type) where
  id : ρ → CodePoints
  eventVersion : ρ → ℤ
  occurredAt : ρ → CodePoints
  /-- The columns behind the time, in the order of the insert. -/
  columns : ρ → List (Option CodePoints)
  /-- `_validate`. -/
  validate : ρ → Bool
  idInput : CodePoints → Option κ
  idText : κ → CodePoints
  timestamptz : CodePoints → Option τ
  loads : τ → Bool
  fromisoformat : CodePoints → Option τ
  timeText : τ → CodePoints
  lower : CodePoints → CodePoints

namespace AuditStore

variable {ρ κ τ : Type} [DecidableEq κ] [DecidableEq τ] (store : AuditStore ρ κ τ)

/-- The row that an insert of the record stores, where the database takes its values. -/
def rowOf (record : ρ) : Option (StoredRow κ τ) := do
  let id ← store.idInput (store.id record)
  guard (-2 ^ 31 ≤ store.eventVersion record ∧ store.eventVersion record < 2 ^ 31)
  let occurredAt ← store.timestamptz (store.occurredAt record)
  guard (∀ text ∈ (store.columns record).reduceOption, CodePoints.storable text)
  return {
    id
    eventVersion := store.eventVersion record
    occurredAt
    columns := store.columns record }

/-- `_same_instant`. -/
def sameInstant (stored : τ) (submitted : CodePoints) : Bool :=
  match store.fromisoformat submitted with
  | none => store.timeText stored = submitted
  | some instant => stored = instant

/-- `_replay_matches`. -/
def replayMatches (row : StoredRow κ τ) (record : ρ) : Bool :=
  store.lower (store.idText row.id) = store.lower (store.id record)
    && row.eventVersion = store.eventVersion record
    && store.sameInstant row.occurredAt (store.occurredAt record)
    && row.columns = store.columns record

/-- A replay of the record matches the row that the record was stored as: the id is written as
the database writes it, up to case, and the database and the standard library read one time. -/
def Canonical (record : ρ) : Prop :=
  ∀ id occurredAt, store.idInput (store.id record) = some id →
    store.timestamptz (store.occurredAt record) = some occurredAt →
    store.lower (store.idText id) = store.lower (store.id record)
      ∧ store.sameInstant occurredAt (store.occurredAt record)

variable {store}

omit [DecidableEq κ] [DecidableEq τ] in
theorem rowOf_eq_some {record : ρ} {row : StoredRow κ τ} (h : store.rowOf record = some row) :
  store.idInput (store.id record) = some row.id
    ∧ store.timestamptz (store.occurredAt record) = some row.occurredAt
    ∧ row.eventVersion = store.eventVersion record ∧ row.columns = store.columns record
  := by
  rw [rowOf] at h
  obtain ⟨id, hid, h⟩ := Option.bind_eq_some_iff.mp h
  obtain ⟨-, h⟩ := Ingest.guard_bind_eq_some_iff.mp h
  obtain ⟨occurredAt, hoccurredAt, h⟩ := Option.bind_eq_some_iff.mp h
  obtain ⟨-, h⟩ := Ingest.guard_bind_eq_some_iff.mp h
  obtain rfl := Option.some.inj h
  exact ⟨hid, hoccurredAt, rfl, rfl⟩

omit [DecidableEq κ] in
theorem replayMatches_rowOf {record : ρ} {row : StoredRow κ τ}
    (h : store.rowOf record = some row) :
  store.replayMatches row record ↔ store.Canonical record
  := by
  obtain ⟨hid, hoccurredAt, hversion, hcolumns⟩ := rowOf_eq_some h
  rw [replayMatches, hversion, hcolumns]
  simp only [decide_true, Bool.and_true, Bool.and_eq_true, decide_eq_true_eq]
  constructor
  · intro ⟨hlower, hsame⟩ id occurredAt hid' hoccurredAt'
    obtain rfl := Option.some.inj (hid.symm.trans hid')
    obtain rfl := Option.some.inj (hoccurredAt.symm.trans hoccurredAt')
    exact ⟨hlower, hsame⟩
  · intro hcanonical
    apply hcanonical row.id row.occurredAt hid hoccurredAt

end AuditStore

/-! ## The three stores -/

variable {υ τ : Type}

/-- The input and the output of an id in a column of texts. -/
def textInput (text : CodePoints) : Option CodePoints :=
  if CodePoints.storable text then some text else none

/-- `PostgresRoutingAuditStore._validate`. -/
def validateRouting (r : RoutingAuditRecord) : Bool :=
  (RoutingAudit.routingAuditStoreActions.map ofString).contains r.action
    && decide (0 < r.eventVersion)
    && decide (r.sourceService = ofString RoutingAudit.routingAuditSourceService)
    && [r.eventId, r.occurredAt, r.correlationId, r.actorRef, r.outcome,
      r.sourceVersion].all (!·.isEmpty)

/-- `PostgresImportAuditStore._validate`. -/
def validateImport (r : ImportAuditRecord) : Bool :=
  (ImportAudit.importAuditStoreActions.map ofString).contains r.action
    && decide (0 < r.eventVersion)
    && decide (r.sourceService = ofString ImportAudit.importAuditSourceService)
    && [r.auditId, r.occurredAt, r.correlationId, r.outcome].all (!·.isEmpty)

/-- `PostgresRoutingAuditStore`, whose ids are of type `uuid`. -/
def routingAuditStore (driver : Driver υ τ) : AuditStore RoutingAuditRecord υ τ where
  id := RoutingAuditRecord.eventId
  eventVersion := RoutingAuditRecord.eventVersion
  occurredAt := RoutingAuditRecord.occurredAt
  columns r :=
    [some r.correlationId, some r.actorRef, some r.action, some r.outcome, some r.sourceService,
      some r.sourceVersion, r.requestRef, r.traceRef, r.tenantRef, r.resolvedTenantRef,
      r.publicCode, r.errorClass, r.associationStoreRef, r.associationVersion, r.lane]
  validate := validateRouting
  idInput := driver.uuid
  idText := driver.uuidText
  timestamptz := driver.timestamptz
  loads := driver.loads
  fromisoformat := driver.fromisoformat
  timeText := driver.timeText
  lower := driver.lower

/-- `PostgresGatewayAuditStore`, whose ids are texts. -/
def gatewayAuditStore (driver : Driver υ τ) : AuditStore GatewayAuditRecord CodePoints τ where
  id := GatewayAuditRecord.auditId
  eventVersion := GatewayAuditRecord.eventVersion
  occurredAt := GatewayAuditRecord.occurredAt
  columns r :=
    [some r.correlationId, some r.action, some r.outcome, some r.sourceService, r.actorRef,
      r.subjectRef, r.tenantRef, r.carrierRef, r.recordRef]
  validate := GatewayAudit.validate
  idInput := textInput
  idText := id
  timestamptz := driver.timestamptz
  loads := driver.loads
  fromisoformat := driver.fromisoformat
  timeText := driver.timeText
  lower := driver.lower

/-- `PostgresImportAuditStore`, whose ids are texts. -/
def importAuditStore (driver : Driver υ τ) : AuditStore ImportAuditRecord CodePoints τ where
  id := ImportAuditRecord.auditId
  eventVersion := ImportAuditRecord.eventVersion
  occurredAt := ImportAuditRecord.occurredAt
  columns r :=
    [some r.correlationId, some r.action, some r.outcome, some r.sourceService, r.actorRef,
      r.targetRef, r.sourceRef]
  validate := validateImport
  idInput := textInput
  idText := id
  timestamptz := driver.timestamptz
  loads := driver.loads
  fromisoformat := driver.fromisoformat
  timeText := driver.timeText
  lower := driver.lower

/-! ## What the parsers accept -/

/-- A store takes what the parser of its edge accepts. -/
theorem validateRouting_of_parsed {loads : List UInt8 → Option Wire} {raw : List UInt8}
    {r : RoutingAuditRecord} (h : RoutingAudit.parseRecord loads raw = some r) :
  validateRouting r
  := by
  obtain ⟨_, _, -, -, hfields, hform⟩ := RoutingAudit.parseRecord_eq_some_iff.mp h
  rw [validateRouting, hform.action, hform.sourceService, hfields.eventVersion]
  simp [hfields.eventId.2.2, hfields.occurredAt.2.2, hfields.correlationId.2.2,
    hfields.actorRef.2.2, hfields.outcome.2.2, hfields.sourceVersion.2.2]

theorem validateGateway_of_parsed {loads : List UInt8 → Option Wire} {raw : List UInt8}
    {r : GatewayAuditRecord} (h : GatewayAudit.parseRecord loads raw = some r) :
  GatewayAudit.validate r
  := by
  obtain ⟨_, -, hgrammar⟩ := GatewayAudit.parseRecord_eq_some_iff.mp h
  obtain ⟨event, -, hfields⟩ := hgrammar.event
  rw [GatewayAudit.validate, hfields.eventVersion, hfields.sourceService]
  simp [hgrammar.form.action_mem, hfields.auditId.2.2, hfields.occurredAt.2.2,
    hfields.correlationId.2.2, hfields.outcome.2.2]

theorem validateImport_of_parsed {loads : List UInt8 → Option Wire} {raw : List UInt8}
    {r : ImportAuditRecord} (h : ImportAudit.parseRecord loads raw = some r) :
  validateImport r
  := by
  obtain ⟨_, _, -, -, hfields, hform⟩ := ImportAudit.parseRecord_eq_some_iff.mp h
  have haction : (ImportAudit.importAuditStoreActions.map ofString).contains r.action :=
    hform.action
  rw [validateImport, haction, hform.sourceService, hfields.eventVersion]
  simp [hfields.auditId.2.2, hfields.occurredAt.2.2, hfields.correlationId.2.2,
    hfields.outcome.2.2]

end ControlPlane.AuditStores
