import SnackPortal.Program.Machine
import SnackPortal.StartupImport.Models
import SnackPortal.TenantDatabase.Tables

/-!
# The calls on a tenant database

The calls of the services that work on a tenant database: those that open and end a
transaction, the statements in it, and the calls on other ports.  The machine that answers them
has the tables as shared state with one session for every thread.  A statement that fails ends
the transaction without effect, and so does a failed commit; what the outside world answers is
part of the choice.
-/

namespace TenantDatabase

open ImportService (Columns SourceAdapter SourceDescriptor RawRecord ImportStatus
  GlobalDirectoryRecordView)
open Lineage (LineageRow)
open StartupImport (GlobalSourceRecord)

/-- The exceptions of the services.  `port` is every exception of a port that no service tells
apart, and `constraint` a violated constraint of a table. -/
inductive ServiceError where
  | port
  | constraint
  | unknownMarkerVersion
  | valueError
  | importFailed (code : String) (status : ImportStatus)
  | invalidRequest
  | notFound
  | consistentTenantDenial
deriving DecidableEq, Repr

/-- An event of an import for the operational audit. -/
structure AuditEvent where
  actorRef : String
  action : String
  correlationId : String
  outcome : String
  targetRef : String
  sourceRef : Option String
deriving DecidableEq, Repr

/-- The calls. -/
inductive TenantOp where
  -- transactions
  | begin
  | commit
  | rollback
  | close
  -- statements
  | lockChain
  | lockImport
  | latestLineage
  | appendLineage (row : LineageRow)
  | getRecord (key : RecordKey)
  | putRecord (key : RecordKey) (row : Columns)
  | getJob (jobId : String)
  | putJob (row : JobRow)
  | getIdempotency (operationKey : String)
  | putIdempotency (operationKey : String) (columns : IdempotencyColumns)
  | latestCheckpoint (jobId : String)
  | appendCheckpoint (row : CheckpointRow)
  | selectExisting (operationKey : String)
  | holdsSource (sourceRef : String)
  | insertCopy (source : GlobalSourceRecord)
  | insertJob (row : JobRow)
  | insertIdempotency (operationKey : String) (columns : IdempotencyColumns)
  -- other ports
  | openSession
  | grantFor (tenantRef : String)
  | currentVersion (storeRef : String)
  | resolve (storeRef version : String)
  | resolveLineageKey (tenantRef : String)
  | uuid4
  | now
  | initiate (event : AuditEvent)
  | readSource (adapter : SourceAdapter) (descriptor : SourceDescriptor)
  | readDirectory (sourceRef : String)
deriving DecidableEq

/-- The type of the answers to a call. -/
abbrev TenantOp.Ans : TenantOp → Type
  | .latestLineage => Option LineageRow
  | .getRecord _ => Option Columns
  | .getJob _ => Option JobRow
  | .getIdempotency _ => Option IdempotencyRow
  | .latestCheckpoint _ => Option CheckpointRow
  | .selectExisting _ => Option (String × String × String)
  | .holdsSource _ => Bool
  | .insertCopy _ => String
  | .grantFor _ => String
  | .currentVersion _ => String
  | .resolve _ _ => String
  | .resolveLineageKey _ => ByteArray
  | .uuid4 => String
  | .now => String
  | .readSource _ _ => List RawRecord
  | .readDirectory _ => Option GlobalSourceRecord
  | _ => Unit

/-- The signature of the services on a tenant database. -/
abbrev tenantSignature : Signature := ⟨TenantOp, TenantOp.Ans⟩

/-- A program on a tenant database. -/
abbrev TenantProgram := Program tenantSignature ServiceError

/-- One call. -/
def perform (op : TenantOp) : TenantProgram op.Ans :=
  Program.perform (S := tenantSignature) op

/-! ### The machine -/

/-- The database, the unique ids that were handed out, and the next identity of a copy. -/
structure TenantState (ι : Type) where
  db : Database Tables Change Key ι
  issued : List String
  nextId : Nat

/-- What one call leaves to the outside world. -/
structure TenantChoice where
  /-- The call fails. -/
  fault : Bool
  text : String
  views : List GlobalDirectoryRecordView
  rows : List Columns
  record : Option GlobalSourceRecord
deriving Inhabited

/-- The row of the table that an insert of a copy leaves. -/
def copyKey (sourceRef : String) : RecordKey :=
  ⟨"startups", "global_startup_id", sourceRef⟩

/-- The text of an attribute as a value, where there is one. -/
def attributeValue (source : GlobalSourceRecord) (name : String) : ImportService.Value :=
  match source.attributes.lookup name with
  | none => .null
  | some value => .text value

/-- The columns of a copy. -/
def copyColumns (source : GlobalSourceRecord) (id : Nat) : Columns :=
  [⟨"id", .text id.repr⟩, ⟨"global_startup_id", .text source.recordRef⟩,
    ⟨"company_name", .text source.displayName⟩, ⟨"industry", attributeValue source "industry"⟩,
    ⟨"headquarters_country", attributeValue source "headquarters_country"⟩].toAList

namespace Tables

variable (d : Tables)

/-- The constraints of the lineage table: new numbers and ids, and parents that are there. -/
def admitsLineage (row : LineageRow) : Bool :=
  (d.lineage.all fun r => r.seq ≠ row.seq ∧ r.lineageId ≠ row.lineageId)
    && row.parentLineageRef.all fun parent => d.lineage.any fun r => r.lineageId = parent

/-- The numbers and the ids of the table are not those of a row that it admits. -/
theorem new_of_admitsLineage {row : LineageRow} (h : d.admitsLineage row = true) :
  ∀ r ∈ d.lineage, r.seq ≠ row.seq ∧ r.lineageId ≠ row.lineageId
  := by
  intro r hr
  rw [admitsLineage, Bool.and_eq_true, List.all_eq_true] at h
  apply of_decide_eq_true (h.1 r hr)

/-- The primary key of the checkpoint table. -/
def admitsCheckpoint (row : CheckpointRow) : Bool :=
  d.checkpoints.all fun r => ¬ (r.jobId = row.jobId ∧ r.batchSeq = row.batchSeq)

/-- The latest checkpoint of a job. -/
def latestCheckpoint (jobId : String) : Option CheckpointRow :=
  @List.argmax _ _ Nat.instLinearOrder.toPreorder Nat.decLt CheckpointRow.batchSeq
    (d.checkpoints.filter (·.jobId = jobId))

/-- The import recorded under the key, joined with its lineage row. -/
def existing (operationKey : String) : Option (String × String × String) :=
  (d.idempotency.lookup operationKey).bind fun idem =>
    (@List.argmin _ _ Int.instLinearOrder.toPreorder Int.decLt LineageRow.seq
      (d.lineage.filter (·.derivationRef = some operationKey))).map
      fun chain => (idem.jobId, chain.lineageId, chain.targetRef)

/-- A copy of the source is there. -/
def holdsSource (sourceRef : String) : Bool :=
  (d.records.lookup (copyKey sourceRef)).isSome

end Tables

/-- The kinds of calls: those that end a transaction, the statements in it, and the others. -/
inductive CallKind where
  | ending
  | statement
  | outside
deriving DecidableEq

def TenantOp.kind : TenantOp → CallKind
  | .commit | .rollback | .close => .ending
  | .openSession | .grantFor _ | .currentVersion _ | .resolve _ _ | .resolveLineageKey _
  | .uuid4 | .now | .initiate _ | .readSource _ _ | .readDirectory _ => .outside
  | _ => .statement

/-- The calls that leave the database as it is where they do not fail. -/
def TenantOp.reads : TenantOp → Bool
  | .begin | .latestLineage | .getRecord _ | .getJob _ | .getIdempotency _ | .latestCheckpoint _
  | .selectExisting _ | .holdsSource _ => true
  | op => op.kind = .outside

/-- A unique id in hexadecimal. -/
def isUuidHex (text : String) : Bool :=
  text.toList.length = 32 && text.toList.all fun ch => ch ∈ "0123456789abcdef".toList

namespace TenantState

variable {ι : Type} [DecidableEq ι] (s : TenantState ι)

/-- What the session sees. -/
def view (i : ι) : Tables :=
  s.db.view tenantSchema i

/-- The transaction of the session ends without effect. -/
def rollback (i : ι) : TenantState ι :=
  { s with db := s.db.rollback i }

/-- A statement of the session fails. -/
def abort (i : ι) : TenantState ι :=
  { s with db := s.db.abort i }

/-- A change, where the tables admit it; it waits while another session holds its keys. -/
def write {α : Type} (i : ι) (w : Change) (admitted : Bool) (a : α) :
    Option (Except ServiceError α × TenantState ι) :=
  if admitted then
    (s.db.write tenantSchema i w).map fun db => (.ok a, { s with db := db })
  else
    some (.error .constraint, s.abort i)

/-- An explicit lock; it waits while another session holds it. -/
def lock (i : ι) (k : Key) : Option (Except ServiceError Unit × TenantState ι) :=
  (s.db.lock i k).map fun db => (.ok (), { s with db := db })

/-- The answer to a call that does not fail. -/
def answer (chainKey : String) (i : ι) (c : TenantChoice) :
    (op : TenantOp) → Option (Except ServiceError op.Ans × TenantState ι)
  | .begin => some (.ok (), s)
  | .commit => some (.ok (), { s with db := s.db.commit tenantSchema i })
  | .rollback => some (.ok (), s.rollback i)
  | .close => some (.ok (), s.rollback i)
  | .lockChain => s.lock i .chainLock
  | .lockImport => s.lock i .importLock
  | .latestLineage => some (.ok (Lineage.latest (s.view i).lineage), s)
  | .appendLineage row => s.write i (.appendLineage row) ((s.view i).admitsLineage row) ()
  | .getRecord key => some (.ok ((s.view i).records.lookup key), s)
  | .putRecord key row =>
      s.write i (.putRecord key ((s.view i).columns.taken key row)) true ()
  | .getJob jobId => some (.ok ((s.view i).jobs.lookup jobId), s)
  | .putJob row => s.write i (.putJob row) true ()
  | .getIdempotency k => some (.ok ((s.view i).idempotency.lookup k), s)
  | .putIdempotency k columns => s.write i (.putIdempotency k columns) true ()
  | .latestCheckpoint jobId => some (.ok ((s.view i).latestCheckpoint jobId), s)
  | .appendCheckpoint row =>
      s.write i (.appendCheckpoint row) ((s.view i).admitsCheckpoint row) ()
  | .selectExisting k => some (.ok ((s.view i).existing k), s)
  | .holdsSource ref => some (.ok ((s.view i).holdsSource ref), s)
  | .insertCopy source =>
      { s with nextId := s.nextId + 1 }.write i
        (.putRecord (copyKey source.recordRef) (copyColumns source s.nextId))
        (!(s.view i).holdsSource source.recordRef) s.nextId.repr
  | .insertJob row =>
      s.write i (.putJob row) ((s.view i).jobs.lookup row.jobId).isNone ()
  | .insertIdempotency k columns =>
      s.write i (.putIdempotency k columns) ((s.view i).idempotency.lookup k).isNone ()
  | .openSession => some (.ok (), s)
  | .grantFor _ => some (.ok c.text, s)
  | .currentVersion _ => some (.ok c.text, s)
  | .resolve _ _ => some (.ok chainKey, s)
  | .resolveLineageKey _ => some (.ok chainKey.toUTF8, s)
  | .uuid4 =>
      if isUuidHex c.text ∧ c.text ∉ s.issued then
        some (.ok c.text, { s with issued := c.text :: s.issued })
      else
        none
  | .now => some (.ok c.text, s)
  | .initiate _ => some (.ok (), s)
  | .readSource adapter descriptor =>
      some (.ok (adapter.read descriptor c.views c.rows), s)
  | .readDirectory ref => some (.ok (c.record.filter (·.recordRef = ref)), s)

/-- What a call that fails leaves. -/
def fail (i : ι) : CallKind → TenantState ι
  | .ending => s.rollback i
  | .statement => s.abort i
  | .outside => s

end TenantState

/-- The tenant database as a machine for the threads of `ι`, under one chain key. -/
abbrev tenantDatabase (chainKey : String) (ι : Type) [DecidableEq ι] :
    Machine tenantSignature ServiceError ι where
  State := TenantState ι
  Choice := TenantChoice
  answer i op c s :=
    if c.fault then
      some (.error .port, s.fail i op.kind)
    else if s.db.aborted i ∧ op.kind = .statement then
      some (.error .port, s.abort i)
    else
      s.answer chainKey i c op
  drop i s := s.rollback i

/-! ### What a call does -/

/-- The changes that a statement can make. -/
def TenantOp.Makes : TenantOp → Change → Prop
  | .appendLineage row, w => w = .appendLineage row
  | .putRecord key row, w => ∃ columns : ColumnTypes, w = .putRecord key (columns.taken key row)
  | .putJob row, w => w = .putJob row
  | .putIdempotency k columns, w => w = .putIdempotency k columns
  | .appendCheckpoint row, w => w = .appendCheckpoint row
  | .insertCopy source, w =>
      ∃ id, w = .putRecord (copyKey source.recordRef) (copyColumns source id)
  | .insertJob row, w => w = .putJob row
  | .insertIdempotency k columns, w => w = .putIdempotency k columns
  | _, _ => False

/-- What a call does to the database: nothing, or it takes a lock, makes a change, or ends the
transaction of its session with or without effect. -/
inductive Effect {ι : Type} [DecidableEq ι] (i : ι) (op : TenantOp)
    (db : Database Tables Change Key ι) : Database Tables Change Key ι → Prop where
  | none : Effect i op db db
  | lock {db' : Database Tables Change Key ι} (k : Key) (h : db.lock i k = some db') :
      Effect i op db db'
  | write {db' : Database Tables Change Key ι} (w : Change) (hw : op.Makes w)
      (h : db.write tenantSchema i w = some db') : Effect i op db db'
  | rollback : Effect i op db (db.rollback i)
  | abort : Effect i op db (db.abort i)
  | commit (h : op = .commit) : Effect i op db (db.commit tenantSchema i)

section Effect

variable {ι : Type} [DecidableEq ι] {chainKey : String} {i : ι} {s s' : TenantState ι}

/-- What a successful write of the machine is. -/
theorem TenantState.write_cases {α : Type} {w : Change} {admitted : Bool} {a : α}
    {r : Except ServiceError α} (h : s.write i w admitted a = some (r, s')) :
  (admitted = true ∧ r = .ok a ∧ ∃ db, s.db.write tenantSchema i w = some db
      ∧ s' = { s with db := db })
    ∨ (admitted = false ∧ r = .error .constraint ∧ s' = s.abort i)
  := by
  cases admitted with
  | true =>
      obtain ⟨db, hdb, heq⟩ := Option.map_eq_some_iff.mp h
      obtain ⟨hr, hs⟩ := Prod.mk.inj heq
      exact .inl ⟨rfl, hr.symm, db, hdb, hs.symm⟩
  | false =>
      obtain ⟨hr, hs⟩ := Prod.mk.inj (Option.some.inj h)
      exact .inr ⟨rfl, hr.symm, hs.symm⟩

/-- What a call does. -/
theorem effect_of_answer {op : TenantOp} {c : TenantChoice} {r : Except ServiceError op.Ans}
    (h : (tenantDatabase chainKey ι).answer i op c s = some (r, s')) :
  Effect i op s.db s'.db
  := by
  simp only at h
  split at h
  · obtain ⟨-, rfl⟩ := Prod.mk.inj (Option.some.inj h)
    cases op.kind with
    | ending => apply Effect.rollback
    | statement => apply Effect.abort
    | outside => apply Effect.none
  · split at h
    · obtain ⟨-, rfl⟩ := Prod.mk.inj (Option.some.inj h)
      apply Effect.abort
    · cases op with
      | commit =>
          obtain ⟨-, rfl⟩ := Prod.mk.inj (Option.some.inj h)
          apply Effect.commit rfl
      | rollback | close =>
          obtain ⟨-, rfl⟩ := Prod.mk.inj (Option.some.inj h)
          apply Effect.rollback
      | lockChain | lockImport =>
          obtain ⟨db, hdb, heq⟩ := Option.map_eq_some_iff.mp h
          obtain ⟨-, rfl⟩ := Prod.mk.inj heq
          apply Effect.lock _ hdb
      | uuid4 =>
          simp only [TenantState.answer] at h
          split at h
          · obtain ⟨-, rfl⟩ := Prod.mk.inj (Option.some.inj h)
            apply Effect.none
          · cases h
      | appendLineage _ | putJob _ | putIdempotency _ _ | appendCheckpoint _
      | insertJob _ | insertIdempotency _ _ =>
          rcases TenantState.write_cases h with ⟨-, -, db, hdb, rfl⟩ | ⟨-, -, rfl⟩
          · exact Effect.write _ rfl hdb
          · apply Effect.abort
      | putRecord key row =>
          rcases TenantState.write_cases h with ⟨-, -, db, hdb, rfl⟩ | ⟨-, -, rfl⟩
          · exact Effect.write _ ⟨(s.view i).columns, rfl⟩ hdb
          · apply Effect.abort
      | insertCopy source =>
          rcases TenantState.write_cases h with ⟨-, -, db, hdb, rfl⟩ | ⟨-, -, rfl⟩
          · exact Effect.write _ ⟨s.nextId, rfl⟩ hdb
          · apply Effect.abort
      | begin | latestLineage | getRecord _ | getJob _ | getIdempotency _ | latestCheckpoint _
      | selectExisting _ | holdsSource _ | openSession | grantFor _ | currentVersion _
      | resolve _ _ | resolveLineageKey _ | now | initiate _ | readSource _ _
      | readDirectory _ =>
          obtain ⟨-, rfl⟩ := Prod.mk.inj (Option.some.inj h)
          apply Effect.none

/-- A call that succeeds answers from the state before it. -/
theorem answer_of_ok {op : TenantOp} {c : TenantChoice} {a : op.Ans}
    (h : (tenantDatabase chainKey ι).answer i op c s = some (.ok a, s')) :
  s.answer chainKey i c op = some (.ok a, s')
  := by
  simp only at h
  split at h
  · cases h
  · split at h
    · cases h
    · apply h

/-- What a call that fails leaves. -/
theorem db_of_error {op : TenantOp} {c : TenantChoice} {e : ServiceError}
    (h : (tenantDatabase chainKey ι).answer i op c s = some (.error e, s')) :
  s'.db = (s.fail i op.kind).db
  := by
  simp only at h
  split at h
  · obtain ⟨-, rfl⟩ := Prod.mk.inj (Option.some.inj h)
    rfl
  · split at h
    · rename_i haborted
      obtain ⟨-, rfl⟩ := Prod.mk.inj (Option.some.inj h)
      rw [haborted.2, TenantState.fail]
    · cases op with
      | appendLineage _ | putRecord _ _ | putJob _ | putIdempotency _ _ | appendCheckpoint _
      | insertCopy _ | insertJob _ | insertIdempotency _ _ =>
          rcases TenantState.write_cases h with ⟨-, hr, -⟩ | ⟨-, -, rfl⟩
          · cases hr
          · rfl
      | lockChain | lockImport =>
          obtain ⟨db, hdb, heq⟩ := Option.map_eq_some_iff.mp h
          cases heq
      | uuid4 =>
          simp only [TenantState.answer] at h
          split at h
          · cases h
          · cases h
      | _ => cases h

/-- The machine raises no exceptions but those of ports and of constraints. -/
theorem error_of_answer {op : TenantOp} {c : TenantChoice} {e : ServiceError}
    (h : (tenantDatabase chainKey ι).answer i op c s = some (.error e, s')) :
  e = .port ∨ e = .constraint
  := by
  simp only at h
  split at h
  · obtain ⟨hr, -⟩ := Prod.mk.inj (Option.some.inj h)
    exact .inl (Except.error.inj hr).symm
  · split at h
    · obtain ⟨hr, -⟩ := Prod.mk.inj (Option.some.inj h)
      exact .inl (Except.error.inj hr).symm
    · cases op with
      | appendLineage _ | putRecord _ _ | putJob _ | putIdempotency _ _ | appendCheckpoint _
      | insertCopy _ | insertJob _ | insertIdempotency _ _ =>
          rcases TenantState.write_cases h with ⟨-, hr, -⟩ | ⟨-, hr, -⟩
          · cases hr
          · exact .inr (Except.error.inj hr)
      | lockChain | lockImport =>
          obtain ⟨db, hdb, heq⟩ := Option.map_eq_some_iff.mp h
          cases heq
      | uuid4 =>
          simp only [TenantState.answer] at h
          split at h
          · cases h
          · cases h
      | _ => cases h

/-- A call that only reads leaves the database as it is. -/
theorem db_of_reads {op : TenantOp} {c : TenantChoice} {a : op.Ans} (hop : op.reads = true)
    (h : (tenantDatabase chainKey ι).answer i op c s = some (.ok a, s')) :
  s'.db = s.db
  := by
  have hanswer := answer_of_ok h
  cases op with
  | begin | latestLineage | getRecord _ | getJob _ | getIdempotency _ | latestCheckpoint _
  | selectExisting _ | holdsSource _ | openSession | grantFor _ | currentVersion _
  | resolve _ _ | resolveLineageKey _ | now | initiate _ | readSource _ _
  | readDirectory _ =>
      obtain ⟨-, rfl⟩ := Prod.mk.inj (Option.some.inj hanswer)
      rfl
  | uuid4 =>
      simp only [TenantState.answer] at hanswer
      split at hanswer
      · obtain ⟨-, rfl⟩ := Prod.mk.inj (Option.some.inj hanswer)
        rfl
      · cases hanswer
  | _ => cases hop

/-- A call that only reads makes no change. -/
theorem not_makes_of_reads {op : TenantOp} (hop : op.reads = true) {w : Change} :
  ¬ op.Makes w
  := by
  intro hw
  cases op with
  | appendLineage _ | putRecord _ _ | putJob _ | putIdempotency _ _ | appendCheckpoint _
  | insertCopy _ | insertJob _ | insertIdempotency _ _ => cases hop
  | _ => cases hw

/-- A statement that makes changes and succeeds makes one. -/
theorem write_of_ok {op : TenantOp} {c : TenantChoice} {a : op.Ans} {w : Change}
    (hw : op.Makes w) (h : (tenantDatabase chainKey ι).answer i op c s = some (.ok a, s')) :
  ∃ w, op.Makes w ∧ s.db.write tenantSchema i w = some s'.db
  := by
  have hanswer := answer_of_ok h
  cases op with
  | appendLineage _ | putJob _ | putIdempotency _ _ | appendCheckpoint _
  | insertJob _ | insertIdempotency _ _ =>
      rcases TenantState.write_cases hanswer with ⟨-, -, db, hdb, rfl⟩ | ⟨-, hr, -⟩
      · exact ⟨_, rfl, hdb⟩
      · cases hr
  | putRecord key row =>
      rcases TenantState.write_cases hanswer with ⟨-, -, db, hdb, rfl⟩ | ⟨-, hr, -⟩
      · exact ⟨_, ⟨(s.view i).columns, rfl⟩, hdb⟩
      · cases hr
  | insertCopy source =>
      rcases TenantState.write_cases hanswer with ⟨-, -, db, hdb, rfl⟩ | ⟨-, hr, -⟩
      · exact ⟨_, ⟨s.nextId, rfl⟩, hdb⟩
      · cases hr
  | _ => cases hw

/-- A row that was put is what the columns make of it. -/
theorem putRecord_of_ok {key : RecordKey} {row : Columns} {c : TenantChoice} {a : Unit}
    (h : (tenantDatabase chainKey ι).answer i (.putRecord key row) c s = some (.ok a, s')) :
  s.db.write tenantSchema i (.putRecord key ((s.view i).columns.taken key row)) = some s'.db
  := by
  rcases TenantState.write_cases (answer_of_ok h) with ⟨-, -, db, hdb, rfl⟩ | ⟨-, hr, -⟩
  · apply hdb
  · cases hr

/-- A copy that was inserted has the identity that was returned. -/
theorem insertCopy_of_ok {source : GlobalSourceRecord} {c : TenantChoice} {a : String}
    (h : (tenantDatabase chainKey ι).answer i (.insertCopy source) c s = some (.ok a, s')) :
  ∃ id : Nat, a = id.repr ∧ s.db.write tenantSchema i
    (.putRecord (copyKey source.recordRef) (copyColumns source id)) = some s'.db
  := by
  rcases TenantState.write_cases (answer_of_ok h) with ⟨-, hr, db, hdb, rfl⟩ | ⟨-, hr, -⟩
  · exact ⟨s.nextId, Except.ok.inj hr, hdb⟩
  · cases hr

/-- A call that ends a transaction leaves no changes under way. -/
theorem pending_of_ending {op : TenantOp} {c : TenantChoice} {r : Except ServiceError op.Ans}
    (hop : op.kind = .ending)
    (h : (tenantDatabase chainKey ι).answer i op c s = some (r, s')) :
  s'.db.pending i = []
  := by
  simp only at h
  split at h
  · obtain ⟨-, rfl⟩ := Prod.mk.inj (Option.some.inj h)
    rw [hop]
    apply Function.update_self
  · split at h
    · rename_i haborted
      rw [hop] at haborted
      cases haborted.2
    · cases op with
      | commit | rollback | close =>
          obtain ⟨-, rfl⟩ := Prod.mk.inj (Option.some.inj h)
          apply Function.update_self
      | _ => cases hop

/-- The unique ids that were handed out are not forgotten. -/
theorem issued_of_answer {op : TenantOp} {c : TenantChoice} {r : Except ServiceError op.Ans}
    (h : (tenantDatabase chainKey ι).answer i op c s = some (r, s')) :
  s'.issued = s.issued ∨ ∃ a, s'.issued = a :: s.issued
  := by
  simp only at h
  split at h
  · obtain ⟨-, rfl⟩ := Prod.mk.inj (Option.some.inj h)
    left
    cases op.kind <;> rfl
  · split at h
    · obtain ⟨-, rfl⟩ := Prod.mk.inj (Option.some.inj h)
      exact .inl rfl
    · cases op with
      | uuid4 =>
          simp only [TenantState.answer] at h
          split at h
          · obtain ⟨-, rfl⟩ := Prod.mk.inj (Option.some.inj h)
            exact .inr ⟨_, rfl⟩
          · cases h
      | lockChain | lockImport =>
          obtain ⟨db, hdb, heq⟩ := Option.map_eq_some_iff.mp h
          obtain ⟨-, rfl⟩ := Prod.mk.inj heq
          exact .inl rfl
      | appendLineage _ | putRecord _ _ | putJob _ | putIdempotency _ _ | appendCheckpoint _
      | insertCopy _ | insertJob _ | insertIdempotency _ _ =>
          rcases TenantState.write_cases h with ⟨-, -, db, hdb, rfl⟩ | ⟨-, -, rfl⟩
          · exact .inl rfl
          · exact .inl rfl
      | _ =>
          obtain ⟨-, rfl⟩ := Prod.mk.inj (Option.some.inj h)
          exact .inl rfl

/-- A unique id is new. -/
theorem uuid4_of_ok {c : TenantChoice} {a : String}
    (h : (tenantDatabase chainKey ι).answer i .uuid4 c s = some (.ok a, s')) :
  a ∉ s.issued ∧ s'.issued = a :: s.issued
  := by
  have hanswer := answer_of_ok h
  simp only [TenantState.answer] at hanswer
  split at hanswer
  · rename_i hnew
    obtain ⟨ha, rfl⟩ := Prod.mk.inj (Option.some.inj hanswer)
    obtain rfl := Except.ok.inj ha
    exact ⟨hnew.2, rfl⟩
  · cases hanswer

end Effect

namespace Effect

variable {ι : Type} [DecidableEq ι] {i : ι} {op : TenantOp}
  {db db' : Database Tables Change Key ι}

/-- The locks stay in order. -/
theorem consistent (h : Effect i op db db') (hdb : db.Consistent tenantSchema) :
  db'.Consistent tenantSchema
  := by
  cases h with
  | none => apply hdb
  | lock k hk => apply hdb.lock hk
  | write w _ hw => apply hdb.write hw
  | rollback => apply hdb.rollback
  | abort => apply hdb.abort
  | commit _ => apply hdb.commit

/-- The other sessions keep their pending changes. -/
theorem pending_of_ne (h : Effect i op db db') {j : ι} (hj : j ≠ i) :
  db'.pending j = db.pending j
  := by
  cases h with
  | none => rfl
  | lock k hk =>
      obtain ⟨-, rfl⟩ := Database.lock_eq_some hk
      rfl
  | write w _ hw =>
      obtain ⟨-, rfl⟩ := Database.write_eq_some hw
      apply Function.update_of_ne hj
  | rollback => apply Function.update_of_ne hj
  | abort => apply Function.update_of_ne hj
  | commit _ => apply Function.update_of_ne hj

/-- Only a commit changes the committed state. -/
theorem committed (h : Effect i op db db') :
  db'.committed = db.committed ∧ db'.commits = db.commits
    ∨ op = .commit ∧ db' = db.commit tenantSchema i
  := by
  cases h with
  | none => exact .inl ⟨rfl, rfl⟩
  | lock k hk =>
      obtain ⟨-, rfl⟩ := Database.lock_eq_some hk
      exact .inl ⟨rfl, rfl⟩
  | write w _ hw =>
      obtain ⟨-, rfl⟩ := Database.write_eq_some hw
      exact .inl ⟨rfl, rfl⟩
  | rollback => exact .inl ⟨rfl, rfl⟩
  | abort => exact .inl ⟨rfl, rfl⟩
  | commit hop => exact .inr ⟨hop, rfl⟩

/-- What the other sessions hold stays as it is. -/
theorem holders_of_ne (h : Effect i op db db') {j : ι} (hj : j ≠ i) (k : Key) :
  (k, j) ∈ db'.holders ↔ (k, j) ∈ db.holders
  := by
  have hfilter : (k, j) ∈ db.holders.filter (fun h => h.2 ≠ i) ↔ (k, j) ∈ db.holders := by
    rw [List.mem_filter]
    exact and_iff_left (decide_eq_true hj)
  cases h with
  | none => rfl
  | lock k' hk =>
      obtain ⟨-, rfl⟩ := Database.lock_eq_some hk
      simp only [List.mem_cons, Prod.mk.injEq, hj, and_false, false_or]
  | write w _ hw =>
      obtain ⟨-, rfl⟩ := Database.write_eq_some hw
      simp only [List.mem_append, List.mem_map, Prod.mk.injEq, hj.symm, and_false, exists_false,
        false_or]
  | rollback => exact hfilter
  | abort => exact hfilter
  | commit _ => exact hfilter

/-- What becomes of the pending changes of the session itself. -/
theorem pending_self (h : Effect i op db db') :
  db'.pending i = db.pending i ∨ db'.pending i = []
    ∨ ∃ w, op.Makes w ∧ db'.pending i = db.pending i ++ [w]
  := by
  cases h with
  | none => exact .inl rfl
  | lock k hk =>
      obtain ⟨-, rfl⟩ := Database.lock_eq_some hk
      exact .inl rfl
  | write w hw hwrite =>
      obtain ⟨-, rfl⟩ := Database.write_eq_some hwrite
      exact .inr (.inr ⟨w, hw, Function.update_self _ _ _⟩)
  | rollback => exact .inr (.inl (Function.update_self _ _ _))
  | abort => exact .inr (.inl (Function.update_self _ _ _))
  | commit _ => exact .inr (.inl (Function.update_self _ _ _))

/-- A session with changes under way keeps what it holds. -/
theorem holders_self (h : Effect i op db db') (hpending : db'.pending i ≠ []) {k : Key}
    (hk : (k, i) ∈ db.holders) :
  (k, i) ∈ db'.holders
  := by
  cases h with
  | none => apply hk
  | lock k' hlock =>
      obtain ⟨-, rfl⟩ := Database.lock_eq_some hlock
      apply List.mem_cons_of_mem _ hk
  | write w _ hw =>
      obtain ⟨-, rfl⟩ := Database.write_eq_some hw
      apply List.mem_append_right _ hk
  | rollback => exact absurd (Function.update_self _ _ _) hpending
  | abort => exact absurd (Function.update_self _ _ _) hpending
  | commit _ => exact absurd (Function.update_self _ _ _) hpending

end Effect

end TenantDatabase
