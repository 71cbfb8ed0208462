import SnackPortal.Program.Handler
import SnackPortal.Program.Transaction
import SnackPortal.ControlPlane.Ports

/-!
# The durable control store

`PostgresControlStore` on its own connection: a compare-and-swap stays uncommitted until the
audit record that is appended next commits both, every other write commits by itself, and the
end of the unit of work takes back what is left.  The numbers of the audit records come from a
sequence, so a number that was taken is not given back.
-/

namespace ControlPlane

/-! ### The tables -/

/-- The registry table, and the audit records with their numbers in the order of the commits. -/
structure ControlTables where
  tenants : AList (fun _ : String => TenantRecord)
  audit : List (Nat × ControlAuditRecord)

namespace ControlTables

variable (d : ControlTables)

/-- The audit records in the order of their numbers. -/
def ordered : List (Nat × ControlAuditRecord) :=
  d.audit.mergeSort fun a b => a.1 ≤ b.1

/-- The rows of `list_audit`. -/
def trail : List ControlAuditRecord :=
  d.ordered.map Prod.snd

end ControlTables

/-- The changes of the statements. -/
inductive ControlChange where
  | upsertTenant (record : TenantRecord)
  | updateTenant (updated : TenantRecord) (expectedVersion : Nat)
  | insertAudit (id : Nat) (record : ControlAuditRecord)
deriving DecidableEq

namespace ControlChange

/-- The row that an upsert leaves: `created_at` is not among the columns of its update. -/
def upserted (record : TenantRecord) : Option TenantRecord → TenantRecord
  | none => record
  | some current => { record with createdAt := current.createdAt }

/-- The row that an update leaves: the version goes up by one, and `created_at` stays. -/
def updated (record current : TenantRecord) : TenantRecord :=
  { record with createdAt := current.createdAt, version := current.version + 1 }

def apply : ControlChange → ControlTables → ControlTables
  | .upsertTenant r, d =>
      { d with tenants := d.tenants.insert r.tenantId (upserted r (d.tenants.lookup r.tenantId)) }
  | .updateTenant u _, d =>
      match d.tenants.lookup u.tenantId with
      | none => d
      | some current => { d with tenants := d.tenants.insert u.tenantId (updated u current) }
  | .insertAudit id r, d => { d with audit := d.audit ++ [(id, r)] }

/-- The rows that a change locks. -/
def keys : ControlChange → List String
  | .upsertTenant r => [r.tenantId]
  | .updateTenant u _ => [u.tenantId]
  | .insertAudit _ _ => []

end ControlChange

/-- The changes on the tables. -/
def controlSchema : Schema ControlTables ControlChange String :=
  ⟨ControlChange.apply, ControlChange.keys⟩

/-! ### The connections -/

/-- The statements of the store, the ends of its transactions, and the ports beside it. -/
inductive StoreOp where
  | selectTenant (tenantId : String)
  | upsertTenant (record : TenantRecord)
  | updateTenant (updated : TenantRecord) (expectedVersion : Nat)
  | insertAudit (record : ControlAuditRecord)
  | selectAudit
  | commit
  | rollback
  | close
  | outside (op : ControlOp)

/-- The answers; an update answers whether it has found its row. -/
abbrev StoreOp.Ans : StoreOp → Type
  | .selectTenant _ => Option TenantRecord
  | .updateTenant _ _ => Bool
  | .selectAudit => List ControlAuditRecord
  | .outside op => op.Ans
  | _ => Unit

abbrev storeSignature : Signature := ⟨StoreOp, StoreOp.Ans⟩

/-- A program on a connection of the store. -/
abbrev StoreProgram := Program storeSignature ControlError

namespace StoreOp

def perform (op : StoreOp) : StoreProgram op.Ans :=
  Program.perform (S := storeSignature) op

/-- A statement in a transaction. -/
def isStatement : StoreOp → Bool
  | .selectTenant _ | .upsertTenant _ | .updateTenant _ _ | .insertAudit _ | .selectAudit => true
  | _ => false

/-- The call can fail; `now_iso` cannot. -/
def fallible : StoreOp → Bool
  | .outside .now => false
  | _ => true

end StoreOp

/-- What one call leaves to the outside world; a commit that fails may have been applied. -/
structure StoreChoice extends ControlChoice where
  applied : Bool
deriving Inhabited

/-- The database, the next number of the audit table, and the distinctness ledger. -/
structure StoreState (ι : Type) where
  db : Database ControlTables ControlChange String ι
  nextId : Nat
  ledger : Ledger

namespace StoreState

variable {ι : Type} [DecidableEq ι] (s : StoreState ι)

def view (i : ι) : ControlTables :=
  s.db.view controlSchema i

def commit (i : ι) : StoreState ι :=
  { s with db := s.db.commit controlSchema i }

def rollback (i : ι) : StoreState ι :=
  { s with db := s.db.rollback i }

def abort (i : ι) : StoreState ι :=
  { s with db := s.db.abort i }

/-- A change; it waits while another connection holds its row. -/
def write {α : Type} (i : ι) (w : ControlChange) (a : α) :
    Option (Except ControlError α × StoreState ι) :=
  (s.db.write controlSchema i w).map fun db => (.ok a, { s with db := db })

/-- `UPDATE … WHERE tenant_id = … AND version = …`, with the number of rows it has found. -/
def update (i : ι) (updated : TenantRecord) (expectedVersion : Nat) :
    Option (Except ControlError Bool × StoreState ι) :=
  match (s.view i).tenants.lookup updated.tenantId with
  | none => some (.ok false, s)
  | some current =>
      if current.version = expectedVersion then
        s.write i (.updateTenant updated expectedVersion) true
      else
        some (.ok false, s)

/-- The answer of a port beside the store, as before. -/
def askOutside (c : StoreChoice) (op : ControlOp) : Except ControlError op.Ans × StoreState ι :=
  let answered := (ControlState.mk ∅ [] s.ledger).answer c.toControlChoice op
  (answered.1, { s with ledger := answered.2.ledger })

/-- The answer to a call that does not fail. -/
def answer (i : ι) (c : StoreChoice) :
    (op : StoreOp) → Option (Except ControlError op.Ans × StoreState ι)
  | .selectTenant t => some (.ok ((s.view i).tenants.lookup t), s)
  | .upsertTenant r => s.write i (.upsertTenant r) ()
  | .updateTenant updated v => s.update i updated v
  | .insertAudit r => { s with nextId := s.nextId + 1 }.write i (.insertAudit s.nextId r) ()
  | .selectAudit => some (.ok (s.view i).trail, s)
  | .commit => some (.ok (), s.commit i)
  | .rollback => some (.ok (), s.rollback i)
  | .close => some (.ok (), s.rollback i)
  | .outside op => some (s.askOutside c op)

/-- What a call that fails leaves. -/
def fail (i : ι) (applied : Bool) : StoreOp → StoreState ι
  | .outside _ => s
  | .commit => if applied then s.commit i else s.rollback i
  | .rollback | .close => s.rollback i
  | _ => s.abort i

end StoreState

/-- The Control database as a machine, with one connection for every thread of `ι`. -/
abbrev controlDatabase (ι : Type) [DecidableEq ι] : Machine storeSignature ControlError ι where
  State := StoreState ι
  Choice := StoreChoice
  answer i op c s :=
    if c.fault ∧ op.fallible then
      some (.error .port, s.fail i c.applied op)
    else if s.db.aborted i ∧ op.isStatement then
      some (.error .port, s.abort i)
    else
      s.answer i c op
  drop i s := s.rollback i

/-! ### The store -/

namespace PostgresControlStore

open StoreOp (perform)

/-- A rollback whose failure does not matter. -/
def rollbackQuietly : StoreProgram Unit :=
  (perform .rollback).rescue fun _ => pure ()

/-- A statement with its commit; a failure of either rolls back and goes on. -/
def committing (statement : StoreOp) : StoreProgram Unit :=
  (do
    let _ ← perform statement
    perform .commit).rescue fun e => do
      rollbackQuietly
      Program.raise e

/-- `put_tenant`. -/
def putTenant (record : TenantRecord) : StoreProgram Unit :=
  committing (.upsertTenant record)

/-- `compare_and_swap_tenant`. -/
def compareAndSwapTenant (updated : TenantRecord) (expectedVersion : Nat) :
    StoreProgram TenantRecord := do
  let matched : Bool ← perform (.updateTenant updated expectedVersion)
  if matched then
    pure { updated with version := expectedVersion + 1 }
  else do
    perform .rollback
    Program.raise .concurrency

/-- `append_audit`. -/
def appendAudit (record : ControlAuditRecord) : StoreProgram Unit :=
  committing (.insertAudit record)

/-- The calls of the services, on the connection. -/
def serve : Handler controlSignature storeSignature ControlError
  | .getTenant t => perform (.selectTenant t)
  | .putTenant record => putTenant record
  | .compareAndSwapTenant updated v => compareAndSwapTenant updated v
  | .appendAudit record => appendAudit record
  | .listAudit => perform .selectAudit
  | .now => perform (.outside .now)
  | .token => perform (.outside .token)
  | .recordEvidence t e => perform (.outside (.recordEvidence t e))
  | .evidenceExcluding t => perform (.outside (.evidenceExcluding t))
  | .removeEvidence t => perform (.outside (.removeEvidence t))
  | .probe ref => perform (.outside (.probe ref))
  | .gather ref token namespace_ => perform (.outside (.gather ref token namespace_))
  | .invalidateTenant t correlationId => perform (.outside (.invalidateTenant t correlationId))
  | .provision t target => perform (.outside (.provision t target))
  | .applySchema t target ref => perform (.outside (.applySchema t target ref))
  | .controlDatabaseName => perform (.outside .controlDatabaseName)
  | .databaseExists target => perform (.outside (.databaseExists target))
  | .inspectDatabase target => perform (.outside (.inspectDatabase target))
  | .deprovision target => perform (.outside (.deprovision target))

/-- `release`. -/
def release : StoreProgram Unit := do
  rollbackQuietly
  (perform .close).rescue fun _ => pure ()

/-- A unit of work: a program on a connection of its own, which is released at the end. -/
def unitOfWork {α : Type} (x : ControlProgram α) : StoreProgram α :=
  (x.handle serve).finally_ release

end PostgresControlStore

end ControlPlane
