import SnackPortal.Lineage.Append
import SnackPortal.TenantDatabase.Ports

/-!
# The writers of the chain

`LineageEmit.emit` and the importer's own `_append_lineage`: each reads the head of the chain,
builds the next row and inserts it, in the transaction of its caller.  The programs of a tenant
database that insert lineage rows only in these two ways are its `Appender`s.
-/

namespace Lineage

open TenantDatabase

/-- The settings of `LineageEmit`: the prefix of the key references, whether the session can
lock the chain, and whether writes are audited. -/
structure LineageEmit where
  keyPrefix : String
  locks : Bool
  audits : Bool
deriving Repr

namespace LineageEmit

/-- `_chain_key`. -/
def chainKey (service : LineageEmit) (tenantId : String) : TenantProgram String := do
  let storeRef := service.keyPrefix ++ "/" ++ tenantId ++ "/chainkey"
  let version : String ← perform (.currentVersion storeRef)
  perform (.resolve storeRef version)

/-- The lock of the chain, where the session has one. -/
def lock (service : LineageEmit) : TenantProgram Unit :=
  if service.locks then perform .lockChain else pure ()

/-- `_audit_written`. -/
def auditWritten (service : LineageEmit) (intent : LineageIntent) : TenantProgram Unit :=
  if service.audits then
    perform (.initiate ⟨intent.actorRef, "LineageWritten", intent.correlationId.getD "",
      "success", intent.targetRef, none⟩)
  else
    pure ()

/-- The insert of the row that was built. -/
def insert (service : LineageEmit) (intent : LineageIntent) (lineageId : String) :
    Except UnknownMarkerVersion LineageRow → TenantProgram String
  | .ok row => do
      let _ ← perform (.appendLineage row)
      let _ ← service.auditWritten intent
      pure lineageId
  | .error _ => Program.raise .unknownMarkerVersion

/-- `LineageEmit.emit`. -/
def emit (service : LineageEmit) (hmac : Hmac) (tenantId : String) (intent : LineageIntent) :
    TenantProgram String := do
  let _ ← service.lock
  let prev : Option LineageRow ← perform .latestLineage
  let lineageId : String ← perform .uuid4
  let key ← service.chainKey tenantId
  service.insert intent lineageId (row hmac key prev lineageId intent)

end LineageEmit

namespace PostgresImportStore

/-- The insert of the row that was built. -/
def insert : Except UnknownMarkerVersion LineageRow → TenantProgram String
  | .ok row => do
      let _ ← perform (.appendLineage row)
      pure row.lineageId
  | .error _ => Program.raise .unknownMarkerVersion

/-- `PostgresImportStore._append_lineage`. -/
def appendLineage (hmac : Hmac) (chainKey : ByteArray) (intent : LineageIntent) :
    TenantProgram String := do
  let head : Option LineageRow ← perform .latestLineage
  let lineageId : String ← perform .uuid4
  insert (lineageRow hmac chainKey head lineageId intent)

end PostgresImportStore

/-- The programs that insert lineage rows only through the two writers, under the key given;
everything else they may do in any order, ends of transactions included.  The key of the tenant
that they resolve is the key given. -/
inductive Appender (hmac : Hmac) (key : String) {α : Type} : TenantProgram α → Prop where
  | ret (r : Except ServiceError α) : Appender hmac key (.ret r)
  | call {op : TenantOp} {k : Except ServiceError op.Ans → TenantProgram α}
      (hop : ∀ row, op ≠ .appendLineage row) (hk : ∀ r, Appender hmac key (k r)) :
      Appender hmac key (.call op k)
  | resolveLineageKey (tenantRef : String)
      {k : Except ServiceError (TenantOp.Ans (.resolveLineageKey tenantRef)) → TenantProgram α}
      (hk : ∀ r, (∀ chainKey, r = .ok chainKey → chainKey = key.toUTF8) →
        Appender hmac key (k r)) :
      Appender hmac key (.call (.resolveLineageKey tenantRef) k)
  | emit (service : LineageEmit) (tenantId : String) (intent : LineageIntent)
      {k : Except ServiceError String → TenantProgram α} (hk : ∀ r, Appender hmac key (k r)) :
      Appender hmac key ((service.emit hmac tenantId intent).andThen k)
  | appendLineage (intent : LineageIntent) {k : Except ServiceError String → TenantProgram α}
      (hk : ∀ r, Appender hmac key (k r)) :
      Appender hmac key ((PostgresImportStore.appendLineage hmac key.toUTF8 intent).andThen k)

namespace Appender

variable {hmac : Hmac} {key : String} {α β : Type}

theorem andThen {x : TenantProgram α} {f : Except ServiceError α → TenantProgram β}
    (hx : Appender hmac key x) (hf : ∀ r, Appender hmac key (f r)) :
  Appender hmac key (x.andThen f)
  := by
  induction hx with
  | ret r => apply hf
  | call hop _ ih => exact .call hop ih
  | resolveLineageKey tenantRef _ ih => exact .resolveLineageKey tenantRef ih
  | emit service tenantId intent _ ih =>
      rw [Program.andThen_assoc]
      apply Appender.emit service tenantId intent ih
  | appendLineage intent _ ih =>
      rw [Program.andThen_assoc]
      apply Appender.appendLineage intent ih

theorem of_calls {x : TenantProgram α}
    (hx : x.Calls fun op : TenantOp => ∀ row, op ≠ .appendLineage row) :
  Appender hmac key x
  := by
  induction x with
  | ret r => apply Appender.ret
  | call op k ih => exact .call hx.1 fun r => ih r (hx.2 r)

theorem bind {x : TenantProgram α} {f : α → TenantProgram β} (hx : Appender hmac key x)
    (hf : ∀ a, Appender hmac key (f a)) :
  Appender hmac key (x >>= f)
  := by
  apply hx.andThen
  intro r
  cases r with
  | ok a => apply hf
  | error e => apply Appender.ret

theorem rescue {x : TenantProgram α} {f : ServiceError → TenantProgram α}
    (hx : Appender hmac key x) (hf : ∀ e, Appender hmac key (f e)) :
  Appender hmac key (x.rescue f)
  := by
  apply hx.andThen
  intro r
  cases r with
  | ok a => apply Appender.ret
  | error e => apply hf

/-- `LineageEmit.emit` as a whole. -/
theorem of_emit {service : LineageEmit} {tenantId : String} {intent : LineageIntent} :
  Appender hmac key (service.emit hmac tenantId intent)
  := by
  rw [← Program.andThen_ret (service.emit hmac tenantId intent)]
  apply Appender.emit
  apply Appender.ret

/-- `_append_lineage` as a whole. -/
theorem of_appendLineage {intent : LineageIntent} :
  Appender hmac key (PostgresImportStore.appendLineage hmac key.toUTF8 intent)
  := by
  rw [← Program.andThen_ret (PostgresImportStore.appendLineage hmac key.toUTF8 intent)]
  apply Appender.appendLineage
  apply Appender.ret

end Appender

end Lineage
