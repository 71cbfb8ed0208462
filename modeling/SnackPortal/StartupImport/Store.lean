import SnackPortal.Lineage.Emit
import SnackPortal.SnackPortal2.References

/-!
# Importing a startup

`ImportService.import_startup` over `PostgresImportStore`: the probe for an import under the same
key, the read of the directory, and the one transaction that writes the copy, its lineage row,
the job row and the idempotency row.
-/

namespace StartupImport

open Lineage (Hmac LineageIntent Appender)
open SnackPortal2 (composeRecordRef)
open TenantDatabase

/-- The body of `with open_tenant_connection(grant)`: it is committed where it returns and rolled
back where it raises, and the connection is closed. -/
def withConnection {α : Type} (body : TenantProgram α) : TenantProgram α := do
  let _ ← perform .openSession
  body.andThen fun
    | .ok a => do
        let _ ← perform .commit
        let _ ← perform .close
        pure a
    | .error e => do
        let _ ← (perform .rollback).rescue fun _ => pure ()
        let _ ← perform .close
        Program.raise e

namespace PostgresImportStore

/-- The record that an import recorded earlier produced. -/
def recordOf (tenantRef : String) (row : String × String × String) : ImportRecord where
  importId := row.1
  tenantRecordRef := row.2.2
  lineageRef := composeRecordRef tenantRef "lineage" row.2.1

/-- `_existing`. -/
def existing (tenantRef key : String) : TenantProgram (Option ImportRecord) := do
  let row : Option (String × String × String) ← perform (.selectExisting key)
  pure (row.map (recordOf tenantRef))

/-- `find_existing`. -/
def findExisting (tenantRef key : String) : TenantProgram (Option ImportRecord) := do
  let _ ← perform (.resolveLineageKey tenantRef)
  let _ ← perform (.grantFor tenantRef)
  withConnection (existing tenantRef key)

/-- `_write_copy`. -/
def writeCopy (tenantRef : String) (source : GlobalSourceRecord) : TenantProgram String := do
  let id : String ← perform (.insertCopy source)
  pure (composeRecordRef tenantRef "startups" id)

/-- The job row of an import. -/
def jobRow (tenantRef key : String) (attribution : ImportAttribution) : JobRow where
  jobId := key
  operationKey := key
  tenantId := tenantRef
  state := "completed"
  correlationId := attribution.correlationId

/-- `_record_bookkeeping`. -/
def recordBookkeeping (tenantRef key : String) (attribution : ImportAttribution) :
    TenantProgram Unit := do
  let _ ← perform (.insertJob (jobRow tenantRef key attribution))
  perform (.insertIdempotency key ⟨key, "completed", some (1, 0, 0)⟩)

/-- The intent of the lineage row of an import. -/
def importIntent (key targetRef occurredAt schemaVersion : String) (source : GlobalSourceRecord)
    (attribution : ImportAttribution) : LineageIntent where
  eventType := "import"
  occurredAt := occurredAt
  actorRef := attribution.actorRef
  sourceRef := source.recordRef
  targetRef := targetRef
  operation := "global_startup_import"
  schemaVersion := schemaVersion
  derivationRef := some key
  parentLineageRef := none
  correlationId := attribution.correlationId

/-- The four writes of an import. -/
def writeRows (hmac : Hmac) (chainKey : ByteArray) (schemaVersion tenantRef key : String)
    (source : GlobalSourceRecord) (attribution : ImportAttribution) :
    TenantProgram (ImportRecord × Bool) := do
  let targetRef ← writeCopy tenantRef source
  let occurredAt : String ← perform .now
  let lineageId ← Lineage.PostgresImportStore.appendLineage hmac chainKey
    (importIntent key targetRef occurredAt schemaVersion source attribution)
  let _ ← recordBookkeeping tenantRef key attribution
  pure (⟨key, targetRef, composeRecordRef tenantRef "lineage" lineageId⟩, false)

/-- What `write_import` does after it has looked for an import under the same key. -/
def writeUnless (hmac : Hmac) (chainKey : ByteArray) (schemaVersion tenantRef key : String)
    (source : GlobalSourceRecord) (attribution : ImportAttribution) :
    Option ImportRecord → TenantProgram (ImportRecord × Bool)
  | some replayed => pure (replayed, true)
  | none => do
      let holds : Bool ← perform (.holdsSource source.recordRef)
      if holds then
        Program.raise .invalidRequest
      else
        writeRows hmac chainKey schemaVersion tenantRef key source attribution

/-- `write_import`. -/
def writeImport (hmac : Hmac) (tenantRef key : String) (source : GlobalSourceRecord)
    (attribution : ImportAttribution) : TenantProgram (ImportRecord × Bool) := do
  let chainKey : ByteArray ← perform (.resolveLineageKey tenantRef)
  let schemaVersion : String ← perform (.grantFor tenantRef)
  withConnection do
    let _ ← perform .lockImport
    let replayed ← existing tenantRef key
    writeUnless hmac chainKey schemaVersion tenantRef key source attribution replayed

end PostgresImportStore

namespace ImportService

/-- What `import_startup` does with the record that the directory returned. -/
def importSource (hmac : Hmac) (tenantRef key : String) (context : RequestContext) :
    Option GlobalSourceRecord → TenantProgram (ImportRecord × Bool)
  | none => Program.raise .notFound
  | some source =>
      PostgresImportStore.writeImport hmac tenantRef key source
        ⟨context.principalRef, context.correlationId⟩

/-- What `import_startup` does after it has looked for an import under the same key. -/
def importUnless (hmac : Hmac) (tenantRef key : String) (context : RequestContext)
    (sourceRef : String) : Option ImportRecord → TenantProgram (ImportRecord × Bool)
  | some existing => pure (existing, true)
  | none => do
      let source : Option GlobalSourceRecord ← perform (.readDirectory sourceRef)
      importSource hmac tenantRef key context source

/-- `import_startup`, where `digest` is SHA-256 as a hexadecimal text. -/
def importStartup (hmac : Hmac) (digest : String → String) (context : RequestContext)
    (sourceRef : String) : TenantProgram (ImportRecord × Bool) :=
  match context.tenantContext.filter (· ≠ "") with
  | none => Program.raise .consistentTenantDenial
  | some tenantRef => do
      let key := operationKey digest tenantRef sourceRef
      let existing ← PostgresImportStore.findExisting tenantRef key
      importUnless hmac tenantRef key context sourceRef existing

end ImportService

/-! ### The chain -/

section Appender

variable {hmac : Hmac} {chainKey : String}

/-- A call that is not the insert of a lineage row. -/
theorem appender_perform {op : TenantOp} (hop : ∀ row, op ≠ .appendLineage row) :
  Appender hmac chainKey (perform op)
  := by
  apply Appender.of_calls
  apply Program.Calls.perform hop

theorem appender_withConnection {α : Type} {body : TenantProgram α}
    (hbody : Appender hmac chainKey body) :
  Appender hmac chainKey (withConnection body)
  := by
  apply (appender_perform (by simp)).bind
  intro _
  apply hbody.andThen
  intro r
  cases r with
  | ok a =>
      apply (appender_perform (by simp)).bind
      intro _
      apply (appender_perform (by simp)).bind
      intro _
      apply Appender.ret
  | error e =>
      apply Appender.bind
      · apply (appender_perform (by simp)).rescue
        intro _
        apply Appender.ret
      · intro _
        apply (appender_perform (by simp)).bind
        intro _
        apply Appender.ret

theorem appender_existing {tenantRef key : String} :
  Appender hmac chainKey (PostgresImportStore.existing tenantRef key)
  := by
  apply (appender_perform (by simp)).bind
  intro row
  apply Appender.ret

theorem appender_findExisting {tenantRef key : String} :
  Appender hmac chainKey (PostgresImportStore.findExisting tenantRef key)
  := by
  apply (appender_perform (by simp)).bind
  intro _
  apply (appender_perform (by simp)).bind
  intro _
  apply appender_withConnection appender_existing

theorem appender_writeRows {schemaVersion tenantRef key : String} {source : GlobalSourceRecord}
    {attribution : ImportAttribution} :
  Appender hmac chainKey (PostgresImportStore.writeRows hmac chainKey.toUTF8 schemaVersion
    tenantRef key source attribution)
  := by
  apply Appender.bind
  · apply (appender_perform (by simp)).bind
    intro id
    apply Appender.ret
  · intro targetRef
    apply (appender_perform (by simp)).bind
    intro occurredAt
    apply Appender.of_appendLineage.bind
    intro lineageId
    apply Appender.bind
    · apply (appender_perform (by simp)).bind
      intro _
      apply appender_perform (by simp)
    · intro _
      apply Appender.ret

/-- `write_import` writes the chain under the key that it resolved. -/
theorem appender_writeImport {tenantRef key : String} {source : GlobalSourceRecord}
    {attribution : ImportAttribution} :
  Appender hmac chainKey
    (PostgresImportStore.writeImport hmac tenantRef key source attribution)
  := by
  apply Appender.resolveLineageKey tenantRef
  intro r hr
  cases r with
  | error e => apply Appender.ret
  | ok material =>
      obtain rfl := hr material rfl
      apply (appender_perform (by simp)).bind
      intro schemaVersion
      apply appender_withConnection
      apply (appender_perform (by simp)).bind
      intro _
      apply appender_existing.bind
      intro replayed
      cases replayed with
      | some replayed => apply Appender.ret
      | none =>
          apply (appender_perform (by simp)).bind
          intro holds
          cases holds with
          | true => apply Appender.ret
          | false => apply appender_writeRows

/-- Imports of startups write the chain through `_append_lineage` only. -/
theorem importStartup_appender {digest : String → String} {context : RequestContext}
    {sourceRef : String} :
  Appender hmac chainKey (ImportService.importStartup hmac digest context sourceRef)
  := by
  rw [ImportService.importStartup]
  split
  · apply Appender.ret
  · apply appender_findExisting.bind
    intro existing
    cases existing with
    | some existing => apply Appender.ret
    | none =>
        apply (appender_perform (by simp)).bind
        intro source
        cases source with
        | none => apply Appender.ret
        | some source => apply appender_writeImport

end Appender

end StartupImport
