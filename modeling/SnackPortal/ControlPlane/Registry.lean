import SnackPortal.ControlPlane.Ports

/-!
# The tenant registry

Registration, and the lifecycle transitions the registry owns.  Every transition reads the
record, checks the state it is in, writes through the compare-and-swap of the store and then
appends the audit record; registration checks for an existing record and then writes without
a version.
-/

namespace ControlPlane

/-- `ControlPlaneAudit.record`. -/
def recordAudit (actor : String) (tenantId : Option String) (action : String)
    (fromState toState : Option String) (correlationId : String) : ControlProgram Unit := do
  let timestamp ← nowIso
  appendAudit ⟨actor, tenantId, action, fromState, toState, timestamp, correlationId⟩

/-- An audit event that changes no lifecycle state. -/
def recordEvent (tenantId action actor correlationId : String) : ControlProgram Unit :=
  recordAudit actor (some tenantId) action none none correlationId

/-- The calls of an audit write. -/
theorem recordAudit_calls {p : ControlOp → Prop} {actor : String} {tenantId : Option String}
    {action : String} {fromState toState : Option String} {correlationId : String}
    (hnow : p .now) (haudit : ∀ record, record.action = action → p (.appendAudit record)) :
  (recordAudit actor tenantId action fromState toState correlationId).Calls p
  := by
  apply Program.Calls.bind
  · apply Program.Calls.perform hnow
  · intro timestamp
    apply Program.Calls.perform (S := controlSignature) (haudit _ rfl)

namespace TenantRegistry

/-- The states the registry never sets. -/
def phaseFourStates : List TenantLifecycleState := [.verifying, .ready, .failed]

/-- A character of the admitted tenant ids. -/
def isTenantIdChar (c : Char) : Bool :=
  ('a' ≤ c && c ≤ 'z') || ('0' ≤ c && c ≤ '9') || c == '_'

/-- The reserved tenant id, whatever its case. -/
def isReserved (tenantId : String) : Bool :=
  tenantId.toList.map Char.toLower == "control".toList

/-- The shape of the admitted tenant ids: `^[a-z0-9_]+$`, matched in full. -/
def hasTenantIdShape (tenantId : String) : Bool :=
  !tenantId.toList.isEmpty && tenantId.toList.all isTenantIdChar

/-- What a registration carries besides the tenant id. -/
structure Registration where
  organizationRef : String
  expectedSchemaVersion : String
  databaseAssociationRef : SecretRef
  federationConfigRef : String
deriving DecidableEq, Repr, Inhabited

/-- `register_tenant`. -/
def registerTenant (tenantId : String) (r : Registration) (actor correlationId : String) :
    ControlProgram TenantRecord := do
  if isReserved tenantId then
    Program.raise (.registry ("invalid tenant_id '" ++ tenantId ++ "': reserved identifier"))
  else if !hasTenantIdShape tenantId then
    Program.raise (.registry ("invalid tenant_id '" ++ tenantId ++ "': must match ^[a-z0-9_]+$"))
  else
    match ← getTenant tenantId with
    | some existing => pure existing
    | none => do
        let ts ← nowIso
        let record : TenantRecord :=
          { tenantId := tenantId
            organizationRef := r.organizationRef
            lifecycleState := .registered
            expectedSchemaVersion := r.expectedSchemaVersion
            databaseAssociationRef := r.databaseAssociationRef
            federationConfigRef := r.federationConfigRef
            createdAt := ts
            updatedAt := ts
            version := 0 }
        recordAudit actor (some tenantId) "RegisterTenant" none
          (some TenantLifecycleState.registered.value) correlationId
        putTenant record
        pure record

/-- `_transition`. -/
def transition (tenantId : String) (toState : TenantLifecycleState)
    (allowedFrom : List TenantLifecycleState) (action actor correlationId : String) :
    ControlProgram TenantRecord := do
  if toState ∈ phaseFourStates then
    Program.raise .phaseFourDeferred
  else
    match ← getTenant tenantId with
    | none => Program.raise (.registry "unknown tenant")
    | some record =>
        if record.lifecycleState = toState then
          -- re-issuing a transition is an idempotent no-op: no write, no audit record
          pure record
        else if record.lifecycleState ∉ allowedFrom then
          Program.raise (.registry "illegal lifecycle transition")
        else do
          let ts ← nowIso
          let updated := { record with lifecycleState := toState, updatedAt := ts }
          let persisted ← compareAndSwapTenant updated record.version
          recordAudit actor (some tenantId) action (some record.lifecycleState.value)
            (some toState.value) correlationId
          pure persisted

/-- The calls of a transition: its write is of the state it goes to, its audit record of its
action. -/
theorem transition_calls {p : ControlOp → Prop} {tenantId action actor correlationId : String}
    {toState : TenantLifecycleState} {allowedFrom : List TenantLifecycleState}
    (hget : p (.getTenant tenantId)) (hnow : p .now)
    (hswap : ∀ updated v, updated.lifecycleState = toState → p (.compareAndSwapTenant updated v))
    (haudit : ∀ record, record.action = action → p (.appendAudit record)) :
  (transition tenantId toState allowedFrom action actor correlationId).Calls p
  := by
  rw [transition]
  split
  · apply Program.Calls.raise
  · apply Program.Calls.bind (Program.Calls.perform (S := controlSignature) hget)
    rintro (_ | record)
    · apply Program.Calls.raise
    · simp only
      split
      · apply Program.Calls.pure
      split
      · apply Program.Calls.raise
      apply Program.Calls.bind (Program.Calls.perform (S := controlSignature) hnow)
      intro ts
      apply Program.Calls.bind
      · apply Program.Calls.perform (S := controlSignature) (hswap _ _ rfl)
      · intro persisted
        apply Program.Calls.bind (recordAudit_calls hnow haudit)
        intro _
        apply Program.Calls.pure

def markProvisioning (tenantId actor correlationId : String) : ControlProgram TenantRecord :=
  transition tenantId .provisioning [.registered] "MarkProvisioning" actor correlationId

def suspendTenant (tenantId actor correlationId : String) : ControlProgram TenantRecord :=
  transition tenantId .suspended [.ready] "SuspendTenant" actor correlationId

def decommissionTenant (tenantId actor correlationId : String) : ControlProgram TenantRecord :=
  transition tenantId .decommissioned
    [.registered, .provisioning, .suspended, .failed, .quarantined] "DecommissionTenant" actor
    correlationId

def quarantineTenant (tenantId actor correlationId : String) : ControlProgram TenantRecord :=
  transition tenantId .quarantined [.provisioning, .failed] "QuarantineTenant" actor
    correlationId

end TenantRegistry

end ControlPlane
