import SnackPortal.ControlPlane.Registry

/-!
# The provisioning verification gate

`verify` is the only operation that commits `Ready`: it enters `Verifying` through the
compare-and-swap, probes the database, gathers the evidence, decides, records the evidence in
the ledger and then commits.  Every other ending drops the evidence of the tenant and leaves
it not routable.
-/

namespace ControlPlane

namespace Events

def distinctnessVerificationStarted := "DistinctnessVerificationStarted"
def distinctnessVerificationPassed := "DistinctnessVerificationPassed"
def distinctnessVerificationFailed := "DistinctnessVerificationFailed"
def verificationIncomplete := "VerificationIncomplete"
def isolationAnomaly := "IsolationAnomaly"
def databaseAssociated := "DatabaseAssociated"
def secretReferenceRegistered := "SecretReferenceRegistered"
def routingEnabled := "RoutingEnabled"
def routingDisabled := "RoutingDisabled"
def routerCacheInvalidated := "RouterCacheInvalidated"
def registryMappingChanged := "RegistryMappingChanged"
def tenantQuarantined := "TenantQuarantined"
def onboardingRecoveryStarted := "OnboardingRecoveryStarted"
def onboardingRecoveryCompleted := "OnboardingRecoveryCompleted"
def onboardingRecoveryFailed := "OnboardingRecoveryFailed"
def databaseProvisionRequested := "DatabaseProvisionRequested"
def databaseProvisionSucceeded := "DatabaseProvisionSucceeded"
def databaseProvisionFailed := "DatabaseProvisionFailed"
def tenantSchemaApplicationStarted := "TenantSchemaApplicationStarted"
def tenantSchemaApplicationSucceeded := "TenantSchemaApplicationSucceeded"
def tenantSchemaApplicationFailed := "TenantSchemaApplicationFailed"
def tenantDeprovisionRequested := "TenantDeprovisionRequested"
def tenantDeprovisionCompleted := "TenantDeprovisionCompleted"
def tenantDeprovisionFailed := "TenantDeprovisionFailed"

end Events

def defaultTenantDbPrefix := "sp2_tenant_"
def reasonSchemaMismatch := "schema_mismatch"
def reasonConcurrentLifecycleWinner := "concurrent_lifecycle_winner"

/-- The intended database of a tenant. -/
def tenantDatabaseName (tenantId : String) : String := defaultTenantDbPrefix ++ tenantId

/-- The collaborators of the gate that are plain data. -/
structure ProvisioningVerificationService where
  controlDbEvidence : DistinctnessEvidence
  supportedSchemaVersions : List String
  sentinelPrefix : String
deriving Inhabited

namespace ProvisioningVerificationService

/-- `_require`. -/
def require (tenantId : String) : ControlProgram TenantRecord := do
  match ← getTenant tenantId with
  | none => Program.raise (.provisioning "unknown tenant")
  | some rec => pure rec

/-- `_transition`. -/
def transition (rec : TenantRecord) (toState : TenantLifecycleState)
    (action actor correlationId : String) : ControlProgram TenantRecord := do
  let ts ← nowIso
  let updated := { rec with lifecycleState := toState, updatedAt := ts }
  let persisted ← compareAndSwapTenant updated rec.version
  recordAudit actor (some rec.tenantId) action (some rec.lifecycleState.value)
    (some toState.value) correlationId
  pure persisted

/-- A lost compare-and-swap of `x` becomes the error of the service. -/
def failingClosed {α : Type} (x : ControlProgram α) : ControlProgram α :=
  x.rescue fun
    | .concurrency => Program.raise (.provisioning "concurrent lifecycle transition")
    | e => Program.raise e

/-- `_invalidate`. -/
def invalidate (tenantId actor correlationId : String) : ControlProgram Unit := do
  invalidateTenant tenantId correlationId
  recordEvent tenantId Events.routerCacheInvalidated actor correlationId

/-- `_fail`. -/
def fail (rec : TenantRecord) (result : DistinctnessResult) (reason eventAction actor
    correlationId : String) (anomaly : Bool) : ControlProgram DistinctnessOutcome := do
  removeEvidence rec.tenantId
  failingClosed do
    if anomaly then do
      let _ ← transition rec .quarantined eventAction actor correlationId
      recordEvent rec.tenantId Events.tenantQuarantined actor correlationId
      recordEvent rec.tenantId Events.isolationAnomaly actor correlationId
    else do
      let _ ← transition rec .failed eventAction actor correlationId
      pure ()
  pure ⟨result, reason⟩

variable (gate : ProvisioningVerificationService)

/-- The checks of `verify` after the tenant entered `Verifying`, and its commit. -/
def verifyFrom (rec : TenantRecord) (tenantId actor correlationId : String) :
    ControlProgram DistinctnessOutcome := do
  let intendedTarget := tenantDatabaseName tenantId
  let probe ← probeDatabase rec.databaseAssociationRef
  if !probe.reachable then
    fail rec .verificationIncomplete reasonIncompleteEvidence Events.verificationIncomplete
      actor correlationId false
  else if (∀ v ∈ gate.supportedSchemaVersions, probe.observedSchemaVersion ≠ some v)
      ∨ probe.observedSchemaVersion ≠ some rec.expectedSchemaVersion then
    fail rec .verificationFailed reasonSchemaMismatch Events.distinctnessVerificationFailed
      actor correlationId false
  else if secretRefKey rec.databaseAssociationRef = gate.controlDbEvidence.secretRefKey then
    fail rec .isolationAnomaly reasonControlDbCollision Events.distinctnessVerificationFailed
      actor correlationId true
  else do
    let token ← newToken
    let namespace_ := gate.sentinelPrefix ++ tenantId
    let evidence ← gatherEvidence rec.databaseAssociationRef token namespace_
    let inventory ← evidenceExcluding tenantId
    let outcome := decideDistinctness tenantId evidence intendedTarget gate.controlDbEvidence
      inventory
    match outcome.result, evidence with
    | .verified, some evidence => do
        -- the recording write arbitrates the fingerprint rule among concurrent gates
        let recorded ← ((recordEvidence tenantId evidence).bind fun _ => pure true).rescue fun
          | .collision => pure false
          | e => Program.raise e
        if !recorded then
          fail rec .isolationAnomaly reasonTenantCollision
            Events.distinctnessVerificationFailed actor correlationId true
        else do
          let _ ← failingClosed
            (transition rec .ready Events.distinctnessVerificationPassed actor correlationId)
          recordEvent tenantId Events.routingEnabled actor correlationId
          pure outcome
    | _, _ => do
        removeEvidence tenantId
        if outcome.isAnomaly then do
          let _ ← fail rec outcome.result outcome.reason Events.distinctnessVerificationFailed
            actor correlationId true
        else if outcome.result = .verificationIncomplete then do
          let _ ← fail rec outcome.result outcome.reason Events.verificationIncomplete actor
            correlationId false
        else do
          let _ ← fail rec outcome.result outcome.reason Events.distinctnessVerificationFailed
            actor correlationId false
        pure outcome

/-- The entry of `verify` into `Verifying`: the record it holds afterwards, or nothing where
it yields to a concurrent lifecycle winner. -/
def enterVerifying (rec : TenantRecord) (tenantId actor correlationId : String) :
    ControlProgram (Option TenantRecord) :=
  ((transition rec .verifying Events.distinctnessVerificationStarted actor
      correlationId).bind fun rec => pure (some rec)).rescue fun
    | .concurrency => do
        let fresh ← require tenantId
        if fresh.lifecycleState ∈
            [TenantLifecycleState.suspended, .quarantined, .decommissioned, .failed] then
          pure none
        else if fresh.lifecycleState ∈ [TenantLifecycleState.verifying, .provisioning] then do
          -- one bounded retry with the freshly observed version
          let rec ← failingClosed
            (transition fresh .verifying Events.distinctnessVerificationStarted actor
              correlationId)
          pure (some rec)
        else
          Program.raise (.provisioning "concurrent lifecycle transition")
    | e => Program.raise e

/-- `verify`. -/
def verify (tenantId actor correlationId : String) : ControlProgram DistinctnessOutcome := do
  let rec ← require tenantId
  if rec.lifecycleState ∈
      [TenantLifecycleState.decommissioned, .suspended, .quarantined] then
    Program.raise (.provisioning "illegal lifecycle transition")
  else
    match ← enterVerifying rec tenantId actor correlationId with
    | none => pure ⟨.verificationIncomplete, reasonConcurrentLifecycleWinner⟩
    | some rec => gate.verifyFrom rec tenantId actor correlationId

/-- `reassociate`. -/
def reassociate (tenantId : String) (newAssociationRef : SecretRef)
    (actor correlationId : String) : ControlProgram DistinctnessOutcome := do
  let rec ← require tenantId
  if rec.lifecycleState ∈ [TenantLifecycleState.quarantined, .decommissioned] then
    Program.raise (.provisioning "illegal lifecycle transition")
  else do
    let ts ← nowIso
    let updated := { rec with
      databaseAssociationRef := newAssociationRef
      lifecycleState := .verifying
      updatedAt := ts }
    let _ ← failingClosed (compareAndSwapTenant updated rec.version)
    recordAudit actor (some tenantId) Events.databaseAssociated
      (some rec.lifecycleState.value) (some TenantLifecycleState.verifying.value) correlationId
    recordEvent tenantId Events.secretReferenceRegistered actor correlationId
    recordEvent tenantId Events.registryMappingChanged actor correlationId
    invalidate tenantId actor correlationId
    gate.verify tenantId actor correlationId

/-- `disable_routing`. -/
def disableRouting (tenantId actor correlationId : String) : ControlProgram Unit := do
  removeEvidence tenantId
  recordEvent tenantId Events.routingDisabled actor correlationId
  invalidate tenantId actor correlationId

end ProvisioningVerificationService

end ControlPlane
