import SnackPortal.ControlPlane.Provisioning

/-!
# The onboarding orchestrator

Register, provision, apply the schema, verify: the orchestrator sequences the operations of
the registry and of the gate and writes no lifecycle state of its own.
-/

namespace ControlPlane

def tenantDsnRefPrefix := "tenant/"
def tenantDsnRefSuffix := "/dsn"

/-- The canonical secret reference of a tenant database. -/
def tenantDsnRef (tenantId : String) : String :=
  tenantDsnRefPrefix ++ tenantId ++ tenantDsnRefSuffix

/-- The tenant id of a canonical secret reference. -/
def tenantIdFromDsnRef (storeRef : String) : Option String :=
  let ref := storeRef.toList
  let pre := tenantDsnRefPrefix.toList
  let post := tenantDsnRefSuffix.toList
  if pre.isPrefixOf ref && post.isSuffixOf ref then
    let inner := (ref.drop pre.length).take (ref.length - pre.length - post.length)
    if inner ≠ [] ∧ '/' ∉ inner then some (String.ofList inner) else none
  else none

namespace OnboardingOrchestrator

/-- `_TERMINAL_ONBOARD_REASONS`, with the default of its lookup. -/
def terminalOnboardReason : TenantLifecycleState → String
  | .failed => "recover_required"
  | .quarantined => "quarantined"
  | .suspended => "suspended"
  | .decommissioned => "decommissioned"
  | _ => "already_onboarded"

variable (gate : ProvisioningVerificationService)

/-- Run `x`; whether it raised any exception is its result. -/
def succeeds {α : Type} (x : ControlProgram α) : ControlProgram Bool :=
  (x.bind fun _ => pure true).rescue fun _ => pure false

/-- `_provision_apply_verify`. -/
def provisionApplyVerify (tenantId target : String) (associationRef : SecretRef)
    (actor correlationId : String) : ControlProgram DistinctnessOutcome := do
  recordEvent tenantId Events.databaseProvisionRequested actor correlationId
  if !(← succeeds (provisionDatabase tenantId target)) then do
    recordEvent tenantId Events.databaseProvisionFailed actor correlationId
    pure ⟨.verificationIncomplete, "provision_failed"⟩
  else do
    recordEvent tenantId Events.databaseProvisionSucceeded actor correlationId
    recordEvent tenantId Events.tenantSchemaApplicationStarted actor correlationId
    if !(← succeeds (applySchema tenantId target associationRef)) then do
      recordEvent tenantId Events.tenantSchemaApplicationFailed actor correlationId
      pure ⟨.verificationIncomplete, "schema_application_failed"⟩
    else do
      recordEvent tenantId Events.tenantSchemaApplicationSucceeded actor correlationId
      recordEvent tenantId Events.secretReferenceRegistered actor correlationId
      recordEvent tenantId Events.databaseAssociated actor correlationId
      gate.verify tenantId actor correlationId

/-- Run `x` between the start and the terminal event of a recovery. -/
def asRecovery (tenantId actor correlationId : String)
    (x : ControlProgram DistinctnessOutcome) : ControlProgram DistinctnessOutcome := do
  let outcome ← x.rescue fun e => do
    recordEvent tenantId Events.onboardingRecoveryFailed actor correlationId
    Program.raise e
  recordEvent tenantId
    (if outcome.result = .verified then Events.onboardingRecoveryCompleted
      else Events.onboardingRecoveryFailed) actor correlationId
  pure outcome

/-- `_resume`. -/
def resume (record : TenantRecord) (target actor correlationId : String) :
    ControlProgram DistinctnessOutcome := do
  recordEvent record.tenantId Events.onboardingRecoveryStarted actor correlationId
  asRecovery record.tenantId actor correlationId
    (provisionApplyVerify gate record.tenantId target record.databaseAssociationRef actor
      correlationId)

/-- `onboard`. -/
def onboard (tenantId organizationRef federationConfigRef expectedSchemaVersion actor
    correlationId : String) : ControlProgram DistinctnessOutcome := do
  let target := tenantDatabaseName tenantId
  let associationRef : SecretRef := ⟨tenantDsnRef tenantId, "1"⟩
  let fresh : ControlProgram DistinctnessOutcome := do
    let _ ← TenantRegistry.registerTenant tenantId
      ⟨organizationRef, expectedSchemaVersion, associationRef, federationConfigRef⟩ actor
      correlationId
    let _ ← TenantRegistry.markProvisioning tenantId actor correlationId
    provisionApplyVerify gate tenantId target associationRef actor correlationId
  match ← getTenant tenantId with
  | none => fresh
  | some existing =>
      match existing.lifecycleState with
      | .registered => fresh
      | .ready => pure ⟨.verified, "already_onboarded"⟩
      | .provisioning => resume gate existing target actor correlationId
      | state => pure ⟨.verificationIncomplete, terminalOnboardReason state⟩

/-- `recover`. -/
def recover (tenantId actor correlationId : String) : ControlProgram DistinctnessOutcome := do
  match ← getTenant tenantId with
  | none => Program.raise (.onboarding "unknown tenant")
  | some record =>
      if record.lifecycleState ≠ .failed then
        Program.raise (.onboarding "illegal lifecycle transition")
      else do
        recordEvent tenantId Events.onboardingRecoveryStarted actor correlationId
        let trail ← listAudit
        if trail.any fun r => r.tenantId == some tenantId && r.action == Events.isolationAnomaly
        then do
          let _ ← TenantRegistry.quarantineTenant tenantId actor correlationId
          recordEvent tenantId Events.tenantQuarantined actor correlationId
          recordEvent tenantId Events.onboardingRecoveryFailed actor correlationId
          pure ⟨.isolationAnomaly, "anomaly_history"⟩
        else
          asRecovery tenantId actor correlationId (gate.verify tenantId actor correlationId)

end OnboardingOrchestrator

end ControlPlane
