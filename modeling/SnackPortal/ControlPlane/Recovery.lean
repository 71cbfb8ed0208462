import SnackPortal.Program.History
import SnackPortal.ControlPlane.Onboarding

/-!
# Deprovisioning a tenant database

`deprovisionTenantDatabase` is the only caller of the operator's `deprovision`.  It drops the
database of a tenant only after a proof of ownership: the record, the Control identity and the
ledger are read before and again right before the drop, and the content census lies between.
-/

namespace ControlPlane

/-! ### The content census -/

/-- What the census of a database finds. -/
inductive DatabaseContent where
  | empty
  | bootstrapOnly
  | nonEmpty
deriving DecidableEq, Repr, Inhabited

def seedTable := "public.agents"
def sentinelTable := "dv_sentinel.marker"
def versionTable := "public.schema_version"

/-- The tables the schema application creates. -/
def bootstrapTableSet : List String :=
  [versionTable, sentinelTable, "public.lineage", "public.lineage_segment", "public.import_job",
    "public.import_idempotency", "public.import_checkpoint", seedTable, "public.ai_agents",
    "public.startups", "public.investors", "public.deals", "public.startup_ownership",
    "public.investor_ownership", "public.deal_ownership", "public.startup_ai_ownership",
    "public.investor_ai_ownership", "public.deal_ai_ownership", "public.startup_contacts",
    "public.investor_contacts", "public.startup_investors"]

/-- The row count of one table breaks its census rule. -/
def breaksCensus (inspection : DatabaseInspection) (supportedSchemaVersions : List String)
    (name : String) (count : Int) : Bool :=
  if name = sentinelTable then
    false
  else if name = seedTable then
    count != 1 || inspection.agentsTotal != 1 || inspection.agentsSystemPrimary != 1
  else if name = versionTable then
    count < 0 || inspection.schemaVersions.isEmpty
      || inspection.schemaVersions.any fun v => !supportedSchemaVersions.contains v
  else
    count != 0

/-- `classify_content`. -/
def classifyContent (inspection : DatabaseInspection) (supportedSchemaVersions : List String) :
    DatabaseContent :=
  let tables := inspection.userTables
  if tables.isEmpty then
    .empty
  else if tables.any fun t => !bootstrapTableSet.contains t.1 then
    .nonEmpty
  else if tables.any fun t => breaksCensus inspection supportedSchemaVersions t.1 t.2 then
    .nonEmpty
  else
    .bootstrapOnly

/-! ### The request -/

def deprovisionEligibleStates : List TenantLifecycleState :=
  [.provisioning, .failed, .quarantined]

def quarantineEligibleStates : List TenantLifecycleState := [.provisioning, .failed]

def reasonDeprovisioned := "deprovisioned"
def reasonAbsentNoop := "absent_noop"
def reasonUnknownTenant := "unknown_tenant"
def reasonIneligibleState := "ineligible_lifecycle_state"
def reasonOutsideNamespace := "target_outside_tenant_namespace"
def reasonControlTarget := "control_database_target"
def reasonControlUnavailable := "control_identity_unavailable"
def reasonNonCanonicalRef := "non_canonical_association_ref"
def reasonContentNotEmpty := "content_not_empty"
def reasonLedgerCollision := "ledger_collision"
def reasonFingerprintMismatch := "fingerprint_mismatch"
def reasonInspectionUnavailable := "inspection_unavailable"
def reasonDeprovisionFailed := "deprovision_failed"

/-- The reasons that put an eligible tenant into the isolation hold. -/
def anomalyReasons : List String :=
  [reasonOutsideNamespace, reasonControlTarget, reasonNonCanonicalRef, reasonContentNotEmpty,
    reasonLedgerCollision, reasonFingerprintMismatch]

/-- `_NO_TENANT`: to exclude it from the evidence excludes nothing. -/
def noTenant := ""

/-- The result of a deprovision request. -/
structure DeprovisionOutcome where
  tenantId : String
  target : String
  dropped : Bool
  completed : Bool
  reason : String
deriving DecidableEq, Repr, Inhabited

/-- A program with the terminal latch: it starts from the latch and ends with a result or an
exception beside the latch, which is set right before each terminal record. -/
def Latched (α : Type) : Type := Bool → ControlProgram (Except ControlError α × Bool)

namespace Latched

/-- Run a program that does not look at the latch. -/
def lift {α : Type} (x : ControlProgram α) : Latched α := fun latch =>
  x.andThen fun r => pure (r, latch)

/-- Set the latch. -/
def attempt : Latched Unit := fun _ => pure (.ok (), true)

instance : Monad Latched where
  pure a := fun latch => pure (.ok a, latch)
  bind x f := fun latch => do
    match ← x latch with
    | (.ok a, latch) => f a latch
    | (.error e, latch) => pure (.error e, latch)

end Latched

/-- The collaborators of the service that are plain data. -/
structure RecoveryCompensationService where
  supportedSchemaVersions : List String
deriving DecidableEq, Inhabited

namespace RecoveryCompensationService

/-- The recorded evidence does not identify the database. -/
def mismatches (own : DistinctnessEvidence) (target fingerprint : String) : Bool :=
  own.fingerprint != fingerprint || own.observedTarget != target

/-- `_non_content_proof`. -/
def nonContentProof (tenantId target : String) (fingerprint : Option String) :
    ControlProgram (Option String) := do
  match ← getTenant tenantId with
  | none => pure (some reasonUnknownTenant)
  | some record =>
      if record.lifecycleState ∉ deprovisionEligibleStates then
        pure (some reasonIneligibleState)
      else if !defaultTenantDbPrefix.toList.isPrefixOf target.toList then
        pure (some reasonOutsideNamespace)
      else
        match ← controlDatabaseName with
        | none => pure (some reasonControlUnavailable)
        | some controlName =>
            if target = controlName then
              pure (some reasonControlTarget)
            else do
              let others ← evidenceExcluding tenantId
              if others.any fun e => e.2.observedTarget == target
                  || fingerprint == some e.2.fingerprint then
                pure (some reasonLedgerCollision)
              else
                match fingerprint with
                | none => pure none
                | some fingerprint => do
                    let all ← evidenceExcluding noTenant
                    match all.lookup tenantId with
                    | none => pure none
                    | some own =>
                        if mismatches own target fingerprint then
                          pure (some reasonFingerprintMismatch)
                        else
                          pure none

/-- The proof of ownership before the census: the non-content proof, and a canonical
association reference. -/
def ownershipProof (tenantId target : String) : ControlProgram (Option String) := do
  match ← nonContentProof tenantId target none with
  | some reason => pure (some reason)
  | none =>
      match ← getTenant tenantId with
      | none => pure (some reasonUnknownTenant)
      | some record =>
          if tenantIdFromDsnRef record.databaseAssociationRef.storeRef ≠ some tenantId then
            pure (some reasonNonCanonicalRef)
          else
            pure none

/-- The quarantine of a refusal. -/
def holdAnomaly (tenantId reason actor correlationId : String) (quarantine : Bool) :
    ControlProgram Unit :=
  if quarantine && anomalyReasons.contains reason then do
    match ← getTenant tenantId with
    | none => pure ()
    | some record =>
        if record.lifecycleState ∈ quarantineEligibleStates then do
          let _ ← TenantRegistry.quarantineTenant tenantId actor correlationId
          recordEvent tenantId Events.tenantQuarantined actor correlationId
        else
          pure ()
  else
    pure ()

/-- `_fail`. -/
def fail (tenantId target reason actor correlationId : String) (quarantine : Bool := true) :
    Latched DeprovisionOutcome := do
  Latched.lift (holdAnomaly tenantId reason actor correlationId quarantine)
  Latched.attempt
  Latched.lift (recordEvent tenantId Events.tenantDeprovisionFailed actor correlationId)
  pure ⟨tenantId, target, false, false, reason⟩

/-- The terminal record of a request that succeeds. -/
def complete (tenantId target reason actor correlationId : String) (dropped : Bool) :
    Latched DeprovisionOutcome := do
  Latched.attempt
  Latched.lift (recordEvent tenantId Events.tenantDeprovisionCompleted actor correlationId)
  pure ⟨tenantId, target, dropped, true, reason⟩

variable (service : RecoveryCompensationService)

/-- `_proven_deprovision`. -/
def provenDeprovision (tenantId target actor correlationId : String) :
    Latched DeprovisionOutcome := do
  match ← Latched.lift (ownershipProof tenantId target) with
  | some reason => fail tenantId target reason actor correlationId
  | none =>
  match ← Latched.lift (databaseExists target) with
  | none => fail tenantId target reasonInspectionUnavailable actor correlationId
  | some false => complete tenantId target reasonAbsentNoop actor correlationId false
  | some true =>
  match ← Latched.lift (inspectDatabase target) with
  | none => fail tenantId target reasonInspectionUnavailable actor correlationId
  | some inspection => do
      let all ← Latched.lift (evidenceExcluding noTenant)
      if (all.lookup tenantId).any fun own => mismatches own target inspection.fingerprint then
        fail tenantId target reasonFingerprintMismatch actor correlationId
      else if classifyContent inspection service.supportedSchemaVersions = .nonEmpty then
        fail tenantId target reasonContentNotEmpty actor correlationId
      else
        -- the drop is proven on reads that follow the census
        match ← Latched.lift
          (nonContentProof tenantId target (some inspection.fingerprint)) with
        | some reason => fail tenantId target reason actor correlationId
        | none =>
            if !(← Latched.lift (OnboardingOrchestrator.succeeds (deprovisionDatabase target)))
            then
              fail tenantId target reasonDeprovisionFailed actor correlationId false
            else
              complete tenantId target reasonDeprovisioned actor correlationId true

/-- `deprovision_tenant_database`. -/
def deprovisionTenantDatabase (tenantId actor correlationId : String) :
    ControlProgram DeprovisionOutcome := do
  let target := tenantDatabaseName tenantId
  recordEvent tenantId Events.tenantDeprovisionRequested actor correlationId
  match ← service.provenDeprovision tenantId target actor correlationId false with
  | (.ok outcome, _) => pure outcome
  | (.error e, attempted) => do
      if attempted then
        Program.raise e
      else do
        (recordEvent tenantId Events.tenantDeprovisionFailed actor correlationId).rescue
          fun _ => pure ()
        Program.raise e

end RecoveryCompensationService

end ControlPlane
