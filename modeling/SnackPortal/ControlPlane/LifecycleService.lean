import Mathlib.Data.String.Basic
import SnackPortal.Data.Decimal
import SnackPortal.Program.Discipline
import SnackPortal.ControlPlane.Registry

/-!
# The tenant lifecycle service

Verification, activation, reactivation and re-association of a tenant's database, written through
the compare-and-swap of the store.  A re-association needs a greater version of the association.
Two versions compare as integers where both are texts of integers, and as texts otherwise, which
is a strict order only among versions of one kind: the text between two integers leads back.
-/

namespace ControlPlane

/-- `_version_gt`. -/
def versionGt (new old : String) : Bool :=
  match Decimal.toInt new, Decimal.toInt old with
  | some n, some m => m < n
  | _, _ => old < new

namespace TenantLifecycleService

/-- `_require`. -/
def require (tenantId : String) : ControlProgram TenantRecord := do
  match ← getTenant tenantId with
  | none => Program.raise (.lifecycle "unknown tenant")
  | some rec => pure rec

/-- The compare-and-swap of the service, which fails closed where it lost. -/
def swap (updated : TenantRecord) (expectedVersion : Nat) : ControlProgram TenantRecord :=
  (compareAndSwapTenant updated expectedVersion).rescue fun
    | .concurrency => Program.raise (.lifecycle "concurrent lifecycle transition")
    | e => Program.raise e

/-- `_set`. -/
def set (rec : TenantRecord) (toState : TenantLifecycleState)
    (actor correlationId action : String) : ControlProgram TenantRecord := do
  let ts ← nowIso
  let persisted ← swap { rec with lifecycleState := toState, updatedAt := ts } rec.version
  recordAudit actor (some rec.tenantId) action (some rec.lifecycleState.value)
    (some toState.value) correlationId
  pure persisted

/-- `verify_tenant`. -/
def verifyTenant (supported : List String) (tenantId actor correlationId : String) :
    ControlProgram TenantRecord := do
  let rec ← require tenantId
  if rec.lifecycleState ∈
      [TenantLifecycleState.decommissioned, .suspended, .quarantined] then
    Program.raise (.lifecycle "illegal lifecycle transition")
  else do
    let _ ← set rec .verifying actor correlationId "VerifyTenant"
    let result ← probeDatabase rec.databaseAssociationRef
    let cur ← require tenantId
    if !result.reachable then
      set cur .failed actor correlationId "VerifyTenant:unreachable"
    else if (∀ v ∈ supported, result.observedSchemaVersion ≠ some v)
        ∨ result.observedSchemaVersion ≠ some rec.expectedSchemaVersion then
      set cur .failed actor correlationId "VerifyTenant:schema"
    else
      set cur .ready actor correlationId "VerifyTenant:ready"

/-- `activate_tenant`. -/
def activateTenant (tenantId actor correlationId : String) : ControlProgram TenantRecord := do
  let rec ← require tenantId
  if rec.lifecycleState ≠ .verifying then
    Program.raise (.lifecycle "ActivateTenant requires Verifying")
  else
    set rec .ready actor correlationId "ActivateTenant"

/-- `reactivate_tenant`. -/
def reactivateTenant (supported : List String) (tenantId actor correlationId : String) :
    ControlProgram TenantRecord := do
  let rec ← require tenantId
  if rec.lifecycleState ≠ .suspended then
    Program.raise (.lifecycle "ReactivateTenant requires Suspended")
  else do
    let _ ← set rec .verifying actor correlationId "ReactivateTenant"
    verifyTenant supported tenantId actor correlationId

/-- `reassociate_database`. -/
def reassociateDatabase (tenantId : String) (newAssociationRef : SecretRef)
    (actor correlationId : String) : ControlProgram TenantRecord := do
  let rec ← require tenantId
  if rec.lifecycleState ∈ [TenantLifecycleState.quarantined, .decommissioned] then
    Program.raise (.lifecycle "illegal lifecycle transition")
  else if !versionGt newAssociationRef.version rec.databaseAssociationRef.version then
    Program.raise
      (.lifecycle "ReassociateDatabase requires an incremented association version")
  else do
    let ts ← nowIso
    let updated := { rec with
      databaseAssociationRef := newAssociationRef
      lifecycleState := .verifying
      updatedAt := ts }
    let persisted ← swap updated rec.version
    recordAudit actor (some tenantId) "ReassociateDatabase" (some rec.lifecycleState.value)
      (some TenantLifecycleState.verifying.value) correlationId
    pure persisted

end TenantLifecycleService

/-- A call of the service. -/
inductive LifecycleRequest where
  | verify (tenantId actor correlationId : String)
  | activate (tenantId actor correlationId : String)
  | reactivate (tenantId actor correlationId : String)
  | reassociate (tenantId : String) (newAssociationRef : SecretRef)
      (actor correlationId : String)
deriving DecidableEq, Repr

/-- What the call runs. -/
def LifecycleRequest.program (supported : List String) :
    LifecycleRequest → ControlProgram TenantRecord
  | .verify t actor cid => TenantLifecycleService.verifyTenant supported t actor cid
  | .activate t actor cid => TenantLifecycleService.activateTenant t actor cid
  | .reactivate t actor cid => TenantLifecycleService.reactivateTenant supported t actor cid
  | .reassociate t ref actor cid => TenantLifecycleService.reassociateDatabase t ref actor cid

/-- The call is a re-association. -/
def LifecycleRequest.reassociates : LifecycleRequest → Bool
  | .reassociate _ _ _ _ => true
  | _ => false

/-! ### The order of versions -/

/-- Both versions are texts of integers, or neither is. -/
def Alike (v w : String) : Prop :=
  (Decimal.toInt v).isSome = (Decimal.toInt w).isSome

instance (v w : String) : Decidable (Alike v w) :=
  inferInstanceAs (Decidable (_ = _))

/-- Among versions of one kind the comparison is transitive. -/
theorem versionGt_trans {u v w : String} (huv : Alike u v) (hvw : Alike v w)
    (h : versionGt u v) (h' : versionGt v w) :
  versionGt u w
  := by
  rw [Alike] at huv hvw
  rw [versionGt] at h h' ⊢
  cases hu : Decimal.toInt u with
  | none =>
      rw [hu] at huv h
      rw [← huv] at hvw
      simp only [decide_eq_true_eq] at h
      have hv : Decimal.toInt v = none := by
        simpa using huv.symm
      rw [hv] at h'
      simp only [decide_eq_true_eq] at h' ⊢
      apply lt_trans h' h
  | some n =>
      rw [hu] at huv h
      obtain ⟨m, hv⟩ := Option.isSome_iff_exists.mp huv.symm
      rw [hv] at hvw h h'
      obtain ⟨k, hw⟩ := Option.isSome_iff_exists.mp hvw.symm
      rw [hw] at h' ⊢
      simp only [decide_eq_true_eq] at h h' ⊢
      apply lt_trans h' h

theorem versionGt_irrefl (v : String) :
  versionGt v v = false
  := by
  rw [versionGt]
  cases Decimal.toInt v with
  | none => simp
  | some n => simp

end ControlPlane
