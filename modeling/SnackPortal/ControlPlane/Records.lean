import Mathlib.Data.List.AList

/-!
# Control-plane records

The shapes the control plane stores: the tenant record with its lifecycle state and its
optimistic-concurrency version, and the reference-only audit record.  Secrets appear as
references only.
-/

namespace ControlPlane

/-- A reference to a secret: the store location and the version of the reference. -/
structure SecretRef where
  storeRef : String
  version : String
deriving DecidableEq, Repr, Inhabited

/-- The lifecycle states of IC-002. -/
inductive TenantLifecycleState where
  | registered
  | provisioning
  | verifying
  | ready
  | suspended
  | failed
  | quarantined
  | decommissioned
deriving DecidableEq, Repr, Inhabited

/-- The stored name of a lifecycle state. -/
def TenantLifecycleState.value : TenantLifecycleState → String
  | .registered => "Registered"
  | .provisioning => "Provisioning"
  | .verifying => "Verifying"
  | .ready => "Ready"
  | .suspended => "Suspended"
  | .failed => "Failed"
  | .quarantined => "Quarantined"
  | .decommissioned => "Decommissioned"

theorem TenantLifecycleState.value_injective :
  Function.Injective value
  := by
  intro s t h
  cases s <;> cases t <;> first | rfl | (revert h; decide)

/-- The stored tenant record; `version` grows by one with every lifecycle write. -/
structure TenantRecord where
  tenantId : String
  organizationRef : String
  lifecycleState : TenantLifecycleState
  expectedSchemaVersion : String
  databaseAssociationRef : SecretRef
  federationConfigRef : String
  createdAt : String
  updatedAt : String
  version : Nat
deriving DecidableEq, Repr, Inhabited

/-- A control-plane audit record; events that change no lifecycle state carry no states. -/
structure ControlAuditRecord where
  actor : String
  tenantId : Option String
  action : String
  fromState : Option String
  toState : Option String
  timestamp : String
  correlationId : String
deriving DecidableEq, Repr, Inhabited

end ControlPlane
