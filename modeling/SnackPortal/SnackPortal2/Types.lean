import Mathlib.Data.List.AList

/-!
# Shared types of the second portal

The denial vocabulary, the enumerations and the tenant rows that the services share.
-/

namespace SnackPortal2

/-- The public denial codes. -/
inductive ErrorCode where
  | unauthenticated
  | carrierMismatch
  | accessDenied
  | tenantNotFound
  | tenantNotReady
  | tenantUnavailable
  | isolationViolation
  | invalidRequest
  | notFound
  | internalError
deriving DecidableEq, Repr, Inhabited

/-- A denial: exactly a status and a code. -/
structure AppError where
  status : Nat
  code : ErrorCode
deriving DecidableEq, Repr, Inhabited

def unauthenticated : AppError := ⟨401, .unauthenticated⟩
def carrierMismatch : AppError := ⟨403, .carrierMismatch⟩
def accessDenied : AppError := ⟨403, .accessDenied⟩
def isolationViolation : AppError := ⟨403, .isolationViolation⟩

/-- The one answer for unknown and unauthorized tenants. -/
def consistentTenantDenial : AppError := ⟨404, .tenantNotFound⟩

def tenantNotReady : AppError := ⟨409, .tenantNotReady⟩
def tenantUnavailable : AppError := ⟨503, .tenantUnavailable⟩
def invalidRequest : AppError := ⟨422, .invalidRequest⟩
def notFound : AppError := ⟨404, .notFound⟩

/-- The platform roles. -/
inductive PlatformRole where
  | control
  | masterAgent
  | tenantAdmin
  | tenantAgent
  | startupUser
  | investorUser
deriving DecidableEq, Repr, Inhabited

/-- The single resolution domain of a request. -/
inductive DatabaseDomain where
  | control
  | tenant
deriving DecidableEq, Repr, Inhabited

/-- The lifecycle of a tenant, as the registry records it. -/
inductive TenantLifecycleState where
  | provisioning
  | active
  | suspended
  | disabled
deriving DecidableEq, Repr, Inhabited

/-- The fields of a row. -/
abbrev Fields := AList (fun _ : String => Option String)

/-! ## In-memory tables -/

/-- The rows of every tenant under their identities, and how many each tenant has inserted. -/
structure InMemoryTenantTable where
  rows : String → AList (fun _ : String => Fields)
  counters : String → Nat

namespace InMemoryTenantTable

def get (table : InMemoryTenantTable) (tenantRef identity : String) : Option Fields :=
  (table.rows tenantRef).lookup identity

def insert (table : InMemoryTenantTable) (tenantRef : String) (fields : Fields) :
    String × InMemoryTenantTable :=
  let identity := toString (table.counters tenantRef + 1)
  (identity,
    { rows := Function.update table.rows tenantRef
        ((table.rows tenantRef).insert identity fields)
      counters := Function.update table.counters tenantRef (table.counters tenantRef + 1) })

/-- The stored fields with the given ones over them, where the row exists. -/
def update (table : InMemoryTenantTable) (tenantRef identity : String) (fields : Fields) :
    Option (Fields × InMemoryTenantTable) :=
  (table.get tenantRef identity).map fun stored =>
    let stored := fields ∪ stored
    (stored,
      { table with
        rows := Function.update table.rows tenantRef
          ((table.rows tenantRef).insert identity stored) })

end InMemoryTenantTable

end SnackPortal2
