import SnackPortal.ControlPlane.Records

/-!
# Database router shapes

The shapes the router passes on: the routing view of a tenant, the bound connection, the
result of a route, its audit event, and the denials of the routing disclosure standard.
-/

namespace DatabaseRouter

open ControlPlane (SecretRef)

/-- The capacity lane of a route. -/
inductive Lane where
  | interactive
  | bulk
deriving DecidableEq, Repr, Inhabited

def Lane.value : Lane → String
  | .interactive => "interactive"
  | .bulk => "bulk"

/-- What the router reads of the request context. -/
structure RequestContext where
  correlationId : String
  requestId : Option String
  activeTenantId : Option String
  principalRef : Option String
  role : Option String
deriving DecidableEq, Repr, Inhabited

/-- The two targets of a route. -/
inductive RoutingTarget where
  | tenant
  | control
deriving DecidableEq, Repr, Inhabited

/-- The routing-read model of a tenant; the association is a reference. -/
structure TenantRoutingView where
  tenantId : String
  lifecycleState : String
  ready : Bool
  databaseAssociationRef : SecretRef
  expectedSchemaVersion : String
deriving DecidableEq, Repr, Inhabited

/-- A connection, bound to one tenant and one association version for its lifetime.  `serial`
is its identity, and `openedFrom` the reference whose descriptor it was opened with. -/
structure TenantConnection where
  serial : Nat
  tenantId : String
  associationVersion : String
  openedFrom : SecretRef
deriving DecidableEq, Repr, Inhabited

/-- The routing decision. -/
structure RouteResult where
  target : RoutingTarget
  tenantId : Option String := none
  associationVersion : Option String := none
  connection : Option TenantConnection := none
  lane : Lane := .interactive
deriving DecidableEq, Repr, Inhabited

def routingAuditSourceService := "database_router"
def routingAuditSourceVersion := "4"
def routingAuditEventVersion : Nat := 1

/-- The router-edge routing-decision event. -/
structure RoutingAuditEvent where
  actorRef : String
  action : String
  correlationId : String
  outcome : String
  targetRef : Option String
  eventId : String
  eventVersion : Nat
  occurredAt : String
  sourceService : String
  sourceVersion : String
  requestRef : Option String
  resolvedTenantRef : Option String
  publicCode : Option String
  associationStoreRef : Option String
  associationVersion : Option String
  lane : Option String
deriving DecidableEq, Repr, Inhabited

/-! ### Denials -/

/-- The canonical denial reasons. -/
inductive DenialReason where
  | unauthenticated
  | forbidden
  | notFound
  | notReady
  | administrativelyDisabled
  | unavailable
deriving DecidableEq, Repr, Inhabited

/-- A routing denial. -/
structure RoutingDenied where
  reason : DenialReason
  httpStatus : Nat
  publicCode : String
deriving DecidableEq, Repr, Inhabited

def notFound (code : String) : RoutingDenied := ⟨.notFound, 404, code⟩

def forbidden (code : String) : RoutingDenied := ⟨.forbidden, 403, code⟩

def notReady (code : String) : RoutingDenied := ⟨.notReady, 503, code⟩

def administrativelyDisabled (code : String) : RoutingDenied :=
  ⟨.administrativelyDisabled, 403, code⟩

def unavailable (code : String) : RoutingDenied := ⟨.unavailable, 503, code⟩

/-- The lifecycle states that are not ready yet. -/
def notReadyStates : List String := ["Registered", "Provisioning", "Verifying"]

/-- `denial_for_state`: none where the tenant is routable. -/
def denialForState (lifecycleState : String) (ready : Bool) : Option RoutingDenied :=
  if lifecycleState = "Ready" ∧ ready then none
  else if lifecycleState = "Suspended" then
    some (administrativelyDisabled "administratively_disabled")
  else if lifecycleState = "Failed" then some (unavailable "unavailable")
  else if lifecycleState = "Decommissioned" then some (notFound "not_found")
  else if lifecycleState ∈ notReadyStates ∨ ready = false then some (notReady "not_ready")
  else some (notFound "not_found")

end DatabaseRouter
