import SnackPortal.ApiGateway.Models
import SnackPortal.Program.History

/-!
# API gateway

The flow of one request: its carriers are checked, its credential is authenticated, its context
is built from the signed claim, its category decides one domain, and then one port serves it:
the tenant's startups, the control plane's reads, the start of an import, or the hand-off to the
database router.  The ports of the first three are optional.  An event that is not accepted ends
the request with 503.
-/

namespace ApiGateway

open DatabaseRouter (RequestContext)

structure TenantStartupReadRequest where
  startupRef : String
  targetTenantRef : String
  correlationId : String
  actorRef : String
deriving DecidableEq, Repr, Inhabited

structure TenantStartupUpdateRequest where
  startupRef : String
  targetTenantRef : String
  correlationId : String
  actorRef : String
  shortDescription : Option String
deriving DecidableEq, Repr, Inhabited

structure ImportInitiationRequest where
  sourceRef : String
  targetTenantRef : String
  operationKey : String
  correlationId : String
  actorRef : String
deriving DecidableEq, Repr, Inhabited

structure ImportInitiationOutcome where
  ok : Bool
  state : String
  replayed : Bool
  appliedCount : Int
  noopCount : Int
  importId : String
deriving DecidableEq, Repr, Inhabited

/-! ## Ports -/

/-- What a request may call. -/
inductive GatewayOp where
  | authenticate (authorization : Option String) (recognizedCarriers : List String)
      (correlationId : String)
  | emit (event : GatewayAuditEvent)
  | readStartup (request : TenantStartupReadRequest)
  | updateStartup (request : TenantStartupUpdateRequest)
  | directory (kind : String)
  | membershipsForPrincipal (principalRef : String)
  | initiate (request : ImportInitiationRequest)
  | dispatch (context : RequestContext) (decision : DispatchDecision)
deriving DecidableEq, Repr, Inhabited

abbrev gatewaySignature : Signature where
  Op := GatewayOp
  Ans
    | .authenticate .. => AuthResult
    | .emit _ => Unit
    | .readStartup _ | .updateStartup _ => Option TenantStartupDetailDTO
    | .directory _ => Option DirectoryDTO
    | .membershipsForPrincipal _ => Option (List MembershipEntryDTO)
    | .initiate _ => ImportInitiationOutcome
    | .dispatch .. => RouteOutcome

/-- What is raised: the authenticator's rejection, or any other failure. -/
inductive Raised where
  | rejected (httpStatus : Int) (publicCode : String)
  | failure
deriving DecidableEq, Repr, Inhabited

abbrev GatewayProgram (α : Type) := Program gatewaySignature Raised α

/-- The composition of a gateway: its classifier, and which of the optional ports it has. -/
structure Gateway where
  classify : InboundRequest → Except DispatchError DispatchCategory
  controlRead : Bool := false
  importInitiation : Bool := false
  tenantStartup : Bool := false

/-- What is minted for one request. -/
structure Minted where
  correlationId : String
  operationKey : String
  auditId : AuditAction → String
  occurredAt : AuditAction → String

/-! ## Parts of a request -/

def correlationIdOf (minted : Minted) (request : InboundRequest) : String :=
  (request.headers.findSome? fun (name, value) =>
    if Text.lower name = "x-correlation-id" ∧ Text.strip value ≠ "" then
      some (Text.strip value)
    else
      none).getD minted.correlationId

def maxOperationKeyLen : Nat := 200

def operationKeyOf (minted : Minted) (request : InboundRequest) : String :=
  (request.headers.findSome? fun (name, value) =>
    if Text.lower name = "x-operation-key" ∧ Text.strip value ≠ ""
        ∧ (Text.strip value).length ≤ maxOperationKeyLen then
      some (Text.strip value)
    else
      none).getD minted.operationKey

/-- What follows the prefix, or nothing. -/
def suffixOf (start path : String) : String :=
  if Text.startsWith path start then Text.drop path start.length else ""

def directoryKind (path : String) : String := suffixOf "/directory/" path

def importSourceRef (path : String) : String := suffixOf "/import/" path

def maxStartupRefBytes : Nat := 512

def tenantStartupRef (path : String) : Option String :=
  if ¬ Text.startsWith path "/tenant/startups/" then
    none
  else
    let suffix := Text.drop path "/tenant/startups/".length
    if suffix = "" ∨ Text.contains suffix "/" ∨ suffix.utf8ByteSize > maxStartupRefBytes then
      none
    else
      some suffix

def unavailable (category : Option DispatchCategory) : GatewayResponse :=
  { status := 503, publicCode := "unavailable", category }

/-! ## Emissions -/

open Program

/-- The events a request has emitted. -/
abbrev Emitted := List (AuditAction × String)

/-- `emit`: at most once for each event of a request; whether it was accepted. -/
def emit (emitted : Emitted) (event : GatewayAuditEvent) : GatewayProgram (Bool × Emitted) :=
  if (event.action, event.correlationId) ∈ emitted then
    pure (true, emitted)
  else
    (perform (S := gatewaySignature) (.emit event)).andThen fun
      | .ok _ => pure (true, (event.action, event.correlationId) :: emitted)
      | .error _ => pure (false, (event.action, event.correlationId) :: emitted)

/-- An answer that is handed back where its event was accepted. -/
def evidenced (emitted : Emitted) (event : GatewayAuditEvent)
    (category : Option DispatchCategory) (response : GatewayResponse) :
    GatewayProgram GatewayResponse := do
  let (accepted, _) ← emit emitted event
  if accepted then return response else return unavailable category

/-- A success that is handed back where its event was accepted. -/
def emitSuccess (event : GatewayAuditEvent) (category : DispatchCategory) (dto : PortalDTO) :
    GatewayProgram GatewayResponse :=
  (perform (S := gatewaySignature) (.emit event)).andThen fun
    | .error _ => pure (unavailable category)
    | .ok _ => pure {
        status := 200
        publicCode := "ok"
        dispatched := true
        category
        portalDto := dto }

/-! ## The pipeline -/

section Pipeline

variable (gateway : Gateway) (minted : Minted) (request : InboundRequest)

/-- An event of the request, with what is minted for it. -/
def auditEvent (action : AuditAction) (outcome : String) : GatewayAuditEvent :=
  { action
    correlationId := correlationIdOf minted request
    outcome
    auditId := minted.auditId action
    occurredAt := minted.occurredAt action }

/-- The routes of a tenant's startups, through their own port. -/
def tenantStartupOperation (auth : AuthResult) (category : DispatchCategory)
    (decision : DispatchDecision) (startupRef : String) : GatewayProgram GatewayResponse :=
  match decision.targetTenantId with
  | none => raise .failure
  | some target =>
      let correlationId := correlationIdOf minted request
      let handBack (action : AuditAction) :
          Except Raised (Option TenantStartupDetailDTO) → GatewayProgram GatewayResponse
        | .error _ => pure (unavailable category)
        | .ok none => pure { status := 404, publicCode := "not_found", category }
        | .ok (some detail) =>
            emitSuccess
              { auditEvent minted request action "success" with
                actorRef := auth.principalRef
                tenantRef := target
                recordRef := startupRef }
              category (.tenantStartup detail)
      if request.method = "PATCH" then
        -- The body is checked first: a rejected one reaches no port.
        match parseTenantStartupUpdateRequest request.patchBody with
        | none => pure { status := 403, publicCode := "forbidden", category }
        | some shortDescription =>
            (perform (S := gatewaySignature) (.updateStartup {
              startupRef
              targetTenantRef := target
              correlationId
              actorRef := auth.principalRef
              shortDescription })).andThen (handBack .tenantStartupUpdate)
      else
        (perform (S := gatewaySignature) (.readStartup {
          startupRef
          targetTenantRef := target
          correlationId
          actorRef := auth.principalRef })).andThen (handBack .tenantStartupRead)

/-- The denial of a read or an import that found nothing. -/
def routeDenied (auth : AuthResult) (emitted : Emitted) (category : DispatchCategory) :
    GatewayProgram GatewayResponse :=
  evidenced emitted
    { auditEvent minted request .routeDenied "rejected" with
      actorRef := auth.principalRef
      tenantRef := auth.activeTenantId }
    category { status := 403, publicCode := "forbidden" }

/-- The reads of the control plane. -/
def controlReadOperation (auth : AuthResult) (emitted : Emitted)
    (category : DispatchCategory) : GatewayProgram GatewayResponse :=
  if category = .globalDirectoryRead then
    (perform (S := gatewaySignature) (.directory (directoryKind request.path))).andThen fun
      | .error _ => pure (unavailable category)
      | .ok none => routeDenied minted request auth emitted category
      | .ok (some page) => pure {
          status := 200
          publicCode := "ok"
          dispatched := true
          category
          portalDto := some (.directory page) }
  else
    (perform (S := gatewaySignature)
      (.membershipsForPrincipal auth.principalRef)).andThen fun
      | .error _ => pure (unavailable category)
      | .ok none => routeDenied minted request auth emitted category
      | .ok (some memberships) =>
          if category = .membershipsForPrincipal then
            emitSuccess
              { auditEvent minted request .workspaceMembershipsRead "success" with
                actorRef := auth.principalRef
                subjectRef := auth.principalRef }
              category (.memberships memberships)
          else
            pure {
              status := 200
              publicCode := "ok"
              dispatched := true
              category
              portalDto := some (.memberships memberships) }

/-- The start of an import, through its own port. -/
def importOperation (auth : AuthResult) (emitted : Emitted) (category : DispatchCategory)
    (decision : DispatchDecision) : GatewayProgram GatewayResponse :=
  match decision.targetTenantId with
  | none => raise .failure
  | some target => do
      let sourceRef := importSourceRef request.path
      let result ← perform (S := gatewaySignature) (.initiate {
        sourceRef
        targetTenantRef := target
        operationKey := operationKeyOf minted request
        correlationId := correlationIdOf minted request
        actorRef := auth.principalRef })
      if ¬ result.ok ∨ result.state ≠ "applied" then
        return unavailable category
      else if result.appliedCount = 0 ∧ result.noopCount = 0 then
        routeDenied minted request auth emitted category
      else
        let outcome :=
          if result.replayed then "replayed"
          else if 1 ≤ result.appliedCount then "created"
          else "noop"
        return {
          status := 200
          publicCode := "ok"
          dispatched := true
          category
          portalDto := some (.importResult {
            sourceRef
            targetTenantRef := target
            tenantRecordRef := target ++ ":startups:" ++ sourceRef
            lineageRef := result.importId
            importId := result.importId
            outcome }) }

/-- The hand-off to the database router. -/
def handOff (context : RequestContext) (category : DispatchCategory)
    (decision : DispatchDecision) : GatewayProgram GatewayResponse := do
  let outcome ← perform (S := gatewaySignature) (.dispatch context decision)
  let portalDto :=
    if gateway.controlRead ∧ category = .importInitiation ∧ outcome.dispatched
        ∧ outcome.status < 400 then
      -- The envelope of an accepted start; nothing of it is the router's.
      decision.targetTenantId.map (.importInitiation (importSourceRef request.path))
    else
      none
  return {
    status := outcome.status
    publicCode := outcome.publicCode
    dispatched := outcome.dispatched
    category
    portalDto }

/-- A request that has one decision: one port serves it. -/
def decided (auth : AuthResult) (emitted : Emitted) (context : RequestContext)
    (category : DispatchCategory) (decision : DispatchDecision) :
    GatewayProgram GatewayResponse :=
  match (if gateway.tenantStartup ∧ category = .tenantOperation
      ∧ (request.method = "GET" ∨ request.method = "PATCH") then
    tenantStartupRef request.path else none) with
  | some startupRef => tenantStartupOperation minted request auth category decision startupRef
  | none =>
      if gateway.controlRead ∧ decision.domain = .control then
        controlReadOperation minted request auth emitted category
      else if gateway.importInitiation ∧ category = .importInitiation then
        importOperation minted request auth emitted category decision
      else
        handOff gateway request context category decision

/-- The category of the request, and its one decision. -/
def decision (context : RequestContext) :
    Except DispatchError (DispatchCategory × DispatchDecision) := do
  let category ← gateway.classify request
  let decision ← decide category context
  assertSingleDatabase decision
  return (category, decision)

/-- An authenticated request. -/
def authenticated (auth : AuthResult) (emitted : Emitted) : GatewayProgram GatewayResponse :=
  let context := buildRequestContext auth
  match decision gateway request context with
  | .error denied =>
      let action := if denied.isolationAnomaly then .isolationAnomaly else .routeDenied
      let publicCode := if denied.isolationAnomaly then "isolation_anomaly" else denied.publicCode
      evidenced emitted
        { auditEvent minted request action "rejected" with
          actorRef := auth.principalRef
          tenantRef := context.activeTenantId }
        none { status := 403, publicCode }
  | .ok (category, decision) =>
      decided gateway minted request auth emitted context category decision

/-- `_handle`. -/
def handle : GatewayProgram GatewayResponse :=
  let carriers := recognizedCarriers request
  if 1 < carriers.dedup.length then
    evidenced []
      { auditEvent minted request .isolationAnomaly "rejected" with
        carrierRef := opaqueCarrierRef
          (",".intercalate (carriers.dedup.mergeSort fun a b => a ≤ b)) }
      none { status := 403, publicCode := "isolation_anomaly" }
  else
    (perform (S := gatewaySignature) (.authenticate request.authorization carriers
      (correlationIdOf minted request))).andThen fun
      | .error (.rejected httpStatus publicCode) =>
          let mismatch := publicCode = "carrier_mismatch"
          evidenced []
            { auditEvent minted request
                (if mismatch then .carrierMismatch else .routeDenied) "rejected" with
              carrierRef := if mismatch then carriers.head?.map opaqueCarrierRef else none }
            none { status := httpStatus, publicCode }
      | .error .failure => raise .failure
      | .ok auth =>
          match auth.activeTenantId, carriers with
          | none, carrier :: _ => do
              -- The carrier is ignored: the claim has no tenant.
              let (accepted, emitted) ← emit []
                { auditEvent minted request .carrierOnControlAnomaly "observed" with
                  actorRef := auth.principalRef
                  carrierRef := opaqueCarrierRef carrier }
              if accepted then
                authenticated gateway minted request auth emitted
              else
                return unavailable none
          | _, _ => authenticated gateway minted request auth []

end Pipeline

end ApiGateway
