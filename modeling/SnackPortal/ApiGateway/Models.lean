import SnackPortal.Data.IpAddress
import SnackPortal.DatabaseRouter.Router

/-!
# API gateway shapes

The shapes the gateway passes on, the carriers it recognizes in a request, and the dispatch of
a request by its category into one domain.  The request context is the router's own.
-/

namespace ApiGateway

open DatabaseRouter (RequestContext)

/-- The categories of the endpoints. -/
inductive DispatchCategory where
  | tenantOperation
  | globalDirectoryRead
  | membershipsForPrincipal
  | importInitiation
deriving DecidableEq, Repr, Inhabited

/-- The single resolution domain of a request. -/
inductive DatabaseDomain where
  | control
  | tenant
deriving DecidableEq, Repr, Inhabited

/-- The classes of the gateway's audit. -/
inductive AuditAction where
  | carrierMismatch
  | carrierOnControlAnomaly
  | routeDenied
  | isolationAnomaly
  | workspaceMembershipsRead
  | tenantStartupRead
  | tenantStartupUpdate
deriving DecidableEq, Repr, Inhabited

/-- A field of a decoded body. -/
inductive FieldValue where
  | null
  | text (value : String)
  | other
deriving DecidableEq, Repr, Inhabited

/-- What the gateway reads of a request.  The headers have distinct names; `patchBody` has the
fields of the body, where it decodes to one object. -/
structure InboundRequest where
  method : String
  path : String
  host : String := ""
  headers : List (String × String) := []
  authorization : Option String := none
  patchBody : Option (List (String × FieldValue)) := none
deriving DecidableEq, Repr, Inhabited

/-- What the authenticator answers. -/
structure AuthResult where
  correlationId : String
  principalRef : String
  activeTenantId : Option String
  role : Option String
deriving DecidableEq, Repr, Inhabited

structure DispatchDecision where
  category : DispatchCategory
  domain : DatabaseDomain
  targetTenantId : Option String
deriving DecidableEq, Repr, Inhabited

structure GatewayAuditEvent where
  action : AuditAction
  correlationId : String
  outcome : String
  actorRef : Option String := none
  tenantRef : Option String := none
  carrierRef : Option String := none
  auditId : String
  subjectRef : Option String := none
  occurredAt : String
  eventVersion : Nat := 1
  recordRef : Option String := none
deriving DecidableEq, Repr, Inhabited

/-! ## Portal responses -/

structure DirectoryEntryDTO where
  recordRef : String
  displayName : String
deriving DecidableEq, Repr, Inhabited

structure MembershipEntryDTO where
  tenantId : String
  role : String
  displayRef : String
deriving DecidableEq, Repr, Inhabited

structure ImportResultDTO where
  sourceRef : String
  targetTenantRef : String
  tenantRecordRef : String
  lineageRef : String
  importId : String
  outcome : String
deriving DecidableEq, Repr, Inhabited

structure TenantStartupDetailDTO where
  recordRef : String
  displayName : String
  shortDescription : Option String
  investmentStage : Option String
  lineageReference : Option String
deriving DecidableEq, Repr, Inhabited

/-- The summary of a global directory. -/
inductive DirectoryDTO where
  | startups (records : List DirectoryEntryDTO)
  | investors (records : List DirectoryEntryDTO)
deriving DecidableEq, Repr, Inhabited

/-- The approved responses. -/
inductive PortalDTO where
  | directory (summary : DirectoryDTO)
  | memberships (memberships : List MembershipEntryDTO)
  | importInitiation (sourceRef targetTenantRef : String)
  | importResult (result : ImportResultDTO)
  | tenantStartup (detail : TenantStartupDetailDTO)
deriving DecidableEq, Repr, Inhabited

structure GatewayResponse where
  status : Int
  publicCode : String
  dispatched : Bool := false
  category : Option DispatchCategory := none
  portalDto : Option PortalDTO := none
deriving DecidableEq, Repr, Inhabited

/-- What the router's edge answers. -/
structure RouteOutcome where
  status : Int
  publicCode : String
  dispatched : Bool := true
deriving DecidableEq, Repr, Inhabited

def tenantStartupShortDescriptionMaxChars : Nat := 500

/-- `parse_tenant_startup_update_request`: exactly the one field, null or a bounded text. -/
def parseTenantStartupUpdateRequest (body : Option (List (String × FieldValue))) :
    Option (Option String) :=
  match body with
  | some [(name, value)] =>
      if name ≠ "short_description" then
        none
      else
        match value with
        | .null => some none
        | .text text =>
            if text.length ≤ tenantStartupShortDescriptionMaxChars then some (some text) else none
        | .other => none
  | _ => none

/-! ## Carriers -/

/-- `_subdomain`: the leading label of a host of at least three labels. -/
def subdomain (host : String) : Option String :=
  let h := Text.lower (Text.strip host)
  let unbracketed :=
    if Text.startsWith h "[" then
      if Text.contains h "]" then some (Text.before ']' (Text.drop h 1)) else none
    else if h.toList.count ':' = 1 then
      some (Text.before ':' h)
    else
      some h
  match unbracketed with
  | none => none
  | some h =>
      if h = "" ∨ IpAddress.isLiteral h then
        none
      else
        match Text.split '.' h with
        | label :: _ :: _ :: _ => if label = "" then none else some label
        | _ => none

/-- The value of the recognized carrier header. -/
def carrierHeader : String × String → Option String
  | (name, value) =>
      if Text.lower name = "x-tenant-id" ∧ Text.strip value ≠ "" then
        some (Text.strip value)
      else
        none

/-- The carriers of a request, from its host and from its headers. -/
def recognizedCarriers (request : InboundRequest) : List String :=
  (subdomain request.host).toList ++ request.headers.filterMap carrierHeader

/-- An opaque rendering of a carrier, of bounded length. -/
def opaqueCarrierRef (value : String) : String :=
  String.ofList (("carrier:" ++ Text.strip value).toList.take 64)

/-! ## Dispatch -/

structure DispatchError where
  publicCode : String
  isolationAnomaly : Bool := false
deriving DecidableEq, Repr, Inhabited

/-- The domain of a category. -/
def categoryDomain : DispatchCategory → DatabaseDomain
  | .globalDirectoryRead | .membershipsForPrincipal => .control
  | .tenantOperation | .importInitiation => .tenant

/-- The path is a prefix's own, or goes on below it. -/
def under (start path : String) : Bool :=
  path = start || Text.startsWith path (start ++ "/")

def defaultClassifier (request : InboundRequest) : Except DispatchError DispatchCategory :=
  if under "/tenant" request.path then .ok .tenantOperation
  else if under "/directory" request.path then .ok .globalDirectoryRead
  else if under "/memberships" request.path then .ok .membershipsForPrincipal
  else if under "/import" request.path then .ok .importInitiation
  else .error { publicCode := "unknown_route" }

def decide (category : DispatchCategory) (context : RequestContext) :
    Except DispatchError DispatchDecision :=
  if categoryDomain category = .tenant then
    match context.activeTenantId with
    | none => .error { publicCode := "tenant_context_required" }
    | some tenantId => .ok ⟨category, .tenant, some tenantId⟩
  else
    .ok ⟨category, categoryDomain category, none⟩

def assertSingleDatabase (decision : DispatchDecision) : Except DispatchError Unit :=
  if decision.domain = .tenant ∧ decision.targetTenantId = none then
    .error { publicCode := "isolation_anomaly", isolationAnomaly := true }
  else if decision.domain = .control ∧ decision.targetTenantId ≠ none then
    .error { publicCode := "isolation_anomaly", isolationAnomaly := true }
  else
    .ok ()

/-- The context, from what the authenticator answered and nothing else. -/
def buildRequestContext (auth : AuthResult) : RequestContext where
  correlationId := auth.correlationId
  requestId := some auth.correlationId
  activeTenantId := auth.activeTenantId
  principalRef := some auth.principalRef
  role := auth.role

/-- A decision is for the context's tenant, or for the control domain. -/
theorem decide_ok {category : DispatchCategory} {context : RequestContext}
    {decision : DispatchDecision} (h : decide category context = .ok decision) :
  decision.category = category ∧ decision.domain = categoryDomain category
    ∧ decision.targetTenantId
      = if categoryDomain category = .tenant then context.activeTenantId else none
  := by
  unfold decide at h
  split at h
  · rename_i htenant
    split at h
    · cases h
    · rename_i tenantId hactive
      cases h
      simp [htenant, hactive]
  · rename_i hcontrol
    cases h
    simp [hcontrol]

/-- The decision of a tenant category has a tenant. -/
theorem decide_tenant {category : DispatchCategory} {context : RequestContext}
    {decision : DispatchDecision} (h : decide category context = .ok decision)
    (htenant : categoryDomain category = .tenant) :
  context.activeTenantId ≠ none
  := by
  unfold decide at h
  rw [if_pos htenant] at h
  split at h
  · cases h
  · rename_i hactive
    rw [hactive]
    exact nofun

end ApiGateway
