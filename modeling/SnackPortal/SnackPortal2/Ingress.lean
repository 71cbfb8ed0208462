import SnackPortal.Program.History
import SnackPortal.SnackPortal2.AuditModels
import SnackPortal.SnackPortal2.Types

/-!
# Ingress pipeline

The flow of a request at the ingress: the credential is authenticated, the tenant carrier is
validated, the context is built from the signed identity, access control decides, and for the
operations on tenant records the router resolves one database.  Every port is a call that may
answer anything or raise.
-/

namespace SnackPortal2

/-! ## Operations -/

/-- The named use cases of the ingress. -/
inductive BffOperation where
  | listMemberships
  | readGlobalStartupDirectory
  | readGlobalInvestorDirectory
  | initiateStartupImport
  | listTenantStartups
  | createTenantStartup
  | readTenantStartup
  | updateTenantStartup
  | listTenantInvestors
  | createTenantInvestor
  | readTenantInvestor
  | updateTenantInvestor
  | listTenantDeals
  | createTenantDeal
  | readTenantDeal
  | updateTenantDeal
  | listTenantContacts
  | createTenantContact
  | readTenantContact
  | readTenantLineage
  | proposeDealShare
  | readDealShare
deriving DecidableEq, Repr, Inhabited

inductive OperationCategory where
  | tenantOperation
  | globalDirectoryRead
  | membershipsForPrincipal
  | importInitiation
  | governedSharing
deriving DecidableEq, Repr, Inhabited

def categoryOf : BffOperation → OperationCategory
  | .listMemberships => .membershipsForPrincipal
  | .readGlobalStartupDirectory | .readGlobalInvestorDirectory => .globalDirectoryRead
  | .initiateStartupImport => .importInitiation
  | .proposeDealShare | .readDealShare => .governedSharing
  | .listTenantStartups | .createTenantStartup | .readTenantStartup | .updateTenantStartup
  | .listTenantInvestors | .createTenantInvestor | .readTenantInvestor | .updateTenantInvestor
  | .listTenantDeals | .createTenantDeal | .readTenantDeal | .updateTenantDeal
  | .listTenantContacts | .createTenantContact | .readTenantContact
  | .readTenantLineage => .tenantOperation

/-- The domain of a category. -/
def categoryDomain : OperationCategory → DatabaseDomain
  | .tenantOperation | .importInitiation => .tenant
  | .globalDirectoryRead | .membershipsForPrincipal | .governedSharing => .control

/-- The single domain of an operation. -/
def domainOf (operation : BffOperation) : DatabaseDomain :=
  categoryDomain (categoryOf operation)

/-! ## Carriers -/

/-- What the ingress reads of a request: the headers by their names, without duplicates, the
correlation id that the middleware bound, and the one that is minted where it bound none. -/
structure Request where
  headers : List (String × String)
  boundCorrelationId : String
  mintedCorrelationId : String
deriving DecidableEq, Repr, Inhabited

/-- `request.headers.get`; names are compared without their case. -/
def Request.header (request : Request) (name : String) : Option String :=
  (request.headers.find? fun header =>
    Text.casefold header.1 == Text.casefold name).map Prod.snd

def alphanumeric (c : Char) : Bool :=
  ('A' ≤ c && c ≤ 'Z') || ('a' ≤ c && c ≤ 'z') || ('0' ≤ c && c ≤ '9')

/-- The text is a carrier value: a letter or a digit, and at most 127 more letters, digits,
dots, underscores and hyphens. -/
def carrierValue (text : String) : Bool :=
  match text.toList with
  | [] => false
  | c :: rest =>
      alphanumeric c && rest.length ≤ 127
        && rest.all fun c => alphanumeric c || c == '.' || c == '_' || c == '-'

def tenantHeader := "X-Tenant-Id"

/-- The header's value, where it is a carrier value. -/
def carrierFromHeader (headers : List (String × String)) : Option String :=
  match headers.find? fun header => Text.casefold header.1 == Text.casefold tenantHeader with
  | none => none
  | some (_, value) =>
      let candidate := Text.strip value
      if carrierValue candidate then some candidate else none

def reservedSubdomains : List String :=
  ["www", "api", "app", "localhost", "control"]

/-- The tenant subdomain of the host under the base domain, where one is configured. -/
def carrierFromHost (host baseDomain : String) : Option String :=
  if baseDomain = "" then
    none
  else
    let hostname := Text.casefold (Text.strip (Text.before ':' host))
    let suffix := "." ++ Text.lstrip '.' (Text.casefold (Text.strip baseDomain))
    if ¬ Text.endsWith hostname suffix then
      none
    else
      let label := Text.dropEnd hostname suffix.length
      if label = "" ∨ Text.contains label "." ∨ label ∈ reservedSubdomains then
        none
      else if carrierValue label then
        some label
      else
        none

/-- At most one carrier, and whether two disagreed. -/
structure CarrierObservation where
  value : Option String
  conflict : Bool
deriving DecidableEq, Repr, Inhabited

/-- The recognized carrier of a request; two that disagree are a conflict. -/
def recognizedCarrier (headers : List (String × String)) (host baseDomain : String) :
    CarrierObservation :=
  let fromHeader := carrierFromHeader headers
  let fromHost := carrierFromHost host baseDomain
  if fromHeader ≠ none ∧ fromHost ≠ none ∧ fromHeader ≠ fromHost then
    { value := none, conflict := true }
  else
    { value := fromHeader.or fromHost, conflict := false }

/-! ## Identities -/

inductive WorkspaceType where
  | tenantWorkspace
  | controlWorkspace
deriving DecidableEq, Repr, Inhabited

/-- The authenticated identity, with the signed active tenant. -/
structure AuthContext where
  correlationId : String
  principalRef : String
  role : PlatformRole
  activeTenantRef : Option String
deriving DecidableEq, Repr, Inhabited

structure RequestContext where
  correlationId : String
  principalRef : String
  role : PlatformRole
  tenantContext : Option String
  workspaceType : WorkspaceType
deriving DecidableEq, Repr, Inhabited

/-- The one way to build a context. -/
def RequestContext.fromAuthContext (auth : AuthContext) : RequestContext where
  correlationId := auth.correlationId
  principalRef := auth.principalRef
  role := auth.role
  tenantContext := auth.activeTenantRef
  workspaceType :=
    if auth.activeTenantRef = none then .controlWorkspace else .tenantWorkspace

inductive CarrierVerdict where
  | absent
  | matched
  | mismatch
  | controlAnomaly
deriving DecidableEq, Repr, Inhabited

/-- The authentication service's comparison of the carrier with the signed tenant. -/
def checkCarrier (activeTenantRef carrier : Option String) : CarrierVerdict :=
  if carrier = none ∨ carrier = some "" then .absent
  else if activeTenantRef = none then .controlAnomaly
  else if carrier = activeTenantRef then .matched
  else .mismatch

structure AuthenticationResult where
  authContext : AuthContext
  carrierVerdict : CarrierVerdict
deriving DecidableEq, Repr, Inhabited

structure AuthorizationResult where
  allowed : Bool
  denialCode : Option String
  resolvedDomain : Option DatabaseDomain
deriving DecidableEq, Repr, Inhabited

/-- The one database that the router bound. -/
structure RoutedTenant where
  tenantRef : String
  targetRef : String
deriving DecidableEq, Repr, Inhabited

/-! ## Ports -/

/-- What is emitted to the ingress audit. -/
structure AuditEvent where
  action : AuditAction
  outcome : AuditOutcome
  correlationId : String
  actorRef : String
  subjectRef : Option String := none
  tenantRef : Option String := none
  recordRef : Option String := none
  carrierRef : Option String := none
deriving DecidableEq, Repr, Inhabited

/-- The fields of a record, in texts and nulls. -/
abbrev Record := List (String × Option String)

/-- The body of a service's answer. -/
inductive Body where
  | null
  | object (fields : Record)
  | listing (key : String) (records : List Record)
deriving DecidableEq, Repr, Inhabited

/-- A value that is sent to a service. -/
inductive PayloadValue where
  | null
  | text (value : String)
  | number (value : Int)
  | texts (values : List String)
deriving DecidableEq, Repr, Inhabited

/-- What is sent to a service: the context, and what the operation adds. -/
structure Payload where
  context : RequestContext
  extra : List (String × PayloadValue)
deriving DecidableEq, Repr, Inhabited

/-- What a request may call: authentication, access control, routing, the control plane's
reads, the services of the tenant's domain, and the audit. -/
inductive BffOp where
  | authenticate (credential : String) (carrier : Option String) (correlationId : String)
  | decide (context : RequestContext) (operation : BffOperation) (recordRef : Option String)
  | resolve (context : RequestContext)
  | listMemberships (principalRef : String)
  | listDirectory (directory : String)
  | call (service path : String) (payload : Payload)
  | emit (event : AuditEvent)
deriving DecidableEq, Repr, Inhabited

abbrev bffSignature : Signature where
  Op := BffOp
  Ans
    | .authenticate .. => Option AuthenticationResult
    | .decide .. => AuthorizationResult
    | .resolve .. => RoutedTenant
    | .listMemberships .. | .listDirectory .. => List Record
    | .call .. => Body
    | .emit .. => Unit

/-- What is raised: a denial, or any other failure. -/
inductive Raised where
  | denial (error : AppError)
  | failure
deriving DecidableEq, Repr, Inhabited

abbrev BffProgram (α : Type) := Program bffSignature Raised α

namespace Bff

open Program

def deny {α : Type} (error : AppError) : BffProgram α :=
  raise (.denial error)

def authenticate (credential : String) (carrier : Option String) (correlationId : String) :
    BffProgram (Option AuthenticationResult) :=
  perform (S := bffSignature) (.authenticate credential carrier correlationId)

def decide (context : RequestContext) (operation : BffOperation) (recordRef : Option String) :
    BffProgram AuthorizationResult :=
  perform (S := bffSignature) (.decide context operation recordRef)

def resolve (context : RequestContext) : BffProgram RoutedTenant :=
  perform (S := bffSignature) (.resolve context)

def emit (event : AuditEvent) : BffProgram Unit :=
  perform (S := bffSignature) (.emit event)

/-! ## The pipeline -/

/-- A validated request. -/
structure EstablishedContext where
  context : RequestContext
  carrierRef : Option String
deriving DecidableEq, Repr, Inhabited

/-- `IngressPipeline.establish`: authenticate, validate the carrier, build the context. -/
def establish (baseDomain : String) (credential : Option String)
    (headers : List (String × String)) (host correlationId : String) :
    BffProgram EstablishedContext :=
  match credential with
  | none => deny unauthenticated
  | some credential =>
      if credential = "" then deny unauthenticated else do
      let observation := recognizedCarrier headers host baseDomain
      match ← authenticate credential observation.value correlationId with
      | none => deny unauthenticated
      | some result =>
          let auth := result.authContext
          if observation.conflict then
            emit {
              action := .carrierMismatch
              outcome := .denied
              correlationId
              actorRef := auth.principalRef
              tenantRef := auth.activeTenantRef }
            deny SnackPortal2.carrierMismatch
          else if result.carrierVerdict = .mismatch then
            emit {
              action := .carrierMismatch
              outcome := .denied
              correlationId
              actorRef := auth.principalRef
              tenantRef := auth.activeTenantRef
              carrierRef := observation.value }
            deny SnackPortal2.carrierMismatch
          else if result.carrierVerdict = .controlAnomaly then
            -- The carrier is ignored: the request goes on by its signed claim only.
            emit {
              action := .carrierOnControlAnomaly
              outcome := .anomaly
              correlationId
              actorRef := auth.principalRef
              carrierRef := observation.value }
            return ⟨.fromAuthContext auth, observation.value⟩
          else
            return ⟨.fromAuthContext auth, observation.value⟩

/-- `IngressPipeline.authorize`: ask access control, then enforce that exactly the operation's
own domain was decided. -/
def authorize (context : RequestContext) (operation : BffOperation)
    (recordRef : Option String) : BffProgram DatabaseDomain := do
  let decision ← decide context operation recordRef
  let expected := domainOf operation
  if ¬ decision.allowed then
    emit {
      action := .routeDenied
      outcome := .denied
      correlationId := context.correlationId
      actorRef := context.principalRef
      tenantRef := context.tenantContext
      recordRef }
    deny accessDenied
  else if decision.resolvedDomain = none then
    emit {
      action := .isolationAnomaly
      outcome := .anomaly
      correlationId := context.correlationId
      actorRef := context.principalRef
      tenantRef := context.tenantContext }
    deny isolationViolation
  else if decision.resolvedDomain ≠ some expected then
    emit {
      action := .isolationAnomaly
      outcome := .anomaly
      correlationId := context.correlationId
      actorRef := context.principalRef
      tenantRef := context.tenantContext }
    deny isolationViolation
  else if expected = .tenant ∧ (context.tenantContext.getD "") = "" then
    emit {
      action := .isolationAnomaly
      outcome := .anomaly
      correlationId := context.correlationId
      actorRef := context.principalRef }
    deny isolationViolation
  else
    return expected

end Bff

end SnackPortal2
