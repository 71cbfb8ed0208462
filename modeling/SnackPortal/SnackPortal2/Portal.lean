import SnackPortal.Program.Noninterference
import SnackPortal.SnackPortal2.AccessControl
import SnackPortal.SnackPortal2.Authentication
import SnackPortal.SnackPortal2.ExactLookups
import SnackPortal.SnackPortal2.References

/-!
# The portal

The ingress with the services behind it, down to the connections of the tenant databases.  A
tenant-resident service is called with the signed context; it asks the database router for a grant
for the tenant of that context and runs its statements on the connection that the grant is for.
What it runs there is left open: any program will do, on any database.
-/

namespace SnackPortal2

/-! ## Tenant-resident services -/

section Signatures

variable (D E : Signature.{0})

/-- The calls of a tenant-resident service: a connection to the database of the tenant it was
called for, the statements on it, and what is outside of the tenant databases. -/
inductive ServiceOp where
  | openTenantConnection
  | statement (o : D.Op)
  | close
  | outside (o : E.Op)

abbrev ServiceOp.Ans : ServiceOp D E → Type
  | .openTenantConnection => TenantConnectionGrant
  | .statement o => D.Ans o
  | .close => Unit
  | .outside o => E.Ans o

abbrev serviceSignature : Signature := ⟨ServiceOp D E, ServiceOp.Ans D E⟩

/-- A program of a tenant-resident service. -/
abbrev ServiceProgram := Program (serviceSignature D E) Raised

end Signatures

/-! ## Grants -/

/-- `TENANT_RESIDENT_SERVICES`. -/
def tenantResidentServices : List String :=
  ["startups", "investors", "deals", "contacts", "lineage", "import_service", "sharing"]

/-- `PERMANENTLY_EXCLUDED`. -/
def permanentlyExcluded : List String :=
  ["bff", "access_control", "authentication", "control_plane", "audit"]

/-- The services by the credentials that may act as them; all of them are tenant-resident. -/
structure GrantAllowlist where
  grantees : AList fun _ : String => String
  resident : ∀ grantee ∈ grantees.entries, grantee.2 ∈ tenantResidentServices

namespace GrantAllowlist

/-- `GrantAllowlist(grantees)`; nothing where it raises. -/
def build (grantees : AList fun _ : String => String) : Option GrantAllowlist :=
  if h : ∀ grantee ∈ grantees.entries, grantee.2 ∈ tenantResidentServices then
    some ⟨grantees, h⟩
  else
    none

/-- `service_for`. -/
def serviceFor (allowlist : GrantAllowlist) (credential : String) : Option String :=
  allowlist.grantees.lookup credential

/-- No credential acts as a service that is permanently excluded. -/
theorem not_excluded (allowlist : GrantAllowlist) {credential service : String}
    (h : allowlist.serviceFor credential = some service) :
  service ∉ permanentlyExcluded
  := by
  have hresident := allowlist.resident ⟨credential, service⟩ (AList.mem_lookup_iff.mp h)
  revert hresident
  simp only [tenantResidentServices, permanentlyExcluded, List.mem_cons, List.not_mem_nil,
    or_false]
  rintro (rfl | rfl | rfl | rfl | rfl | rfl | rfl) <;> decide

/-- A list that names a service that is permanently excluded is not built. -/
theorem build_excluded {grantees : AList fun _ : String => String} {credential service : String}
    (h : grantees.lookup credential = some service) (hexcluded : service ∈ permanentlyExcluded) :
  build grantees = none
  := by
  cases hbuild : build grantees with
  | none => rfl
  | some allowlist =>
      have hgrantees : allowlist.grantees = grantees := by
        rw [build] at hbuild
        split at hbuild
        · rw [← Option.some.inj hbuild]
        · cases hbuild
      rw [← hgrantees] at h
      exact absurd hexcluded (allowlist.not_excluded h)

end GrantAllowlist

/-! ## The deployment -/

/-- What the services are configured with, and what the tenant-resident ones run. -/
structure Portal (D E : Signature.{0}) where
  baseDomain : String
  verifier : Authentication.TokenVerifier
  library : Authentication.Jwt
  dispatch : String → Option ControlPlaneCall
  controlPlaneUrl : String
  secrets : String → String → Option String
  allowlist : GrantAllowlist
  /-- The credential that a service presents to the router. -/
  credentialOf : String → String
  /-- The payload meets the published contract of the operation. -/
  admits : String → String → Payload → Bool
  services : String → String → Payload → ServiceProgram D E Body

/-- What the services call of one another, and of what lies behind them. -/
inductive PortalOp (D E : Signature.{0}) where
  | authenticate (credential : String) (carrier : Option String) (correlationId : String)
  | decide (context : RequestContext) (operation : BffOperation)
  | resolve (tenantContext : Option String)
  | listMemberships (principalRef : String)
  | listDirectory (directory : String)
  | emit (event : AuditEvent)
  /-- One way of the exchange with a tenant-resident service. -/
  | deliver (service path : String)
  | grantFor (credential tenantRef : String)
  | connect (dsn : String)
  | statement (o : D.Op)
  | close
  | outside (o : E.Op)

abbrev PortalOp.Ans {D E : Signature.{0}} : PortalOp D E → Type
  | .authenticate .. => Option AuthenticationResult
  | .decide .. => AuthorizationResult
  | .resolve .. => RoutedTenant
  | .listMemberships .. | .listDirectory .. => List Record
  | .emit .. | .deliver .. | .connect .. | .close => Unit
  | .grantFor .. => TenantConnectionGrant
  | .statement o => D.Ans o
  | .outside o => E.Ans o

abbrev portalSignature (D E : Signature.{0}) : Signature := ⟨PortalOp D E, PortalOp.Ans⟩

abbrev PortalProgram (D E : Signature.{0}) := Program (portalSignature D E) Raised

namespace Portal

variable {D E : Signature.{0}} (portal : Portal D E)

def perform (op : PortalOp D E) : PortalProgram D E op.Ans :=
  Program.perform (S := portalSignature D E) op

/-- `open_tenant_connection(self._grants.grant_for(tenant_ref))`. -/
def openTenantConnection (service tenantRef : String) :
    PortalProgram D E TenantConnectionGrant := do
  let grant : TenantConnectionGrant ← perform (.grantFor (portal.credentialOf service) tenantRef)
  let _ ← perform (.connect grant.dsn)
  pure grant

/-- The calls of a service, for the tenant that it was called for. -/
def forTenant (service tenantRef : String) :
    Handler (serviceSignature D E) (portalSignature D E) Raised
  | .openTenantConnection => portal.openTenantConnection service tenantRef
  | .statement o => perform (.statement o)
  | .close => perform .close
  | .outside o => perform (.outside o)

/-- The answer of a service to what its operation raises: the denial, or a bare 500. -/
def canonical {α : Type} : Raised → PortalProgram D E α
  | .denial error => Program.raise (.denial error)
  | .failure => Program.raise (.denial ⟨500, .internalError⟩)

/-- An operation of a tenant-resident service, for the tenant of its context. -/
def operation (service path : String) (payload : Payload) : PortalProgram D E Body :=
  if ¬ portal.admits service path payload then
    Program.raise (.denial invalidRequest)
  else
    match tenantOf payload.context.tenantContext with
    | .error error => Program.raise (.denial error)
    | .ok tenantRef =>
        (portal.services service path payload).handle (portal.forTenant service tenantRef)

/-- `HttpDomainService.call`. -/
def callService (service path : String) (payload : Payload) : PortalProgram D E Body := do
  let _ ← perform (.deliver service path)
  let body ← (portal.operation service path payload).rescue canonical
  let _ ← perform (.deliver service path)
  pure body

/-- The clients of the ingress. -/
def clients : Handler bffSignature (portalSignature D E) Raised
  | .authenticate credential carrier correlationId =>
      perform (.authenticate credential carrier correlationId)
  | .decide context operation _ => perform (.decide context operation)
  | .resolve context => perform (.resolve context.tenantContext)
  | .listMemberships principalRef => perform (.listMemberships principalRef)
  | .listDirectory directory => perform (.listDirectory directory)
  | .call service path payload => portal.callService service path payload
  | .emit event => perform (.emit event)

/-- A request to the portal. -/
def serve (request : Request × Endpoint) : PortalProgram D E PortalDTO :=
  (Bff.serve portal.baseDomain request.1 request.2).handle portal.clients

end Portal

/-! ## Runs -/

/-- What one call leaves to the outside world: the time, whether an exchange comes about, what
the control plane holds and lists, and what the databases and the rest leave open. -/
structure PortalChoice (E : Signature.{0}) (κ : Type) where
  now : Int
  reached : Bool
  store : {store : ControlStore // store.Recorded}
  expiresAt : String
  records : Except Raised (List Record)
  statement : κ
  outside : (o : E.Op) → Except Raised (E.Ans o)

section Machine

variable {D E : Signature.{0}} {ι : Type}

/-- The tenant databases by their connection strings, the connections of the requests, and the
ingress audit.  A connection string stands for the database that it names: that different strings
name different databases is assumed of the deployment, and nothing in the source checks it. -/
structure PortalState (N : Machine D Raised ι) where
  databases : String → N.State
  connections : ι → Option String
  audit : List AuditEvent

namespace PortalState

variable [DecidableEq ι] {N : Machine D Raised ι} (s : PortalState N) (i : ι)

def withDatabase (dsn : String) (database : N.State) : PortalState N :=
  { s with databases := Function.update s.databases dsn database }

def withConnection (connection : Option String) : PortalState N :=
  { s with connections := Function.update s.connections i connection }

section Lemmas

variable {dsn dsn' : String} {database : N.State} {connection : Option String} {j : ι}

omit [DecidableEq ι] in
@[simp] theorem withDatabase_self :
  (s.withDatabase dsn database).databases dsn = database
  := Function.update_self ..

omit [DecidableEq ι] in
theorem withDatabase_of_ne (h : dsn' ≠ dsn) :
  (s.withDatabase dsn database).databases dsn' = s.databases dsn'
  := Function.update_of_ne h ..

@[simp] theorem withConnection_self :
  (s.withConnection i connection).connections i = connection
  := Function.update_self ..

theorem withConnection_of_ne (h : j ≠ i) :
  (s.withConnection i connection).connections j = s.connections j
  := Function.update_of_ne h ..

end Lemmas

/-- The connection of the request is closed. -/
def release : PortalState N :=
  match s.connections i with
  | none => s
  | some dsn => (s.withDatabase dsn (N.drop i (s.databases dsn))).withConnection i none

/-- The request has a connection, and no other one any more. -/
def connect (dsn : String) : PortalState N :=
  (s.release i).withConnection i (some dsn)

/-- A statement on the connection of the request. -/
def statement (c : N.Choice) (o : D.Op) : Option (Except Raised (D.Ans o) × PortalState N) :=
  match s.connections i with
  | none => some (.error .failure, s)
  | some dsn => (N.answer i o c (s.databases dsn)).map fun (r, database) =>
      (r, s.withDatabase dsn database)

end PortalState

namespace Portal

variable [DecidableEq ι] (portal : Portal D E)

/-- The decision of the access-control service, as the ingress gets it. -/
def decision {κ : Type} (c : PortalChoice E κ) (context : RequestContext)
    (operation : BffOperation) : AuthorizationResult :=
  if c.reached then
    let lookup (principalRef tenantRef : String) : Except Raised Bool :=
      .ok (isMember portal.dispatch portal.controlPlaneUrl c.store.1 principalRef tenantRef)
    AccessControl.evaluate lookup operation context none
  else
    ⟨false, some "access_denied", none⟩

/-- What the router answers to the ingress. -/
def resolution {κ : Type} (c : PortalChoice E κ) (tenantContext : Option String) :
    Except Raised RoutedTenant :=
  if c.reached then
    match resolveTenant portal.dispatch portal.controlPlaneUrl c.store.1 portal.secrets
        tenantContext with
    | .ok target => .ok ⟨target.tenantRef, target.targetRef⟩
    | .error error => .error (.denial error)
  else
    .error (.denial tenantUnavailable)

/-- What the router answers to a service that asks for a grant. -/
def grant {κ : Type} (c : PortalChoice E κ) (credential tenantRef : String) :
    Except Raised TenantConnectionGrant :=
  match grantFor (router portal.dispatch portal.controlPlaneUrl c.store.1 portal.secrets
      portal.allowlist.serviceFor credential c.expiresAt c.reached) (some tenantRef) with
  | .ok grant => .ok grant
  | .error error => .error (.denial error)

/-- An exchange that comes about, or does not. -/
def exchange {α κ : Type} (c : PortalChoice E κ) (a : α) : Except Raised α :=
  if c.reached then .ok a else .error (.denial tenantUnavailable)

/-- The portal over databases of the kind `N`. -/
abbrev machine (N : Machine D Raised ι) : Machine (portalSignature D E) Raised ι where
  State := PortalState N
  Choice := PortalChoice E N.Choice
  answer i op c s :=
    match op with
    | .authenticate credential carrier correlationId =>
        some (.ok (Authentication.httpAuthenticate portal.verifier portal.library c.now c.reached
          credential carrier correlationId), s)
    | .decide context operation => some (.ok (portal.decision c context operation), s)
    | .resolve tenantContext => some (portal.resolution c tenantContext, s)
    | .listMemberships _ | .listDirectory _ => some (c.records, s)
    | .emit event =>
        some (.ok (), if c.reached then { s with audit := event :: s.audit } else s)
    | .deliver _ _ => some (exchange c (), s)
    | .grantFor credential tenantRef => some (portal.grant c credential tenantRef, s)
    | .connect dsn => some (exchange c (), if c.reached then s.connect i dsn else s)
    | .statement o => s.statement i c.statement o
    | .close => some (.ok (), s.release i)
    | .outside o => some (c.outside o, s)
  drop i s := s.release i

/-- The requests of `who` as the threads of the portal. -/
def serving {N : Machine D Raised ι} (s : PortalState N) (requests : ι → Request × Endpoint)
    (who : ι → Prop) [DecidablePred who] : (portal.machine N).Config PortalDTO :=
  ⟨s, fun i => if who i then some (portal.serve (requests i)) else none⟩

theorem serving_threads {N : Machine D Raised ι} {s : PortalState N}
    {requests : ι → Request × Endpoint} {who : ι → Prop} [DecidablePred who] {i : ι} (h : who i) :
  (portal.serving s requests who).threads i = some (portal.serve (requests i))
  := if_pos h

end Portal

end Machine

end SnackPortal2
