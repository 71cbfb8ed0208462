import SnackPortal.SnackPortal2.Mediation
import SnackPortal.SnackPortal2.Portal

/-!
# Tenants do not interfere

A request opens connections for the tenant that its credential names, and for no other.  So where
the registry gives every tenant databases of its own, the requests of a tenant go the same way
whatever the other tenants send and whatever is in their databases.
-/

namespace SnackPortal2

open Program (Abides OnResult)

/-! ## The tenant of a request -/

/-- The tenant that a credential names, whether it is still valid or not. -/
def Authentication.TokenVerifier.claimedTenant (library : Authentication.Jwt) :
    Authentication.TokenVerifier → String → Option String
  | .denyAll, _ => none
  | .static principals, credential => (principals.lookup credential).bind (·.activeTenantRef)
  | .jwt _, credential =>
      (Authentication.identityFromClaims (library.claims credential)).bind (·.activeTenantRef)

/-- What is verified is active in the tenant that the credential names. -/
theorem Authentication.verify_claimedTenant {verifier : TokenVerifier} {library : Jwt} {now : Int}
    {credential : String} {identity : VerifiedIdentity}
    (h : verifier.verify library now credential = some identity) :
  identity.activeTenantRef = verifier.claimedTenant library credential
  := by
  cases verifier with
  | denyAll => cases h
  | static principals =>
      rw [TokenVerifier.verify] at h
      rw [TokenVerifier.claimedTenant, h]
      rfl
  | jwt anchors =>
      have hclaims : identityFromClaims (library.claims credential) = some identity := by
        simp only [TokenVerifier.verify] at h
        split at h
        · cases h
        · split at h
          · cases h
          · split at h
            · apply h
            · cases h
      rw [TokenVerifier.claimedTenant, hclaims]
      rfl

namespace Portal

variable {D E : Signature.{0}} (portal : Portal D E)

/-- The tenant that a credential names. -/
def claimed (credential : String) : Option String :=
  portal.verifier.claimedTenant portal.library credential

/-- The tenant that the credential of a request names. -/
def activeTenant (request : Request × Endpoint) : Option String :=
  (Bff.bearer request.1).bind portal.claimed

/-! ## The ingress -/

/-- The calls of a request of the tenant: it authenticates as the tenant, and calls services for
it. -/
def Confined (u : Option String) : BffOp → Prop
  | .authenticate credential _ _ => portal.claimed credential = u
  | .call _ _ payload => payload.context.tenantContext = u
  | _ => True

/-- Authentication answers with the tenant that the credential names. -/
def Truthful : (op : BffOp) → Except Raised (bffSignature.Ans op) → Prop
  | .authenticate credential _ _, .ok (some result) =>
      result.authContext.activeTenantRef = portal.claimed credential
  | _, _ => True

variable {u : Option String}

/-- The program keeps to the tenant, and its result meets `Q`. -/
abbrev Keeps (u : Option String) {α : Type} (x : BffProgram α) (Q : α → Prop) : Prop :=
  x.Abides (portal.Confined u) portal.Truthful (OnResult Q)

/-- A program of the ingress that calls nothing keeps to any tenant. -/
theorem silent_keeps {α : Type} {x : BffProgram α} (hx : Silent x) :
  portal.Keeps u x fun _ => True
  := by
  apply (Abides.of_calls hx fun _ => False.elim).mono
  intro r _
  cases r with
  | ok a => trivial
  | error e => trivial

theorem ask_keeps (op : BffOp) (hop : portal.Confined u op) :
  portal.Keeps u (Program.perform (S := bffSignature) op) fun _ => True
  := Abides.ask hop fun _ _ => trivial

theorem emit_keeps (event : AuditEvent) :
  portal.Keeps u (Bff.emit event) fun _ => True
  := portal.ask_keeps (.emit event) trivial

theorem decide_keeps (context : RequestContext) (operation : BffOperation)
    (recordRef : Option String) :
  portal.Keeps u (Bff.decide context operation recordRef) fun _ => True
  := portal.ask_keeps (.decide context operation recordRef) trivial

theorem resolve_keeps (context : RequestContext) :
  portal.Keeps u (Bff.resolve context) fun _ => True
  := portal.ask_keeps (.resolve context) trivial

theorem call_keeps {service path : String} {payload : Payload}
    (hpayload : payload.context.tenantContext = u) :
  portal.Keeps u (Bff.call service path payload) fun _ => True
  := portal.ask_keeps (.call service path payload) hpayload

theorem listMembershipsOf_keeps (principalRef : String) :
  portal.Keeps u (Bff.listMembershipsOf principalRef) fun _ => True
  := portal.ask_keeps (.listMemberships principalRef) trivial

theorem listDirectory_keeps (directory : String) :
  portal.Keeps u (Bff.listDirectory directory) fun _ => True
  := portal.ask_keeps (.listDirectory directory) trivial

theorem authenticate_keeps {credential : String} (hu : portal.claimed credential = u)
    (carrier : Option String) (correlationId : String) :
  portal.Keeps u (Bff.authenticate credential carrier correlationId) fun answer =>
    ∀ result, answer = some result → result.authContext.activeTenantRef = u
  := by
  have hask : portal.Keeps u
      (Program.perform (S := bffSignature) (.authenticate credential carrier correlationId))
      fun answer : Option AuthenticationResult =>
        ∀ result, answer = some result → result.authContext.activeTenantRef = u := by
    apply Abides.ask (show portal.Confined u (.authenticate credential carrier correlationId)
      from hu)
    intro answer htruthful result hresult
    subst hresult
    exact htruthful.trans hu
  exact hask

theorem establish_keeps {credential : Option String} (hu : credential.bind portal.claimed = u)
    {baseDomain host correlationId : String} {headers : List (String × String)} :
  portal.Keeps u (Bff.establish baseDomain credential headers host correlationId)
    fun established => established.context.tenantContext = u
  := by
  cases credential with
  | none => exact Abides.raise
  | some credential =>
      rw [Bff.establish]
      split
      · exact Abides.raise
      · apply Abides.bind (portal.authenticate_keeps hu _ _)
        intro answer htenant
        cases answer with
        | none => exact Abides.raise
        | some result =>
            have hresult := htenant result rfl
            dsimp only
            split
            · exact Abides.bind (portal.emit_keeps _) fun _ _ => Abides.raise
            · split
              · exact Abides.bind (portal.emit_keeps _) fun _ _ => Abides.raise
              · split
                · exact Abides.bind (portal.emit_keeps _) fun _ _ => Abides.pure hresult
                · exact Abides.pure hresult

theorem authorize_keeps {context : RequestContext} {operation : BffOperation}
    {recordRef : Option String} :
  portal.Keeps u (Bff.authorize context operation recordRef) fun _ => True
  := by
  have hdenied : ∀ (event : AuditEvent) (error : AppError),
      portal.Keeps u (Bff.emit event >>= fun _ => (Bff.deny error : BffProgram DatabaseDomain))
        fun _ => True :=
    fun event _ => Abides.bind (portal.emit_keeps event) fun _ _ => Abides.raise
  apply Abides.bind (portal.decide_keeps context operation recordRef)
  intro decision _
  dsimp only
  split
  · apply hdenied
  · split
    · apply hdenied
    · split
      · apply hdenied
      · split
        · apply hdenied
        · exact Abides.pure trivial

section Request

variable {portal} {baseDomain : String} {request : Request}

/-- Behind the pipeline, the context is of the tenant. -/
theorem authorized_keeps (hu : (Bff.bearer request).bind portal.claimed = u)
    {operation : BffOperation} {recordRef : Option String} :
  portal.Keeps u (Bff.authorized baseDomain request operation recordRef)
    fun context => context.tenantContext = u
  := by
  unfold Bff.authorized
  apply Abides.bind (portal.establish_keeps hu)
  intro established htenant
  apply Abides.bind portal.authorize_keeps
  intro _ _
  exact Abides.pure htenant

/-- A route behind the pipeline. -/
theorem authorized_bind {α : Type} (hu : (Bff.bearer request).bind portal.claimed = u)
    {operation : BffOperation} {recordRef : Option String} {f : RequestContext → BffProgram α}
    (hf : ∀ context, context.tenantContext = u → portal.Keeps u (f context) fun _ => True) :
  portal.Keeps u (Bff.authorized baseDomain request operation recordRef >>= f) fun _ => True
  := Abides.bind (authorized_keeps hu) hf

/-- A call of a service, for the tenant. -/
theorem tenantCall_keeps (hu : (Bff.bearer request).bind portal.claimed = u)
    {operation : BffOperation} {recordRef : Option String} {service path : String}
    {extra : List (String × PayloadValue)} :
  portal.Keeps u (Bff.tenantCall baseDomain request operation recordRef service path extra)
    fun _ => True
  := by
  unfold Bff.tenantCall
  apply authorized_bind hu
  intro context hcontext
  have hrouted : portal.Keeps u (Bff.routed context) fun _ => True :=
    Abides.bind (portal.resolve_keeps context) fun _ _ => Abides.pure trivial
  apply Abides.bind hrouted
  intro _ _
  apply Abides.bind (portal.call_keeps hcontext)
  intro _ _
  exact Abides.pure trivial

/-- A route on tenant records. -/
theorem tenantCall_bind {α : Type} (hu : (Bff.bearer request).bind portal.claimed = u)
    {operation : BffOperation} {recordRef : Option String} {service path : String}
    {extra : List (String × PayloadValue)} {f : RequestContext × Body → BffProgram α}
    (hf : ∀ context body, portal.Keeps u (f (context, body)) fun _ => True) :
  portal.Keeps u
    (Bff.tenantCall baseDomain request operation recordRef service path extra >>= f)
    fun _ => True
  := Abides.bind (tenantCall_keeps hu) fun answer _ => hf answer.1 answer.2

/-- A route that composes its response from the answer of a service. -/
theorem tenantCall_silent {α : Type} (hu : (Bff.bearer request).bind portal.claimed = u)
    {operation : BffOperation} {recordRef : Option String} {service path : String}
    {extra : List (String × PayloadValue)} {f : RequestContext × Body → BffProgram α}
    (hf : ∀ context body, Silent (f (context, body))) :
  portal.Keeps u
    (Bff.tenantCall baseDomain request operation recordRef service path extra >>= f)
    fun _ => True
  := tenantCall_bind hu fun context body => portal.silent_keeps (hf context body)

theorem readDirectory_keeps (hu : (Bff.bearer request).bind portal.claimed = u)
    {operation : BffOperation} {directory : String} :
  portal.Keeps u (Bff.readDirectory baseDomain request operation directory) fun _ => True
  := by
  unfold Bff.readDirectory
  apply authorized_bind hu
  intro _ _
  apply Abides.bind (portal.listDirectory_keeps directory)
  intro records _
  exact portal.silent_keeps (Program.Calls.mapM directoryEntry_silent records)

theorem listRecords_keeps {α : Type} (hu : (Bff.bearer request).bind portal.claimed = u)
    {operation : BffOperation} {service path : String} {limit : Int}
    {detail : Record → BffProgram α} (hdetail : ∀ record, Silent (detail record)) :
  portal.Keeps u (Bff.listRecords baseDomain request operation service path limit detail)
    fun _ => True
  := by
  unfold Bff.listRecords
  apply tenantCall_silent hu
  intro _ body
  apply Program.Calls.bind (asListing_silent _ _)
  intro records
  exact Program.Calls.mapM hdetail records

theorem oneRecord_keeps {α : Type} (hu : (Bff.bearer request).bind portal.claimed = u)
    {operation : BffOperation} {recordRef : Option String} {service path : String}
    {extra : List (String × PayloadValue)} {detail : Record → BffProgram α}
    (hdetail : ∀ record, Silent (detail record)) :
  portal.Keeps u
    (Bff.oneRecord baseDomain request operation recordRef service path extra detail)
    fun _ => True
  := by
  unfold Bff.oneRecord
  apply tenantCall_silent hu
  intro _ body
  exact Program.Calls.bind (asRecord_silent body) hdetail

theorem readRecord_keeps {α : Type} (hu : (Bff.bearer request).bind portal.claimed = u)
    {operation : BffOperation} {recordRef service path : String}
    {detail : Record → BffProgram α} (hdetail : ∀ record, Silent (detail record)) :
  portal.Keeps u (Bff.readRecord baseDomain request operation recordRef service path detail)
    fun _ => True
  := by
  unfold Bff.readRecord
  apply tenantCall_silent hu
  intro _ body
  dsimp only
  split
  · exact Program.Calls.raise
  · exact Program.Calls.bind (asRecord_silent body) hdetail

/-- A composed response. -/
theorem compose_keeps {α β : Type} {x : BffProgram α} {f : α → β}
    (hx : portal.Keeps u x fun _ => True) :
  portal.Keeps u (x >>= fun a => Pure.pure (f a)) fun _ => True
  := Abides.bind hx fun _ _ => Abides.pure trivial

/-- A response that is composed of the record in a body. -/
theorem compose_silent {α β : Type} {detail : Record → BffProgram α} {f : α → β}
    (hdetail : ∀ record, Silent (detail record)) (body : Body) :
  Silent (Bff.asRecord body >>= fun record => detail record >>= fun a =>
    (Pure.pure (f a) : BffProgram β))
  := Program.Calls.bind (asRecord_silent body) fun record =>
    Program.Calls.bind (hdetail record) fun _ => Program.Calls.pure

/-- Every route keeps to the tenant that the credential of the request names. -/
theorem handler_keeps (hu : (Bff.bearer request).bind portal.claimed = u) (endpoint : Endpoint) :
  portal.Keeps u (Bff.handler baseDomain request endpoint) fun _ => True
  := by
  cases endpoint with
  | listMemberships =>
      unfold Bff.handler Bff.listMemberships
      apply authorized_bind hu
      intro context _
      apply Abides.bind (portal.listMembershipsOf_keeps _)
      intro raw _
      apply Abides.bind (portal.silent_keeps (Program.Calls.mapM membershipEntry_silent raw))
      intro _ _
      apply Abides.bind (portal.emit_keeps _)
      intro _ _
      exact Abides.pure trivial
  | readStartupDirectory => exact compose_keeps (readDirectory_keeps hu)
  | readInvestorDirectory => exact compose_keeps (readDirectory_keeps hu)
  | importStartup sourceRef =>
      unfold Bff.handler Bff.importStartup
      apply tenantCall_silent hu
      intro _ body
      exact compose_silent importResult_silent body
  | listStartups limit => exact compose_keeps (listRecords_keeps hu startupDetail_silent)
  | readStartup recordRef =>
      unfold Bff.handler Bff.readStartup
      apply tenantCall_bind hu
      intro context body
      dsimp only
      split
      · exact Abides.raise
      · apply Abides.bind (portal.emit_keeps _)
        intro _ _
        exact portal.silent_keeps (compose_silent startupDetail_silent body)
  | createStartup body => exact compose_keeps (oneRecord_keeps hu startupDetail_silent)
  | updateStartup recordRef text =>
      unfold Bff.handler Bff.updateStartup
      apply tenantCall_bind hu
      intro context body
      apply Abides.bind (portal.emit_keeps _)
      intro _ _
      exact portal.silent_keeps (compose_silent startupDetail_silent body)
  | listInvestors limit => exact compose_keeps (listRecords_keeps hu investorDetail_silent)
  | readInvestor recordRef => exact compose_keeps (readRecord_keeps hu investorDetail_silent)
  | createInvestor body => exact compose_keeps (oneRecord_keeps hu investorDetail_silent)
  | updateInvestor recordRef text =>
      exact compose_keeps (oneRecord_keeps hu investorDetail_silent)
  | listDeals limit => exact compose_keeps (listRecords_keeps hu dealDetail_silent)
  | readDeal recordRef => exact compose_keeps (readRecord_keeps hu dealDetail_silent)
  | createDeal body => exact compose_keeps (oneRecord_keeps hu dealDetail_silent)
  | updateDeal recordRef stage status => exact compose_keeps (oneRecord_keeps hu dealDetail_silent)
  | readLineage recordRef =>
      unfold Bff.handler Bff.readLineage
      apply tenantCall_silent hu
      intro _ body
      apply Program.Calls.bind (asListing_silent _ _)
      intro entries
      apply Program.Calls.bind (Program.Calls.mapM (fun record => item_silent record _) entries)
      intro _
      apply Program.Calls.bind (Program.Calls.mapM (fun record => item_silent record _) entries)
      intro _
      apply Program.Calls.pure

theorem serve_keeps (hu : (Bff.bearer request).bind portal.claimed = u) (endpoint : Endpoint) :
  portal.Keeps u (Bff.serve baseDomain request endpoint) fun _ => True
  := by
  rw [Bff.serve]
  split
  · apply handler_keeps hu
  · exact Abides.raise

end Request

/-! ## Connections -/

/-- The calls of a request of the tenant, where `home` gives every database its tenant: it asks
for grants for the tenant, and connects to databases of the tenant. -/
def Allowed (home : String → Option String) (u : Option String) : PortalOp D E → Prop
  | .authenticate credential _ _ => portal.claimed credential = u
  | .grantFor _ tenantRef => u = some tenantRef
  | .connect dsn => ∃ tenantRef, u = some tenantRef ∧ home dsn = some tenantRef
  | _ => True

/-- Authentication answers with the tenant that the credential names, and the router grants a
tenant a database of its own. -/
def Answered (home : String → Option String) :
    (op : PortalOp D E) → Except Raised (PortalOp.Ans op) → Prop
  | .authenticate credential _ _, .ok (some result) =>
      result.authContext.activeTenantRef = portal.claimed credential
  | .grantFor _ tenantRef, .ok grant => home grant.dsn = some tenantRef
  | _, _ => True

variable {home : String → Option String}

/-- The program keeps to the tenant and its databases. -/
abbrev Stays (home : String → Option String) (u : Option String) {α : Type}
    (x : PortalProgram D E α) (Q : Except Raised α → Prop) : Prop :=
  x.Abides (portal.Allowed home u) (portal.Answered home) Q

theorem perform_stays (op : PortalOp D E) (hop : portal.Allowed home u op) :
  portal.Stays home u (perform op) (portal.Answered home op)
  := Abides.perform hop

theorem ask_stays (op : PortalOp D E) (hop : portal.Allowed home u op) :
  portal.Stays home u (perform op) (OnResult fun _ => True)
  := by
  apply (portal.perform_stays op hop).mono
  intro r _
  cases r with
  | ok a => trivial
  | error e => trivial

/-- The connection that is opened is one to a database of the tenant. -/
theorem openTenantConnection_stays {service tenantRef : String} :
  portal.Stays home (some tenantRef) (portal.openTenantConnection service tenantRef)
    (OnResult fun _ => True)
  := by
  have hgrant : portal.Stays home (some tenantRef)
      (perform (.grantFor (portal.credentialOf service) tenantRef))
      (OnResult fun grant : TenantConnectionGrant => home grant.dsn = some tenantRef) := by
    apply (portal.perform_stays (.grantFor (portal.credentialOf service) tenantRef) rfl).mono
    intro r hr
    cases r with
    | ok grant => exact hr
    | error e => trivial
  apply Abides.bind hgrant
  intro grant hhome
  apply Abides.bind (portal.ask_stays (.connect grant.dsn) ⟨tenantRef, rfl, hhome⟩)
  intro _ _
  exact Abides.pure trivial

theorem forTenant_stays {service tenantRef : String} (op : ServiceOp D E) :
  portal.Stays home (some tenantRef) (portal.forTenant service tenantRef op) fun _ => True
  := by
  cases op with
  | openTenantConnection => exact portal.openTenantConnection_stays.mono fun _ _ => trivial
  | statement o => exact (portal.perform_stays (.statement o) trivial).mono fun _ _ => trivial
  | close => exact (portal.perform_stays .close trivial).mono fun _ _ => trivial
  | outside o => exact (portal.perform_stays (.outside o) trivial).mono fun _ _ => trivial

/-- The tenant of a context is the one that it names. -/
theorem tenantOf_ok {tenantContext : Option String} {tenantRef : String}
    (h : tenantOf tenantContext = .ok tenantRef) :
  tenantContext = some tenantRef
  := by
  cases tenantContext with
  | none => cases h
  | some tenant =>
      rw [tenantOf] at h
      split at h
      · cases h
      · obtain rfl := Except.ok.inj h
        rfl

theorem operation_stays {service path : String} {payload : Payload}
    (hpayload : payload.context.tenantContext = u) :
  portal.Stays home u (portal.operation service path payload) (OnResult fun _ => True)
  := by
  rw [operation]
  split
  · exact Abides.raise
  · split
    · exact Abides.raise
    · rename_i tenantRef htenant
      rw [tenantOf_ok htenant] at hpayload
      subst hpayload
      have hany : (portal.services service path payload).Abides (fun _ => True)
          (fun _ _ => True) fun _ => True := Abides.of_all fun _ => trivial
      apply Abides.mono (Abides.handle hany fun op _ => portal.forTenant_stays op)
      intro r _
      cases r with
      | ok a => trivial
      | error e => trivial

/-- A service that is called for the tenant stays with its databases. -/
theorem callService_stays {service path : String} {payload : Payload}
    (hpayload : payload.context.tenantContext = u) :
  portal.Stays home u (portal.callService service path payload) (OnResult fun _ => True)
  := by
  apply Abides.bind (portal.ask_stays (.deliver service path) trivial)
  intro _ _
  apply Abides.bind (Q := fun _ => True)
  · apply Abides.rescue (portal.operation_stays hpayload)
    intro e
    cases e with
    | denial error => exact Abides.raise
    | failure => exact Abides.raise
  · intro body _
    apply Abides.bind (portal.ask_stays (.deliver service path) trivial)
    intro _ _
    exact Abides.pure trivial

/-- The clients of the ingress stay with the tenant where the ingress keeps to it. -/
theorem clients_stays (op : BffOp) (hop : portal.Confined u op) :
  portal.Stays home u (portal.clients op) (portal.Truthful op)
  := by
  cases op with
  | authenticate credential carrier correlationId =>
      apply (portal.perform_stays (.authenticate credential carrier correlationId) hop).mono
      intro r hr
      cases r with
      | error e => trivial
      | ok answer =>
          cases answer with
          | none => trivial
          | some result => exact hr
  | decide context operation recordRef =>
      exact (portal.perform_stays (.decide context operation) trivial).mono fun _ _ => trivial
  | resolve context =>
      exact (portal.perform_stays (.resolve context.tenantContext) trivial).mono
        fun _ _ => trivial
  | listMemberships principalRef =>
      exact (portal.perform_stays (.listMemberships principalRef) trivial).mono fun _ _ => trivial
  | listDirectory directory =>
      exact (portal.perform_stays (.listDirectory directory) trivial).mono fun _ _ => trivial
  | call service path payload =>
      exact (portal.callService_stays hop).mono fun _ _ => trivial
  | emit event => exact (portal.perform_stays (.emit event) trivial).mono fun _ _ => trivial

/-- A request stays with the databases of the tenant that its credential names. -/
theorem serve_stays (request : Request × Endpoint) :
  portal.Stays home (portal.activeTenant request) (portal.serve request) fun _ => True
  := by
  have hserve : portal.Keeps (portal.activeTenant request)
      (Bff.serve portal.baseDomain request.1 request.2) fun _ => True := serve_keeps rfl request.2
  exact (Abides.handle hserve portal.clients_stays).mono fun _ _ => trivial

end Portal

end SnackPortal2
