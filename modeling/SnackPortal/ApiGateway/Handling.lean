import SnackPortal.ApiGateway.Gateway

/-!
# Handling of a request

Every way the gateway can handle a request, whatever its ports answer or raise.  At most one port
is asked for data, after the request was authenticated and under its signed claim; an answer
carries a response of the portal only with the evidence it needs; and the domain that the router
binds for a request that is handed off is compared with the gateway's own decision.
-/

namespace ApiGateway

open DatabaseRouter (RequestContext RoutingTarget determineTarget)
open Program

abbrev GatewayEvent := Event gatewaySignature Raised

/-- A call for data. -/
def GatewayOp.data : GatewayOp → Prop
  | .authenticate .. | .emit _ => False
  | _ => True

/-- The domain of the router's target. -/
def routerDomain : RoutingTarget → DatabaseDomain
  | .tenant => .tenant
  | .control => .control

/-- The router binds from the context alone: its domain is that of the decision, but for a
decision on the control domain under a signed tenant. -/
def Bound (context : RequestContext) (decision : DispatchDecision) : Prop :=
  ∀ bootstrapPhase0 target, determineTarget context bootstrapPhase0 = .ok target →
    (routerDomain target = decision.domain
      ↔ ¬ (decision.domain = .control ∧ context.activeTenantId ≠ none))

section Conditions

variable (gateway : Gateway) (minted : Minted) (request : InboundRequest)

/-- A call under the signed claim. -/
def Signed (auth : AuthResult) : GatewayOp → Prop
  | .authenticate .. | .emit _ | .directory _ => True
  | .readStartup asked => some asked.targetTenantRef = auth.activeTenantId
      ∧ asked.actorRef = auth.principalRef
  | .updateStartup asked => some asked.targetTenantRef = auth.activeTenantId
      ∧ asked.actorRef = auth.principalRef
  | .initiate asked => some asked.targetTenantRef = auth.activeTenantId
      ∧ asked.actorRef = auth.principalRef
  | .membershipsForPrincipal principalRef => principalRef = auth.principalRef
  | .dispatch context decision => context = buildRequestContext auth
      ∧ (∀ target, decision.targetTenantId = some target → auth.activeTenantId = some target)
      ∧ (gateway.controlRead → decision.domain = .tenant)
      ∧ Bound context decision

/-- The first call for data of an authenticated request whose carriers name at most one
tenant. -/
structure Preceded (h : List GatewayEvent) (auth : AuthResult) : Prop where
  single : (recognizedCarriers request).dedup.length ≤ 1
  authenticated : ⟨.authenticate request.authorization (recognizedCarriers request)
    (correlationIdOf minted request), .ok auth⟩ ∈ h
  first : ∀ event ∈ h, ¬ event.op.data

/-- What a call needs. -/
def Mediated (h : List GatewayEvent) (op : GatewayOp) : Prop :=
  op.data → ∃ auth, Preceded minted request h auth ∧ Signed gateway auth op

/-- The classes of a success. -/
def AuditAction.success : AuditAction → Bool
  | .workspaceMembershipsRead | .tenantStartupRead | .tenantStartupUpdate => true
  | _ => false

/-- The emission of a success. -/
def succeeding (event : GatewayEvent) : Bool :=
  match event.op with
  | .emit audit => audit.action.success
  | _ => false

/-- The class of the success that a response is handed back after. -/
def PortalDTO.evidence (request : InboundRequest) : PortalDTO → Option AuditAction
  | .memberships _ => some .workspaceMembershipsRead
  | .tenantStartup _ =>
      some (if request.method = "PATCH" then .tenantStartupUpdate else .tenantStartupRead)
  | _ => none

/-- The envelope of an accepted start of an import, which is handed back with the status of the
router. -/
def Envelope (response : GatewayResponse) (dto : PortalDTO) : Prop :=
  gateway.controlRead = true ∧ gateway.importInitiation = false ∧ response.status < 400
    ∧ response.dispatched = true ∧ ∃ sourceRef target, dto = .importInitiation sourceRef target

/-- How a request is answered. -/
structure Answered (r : Except Raised GatewayResponse) (h : List GatewayEvent) : Prop where
  composed : ∀ response dto, r = .ok response → response.portalDto = some dto →
    response.status = 200 ∨ Envelope gateway response dto
  evidenced : ∀ response dto action, r = .ok response → response.portalDto = some dto →
    dto.evidence request = some action →
    ∃ audit, audit.action = action ∧ h.filter succeeding = [⟨.emit audit, .ok ()⟩]
  /-- An event that was not accepted is answered with 503. -/
  failed : ∀ audit e, ⟨.emit audit, .error e⟩ ∈ h → ∃ category, r = .ok (unavailable category)

end Conditions

/-! ## The router's domain -/

theorem bound_decide {auth : AuthResult} {category : DispatchCategory}
    {decision : DispatchDecision}
    (h : decide category (buildRequestContext auth) = .ok decision) :
  Bound (buildRequestContext auth) decision
  := by
  obtain ⟨-, hdomain, -⟩ := decide_ok h
  intro bootstrapPhase0 target htarget
  rw [hdomain]
  unfold determineTarget at htarget
  split at htarget
  · rename_i hactive
    have hsome : (buildRequestContext auth).activeTenantId ≠ none :=
      Option.isSome_iff_ne_none.mp hactive
    split at htarget
    · cases htarget
    · cases htarget
      cases hcategory : categoryDomain category with
      | control => simp [routerDomain, hsome]
      | tenant => simp [routerDomain]
  · rename_i hactive
    have hnone : (buildRequestContext auth).activeTenantId = none :=
      Option.not_isSome_iff_eq_none.mp hactive
    split at htarget
    · cases htarget
      cases hcategory : categoryDomain category with
      | control => simp [routerDomain, hnone]
      | tenant => cases decide_tenant h hcategory hnone
    · cases htarget

/-! ## Events -/

-- What is read out of the request's texts is not evaluated here.
seal recognizedCarriers correlationIdOf operationKeyOf tenantStartupRef suffixOf

section Requests

variable {gateway : Gateway} {minted : Minted} {request : InboundRequest}

/-- The calls are mediated, and the ending is answered. -/
def Handled (gateway : Gateway) (minted : Minted) (request : InboundRequest)
    (x : GatewayProgram GatewayResponse) (h : List GatewayEvent) : Prop :=
  Guarded (Mediated gateway minted request) (Answered gateway request) x h

/-- Every event was accepted, and none was that of a success. -/
structure Unmarked (h : List GatewayEvent) : Prop where
  accepted : ∀ audit e, ⟨.emit audit, .error e⟩ ∉ h
  unsucceeded : h.filter succeeding = []

theorem Unmarked.nil :
  Unmarked []
  := ⟨fun _ _ => (nomatch ·), rfl⟩

theorem Unmarked.cons {h : List GatewayEvent} (hh : Unmarked h) {event : GatewayEvent}
    (hs : succeeding event = false) (ha : ∀ audit e, event ≠ ⟨.emit audit, .error e⟩) :
  Unmarked (event :: h)
  := by
  constructor
  · intro audit e hmem
    rcases List.mem_cons.mp hmem with rfl | hmem
    · apply ha audit e rfl
    · apply hh.accepted audit e hmem
  · rw [List.filter_cons_of_neg (by simp [hs])]
    apply hh.unsucceeded

/-- An ending that carries no response of the portal, or one that needs no evidence. -/
theorem Unmarked.answered {h : List GatewayEvent} (hh : Unmarked h)
    {r : Except Raised GatewayResponse}
    (hr : ∀ response dto, r = .ok response → response.portalDto = some dto →
      (response.status = 200 ∨ Envelope gateway response dto)
        ∧ dto.evidence request = none) :
  Answered gateway request r h
  := by
  constructor
  · intro response dto hresponse hdto
    apply (hr response dto hresponse hdto).1
  · intro response dto action hresponse hdto haction
    rw [(hr response dto hresponse hdto).2] at haction
    cases haction
  · intro audit e hmem
    cases hh.accepted audit e hmem

/-- An answer without a response of the portal. -/
theorem Unmarked.plain {h : List GatewayEvent} (hh : Unmarked h) {response : GatewayResponse}
    (hdto : response.portalDto = none) :
  Answered gateway request (.ok response) h
  := by
  apply hh.answered
  intro response' dto hresponse hdto'
  cases hresponse
  rw [hdto] at hdto'
  cases hdto'

theorem Unmarked.raised {h : List GatewayEvent} (hh : Unmarked h) (e : Raised) :
  Answered gateway request (.error e) h
  := hh.answered fun _ _ => nofun

/-- The answer to an event that was not accepted. -/
theorem answered_unavailable {h : List GatewayEvent} (category : Option DispatchCategory) :
  Answered gateway request (.ok (unavailable category)) h
  := by
  constructor
  · intro response dto hresponse hdto
    cases hresponse
    cases hdto
  · intro response dto action hresponse hdto
    cases hresponse
    cases hdto
  · intro audit e hmem
    use category

/-- An emission, and whether it was accepted. -/
def Emission (event : GatewayAuditEvent) (h : List GatewayEvent) :
    Except Raised (Bool × Emitted) → List GatewayEvent → Prop
  | .ok (true, _), h' => h' = h ∨ h' = ⟨.emit event, .ok ()⟩ :: h
  | .ok (false, _), h' => ∃ e, h' = ⟨.emit event, .error e⟩ :: h
  | .error _, _ => False

theorem emit_guarded (emitted : Emitted) (event : GatewayAuditEvent) (h : List GatewayEvent) :
  Guarded (Mediated gateway minted request) (Emission event h) (emit emitted event) h
  := by
  unfold emit
  split
  · apply Or.inl rfl
  · constructor
    · exact False.elim
    · rintro (e | _)
      · use e
      · apply Or.inr rfl

/-- Accepted events that are no successes leave the history unmarked. -/
theorem Unmarked.emission {h h' : List GatewayEvent} (hh : Unmarked h)
    {event : GatewayAuditEvent} (hs : event.action.success = false)
    (hh' : h' = h ∨ h' = ⟨.emit event, .ok ()⟩ :: h) :
  Unmarked h'
  := by
  rcases hh' with rfl | rfl
  · apply hh
  · have hsucceeding : succeeding ⟨.emit event, .ok ()⟩ = false := hs
    apply hh.cons hsucceeding
    exact fun _ _ => nofun

theorem evidenced_handled {h : List GatewayEvent} (hh : Unmarked h) {emitted : Emitted}
    {event : GatewayAuditEvent} (hs : event.action.success = false)
    {category : Option DispatchCategory} {response : GatewayResponse}
    (hdto : response.portalDto = none) :
  Handled gateway minted request (evidenced emitted event category response) h
  := by
  apply Guarded.bind (emit_guarded emitted event h)
  · rintro ⟨accepted | accepted, emitted'⟩ h' hh'
    · apply answered_unavailable
    · apply (hh.emission hs hh').plain hdto
  · rintro e h' ⟨⟩

/-- A success is handed back after its one event. -/
theorem emitSuccess_handled {h : List GatewayEvent} (hh : Unmarked h)
    {event : GatewayAuditEvent} (hs : event.action.success = true)
    {category : DispatchCategory} {dto : PortalDTO}
    (hevidence : dto.evidence request = some event.action) :
  Handled gateway minted request (emitSuccess event category dto) h
  := by
  constructor
  · exact False.elim
  · rintro (e | _)
    · apply answered_unavailable
    · constructor
      · intro response dto' hresponse hdto
        cases hresponse
        apply Or.inl rfl
      · intro response dto' action hresponse hdto haction
        cases hresponse
        cases hdto
        use event
        constructor
        · rw [hevidence] at haction
          apply Option.some.inj haction
        · have hsucceeding : succeeding ⟨.emit event, .ok ()⟩ = true := hs
          rw [List.filter_cons_of_pos hsucceeding, hh.unsucceeded]
      · intro audit e hmem
        rcases List.mem_cons.mp hmem with hmem | hmem
        · cases hmem
        · cases hh.accepted audit e hmem

/-! ## Stages -/

/-- A request that is authenticated, and has asked for no data. -/
structure Ready (minted : Minted) (request : InboundRequest) (auth : AuthResult)
    (h : List GatewayEvent) : Prop where
  preceded : Preceded minted request h auth
  unmarked : Unmarked h

/-- A call for data of such a request, and what follows its answer. -/
theorem Ready.ask {auth : AuthResult} {h : List GatewayEvent}
    (hh : Ready minted request auth h) {op : GatewayOp} (hdata : op.data)
    (hop : Signed gateway auth op)
    {f : Except Raised (gatewaySignature.Ans op) → GatewayProgram GatewayResponse}
    (hf : ∀ r, Unmarked (⟨op, r⟩ :: h) →
      Handled gateway minted request (f r) (⟨op, r⟩ :: h)) :
  Handled gateway minted request ((perform (S := gatewaySignature) op).andThen f) h
  := by
  constructor
  · intro _
    use auth
    exact ⟨hh.preceded, hop⟩
  · intro r
    apply hf r
    apply hh.unmarked.cons
    · cases op with
      | emit audit => cases hdata
      | _ => rfl
    · rintro audit e hevent
      cases hevent
      apply hdata

theorem routeDenied_handled {auth : AuthResult} {h : List GatewayEvent} (hh : Unmarked h)
    (emitted : Emitted) (category : DispatchCategory) :
  Handled gateway minted request (routeDenied minted request auth emitted category) h
  := evidenced_handled hh rfl rfl

theorem tenantStartupOperation_handled {auth : AuthResult} {h : List GatewayEvent}
    (hh : Ready minted request auth h) {category : DispatchCategory}
    {decision : DispatchDecision} (hdecision : ∀ target,
      decision.targetTenantId = some target → auth.activeTenantId = some target)
    (startupRef : String) :
  Handled gateway minted request
    (tenantStartupOperation minted request auth category decision startupRef) h
  := by
  unfold tenantStartupOperation
  split
  · apply hh.unmarked.raised
  · rename_i target htarget
    have hactive := hdecision target htarget
    simp only
    split
    · rename_i hpatch
      split
      · apply hh.unmarked.plain rfl
      · apply hh.ask
        · trivial
        · exact ⟨hactive.symm, rfl⟩
        · rintro (e | detail) hunmarked
          · apply answered_unavailable
          · cases detail with
            | none => apply hunmarked.plain rfl
            | some detail =>
                apply emitSuccess_handled hunmarked rfl
                simp only [PortalDTO.evidence, if_pos hpatch]
                rfl
    · rename_i hget
      apply hh.ask
      · trivial
      · exact ⟨hactive.symm, rfl⟩
      · rintro (e | detail) hunmarked
        · apply answered_unavailable
        · cases detail with
          | none => apply hunmarked.plain rfl
          | some detail =>
              apply emitSuccess_handled hunmarked rfl
              simp only [PortalDTO.evidence, if_neg hget]
              rfl

theorem controlReadOperation_handled {auth : AuthResult} {h : List GatewayEvent}
    (hh : Ready minted request auth h) (emitted : Emitted) {category : DispatchCategory}
    (hcategory : categoryDomain category = .control) :
  Handled gateway minted request
    (controlReadOperation minted request auth emitted category) h
  := by
  unfold controlReadOperation
  split
  · apply hh.ask
    · trivial
    · trivial
    · rintro (e | page) hunmarked
      · apply answered_unavailable
      · cases page with
        | none => apply routeDenied_handled hunmarked
        | some page =>
            apply hunmarked.answered
            intro response dto hresponse hdto
            cases hresponse
            cases hdto
            exact ⟨Or.inl rfl, rfl⟩
  · rename_i hdirectory
    apply hh.ask
    · trivial
    · rfl
    · rintro (e | memberships) hunmarked
      · apply answered_unavailable
      · cases memberships with
        | none => apply routeDenied_handled hunmarked
        | some memberships =>
            cases category with
            | membershipsForPrincipal => apply emitSuccess_handled hunmarked rfl rfl
            | globalDirectoryRead => cases hdirectory rfl
            | tenantOperation => cases hcategory
            | importInitiation => cases hcategory

theorem importOperation_handled {auth : AuthResult} {h : List GatewayEvent}
    (hh : Ready minted request auth h) (emitted : Emitted) {category : DispatchCategory}
    {decision : DispatchDecision} (hdecision : ∀ target,
      decision.targetTenantId = some target → auth.activeTenantId = some target) :
  Handled gateway minted request
    (importOperation minted request auth emitted category decision) h
  := by
  unfold importOperation
  split
  · apply hh.unmarked.raised
  · rename_i target htarget
    apply hh.ask
    · trivial
    · exact ⟨(hdecision target htarget).symm, rfl⟩
    · rintro (e | result) hunmarked
      · apply hunmarked.raised
      · simp only
        split
        · apply answered_unavailable
        · split
          · apply routeDenied_handled hunmarked
          · apply hunmarked.answered
            intro response dto hresponse hdto
            cases hresponse
            cases hdto
            exact ⟨Or.inl rfl, rfl⟩

theorem handOff_handled {auth : AuthResult} {h : List GatewayEvent}
    (hh : Ready minted request auth h) {category : DispatchCategory}
    {decision : DispatchDecision}
    (hdecision : decide category (buildRequestContext auth) = .ok decision)
    (hcontrol : gateway.controlRead → decision.domain = .tenant)
    (himport : gateway.importInitiation = true → category ≠ .importInitiation) :
  Handled gateway minted request
    (handOff gateway request (buildRequestContext auth) category decision) h
  := by
  obtain ⟨-, -, htarget⟩ := decide_ok hdecision
  apply hh.ask
  · trivial
  · use rfl
    constructor
    · intro target hsome
      rw [htarget] at hsome
      split at hsome
      · apply hsome
      · cases hsome
    · exact ⟨hcontrol, bound_decide hdecision⟩
  · rintro (e | outcome) hunmarked
    · apply hunmarked.raised
    · apply hunmarked.answered
      intro response dto hresponse hdto
      cases hresponse
      simp only at hdto
      split at hdto
      · rename_i henvelope
        obtain ⟨hread, hcategory, hdispatched, hstatus⟩ := henvelope
        obtain ⟨target, -, rfl⟩ := Option.map_eq_some_iff.mp hdto
        constructor
        · right
          refine ⟨hread, ?_, hstatus, hdispatched, _, _, rfl⟩
          apply Bool.eq_false_iff.mpr
          intro hinjected
          apply himport hinjected hcategory
        · rfl
      · cases hdto

theorem decision_ok {context : RequestContext} {category : DispatchCategory}
    {decided : DispatchDecision}
    (h : decision gateway request context = .ok (category, decided)) :
  decide category context = .ok decided
  := by
  unfold decision at h
  cases hclassify : gateway.classify request with
  | error denied =>
      rw [hclassify] at h
      cases h
  | ok category' =>
      cases hdecide : decide category' context with
      | error denied =>
          simp only [hclassify, hdecide, Bind.bind, Except.bind] at h
          cases h
      | ok decided' =>
          simp only [hclassify, hdecide, Bind.bind, Except.bind] at h
          split at h
          · cases h
          · cases h
            apply hdecide

theorem decided_handled {auth : AuthResult} {h : List GatewayEvent}
    (hh : Ready minted request auth h) (emitted : Emitted) {category : DispatchCategory}
    {decided' : DispatchDecision}
    (hdecision : decide category (buildRequestContext auth) = .ok decided') :
  Handled gateway minted request
    (decided gateway minted request auth emitted (buildRequestContext auth) category decided') h
  := by
  obtain ⟨-, hdomain, htarget⟩ := decide_ok hdecision
  have hsigned : ∀ target, decided'.targetTenantId = some target →
      auth.activeTenantId = some target := by
    intro target hsome
    rw [htarget] at hsome
    split at hsome
    · apply hsome
    · cases hsome
  unfold decided
  split
  · apply tenantStartupOperation_handled hh hsigned
  · split
    · rename_i hcontrol
      apply controlReadOperation_handled hh
      rw [← hdomain]
      apply hcontrol.2
    · rename_i hcontrol
      split
      · apply importOperation_handled hh emitted hsigned
      · rename_i himport
        apply handOff_handled hh hdecision
        · intro hread
          cases hd : decided'.domain with
          | tenant => rfl
          | control => cases hcontrol ⟨hread, hd⟩
        · intro hinjected hcategory
          apply himport ⟨hinjected, hcategory⟩

theorem authenticated_handled {auth : AuthResult} {h : List GatewayEvent}
    (hh : Ready minted request auth h) (emitted : Emitted) :
  Handled gateway minted request (authenticated gateway minted request auth emitted) h
  := by
  unfold authenticated
  simp only
  split
  · apply evidenced_handled hh.unmarked
    · simp only [auditEvent]
      split
      · rfl
      · rfl
    · rfl
  · rename_i category decided' hdecision
    apply decided_handled hh emitted (decision_ok hdecision)

theorem handle_handled :
  Handled gateway minted request (handle gateway minted request) []
  := by
  unfold handle
  simp only
  split
  · apply evidenced_handled .nil
    · rfl
    · rfl
  · rename_i hcarriers
    constructor
    · exact False.elim
    · intro r
      have hunmarked : Unmarked [⟨.authenticate request.authorization
          (recognizedCarriers request) (correlationIdOf minted request), r⟩] := by
        apply Unmarked.nil.cons rfl
        simp
      rcases r with (⟨httpStatus, publicCode⟩ | _) | auth
      · apply evidenced_handled hunmarked
        · simp only [auditEvent]
          split
          · rfl
          · rfl
        · rfl
      · apply hunmarked.raised
      · have hpreceded : ∀ h, (∀ event ∈ h, ¬ event.op.data) →
            Preceded minted request (h ++ [⟨.authenticate request.authorization
              (recognizedCarriers request) (correlationIdOf minted request), .ok auth⟩])
              auth := by
          intro h hh
          constructor
          · apply Nat.le_of_not_lt hcarriers
          · apply List.mem_append_right
            apply List.mem_singleton_self
          · intro event he
            rcases List.mem_append.mp he with he | he
            · apply hh event he
            · obtain rfl := List.mem_singleton.mp he
              exact id
        simp only [andThen]
        split
        · apply Guarded.bind (emit_guarded _ _ _)
          · rintro ⟨accepted | accepted, emitted⟩ h' hh'
            · apply answered_unavailable
            · apply authenticated_handled
              constructor
              · rcases hh' with rfl | rfl
                · apply hpreceded [] (by simp)
                · apply hpreceded [_]
                  intro event he
                  obtain rfl := List.mem_singleton.mp he
                  exact id
              · apply hunmarked.emission _ hh'
                rfl
          · rintro e h' ⟨⟩
        · apply authenticated_handled
          constructor
          · apply hpreceded [] (by simp)
          · apply hunmarked

end Requests

/-- Whatever the ports answered or raised, the next call of a request for data is its first, is
made under its signed claim, and comes after its authentication; and where the request has ended,
its answer has the evidence it needs. -/
theorem handle_answered (gateway : Gateway) (minted : Minted) (request : InboundRequest)
    {h : List GatewayEvent} {y : GatewayProgram GatewayResponse}
    (hrun : (handle gateway minted request).After h y) :
  (∀ op k, y = .call op k → Mediated gateway minted request h op)
    ∧ ∀ r, y = .ret r → Answered gateway request r h
  := by
  have hhandle := Guarded.after handle_handled hrun
  constructor
  · rintro op k rfl
    apply hhandle.1
  · rintro r rfl
    apply hhandle

section Runs

/-- A gateway with the default classifier, and one optional port. -/
def readingGateway (controlRead : Bool) : Gateway where
  classify := defaultClassifier
  controlRead

def mintedOnce : Minted where
  correlationId := "c-1"
  operationKey := "k-1"
  auditId _ := "a-1"
  occurredAt _ := "t-1"

def requestOf (path : String) : InboundRequest where
  method := "GET"
  path
  authorization := some "Bearer token"

/-- An agent that is signed into a tenant. -/
def agent : AuthResult where
  correlationId := "c-1"
  principalRef := "agent"
  activeTenantId := some "tenant-a"
  role := some "TENANT_AGENT"

def authenticatedAgent : GatewayEvent :=
  ⟨.authenticate (some "Bearer token") [] "c-1", .ok agent⟩

/-- The event of a memberships read. -/
def membershipsRead : GatewayAuditEvent where
  action := .workspaceMembershipsRead
  correlationId := "c-1"
  outcome := "success"
  actorRef := some "agent"
  subjectRef := some "agent"
  auditId := "a-1"
  occurredAt := "t-1"

/-- A read of no memberships is answered with its evidence. -/
theorem handle_answered_memberships :
  Answered (readingGateway true) (requestOf "/memberships")
    (.ok ⟨200, "ok", true, some .membershipsForPrincipal, some (.memberships [])⟩)
    [⟨.emit membershipsRead, .ok ()⟩, ⟨.membershipsForPrincipal "agent", .ok (some [])⟩,
      authenticatedAgent]
  := by
  have hreplay : ((handle (readingGateway true) mintedOnce (requestOf "/memberships")).replay
      [authenticatedAgent, ⟨.membershipsForPrincipal "agent", .ok (some [])⟩,
        ⟨.emit membershipsRead, .ok ()⟩]).bind ending
      = some (.ok ⟨200, "ok", true, some .membershipsForPrincipal, some (.memberships [])⟩) := by
    decide +kernel
  have hafter := After.of_ending hreplay
  obtain ⟨-, hanswered⟩ := handle_answered (readingGateway true) mintedOnce
    (requestOf "/memberships") hafter
  apply hanswered _ rfl

/-- Without the control plane's reads, a request for memberships under a signed tenant is handed
off as one on the control domain, and the router binds it to the tenant; and the envelope of an
accepted start of an import goes with the router's own status. -/
theorem handle_rebound :
  (∃ h context decision k,
      (handle (readingGateway false) mintedOnce (requestOf "/memberships")).After h
        (.call (.dispatch context decision) k)
      ∧ decision.domain = .control ∧ determineTarget context false = .ok .tenant)
    ∧ ∃ h response, (handle (readingGateway true) mintedOnce (requestOf "/import/s-1")).After h
        (.ret (.ok response))
      ∧ response.portalDto = some (.importInitiation "s-1" "tenant-a")
      ∧ response.status = 202
  := by
  constructor
  · have hreplay : ((handle (readingGateway false) mintedOnce
        (requestOf "/memberships")).replay [authenticatedAgent]).bind nextOp
        = some (.dispatch (buildRequestContext agent)
          ⟨.membershipsForPrincipal, .control, none⟩) := by
      decide +kernel
    obtain ⟨k, hafter⟩ := After.of_nextOp hreplay
    exact ⟨_, _, _, k, hafter, rfl, rfl⟩
  · have hreplay : ((handle (readingGateway true) mintedOnce
        (requestOf "/import/s-1")).replay [authenticatedAgent,
          ⟨.dispatch (buildRequestContext agent) ⟨.importInitiation, .tenant, some "tenant-a"⟩,
            .ok ⟨202, "ok", true⟩⟩]).bind ending
        = some (.ok ⟨202, "ok", true, some .importInitiation,
          some (.importInitiation "s-1" "tenant-a")⟩) := by
      decide +kernel
    have hafter := After.of_ending hreplay
    exact ⟨_, _, hafter, rfl, rfl⟩

end Runs

end ApiGateway
