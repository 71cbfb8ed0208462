import SnackPortal.ControlPlane.GatewayEvents

/-!
# Emitted audit events

The router and the gateway agree with the ingest edges of the control plane on the shape of an
event: in every run, an event that is sent is accepted exactly where the texts that it carries
from outside are texts that an event may carry (`events_accepted_iff`).
-/

namespace ControlPlane.EmittedAudit

open Ingest (Admitted)
open CodePoints (ofString)
open DatabaseRouter (RoutingAuditEvent RequestContext RouterProgram RouterError routerSignature)
open ApiGateway (GatewayAuditEvent Gateway InboundRequest GatewayProgram GatewayResponse)
open Program

seal ApiGateway.recognizedCarriers

/-- In every run of a route and of a request, an event that is sent is accepted exactly where the
texts that it carries are texts that an event may carry: the router's correlation is not empty,
the gateway's event is of a durable class, its principal is not empty where it is that of a
success, and the carrier of a mismatch is not blank. -/
theorem events_accepted_iff :
  (∀ (supportedSchemaVersions : List String) (ctx : RequestContext) (bootstrapPhase0 : Bool)
      (lane : DatabaseRouter.Lane) (h : List (Event routerSignature RouterError))
      (event : RoutingAuditEvent)
      (k : Except RouterError Unit → RouterProgram DatabaseRouter.RouteResult),
      (DatabaseRouter.route supportedSchemaVersions ctx bootstrapPhase0 lane).After h
        (.call (.initiate event) k) →
      Fair Fit h →
      ∀ (loads : List UInt8 → Option Wire) (raw : List UInt8),
        loads raw = some (routingBody event) →
        ((RoutingAudit.parseRecord loads raw).isSome
          ↔ ctx.correlationId ≠ "" ∧ ∀ ref ∈ routingReferences event, Admitted (ofString ref)))
    ∧ ∀ (gateway : Gateway) (minted : ApiGateway.Minted) (request : InboundRequest)
      (h : List ApiGateway.GatewayEvent) (event : GatewayAuditEvent)
      (k : Except ApiGateway.Raised Unit → GatewayProgram GatewayResponse),
      (ApiGateway.handle gateway minted request).After h (.call (.emit event) k) →
      MintedTexts minted →
      ∀ (loads : List UInt8 → Option Wire) (raw : List UInt8),
        loads raw = some (gatewayBody event) →
        ((GatewayAudit.parseRecord loads raw).isSome ↔ Carried request event)
  := by
  constructor
  · intro supportedSchemaVersions ctx bootstrapPhase0 lane h event k hrun hfair loads raw hloads
    have hputs : Fairly Fit (Puts ctx) h (.initiate event) :=
      (route_minting supportedSchemaVersions bootstrapPhase0 lane []).call hrun
    apply (hputs hfair event rfl).accepted_iff hloads
  · intro gateway minted request h event k hrun hminted loads raw hloads
    have hcalls : (ApiGateway.handle gateway minted request).Calls (Emits minted request) :=
      handle_emits gateway
    have hguarded := Guarded.of_calls hcalls (fun _ _ hop => hop) []
    apply (hguarded.call hrun event rfl).accepted_iff hminted hloads

unseal ApiGateway.recognizedCarriers

/-- A principal without a tenant, who may use the control plane. -/
def operator (principalRef : String) : RequestContext where
  correlationId := "c-1"
  requestId := some "c-1"
  activeTenantId := none
  principalRef := some principalRef
  role := some "CONTROL"

def mintedAt : String := "2026-01-01T00:00:00+00:00"

/-- The event of a route to the control plane. -/
def controlRoute (principalRef : String) : RoutingAuditEvent where
  actorRef := principalRef
  action := "RouteControl"
  correlationId := "c-1"
  outcome := "success"
  targetRef := none
  eventId := "5f0c"
  eventVersion := 1
  occurredAt := mintedAt
  sourceService := "database_router"
  sourceVersion := "4"
  requestRef := some "c-1"
  resolvedTenantRef := none
  publicCode := none
  associationStoreRef := none
  associationVersion := none
  lane := none

/-- The minting of its identity and its time. -/
def mintedIdentity : Event routerSignature RouterError :=
  ⟨.mint, .ok ("5f0c", mintedAt)⟩

/-- A gateway with the port of the tenants' startups. -/
def startupGateway : Gateway where
  classify := ApiGateway.defaultClassifier
  tenantStartup := true

def mintedTexts : ApiGateway.Minted where
  correlationId := "c0"
  operationKey := "d0"
  auditId _ := "a0"
  occurredAt _ := mintedAt

/-- The answers to a read of a startup, up to its event. -/
def startupRead (startupRef : String) : List ApiGateway.GatewayEvent :=
  [⟨.authenticate (some "Bearer token") [] "c0", .ok ApiGateway.agent⟩,
    ⟨.readStartup ⟨startupRef, "tenant-a", "c0", "agent"⟩,
      .ok (some ⟨startupRef, "Acme", none, none, none⟩)⟩]

/-- The event of a read of a startup. -/
def startupReadEvent (startupRef : String) : GatewayAuditEvent where
  action := .tenantStartupRead
  correlationId := "c0"
  outcome := "success"
  actorRef := some "agent"
  tenantRef := some "tenant-a"
  auditId := "a0"
  occurredAt := mintedAt
  recordRef := some startupRef

theorem mintedText_of {text : String} (hne : text ≠ "") (hlength : text.length ≤ 36)
    (hall : text.toList.all fun c => decide (c ∈ mintedCharacters)) :
  MintedText text
  := ⟨hne, hlength, fun c hc => of_decide_eq_true (List.all_eq_true.mp hall c hc)⟩

/-- A route of the operator, and a read of a startup, each with plain references. -/
theorem events_accepted_sample :
  (RoutingAudit.parseRecord (fun _ => some (routingBody (controlRoute "operator"))) []).isSome
    ∧ (GatewayAudit.parseRecord (fun _ => some (gatewayBody (startupReadEvent "s-1"))) []).isSome
  := by
  constructor
  · have hreplay : ((DatabaseRouter.route [] (operator "operator") false .interactive).replay
        [mintedIdentity]).bind nextOp = some (.initiate (controlRoute "operator")) := by
      decide +kernel
    obtain ⟨k, hafter⟩ := After.of_nextOp hreplay
    apply (events_accepted_iff.1 _ _ _ _ _ _ k hafter _ _ _ rfl).mpr
    · decide +kernel
    · intro e he
      obtain rfl := List.mem_singleton.mp he
      constructor
      · intro eventId occurredAt heq
        cases heq
        exact ⟨mintedText_of (by decide) (by decide) (by decide),
          mintedText_of (by decide) (by decide) (by decide)⟩
      · intro d hd
        cases hd
  · have hreplay : ((ApiGateway.handle startupGateway mintedTexts
        (ApiGateway.requestOf "/tenant/startups/s-1")).replay (startupRead "s-1")).bind nextOp
        = some (.emit (startupReadEvent "s-1")) := by
      decide +kernel
    obtain ⟨k, hafter⟩ := After.of_nextOp hreplay
    apply (events_accepted_iff.2 _ _ _ _ _ k hafter _ _ _ rfl).mpr
    · constructor
      · rfl
      · decide +kernel
      · decide
      · nofun
    · constructor
      · exact mintedText_of (by decide) (by decide) (by decide)
      · have haudit : MintedText "a0" := mintedText_of (by decide) (by decide) (by decide)
        exact fun _ => haudit
      · have hat : MintedText mintedAt := mintedText_of (by decide) (by decide) (by decide)
        exact fun _ => hat

/-- The success of an operator whose principal is a URL is refused, and so is that of a read of a
startup whose reference has the shape of a token in it; the read is then answered with 503. -/
theorem events_refused :
  (∃ k, (DatabaseRouter.route [] (operator "https://id/operator") false .interactive).After
        [mintedIdentity] (.call (.initiate (controlRoute "https://id/operator")) k)
      ∧ RoutingAudit.parseRecord
        (fun _ => some (routingBody (controlRoute "https://id/operator"))) [] = none)
    ∧ ∃ h, (ApiGateway.handle startupGateway mintedTexts
          (ApiGateway.requestOf "/tenant/startups/xox-1")).After
        (⟨.emit (startupReadEvent "xox-1"), .error .failure⟩ :: h)
        (.ret (.ok (ApiGateway.unavailable (some .tenantOperation))))
      ∧ GatewayAudit.parseRecord
        (fun _ => some (gatewayBody (startupReadEvent "xox-1"))) [] = none
  := by
  constructor
  · have hreplay : ((DatabaseRouter.route [] (operator "https://id/operator") false
        .interactive).replay [mintedIdentity]).bind nextOp
        = some (.initiate (controlRoute "https://id/operator")) := by
      decide +kernel
    obtain ⟨k, hafter⟩ := After.of_nextOp hreplay
    use k, hafter
    decide +kernel
  · have hreplay : ((ApiGateway.handle startupGateway mintedTexts
        (ApiGateway.requestOf "/tenant/startups/xox-1")).replay
          (startupRead "xox-1" ++ [⟨.emit (startupReadEvent "xox-1"), .error .failure⟩])).bind
          ending
        = some (.ok (ApiGateway.unavailable (some .tenantOperation))) := by
      decide +kernel
    have hafter := After.of_ending hreplay
    use (startupRead "xox-1").reverse, hafter
    decide +kernel

end ControlPlane.EmittedAudit
