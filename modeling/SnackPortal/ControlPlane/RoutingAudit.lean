import SnackPortal.ControlPlane.Ingest

/-!
# Routing audit

The ingest of the router's audit events.  The parser accepts an event where its seventeen fields
are texts that an event may carry and its action, its outcome and its codes go together.
-/

namespace ControlPlane.RoutingAudit

open Ingest (Required Nullable Envelope)
open Wire (Entries item)
open CodePoints (ofString)

/-! ## Records -/

/-- The references of a routing event, as they are stored. -/
structure RoutingAuditRecord where
  eventId : CodePoints
  eventVersion : ℤ
  occurredAt : CodePoints
  correlationId : CodePoints
  actorRef : CodePoints
  action : CodePoints
  outcome : CodePoints
  sourceService : CodePoints
  sourceVersion : CodePoints
  requestRef : Option CodePoints
  traceRef : Option CodePoints
  tenantRef : Option CodePoints
  resolvedTenantRef : Option CodePoints
  publicCode : Option CodePoints
  errorClass : Option CodePoints
  associationStoreRef : Option CodePoints
  associationVersion : Option CodePoints
  lane : Option CodePoints
deriving DecidableEq

def routingAuditSourceService : String :=
  "database_router"

/-- The actions of the store, which are those that the table admits. -/
def routingAuditStoreActions : List String :=
  ["Route", "RouteControl", "RouteDenied", "IsolationAnomaly"]

/-! ## The parser -/

def eventKeys : List String :=
  ["event_id", "event_version", "occurred_at", "correlation_id", "actor_ref", "action", "outcome",
    "source_service", "source_version", "request_ref", "tenant_ref", "resolved_tenant_ref",
    "public_code", "error_class", "association_store_ref", "association_version", "lane"]

def forbiddenEventKeys : List String :=
  ["id", "store_id", "recorded_at", "trace_ref", "dsn", "password", "passwd", "secret", "token",
    "jwt", "bearer_token", "authorization", "request_body", "response_body", "body", "payload",
    "hostname", "topology", "connection"]

def publicCodes : List String :=
  ["not_found", "no_active_tenant", "not_ready", "schema_out_of_range",
    "administratively_disabled", "unavailable", "control_plane_unavailable",
    "connection_unavailable", "tenant_routing_unavailable", "routing_isolation_fault"]

def errorClasses : List String :=
  ["secret_resolution", "pool", "connect", "driver"]

def lanes : List String :=
  ["interactive", "bulk"]

def anomalyOutcome : String := "anomaly:tenant_binding"

def successOutcome : String := "success"

/-- The outcome and the public code are those that the action asks for. -/
def combination (action outcome : CodePoints) (publicCode : Option CodePoints) : Bool :=
  if action = ofString "Route" ∨ action = ofString "RouteControl" then
    outcome = ofString successOutcome && publicCode = none
  else if action = ofString "RouteDenied" then
    match publicCode with
    | none => false
    | some code =>
        (publicCodes.map ofString).contains code && outcome = ofString "denied:" ++ code
  else
    outcome = ofString anomalyOutcome && publicCode = none

/-- An error class is given for an unavailable connection only. -/
def classified (publicCode : Option CodePoints) : Option CodePoints → Bool
  | none => true
  | some errorClass =>
      (errorClasses.map ofString).contains errorClass
        && publicCode = some (ofString "connection_unavailable")

def laned : Option CodePoints → Bool
  | none => true
  | some lane => (lanes.map ofString).contains lane

/-- The record of an event. -/
def recordOf (event : Entries) : Option RoutingAuditRecord := do
  let action ← Ingest.requiredString event "action"
  guard ((routingAuditStoreActions.map ofString).contains action)
  let outcome ← Ingest.requiredString event "outcome"
  let publicCode ← Ingest.optionalString event "public_code"
  guard (combination action outcome publicCode)
  let errorClass ← Ingest.optionalString event "error_class"
  guard (classified publicCode errorClass)
  let lane ← Ingest.optionalString event "lane"
  guard (laned lane)
  let sourceService ← Ingest.requiredString event "source_service"
  guard (sourceService = ofString routingAuditSourceService)
  let eventId ← Ingest.requiredString event "event_id"
  let occurredAt ← Ingest.requiredString event "occurred_at"
  let correlationId ← Ingest.requiredString event "correlation_id"
  let actorRef ← Ingest.requiredString event "actor_ref"
  let sourceVersion ← Ingest.requiredString event "source_version"
  let requestRef ← Ingest.optionalString event "request_ref"
  let tenantRef ← Ingest.optionalString event "tenant_ref"
  let resolvedTenantRef ← Ingest.optionalString event "resolved_tenant_ref"
  let associationStoreRef ← Ingest.optionalString event "association_store_ref"
  let associationVersion ← Ingest.optionalString event "association_version"
  return {
    eventId
    eventVersion := 1
    occurredAt
    correlationId
    actorRef
    action
    outcome
    sourceService
    sourceVersion
    requestRef
    traceRef := none
    tenantRef
    resolvedTenantRef
    publicCode
    errorClass
    associationStoreRef
    associationVersion
    lane }

/-- `_parse_record`, with the decoder of JSON, which may raise. -/
def parseRecord (loads : List UInt8 → Option Wire) (raw : List UInt8) :
    Option RoutingAuditRecord := do
  let event ← Ingest.parseEnvelope eventKeys forbiddenEventKeys (← loads raw)
  recordOf event

/-! ## The grammar -/

/-- The fields of a record go together. -/
structure Form (r : RoutingAuditRecord) : Prop where
  action : (routingAuditStoreActions.map ofString).contains r.action
  combination : combination r.action r.outcome r.publicCode
  errorClass : classified r.publicCode r.errorClass
  lane : laned r.lane
  sourceService : r.sourceService = ofString routingAuditSourceService

/-- The record has the fields of the event, which are texts that an event may carry. -/
structure Fields (event : Entries) (r : RoutingAuditRecord) : Prop where
  eventId : Required event "event_id" r.eventId
  eventVersion : r.eventVersion = 1
  occurredAt : Required event "occurred_at" r.occurredAt
  correlationId : Required event "correlation_id" r.correlationId
  actorRef : Required event "actor_ref" r.actorRef
  action : Required event "action" r.action
  outcome : Required event "outcome" r.outcome
  sourceService : Required event "source_service" r.sourceService
  sourceVersion : Required event "source_version" r.sourceVersion
  requestRef : Nullable event "request_ref" r.requestRef
  traceRef : r.traceRef = none
  tenantRef : Nullable event "tenant_ref" r.tenantRef
  resolvedTenantRef : Nullable event "resolved_tenant_ref" r.resolvedTenantRef
  publicCode : Nullable event "public_code" r.publicCode
  errorClass : Nullable event "error_class" r.errorClass
  associationStoreRef : Nullable event "association_store_ref" r.associationStoreRef
  associationVersion : Nullable event "association_version" r.associationVersion
  lane : Nullable event "lane" r.lane

section Parse

variable {event : Entries} {r : RoutingAuditRecord}

/-- The record of an event is the one with its fields, where they go together. -/
theorem recordOf_eq_some_iff :
  recordOf event = some r ↔ Fields event r ∧ Form r
  := by
  rw [recordOf]
  constructor
  · intro h
    obtain ⟨action, haction, h⟩ := Option.bind_eq_some_iff.mp h
    obtain ⟨hknown, h⟩ := Ingest.guard_bind_eq_some_iff.mp h
    obtain ⟨outcome, houtcome, h⟩ := Option.bind_eq_some_iff.mp h
    obtain ⟨publicCode, hpublicCode, h⟩ := Option.bind_eq_some_iff.mp h
    obtain ⟨hcombination, h⟩ := Ingest.guard_bind_eq_some_iff.mp h
    obtain ⟨errorClass, herrorClass, h⟩ := Option.bind_eq_some_iff.mp h
    obtain ⟨hclassified, h⟩ := Ingest.guard_bind_eq_some_iff.mp h
    obtain ⟨lane, hlane, h⟩ := Option.bind_eq_some_iff.mp h
    obtain ⟨hlaned, h⟩ := Ingest.guard_bind_eq_some_iff.mp h
    obtain ⟨sourceService, hsourceService, h⟩ := Option.bind_eq_some_iff.mp h
    obtain ⟨hservice, h⟩ := Ingest.guard_bind_eq_some_iff.mp h
    obtain ⟨eventId, heventId, h⟩ := Option.bind_eq_some_iff.mp h
    obtain ⟨occurredAt, hoccurredAt, h⟩ := Option.bind_eq_some_iff.mp h
    obtain ⟨correlationId, hcorrelationId, h⟩ := Option.bind_eq_some_iff.mp h
    obtain ⟨actorRef, hactorRef, h⟩ := Option.bind_eq_some_iff.mp h
    obtain ⟨sourceVersion, hsourceVersion, h⟩ := Option.bind_eq_some_iff.mp h
    obtain ⟨requestRef, hrequestRef, h⟩ := Option.bind_eq_some_iff.mp h
    obtain ⟨tenantRef, htenantRef, h⟩ := Option.bind_eq_some_iff.mp h
    obtain ⟨resolvedTenantRef, hresolvedTenantRef, h⟩ := Option.bind_eq_some_iff.mp h
    obtain ⟨associationStoreRef, hassociationStoreRef, h⟩ := Option.bind_eq_some_iff.mp h
    obtain ⟨associationVersion, hassociationVersion, h⟩ := Option.bind_eq_some_iff.mp h
    have hr := Option.some.inj h
    subst hr
    constructor
    · constructor
      · apply Ingest.requiredString_eq_some_iff.mp heventId
      · rfl
      · apply Ingest.requiredString_eq_some_iff.mp hoccurredAt
      · apply Ingest.requiredString_eq_some_iff.mp hcorrelationId
      · apply Ingest.requiredString_eq_some_iff.mp hactorRef
      · apply Ingest.requiredString_eq_some_iff.mp haction
      · apply Ingest.requiredString_eq_some_iff.mp houtcome
      · apply Ingest.requiredString_eq_some_iff.mp hsourceService
      · apply Ingest.requiredString_eq_some_iff.mp hsourceVersion
      · apply Ingest.optionalString_eq_some_iff.mp hrequestRef
      · rfl
      · apply Ingest.optionalString_eq_some_iff.mp htenantRef
      · apply Ingest.optionalString_eq_some_iff.mp hresolvedTenantRef
      · apply Ingest.optionalString_eq_some_iff.mp hpublicCode
      · apply Ingest.optionalString_eq_some_iff.mp herrorClass
      · apply Ingest.optionalString_eq_some_iff.mp hassociationStoreRef
      · apply Ingest.optionalString_eq_some_iff.mp hassociationVersion
      · apply Ingest.optionalString_eq_some_iff.mp hlane
    · constructor
      · apply hknown
      · apply hcombination
      · apply hclassified
      · apply hlaned
      · apply hservice
  · intro ⟨h, hform⟩
    apply Option.bind_eq_some_iff.mpr
      ⟨r.action, Ingest.requiredString_eq_some_iff.mpr h.action, _⟩
    apply Ingest.guard_bind_eq_some_iff.mpr ⟨hform.action, _⟩
    apply Option.bind_eq_some_iff.mpr
      ⟨r.outcome, Ingest.requiredString_eq_some_iff.mpr h.outcome, _⟩
    apply Option.bind_eq_some_iff.mpr
      ⟨r.publicCode, Ingest.optionalString_eq_some_iff.mpr h.publicCode, _⟩
    apply Ingest.guard_bind_eq_some_iff.mpr ⟨hform.combination, _⟩
    apply Option.bind_eq_some_iff.mpr
      ⟨r.errorClass, Ingest.optionalString_eq_some_iff.mpr h.errorClass, _⟩
    apply Ingest.guard_bind_eq_some_iff.mpr ⟨hform.errorClass, _⟩
    apply Option.bind_eq_some_iff.mpr ⟨r.lane, Ingest.optionalString_eq_some_iff.mpr h.lane, _⟩
    apply Ingest.guard_bind_eq_some_iff.mpr ⟨hform.lane, _⟩
    apply Option.bind_eq_some_iff.mpr
      ⟨r.sourceService, Ingest.requiredString_eq_some_iff.mpr h.sourceService, _⟩
    apply Ingest.guard_bind_eq_some_iff.mpr ⟨hform.sourceService, _⟩
    apply Option.bind_eq_some_iff.mpr
      ⟨r.eventId, Ingest.requiredString_eq_some_iff.mpr h.eventId, _⟩
    apply Option.bind_eq_some_iff.mpr
      ⟨r.occurredAt, Ingest.requiredString_eq_some_iff.mpr h.occurredAt, _⟩
    apply Option.bind_eq_some_iff.mpr
      ⟨r.correlationId, Ingest.requiredString_eq_some_iff.mpr h.correlationId, _⟩
    apply Option.bind_eq_some_iff.mpr
      ⟨r.actorRef, Ingest.requiredString_eq_some_iff.mpr h.actorRef, _⟩
    apply Option.bind_eq_some_iff.mpr
      ⟨r.sourceVersion, Ingest.requiredString_eq_some_iff.mpr h.sourceVersion, _⟩
    apply Option.bind_eq_some_iff.mpr
      ⟨r.requestRef, Ingest.optionalString_eq_some_iff.mpr h.requestRef, _⟩
    apply Option.bind_eq_some_iff.mpr
      ⟨r.tenantRef, Ingest.optionalString_eq_some_iff.mpr h.tenantRef, _⟩
    apply Option.bind_eq_some_iff.mpr
      ⟨r.resolvedTenantRef, Ingest.optionalString_eq_some_iff.mpr h.resolvedTenantRef, _⟩
    apply Option.bind_eq_some_iff.mpr
      ⟨r.associationStoreRef, Ingest.optionalString_eq_some_iff.mpr h.associationStoreRef, _⟩
    apply Option.bind_eq_some_iff.mpr
      ⟨r.associationVersion, Ingest.optionalString_eq_some_iff.mpr h.associationVersion, _⟩
    rw [← h.eventVersion, ← h.traceRef]
    rfl

/-- What the parser accepts. -/
theorem parseRecord_eq_some_iff {loads : List UInt8 → Option Wire} {raw : List UInt8} :
  parseRecord loads raw = some r
    ↔ ∃ body event, loads raw = some body
      ∧ Envelope (fun version => version.equalsInt 1) eventKeys body event
      ∧ Fields event r ∧ Form r
  := by
  have hdisjoint : ∀ key ∈ forbiddenEventKeys, key ∉ eventKeys := by decide
  rw [parseRecord]
  constructor
  · intro h
    obtain ⟨body, hloads, h⟩ := Option.bind_eq_some_iff.mp h
    obtain ⟨event, henvelope, h⟩ := Option.bind_eq_some_iff.mp h
    use body, event, hloads
    constructor
    · apply (Ingest.parseEnvelope_eq_some_iff hdisjoint).mp henvelope
    · apply recordOf_eq_some_iff.mp h
  · intro ⟨body, event, hloads, henvelope, hrecord⟩
    apply Option.bind_eq_some_iff.mpr ⟨body, hloads, _⟩
    apply Option.bind_eq_some_iff.mpr
      ⟨event, (Ingest.parseEnvelope_eq_some_iff hdisjoint).mpr henvelope, _⟩
    apply recordOf_eq_some_iff.mpr hrecord

end Parse

end ControlPlane.RoutingAudit
