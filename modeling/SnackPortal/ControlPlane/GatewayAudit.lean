import Mathlib.Data.List.ReduceOption
import SnackPortal.ControlPlane.Ingest

/-!
# Gateway audit

The ingest of the gateway's audit events and the table that they are stored in.  The parser
accepts what its grammar admits, save for the version `1.0` and for startup events with an empty
tenant reference; a record that it accepts has the shape of a row of the table where its time is
one and its texts are texts of the database.
-/

namespace ControlPlane.GatewayAudit

open Ingest (Required Nullable Envelope)
open Wire (Entries item)
open CodePoints (ofString)

/-! ## Records -/

/-- The references of a gateway event, as they are stored. -/
structure GatewayAuditRecord where
  auditId : CodePoints
  eventVersion : ℤ
  occurredAt : CodePoints
  correlationId : CodePoints
  action : CodePoints
  outcome : CodePoints
  sourceService : CodePoints
  actorRef : Option CodePoints
  subjectRef : Option CodePoints
  tenantRef : Option CodePoints
  carrierRef : Option CodePoints
  recordRef : Option CodePoints
deriving DecidableEq

def gatewayAuditSourceService : String :=
  "api_gateway"

/-- The actions of the store, which are those that the table admits. -/
def gatewayAuditStoreActions : List String :=
  ["CarrierMismatch", "CarrierOnControlAnomaly", "RouteDenied", "IsolationAnomaly",
    "workspace_memberships_read", "tenant_startup_read", "tenant_startup_update"]

/-! ## The parser -/

def eventKeys : List String :=
  ["audit_id", "event_version", "occurred_at", "correlation_id", "action", "outcome", "actor_ref",
    "subject_ref", "tenant_ref", "carrier_ref", "record_ref"]

def forbiddenEventKeys : List String :=
  ["id", "recorded_at", "source_service", "dsn", "password", "passwd", "secret", "token", "jwt",
    "bearer_token", "authorization", "request_body", "response_body", "body", "payload",
    "memberships", "records", "rows", "database", "db_name", "hostname", "topology",
    "connection"]

def membershipsAction : String := "workspace_memberships_read"

def clmTenantSuccessActions : List String :=
  ["tenant_startup_read", "tenant_startup_update"]

def clmDenialAction : String := "RouteDenied"

def carrierMismatchAction : String := "CarrierMismatch"

def wiredActions : List String :=
  [membershipsAction, clmDenialAction, carrierMismatchAction] ++ clmTenantSuccessActions

def successOutcome : String := "success"

def rejectedOutcome : String := "rejected"

/-- The text is the gateway's rendering of a carrier. -/
def opaqueShaped (carrier : CodePoints) : Bool :=
  (ofString "carrier:").isPrefixOf carrier && 8 < carrier.length && carrier.length ≤ 64

/-- The actor, the subject and the record of an event, as its action asks for them. -/
def references (action outcome : CodePoints) (event : Entries) :
    Option (Option CodePoints × Option CodePoints × Option CodePoints) :=
  if action = ofString clmDenialAction then do
    guard (outcome = ofString rejectedOutcome)
    let actorRef ← Ingest.optionalString event "actor_ref"
    let subjectRef ← Ingest.optionalString event "subject_ref"
    let recordRef ← Ingest.optionalString event "record_ref"
    return (actorRef, subjectRef, recordRef)
  else if action = ofString carrierMismatchAction then do
    guard (outcome = ofString rejectedOutcome)
    let actorRef ← Ingest.optionalString event "actor_ref"
    let subjectRef ← Ingest.optionalString event "subject_ref"
    let recordRef ← Ingest.optionalString event "record_ref"
    guard (recordRef = none)
    let tenantRef ← Ingest.optionalString event "tenant_ref"
    guard (tenantRef = none)
    let carrier ← Ingest.requiredString event "carrier_ref"
    guard (opaqueShaped carrier)
    return (actorRef, subjectRef, recordRef)
  else if action ∈ clmTenantSuccessActions.map ofString then do
    guard (outcome = ofString successOutcome)
    let actorRef ← Ingest.requiredString event "actor_ref"
    let subjectRef ← Ingest.optionalString event "subject_ref"
    let recordRef ← Ingest.requiredString event "record_ref"
    let tenantRef ← Ingest.optionalString event "tenant_ref"
    guard (tenantRef ≠ none)
    return (some actorRef, subjectRef, some recordRef)
  else do
    guard (outcome = ofString successOutcome)
    let actorRef ← Ingest.requiredString event "actor_ref"
    let subjectRef ← Ingest.requiredString event "subject_ref"
    let recordRef ← Ingest.optionalString event "record_ref"
    guard (recordRef = none)
    return (some actorRef, some subjectRef, recordRef)

/-- The record of an event. -/
def recordOf (event : Entries) : Option GatewayAuditRecord := do
  let action ← Ingest.requiredString event "action"
  guard (action ∈ wiredActions.map ofString)
  let outcome ← Ingest.requiredString event "outcome"
  let (actorRef, subjectRef, recordRef) ← references action outcome event
  let auditId ← Ingest.requiredString event "audit_id"
  let occurredAt ← Ingest.requiredString event "occurred_at"
  let correlationId ← Ingest.requiredString event "correlation_id"
  let tenantRef ← Ingest.optionalString event "tenant_ref"
  let carrierRef ← Ingest.optionalString event "carrier_ref"
  return {
    auditId
    eventVersion := 1
    occurredAt
    correlationId
    action
    outcome
    sourceService := ofString gatewayAuditSourceService
    actorRef
    subjectRef
    tenantRef
    carrierRef
    recordRef }

/-- `_parse_record`, with the decoder of JSON, which may raise. -/
def parseRecord (loads : List UInt8 → Option Wire) (raw : List UInt8) :
    Option GatewayAuditRecord := do
  let event ← Ingest.parseEnvelope eventKeys forbiddenEventKeys (← loads raw)
  recordOf event

/-! ## The grammar -/

/-- What the action of an event asks of its outcome and its references; what it asks of the
tenant of a startup event is left open. -/
inductive Form (TenantGiven : CodePoints → Prop) (r : GatewayAuditRecord) : Prop where
  | denied (haction : r.action = ofString clmDenialAction)
      (houtcome : r.outcome = ofString rejectedOutcome)
  | carrierMismatch (haction : r.action = ofString carrierMismatchAction)
      (houtcome : r.outcome = ofString rejectedOutcome)
      (hrecord : r.recordRef = none) (htenant : r.tenantRef = none) (carrier : CodePoints)
      (hcarrier : r.carrierRef = some carrier) (hshape : opaqueShaped carrier)
  | startup (haction : r.action ∈ clmTenantSuccessActions.map ofString)
      (houtcome : r.outcome = ofString successOutcome)
      (actor record tenant : CodePoints) (hactor : r.actorRef = some actor) (hactor' : actor ≠ [])
      (hrecord : r.recordRef = some record) (hrecord' : record ≠ [])
      (htenant : r.tenantRef = some tenant) (htenant' : TenantGiven tenant)
  | memberships (haction : r.action = ofString membershipsAction)
      (houtcome : r.outcome = ofString successOutcome)
      (actor subject : CodePoints) (hactor : r.actorRef = some actor) (hactor' : actor ≠ [])
      (hsubject : r.subjectRef = some subject) (hsubject' : subject ≠ [])
      (hrecord : r.recordRef = none)

/-- The record has the fields of the event, which are texts that an event may carry. -/
structure Fields (event : Entries) (r : GatewayAuditRecord) : Prop where
  auditId : Required event "audit_id" r.auditId
  eventVersion : r.eventVersion = 1
  occurredAt : Required event "occurred_at" r.occurredAt
  correlationId : Required event "correlation_id" r.correlationId
  action : Required event "action" r.action
  outcome : Required event "outcome" r.outcome
  sourceService : r.sourceService = ofString gatewayAuditSourceService
  actorRef : Nullable event "actor_ref" r.actorRef
  subjectRef : Nullable event "subject_ref" r.subjectRef
  tenantRef : Nullable event "tenant_ref" r.tenantRef
  carrierRef : Nullable event "carrier_ref" r.carrierRef
  recordRef : Nullable event "record_ref" r.recordRef

/-- The body is an event with the fields of the record, in the form that its action asks for. -/
structure Grammar (IsVersion : Wire → Prop) (TenantGiven : CodePoints → Prop) (body : Wire)
    (r : GatewayAuditRecord) : Prop where
  event : ∃ event, Envelope IsVersion eventKeys body event ∧ Fields event r
  form : Form TenantGiven r

section Parse

variable {event : Entries} {r : GatewayAuditRecord}

/-- The references of an event are read where it has the form that its action asks for. -/
theorem references_eq_some_iff (haction : r.action ∈ wiredActions.map ofString)
    (htenant : Nullable event "tenant_ref" r.tenantRef)
    (hcarrier : Nullable event "carrier_ref" r.carrierRef) :
  references r.action r.outcome event = some (r.actorRef, r.subjectRef, r.recordRef)
    ↔ (Nullable event "actor_ref" r.actorRef ∧ Nullable event "subject_ref" r.subjectRef
        ∧ Nullable event "record_ref" r.recordRef) ∧ Form (fun _ => True) r
  := by
  have htenantRef := Ingest.optionalString_eq_some_iff.mpr htenant
  constructor
  · intro h
    rw [references] at h
    split at h
    · rename_i hdenial
      obtain ⟨houtcome, h⟩ := Ingest.guard_bind_eq_some_iff.mp h
      obtain ⟨actorRef, hactor, h⟩ := Option.bind_eq_some_iff.mp h
      obtain ⟨subjectRef, hsubject, h⟩ := Option.bind_eq_some_iff.mp h
      obtain ⟨recordRef, hrecord, h⟩ := Option.bind_eq_some_iff.mp h
      have hread : (actorRef, subjectRef, recordRef) = _ := Option.some.inj h
      rw [Prod.mk.injEq, Prod.mk.injEq] at hread
      obtain ⟨rfl, rfl, rfl⟩ := hread
      constructor
      · rw [← Ingest.optionalString_eq_some_iff, ← Ingest.optionalString_eq_some_iff,
          ← Ingest.optionalString_eq_some_iff]
        exact ⟨hactor, hsubject, hrecord⟩
      · apply Form.denied hdenial houtcome
    split at h
    · rename_i hmismatch
      obtain ⟨houtcome, h⟩ := Ingest.guard_bind_eq_some_iff.mp h
      obtain ⟨actorRef, hactor, h⟩ := Option.bind_eq_some_iff.mp h
      obtain ⟨subjectRef, hsubject, h⟩ := Option.bind_eq_some_iff.mp h
      obtain ⟨recordRef, hrecord, h⟩ := Option.bind_eq_some_iff.mp h
      obtain ⟨hnorecord, h⟩ := Ingest.guard_bind_eq_some_iff.mp h
      obtain ⟨tenantRef, htenant', h⟩ := Option.bind_eq_some_iff.mp h
      obtain ⟨hnotenant, h⟩ := Ingest.guard_bind_eq_some_iff.mp h
      obtain ⟨carrier, hread, h⟩ := Option.bind_eq_some_iff.mp h
      obtain ⟨hshape, h⟩ := Ingest.guard_bind_eq_some_iff.mp h
      have hreads : (actorRef, subjectRef, recordRef) = _ := Option.some.inj h
      rw [Prod.mk.injEq, Prod.mk.injEq] at hreads
      obtain ⟨rfl, rfl, rfl⟩ := hreads
      have hcarrierRef := Ingest.optionalString_eq_some_iff.mpr hcarrier
      rw [Ingest.optionalString_eq_some_iff.mpr
        (Ingest.requiredString_eq_some_iff.mp hread).nullable] at hcarrierRef
      constructor
      · rw [← Ingest.optionalString_eq_some_iff, ← Ingest.optionalString_eq_some_iff,
          ← Ingest.optionalString_eq_some_iff]
        exact ⟨hactor, hsubject, hrecord⟩
      · apply Form.carrierMismatch hmismatch houtcome hnorecord _ carrier _ hshape
        · rw [← hnotenant]
          apply Option.some.inj (htenantRef.symm.trans htenant')
        · apply (Option.some.inj hcarrierRef).symm
    split at h
    · rename_i hstartup
      obtain ⟨houtcome, h⟩ := Ingest.guard_bind_eq_some_iff.mp h
      obtain ⟨actor, hactor, h⟩ := Option.bind_eq_some_iff.mp h
      obtain ⟨subjectRef, hsubject, h⟩ := Option.bind_eq_some_iff.mp h
      obtain ⟨record, hrecord, h⟩ := Option.bind_eq_some_iff.mp h
      obtain ⟨tenantRef, htenant', h⟩ := Option.bind_eq_some_iff.mp h
      obtain ⟨hgiven, h⟩ := Ingest.guard_bind_eq_some_iff.mp h
      have hreads : (some actor, subjectRef, some record) = _ := Option.some.inj h
      rw [Prod.mk.injEq, Prod.mk.injEq] at hreads
      obtain ⟨hactorRef, rfl, hrecordRef⟩ := hreads
      obtain rfl := Option.some.inj (htenantRef.symm.trans htenant')
      obtain ⟨tenant, hsome⟩ := Option.ne_none_iff_exists'.mp hgiven
      have hactor' := Ingest.requiredString_eq_some_iff.mp hactor
      have hrecord' := Ingest.requiredString_eq_some_iff.mp hrecord
      rw [← hactorRef, ← hrecordRef]
      constructor
      · constructor
        · apply hactor'.nullable
        · constructor
          · apply Ingest.optionalString_eq_some_iff.mp hsubject
          · apply hrecord'.nullable
      · apply Form.startup hstartup houtcome actor record tenant hactorRef.symm hactor'.2.2
          hrecordRef.symm hrecord'.2.2 hsome trivial
    · rename_i hdenial hmismatch hstartup
      have hmemberships : r.action = ofString membershipsAction := by
        simp only [wiredActions, List.map_append, List.map_cons, List.map_nil, List.mem_append,
          List.mem_cons, List.not_mem_nil, or_false] at haction
        rcases haction with (hmemberships | hdenied | hcarried) | hother
        · apply hmemberships
        · exact absurd hdenied hdenial
        · exact absurd hcarried hmismatch
        · exact absurd hother hstartup
      obtain ⟨houtcome, h⟩ := Ingest.guard_bind_eq_some_iff.mp h
      obtain ⟨actor, hactor, h⟩ := Option.bind_eq_some_iff.mp h
      obtain ⟨subject, hsubject, h⟩ := Option.bind_eq_some_iff.mp h
      obtain ⟨recordRef, hrecord, h⟩ := Option.bind_eq_some_iff.mp h
      obtain ⟨hnorecord, h⟩ := Ingest.guard_bind_eq_some_iff.mp h
      have hreads : (some actor, some subject, recordRef) = _ := Option.some.inj h
      rw [Prod.mk.injEq, Prod.mk.injEq] at hreads
      obtain ⟨hactorRef, hsubjectRef, rfl⟩ := hreads
      have hactor' := Ingest.requiredString_eq_some_iff.mp hactor
      have hsubject' := Ingest.requiredString_eq_some_iff.mp hsubject
      rw [← hactorRef, ← hsubjectRef]
      constructor
      · constructor
        · apply hactor'.nullable
        · constructor
          · apply hsubject'.nullable
          · apply Ingest.optionalString_eq_some_iff.mp hrecord
      · apply Form.memberships hmemberships houtcome actor subject hactorRef.symm hactor'.2.2
          hsubjectRef.symm hsubject'.2.2 hnorecord
  · intro ⟨⟨hactor, hsubject, hrecord⟩, hform⟩
    have hactorRef := Ingest.optionalString_eq_some_iff.mpr hactor
    have hsubjectRef := Ingest.optionalString_eq_some_iff.mpr hsubject
    have hrecordRef := Ingest.optionalString_eq_some_iff.mpr hrecord
    cases hform with
    | denied haction houtcome =>
        rw [references, if_pos haction, houtcome, hactorRef, hsubjectRef, hrecordRef]
        rfl
    | carrierMismatch haction houtcome hnorecord hnotenant carrier hsome hshape =>
        have hdenial : r.action ≠ ofString clmDenialAction := by
          rw [haction]
          decide
        have hne : carrier ≠ [] := by
          rintro rfl
          revert hshape
          decide
        rw [hsome] at hcarrier
        have hread := Ingest.requiredString_eq_some_iff.mpr (hcarrier.required hne)
        rw [references, if_neg hdenial, if_pos haction, houtcome, hactorRef, hsubjectRef,
          hrecordRef, htenantRef, hread, hnorecord, hnotenant]
        simp [guard, hshape]
    | startup haction houtcome actor record tenant hactor' hne hrecord' hne' htenant' _ =>
        have hdenial : r.action ≠ ofString clmDenialAction := by
          intro heq
          rw [heq] at haction
          revert haction
          decide
        have hmismatch : r.action ≠ ofString carrierMismatchAction := by
          intro heq
          rw [heq] at haction
          revert haction
          decide
        rw [hactor'] at hactor
        rw [hrecord'] at hrecord
        have hread := Ingest.requiredString_eq_some_iff.mpr (hactor.required hne)
        have hread' := Ingest.requiredString_eq_some_iff.mpr (hrecord.required hne')
        rw [references, if_neg hdenial, if_neg hmismatch, if_pos haction, houtcome, hread,
          hsubjectRef, hread', htenantRef, htenant', hactor', hrecord']
        simp [guard]
    | memberships haction houtcome actor subject hactor' hne hsubject' hne' hnorecord =>
        have hdenial : r.action ≠ ofString clmDenialAction := by
          rw [haction]
          decide
        have hmismatch : r.action ≠ ofString carrierMismatchAction := by
          rw [haction]
          decide
        have hstartup : r.action ∉ clmTenantSuccessActions.map ofString := by
          rw [haction]
          decide
        rw [hactor'] at hactor
        rw [hsubject'] at hsubject
        have hread := Ingest.requiredString_eq_some_iff.mpr (hactor.required hne)
        have hread' := Ingest.requiredString_eq_some_iff.mpr (hsubject.required hne')
        rw [references, if_neg hdenial, if_neg hmismatch, if_neg hstartup, houtcome, hread,
          hread', hrecordRef, hactor', hsubject', hnorecord]
        simp [guard]

/-- The record of an event is the one with its fields, where it has the form that is asked for. -/
theorem recordOf_eq_some_iff :
  recordOf event = some r ↔ Fields event r ∧ Form (fun _ => True) r
  := by
  rw [recordOf]
  constructor
  · intro h
    obtain ⟨action, haction, h⟩ := Option.bind_eq_some_iff.mp h
    obtain ⟨hwired, h⟩ := Ingest.guard_bind_eq_some_iff.mp h
    obtain ⟨outcome, houtcome, h⟩ := Option.bind_eq_some_iff.mp h
    obtain ⟨⟨actorRef, subjectRef, recordRef⟩, hreferences, h⟩ := Option.bind_eq_some_iff.mp h
    obtain ⟨auditId, hauditId, h⟩ := Option.bind_eq_some_iff.mp h
    obtain ⟨occurredAt, hoccurredAt, h⟩ := Option.bind_eq_some_iff.mp h
    obtain ⟨correlationId, hcorrelationId, h⟩ := Option.bind_eq_some_iff.mp h
    obtain ⟨tenantRef, htenantRef, h⟩ := Option.bind_eq_some_iff.mp h
    obtain ⟨carrierRef, hcarrierRef, h⟩ := Option.bind_eq_some_iff.mp h
    have hr := Option.some.inj h
    have htenant := Ingest.optionalString_eq_some_iff.mp htenantRef
    have hcarrier := Ingest.optionalString_eq_some_iff.mp hcarrierRef
    subst hr
    obtain ⟨⟨hactor, hsubject, hrecord⟩, hform⟩ :=
      (references_eq_some_iff (r := ⟨auditId, 1, occurredAt, correlationId, action, outcome,
        ofString gatewayAuditSourceService, actorRef, subjectRef, tenantRef, carrierRef,
        recordRef⟩) hwired htenant hcarrier).mp hreferences
    constructor
    · constructor
      · apply Ingest.requiredString_eq_some_iff.mp hauditId
      · rfl
      · apply Ingest.requiredString_eq_some_iff.mp hoccurredAt
      · apply Ingest.requiredString_eq_some_iff.mp hcorrelationId
      · apply Ingest.requiredString_eq_some_iff.mp haction
      · apply Ingest.requiredString_eq_some_iff.mp houtcome
      · rfl
      · apply hactor
      · apply hsubject
      · apply htenant
      · apply hcarrier
      · apply hrecord
    · apply hform
  · intro ⟨h, hform⟩
    have hwired : r.action ∈ wiredActions.map ofString := by
      cases hform with
      | denied haction _ =>
          rw [haction]
          decide
      | carrierMismatch haction _ _ _ _ _ _ =>
          rw [haction]
          decide
      | startup haction _ _ _ _ _ _ _ _ _ _ =>
          rw [wiredActions, List.map_append]
          apply List.mem_append_right
          apply haction
      | memberships haction _ _ _ _ _ _ _ _ =>
          rw [haction]
          decide
    have hreferences := (references_eq_some_iff hwired h.tenantRef h.carrierRef).mpr
      ⟨⟨h.actorRef, h.subjectRef, h.recordRef⟩, hform⟩
    apply Option.bind_eq_some_iff.mpr
      ⟨r.action, Ingest.requiredString_eq_some_iff.mpr h.action, _⟩
    apply Ingest.guard_bind_eq_some_iff.mpr ⟨hwired, _⟩
    apply Option.bind_eq_some_iff.mpr
      ⟨r.outcome, Ingest.requiredString_eq_some_iff.mpr h.outcome, _⟩
    apply Option.bind_eq_some_iff.mpr ⟨_, hreferences, _⟩
    apply Option.bind_eq_some_iff.mpr
      ⟨r.auditId, Ingest.requiredString_eq_some_iff.mpr h.auditId, _⟩
    apply Option.bind_eq_some_iff.mpr
      ⟨r.occurredAt, Ingest.requiredString_eq_some_iff.mpr h.occurredAt, _⟩
    apply Option.bind_eq_some_iff.mpr
      ⟨r.correlationId, Ingest.requiredString_eq_some_iff.mpr h.correlationId, _⟩
    apply Option.bind_eq_some_iff.mpr
      ⟨r.tenantRef, Ingest.optionalString_eq_some_iff.mpr h.tenantRef, _⟩
    apply Option.bind_eq_some_iff.mpr
      ⟨r.carrierRef, Ingest.optionalString_eq_some_iff.mpr h.carrierRef, _⟩
    rw [← h.eventVersion, ← h.sourceService]
    rfl

/-- The version of an envelope that the parser takes: the integer, or the number `1.0`. -/
def IsOne (version : Wire) : Prop :=
  version.equalsInt 1

/-- What the parser accepts. -/
theorem parseRecord_eq_some_iff {loads : List UInt8 → Option Wire} {raw : List UInt8} :
  parseRecord loads raw = some r
    ↔ ∃ body, loads raw = some body ∧ Grammar IsOne (fun _ => True) body r
  := by
  have hdisjoint : ∀ key ∈ forbiddenEventKeys, key ∉ eventKeys := by decide
  rw [parseRecord]
  constructor
  · intro h
    obtain ⟨body, hloads, h⟩ := Option.bind_eq_some_iff.mp h
    obtain ⟨event, henvelope, h⟩ := Option.bind_eq_some_iff.mp h
    obtain ⟨hfields, hform⟩ := recordOf_eq_some_iff.mp h
    use body, hloads
    constructor
    · use event
      exact ⟨(Ingest.parseEnvelope_eq_some_iff hdisjoint).mp henvelope, hfields⟩
    · apply hform
  · intro ⟨body, hloads, ⟨event, henvelope, hfields⟩, hform⟩
    apply Option.bind_eq_some_iff.mpr ⟨body, hloads, _⟩
    apply Option.bind_eq_some_iff.mpr
      ⟨event, (Ingest.parseEnvelope_eq_some_iff hdisjoint).mpr henvelope, _⟩
    apply recordOf_eq_some_iff.mpr
    exact ⟨hfields, hform⟩

end Parse

/-! ## The table -/

/-- The texts of a record, as they are sent to the database. -/
def GatewayAuditRecord.texts (r : GatewayAuditRecord) : List CodePoints :=
  [r.auditId, r.occurredAt, r.correlationId, r.action, r.outcome, r.sourceService]
    ++ [r.actorRef, r.subjectRef, r.tenantRef, r.carrierRef, r.recordRef].reduceOption

/-- `_validate`: what the store checks of a record before it is sent. -/
def validate (r : GatewayAuditRecord) : Bool :=
  decide (r.action ∈ gatewayAuditStoreActions.map ofString) && decide (0 < r.eventVersion)
    && decide (r.sourceService = ofString gatewayAuditSourceService)
    && [r.auditId, r.occurredAt, r.correlationId, r.outcome].all (!·.isEmpty)

/-- The types and the checks of `control_gateway_audit`, with the times that the database reads:
what has to hold of a record for its insertion not to fail on its shape. -/
structure Row (timestamptz : CodePoints → Bool) (r : GatewayAuditRecord) : Prop where
  valid : validate r
  texts : ∀ text ∈ r.texts, CodePoints.storable text
  eventVersion : 0 < r.eventVersion ∧ r.eventVersion < 2 ^ 31
  occurredAt : timestamptz r.occurredAt
  action : r.action ∈ gatewayAuditStoreActions.map ofString
  sourceService : r.sourceService = ofString gatewayAuditSourceService

/-! ## What the parser accepts -/

/-- The version of a body. -/
def versionOf (body : Wire) : Option Wire :=
  body.asObject.bind (item "version")

/-- The event of a body. -/
def eventOf (body : Wire) : Option Entries :=
  (body.asObject.bind (item "event")).bind Wire.asObject

/-- The texts of the event are texts of the database, and its time is one. -/
def Storable (timestamptz : CodePoints → Bool) (body : Wire) : Prop :=
  ∀ event, eventOf body = some event →
    (∀ key ∈ eventKeys, ∀ text, item key event = some (.text text) → CodePoints.storable text)
      ∧ ∀ text, item "occurred_at" event = some (.text text) → timestamptz text

section Meets

variable {body : Wire} {r : GatewayAuditRecord} {IsVersion : Wire → Prop}
variable {TenantGiven : CodePoints → Prop}

theorem Grammar.versionOf_eq (h : Grammar IsVersion TenantGiven body r) :
  ∃ version, versionOf body = some version ∧ IsVersion version
  := by
  obtain ⟨event, ⟨⟨entries, version, rfl, -, hversion, hone, -⟩, -, -⟩, -⟩ := h.event
  use version
  constructor
  · apply hversion
  · apply hone

theorem Grammar.eventOf_eq (h : Grammar IsVersion TenantGiven body r) :
  ∃ event, eventOf body = some event ∧ Fields event r
  := by
  obtain ⟨event, ⟨⟨entries, version, rfl, -, -, -, hevent⟩, -, -⟩, hfields⟩ := h.event
  use event
  constructor
  · rw [eventOf, Wire.asObject, Option.bind_some, hevent]
    rfl
  · apply hfields

/-- The texts of a record are those of the event, and the name of the service. -/
theorem Fields.texts {event : Entries} (h : Fields event r)
    (hversion : item "event_version" event = some (.int 1)) {text : CodePoints} :
  text ∈ r.texts ↔ text = ofString gatewayAuditSourceService
    ∨ ∃ key ∈ eventKeys, item key event = some (.text text)
  := by
  have hoptional : text ∈ [r.actorRef, r.subjectRef, r.tenantRef, r.carrierRef,
      r.recordRef].reduceOption ↔ some text ∈ [r.actorRef, r.subjectRef, r.tenantRef,
      r.carrierRef, r.recordRef] := List.reduceOption_mem_iff
  rw [GatewayAuditRecord.texts, List.mem_append, hoptional, h.sourceService]
  simp only [List.mem_cons, List.not_mem_nil, or_false]
  constructor
  · rintro ((rfl | rfl | rfl | rfl | rfl | rfl) | (hsome | hsome | hsome | hsome | hsome))
    · exact Or.inr ⟨"audit_id", by decide, h.auditId.1⟩
    · exact Or.inr ⟨"occurred_at", by decide, h.occurredAt.1⟩
    · exact Or.inr ⟨"correlation_id", by decide, h.correlationId.1⟩
    · exact Or.inr ⟨"action", by decide, h.action.1⟩
    · exact Or.inr ⟨"outcome", by decide, h.outcome.1⟩
    · apply Or.inl rfl
    · have hfield := h.actorRef
      rw [← hsome] at hfield
      exact Or.inr ⟨"actor_ref", by decide, hfield.1⟩
    · have hfield := h.subjectRef
      rw [← hsome] at hfield
      exact Or.inr ⟨"subject_ref", by decide, hfield.1⟩
    · have hfield := h.tenantRef
      rw [← hsome] at hfield
      exact Or.inr ⟨"tenant_ref", by decide, hfield.1⟩
    · have hfield := h.carrierRef
      rw [← hsome] at hfield
      exact Or.inr ⟨"carrier_ref", by decide, hfield.1⟩
    · have hfield := h.recordRef
      rw [← hsome] at hfield
      exact Or.inr ⟨"record_ref", by decide, hfield.1⟩
  · rintro (rfl | ⟨key, hkey, hitem⟩)
    · simp
    · simp only [eventKeys, List.mem_cons, List.not_mem_nil, or_false] at hkey
      rcases hkey with rfl | rfl | rfl | rfl | rfl | rfl | rfl | rfl | rfl | rfl | rfl
      · simp [h.auditId.unique hitem]
      · rw [hversion] at hitem
        cases hitem
      · simp [h.occurredAt.unique hitem]
      · simp [h.correlationId.unique hitem]
      · simp [h.action.unique hitem]
      · simp [h.outcome.unique hitem]
      · simp [h.actorRef.unique hitem]
      · simp [h.subjectRef.unique hitem]
      · simp [h.tenantRef.unique hitem]
      · simp [h.carrierRef.unique hitem]
      · simp [h.recordRef.unique hitem]

/-- The action of a record in a form is one of the table's. -/
theorem Form.action_mem (h : Form TenantGiven r) :
  r.action ∈ gatewayAuditStoreActions.map ofString
  := by
  cases h with
  | denied haction _ =>
      rw [haction]
      decide
  | carrierMismatch haction _ _ _ _ _ _ =>
      rw [haction]
      decide
  | startup haction _ _ _ _ _ _ _ _ _ _ =>
      simp only [clmTenantSuccessActions, List.map_cons, List.map_nil, List.mem_cons,
        List.not_mem_nil, or_false] at haction
      rcases haction with haction | haction
      · rw [haction]
        decide
      · rw [haction]
        decide
  | memberships haction _ _ _ _ _ _ _ _ =>
      rw [haction]
      decide

/-- An accepted record has the shape of a row where its texts and its time are the database's. -/
theorem Grammar.row_iff {timestamptz : CodePoints → Bool}
    (h : Grammar IsVersion TenantGiven body r) :
  Row timestamptz r ↔ Storable timestamptz body
  := by
  obtain ⟨event, henvelope, hfields⟩ := h.event
  have hevent : eventOf body = some event := by
    obtain ⟨entries, version, rfl, -, -, -, hitem⟩ := henvelope.envelope
    rw [eventOf, Wire.asObject, Option.bind_some, hitem]
    rfl
  constructor
  · intro hrow event' hevent'
    obtain rfl := Option.some.inj (hevent.symm.trans hevent')
    constructor
    · intro key hkey text hitem
      apply hrow.texts
      apply (hfields.texts henvelope.eventVersion).mpr
      exact Or.inr ⟨key, hkey, hitem⟩
    · intro text hitem
      rw [← hfields.occurredAt.unique hitem]
      apply hrow.occurredAt
  · intro hstorable
    obtain ⟨htexts, htime⟩ := hstorable event hevent
    have hne : ∀ {text : CodePoints}, text ≠ [] → (!text.isEmpty) = true := by
      intro text htext
      cases text with
      | nil => exact absurd rfl htext
      | cons _ _ => rfl
    constructor
    · rw [validate, hfields.eventVersion]
      simp [h.form.action_mem, hfields.sourceService, hfields.auditId.2.2,
        hfields.occurredAt.2.2, hfields.correlationId.2.2, hfields.outcome.2.2]
    · intro text htext
      rcases (hfields.texts henvelope.eventVersion).mp htext with rfl | ⟨key, hkey, hitem⟩
      · decide
      · apply htexts key hkey text hitem
    · rw [hfields.eventVersion]
      decide
    · apply htime
      apply hfields.occurredAt.1
    · apply h.form.action_mem
    · apply hfields.sourceService

/-- A form that asks something else of the tenant of a startup event. -/
theorem Form.imp {TenantGiven' : CodePoints → Prop} (h : Form TenantGiven r)
    (himp : r.action ∈ clmTenantSuccessActions.map ofString → ∀ tenant,
      r.tenantRef = some tenant → TenantGiven tenant → TenantGiven' tenant) :
  Form TenantGiven' r
  := by
  cases h with
  | denied haction houtcome => apply Form.denied haction houtcome
  | carrierMismatch haction houtcome hrecord hnotenant carrier hcarrier hshape =>
      apply Form.carrierMismatch haction houtcome hrecord hnotenant carrier hcarrier hshape
  | startup haction houtcome actor record tenant hactor hactor' hrecord hrecord' hsome hgiven =>
      apply Form.startup haction houtcome actor record tenant hactor hactor' hrecord hrecord'
        hsome (himp haction tenant hsome hgiven)
  | memberships haction houtcome actor subject hactor hactor' hsubject hsubject' hrecord =>
      apply Form.memberships haction houtcome actor subject hactor hactor' hsubject hsubject'
        hrecord

/-- What is documented is accepted. -/
theorem Grammar.weaken (h : Grammar (· = .int 1) TenantGiven body r) :
  Grammar IsOne (fun _ => True) body r
  := by
  obtain ⟨⟨event, ⟨⟨entries, version, rfl, htop, hitem, rfl, hevent⟩, hkeys, hnumber⟩, hfields⟩,
    hform⟩ := h
  constructor
  · use event
    constructor
    · constructor
      · exact ⟨entries, .int 1, rfl, htop, hitem, rfl, hevent⟩
      · apply hkeys
      · apply hnumber
    · apply hfields
  · apply hform.imp
    intro _ _ _ _
    trivial

/-- A startup event of the documented form has a tenant. -/
theorem Form.tenant_ne (h : Form (· ≠ []) r)
    (haction : r.action ∈ clmTenantSuccessActions.map ofString) :
  r.tenantRef ≠ some []
  := by
  cases h with
  | denied hdenial _ =>
      exfalso
      rw [hdenial] at haction
      revert haction
      decide
  | carrierMismatch hmismatch _ _ _ _ _ _ =>
      exfalso
      rw [hmismatch] at haction
      revert haction
      decide
  | startup _ _ _ _ tenant _ _ _ _ hsome hne =>
      rw [hsome]
      intro heq
      apply hne (Option.some.inj heq)
  | memberships hmemberships _ _ _ _ _ _ _ _ =>
      exfalso
      rw [hmemberships] at haction
      revert haction
      decide

end Meets

section Claim

variable (loads : List UInt8 → Option Wire) (timestamptz : CodePoints → Bool) (raw : List UInt8)

/-- The body is one of the documented grammar: its version is the integer 1, and a startup event
names its tenant. -/
def Documented : Prop :=
  ∃ body r, loads raw = some body ∧ Grammar (· = .int 1) (· ≠ []) body r

/-- The version of the body is an integer, and a startup event names its tenant. -/
def Precise : Prop :=
  ∀ body r, loads raw = some body → Grammar IsOne (fun _ => True) body r →
    versionOf body = some (.int 1)
      ∧ (r.action ∈ clmTenantSuccessActions.map ofString → r.tenantRef ≠ some [])

/-- The parser accepts the documented bodies, and others only where the version is `1.0` or a
startup event names an empty tenant; and a record that it accepts has the shape of a row where
the texts and the time of its event are the database's. -/
theorem parseRecord_meets_iff :
  (((parseRecord loads raw).isSome ↔ Documented loads raw) ↔ Precise loads raw)
    ∧ ∀ r, parseRecord loads raw = some r →
      ∃ body, loads raw = some body ∧ (Row timestamptz r ↔ Storable timestamptz body)
  := by
  constructor
  · constructor
    · intro h body r hloads hgrammar
      have haccepted : (parseRecord loads raw).isSome := by
        rw [parseRecord_eq_some_iff.mpr ⟨body, hloads, hgrammar⟩]
        rfl
      obtain ⟨body', r', hloads', hdocumented⟩ := h.mp haccepted
      obtain rfl := Option.some.inj (hloads.symm.trans hloads')
      have hsame : parseRecord loads raw = some r' := by
        apply parseRecord_eq_some_iff.mpr
        use body, hloads
        apply hdocumented.weaken
      rw [parseRecord_eq_some_iff.mpr ⟨body, hloads, hgrammar⟩] at hsame
      obtain rfl := Option.some.inj hsame
      constructor
      · obtain ⟨version, hversion, rfl⟩ := hdocumented.versionOf_eq
        apply hversion
      · apply hdocumented.form.tenant_ne
    · intro hprecise
      constructor
      · intro haccepted
        obtain ⟨r, hr⟩ := Option.isSome_iff_exists.mp haccepted
        obtain ⟨body, hloads, hgrammar⟩ := parseRecord_eq_some_iff.mp hr
        obtain ⟨hversion, htenant⟩ := hprecise body r hloads hgrammar
        use body, r, hloads
        constructor
        · obtain ⟨event, ⟨⟨entries, version, rfl, htop, hitem, _, hevent⟩, hkeys, hnumber⟩,
            hfields⟩ := hgrammar.event
          use event
          constructor
          · constructor
            · use entries, version, rfl, htop, hitem
              constructor
              · apply Option.some.inj (hitem.symm.trans hversion)
              · apply hevent
            · apply hkeys
            · apply hnumber
          · apply hfields
        · apply hgrammar.form.imp
          intro haction tenant hsome _
          rintro rfl
          apply htenant haction hsome
      · intro ⟨body, r, hloads, hdocumented⟩
        rw [parseRecord_eq_some_iff.mpr ⟨body, hloads, hdocumented.weaken⟩]
        rfl
  · intro r hr
    obtain ⟨body, hloads, hgrammar⟩ := parseRecord_eq_some_iff.mp hr
    use body, hloads
    apply hgrammar.row_iff

end Claim

/-- A startup read, with a version, a tenant and a time. -/
def startupRead (version : Wire) (tenantRef occurredAt : String) : Wire :=
  let text := fun s : String => Wire.text (ofString s)
  .object [(ofString "version", version), (ofString "event", .object
    [(ofString "audit_id", text "5f0c"), (ofString "event_version", .int 1),
      (ofString "occurred_at", text occurredAt), (ofString "correlation_id", text "c-1"),
      (ofString "action", text "tenant_startup_read"), (ofString "outcome", text "success"),
      (ofString "actor_ref", text "p-1"), (ofString "subject_ref", .null),
      (ofString "tenant_ref", text tenantRef), (ofString "carrier_ref", .null),
      (ofString "record_ref", text "s-1")])]

/-- A version `1.0` is accepted, an empty tenant is, and a time that the database refuses is. -/
theorem parseRecord_undocumented :
  ((parseRecord (fun _ => some (startupRead (.float (.finite 1)) "acme" "2026-01-01T00:00Z"))
        []).isSome
      ∧ ¬ Documented (fun _ => some (startupRead (.float (.finite 1)) "acme" "2026-01-01T00:00Z"))
        [])
    ∧ ((parseRecord (fun _ => some (startupRead (.int 1) "" "2026-01-01T00:00Z")) []).isSome
      ∧ ¬ Documented (fun _ => some (startupRead (.int 1) "" "2026-01-01T00:00Z")) [])
    ∧ (parseRecord (fun _ => some (startupRead (.int 1) "acme" "soon")) []).isSome
      ∧ ¬ Storable (fun text => text ≠ ofString "soon") (startupRead (.int 1) "acme" "soon")
  := by
  constructor
  · constructor
    · decide +kernel
    · intro ⟨body, r, hloads, hgrammar⟩
      obtain rfl := Option.some.inj hloads
      obtain ⟨version, hversion, rfl⟩ := hgrammar.versionOf_eq
      cases hversion
  constructor
  · constructor
    · decide +kernel
    · intro ⟨body, r, hloads, hgrammar⟩
      obtain rfl := Option.some.inj hloads
      obtain ⟨event, hevent, hfields⟩ := hgrammar.eventOf_eq
      obtain rfl := Option.some.inj hevent
      have haction := hfields.action.unique rfl
      have htenant := hfields.tenantRef.unique rfl
      apply hgrammar.form.tenant_ne _ htenant
      rw [haction]
      decide
  constructor
  · decide +kernel
  · intro hstorable
    have htime := (hstorable _ rfl).2 (ofString "soon") rfl
    revert htime
    decide

end ControlPlane.GatewayAudit
