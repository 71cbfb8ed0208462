import SnackPortal.ControlPlane.Ingest

/-!
# Import audit

The ingest of the import service's audit events.  The parser accepts an event where its nine
fields are texts that an event may carry, none of the references is left out, and the outcome is
one that the action has.
-/

namespace ControlPlane.ImportAudit

open Ingest (Required Envelope)
open Wire (Entries item)
open CodePoints (ofString)

/-! ## Records -/

/-- The references of an import event, as they are stored. -/
structure ImportAuditRecord where
  auditId : CodePoints
  eventVersion : ℤ
  occurredAt : CodePoints
  correlationId : CodePoints
  action : CodePoints
  outcome : CodePoints
  sourceService : CodePoints
  actorRef : Option CodePoints
  targetRef : Option CodePoints
  sourceRef : Option CodePoints
deriving DecidableEq

def importAuditSourceService : String :=
  "import_service"

/-- The actions of the store, which are those that the table admits. -/
def importAuditStoreActions : List String :=
  ["ImportRequested", "ImportStarted", "ImportResumed", "ImportCompleted", "ImportFailed"]

/-! ## The parser -/

def eventKeys : List String :=
  ["audit_id", "event_version", "occurred_at", "correlation_id", "action", "outcome", "actor_ref",
    "target_ref", "source_ref"]

def forbiddenEventKeys : List String :=
  ["id", "recorded_at", "source_service", "dsn", "password", "passwd", "secret", "token", "jwt",
    "bearer_token", "authorization", "request_body", "response_body", "body", "payload",
    "records", "record", "rows", "fields", "database", "db_name", "hostname", "topology",
    "connection"]

/-- The actions that only succeed. -/
def actionsSuccessOnly : List String :=
  ["ImportRequested", "ImportStarted", "ImportResumed"]

def actionCompleted : String := "ImportCompleted"

def completedOutcomes : List String :=
  ["success", "replayed"]

def actionFailed : String := "ImportFailed"

def errorPrefix : String := "error:"

def successOutcome : String := "success"

def allActions : List String :=
  actionsSuccessOnly ++ [actionCompleted, actionFailed]

/-- `str.isspace` of one code point. -/
def isSpace (n : ℕ) : Bool :=
  Text.isSpace (Char.ofNat n)

/-- `_check_action_outcome`. -/
def checkActionOutcome (action outcome : CodePoints) : Bool :=
  if (actionsSuccessOnly.map ofString).contains action then
    outcome = ofString successOutcome
  else if action = ofString actionCompleted then
    (completedOutcomes.map ofString).contains outcome
  else
    (ofString errorPrefix).isPrefixOf outcome
      && let suffix := outcome.drop (ofString errorPrefix).length
      suffix ≠ [] && ¬ suffix.any isSpace

/-- The record of an event. -/
def recordOf (event : Entries) : Option ImportAuditRecord := do
  let action ← Ingest.requiredString event "action"
  guard ((allActions.map ofString).contains action)
  let outcome ← Ingest.requiredString event "outcome"
  guard (checkActionOutcome action outcome)
  let auditId ← Ingest.requiredString event "audit_id"
  let occurredAt ← Ingest.requiredString event "occurred_at"
  let correlationId ← Ingest.requiredString event "correlation_id"
  let actorRef ← Ingest.requiredString event "actor_ref"
  let targetRef ← Ingest.requiredString event "target_ref"
  let sourceRef ← Ingest.requiredString event "source_ref"
  return {
    auditId
    eventVersion := 1
    occurredAt
    correlationId
    action
    outcome
    sourceService := ofString importAuditSourceService
    actorRef := some actorRef
    targetRef := some targetRef
    sourceRef := some sourceRef }

/-- `_parse_record`, with the decoder of JSON, which may raise. -/
def parseRecord (loads : List UInt8 → Option Wire) (raw : List UInt8) :
    Option ImportAuditRecord := do
  let event ← Ingest.parseEnvelope eventKeys forbiddenEventKeys (← loads raw)
  recordOf event

/-! ## The grammar -/

/-- The action of a record is known, its outcome is one that the action has, and its references
are given. -/
structure Form (r : ImportAuditRecord) : Prop where
  action : (allActions.map ofString).contains r.action
  outcome : checkActionOutcome r.action r.outcome
  sourceService : r.sourceService = ofString importAuditSourceService

/-- The record has the fields of the event, which are texts that an event may carry. -/
structure Fields (event : Entries) (r : ImportAuditRecord) : Prop where
  auditId : Required event "audit_id" r.auditId
  eventVersion : r.eventVersion = 1
  occurredAt : Required event "occurred_at" r.occurredAt
  correlationId : Required event "correlation_id" r.correlationId
  action : Required event "action" r.action
  outcome : Required event "outcome" r.outcome
  actorRef : ∃ actor, r.actorRef = some actor ∧ Required event "actor_ref" actor
  targetRef : ∃ target, r.targetRef = some target ∧ Required event "target_ref" target
  sourceRef : ∃ source, r.sourceRef = some source ∧ Required event "source_ref" source

section Parse

variable {event : Entries} {r : ImportAuditRecord}

/-- The record of an event is the one with its fields, where its outcome is one of its action. -/
theorem recordOf_eq_some_iff :
  recordOf event = some r ↔ Fields event r ∧ Form r
  := by
  rw [recordOf]
  constructor
  · intro h
    obtain ⟨action, haction, h⟩ := Option.bind_eq_some_iff.mp h
    obtain ⟨hknown, h⟩ := Ingest.guard_bind_eq_some_iff.mp h
    obtain ⟨outcome, houtcome, h⟩ := Option.bind_eq_some_iff.mp h
    obtain ⟨hchecked, h⟩ := Ingest.guard_bind_eq_some_iff.mp h
    obtain ⟨auditId, hauditId, h⟩ := Option.bind_eq_some_iff.mp h
    obtain ⟨occurredAt, hoccurredAt, h⟩ := Option.bind_eq_some_iff.mp h
    obtain ⟨correlationId, hcorrelationId, h⟩ := Option.bind_eq_some_iff.mp h
    obtain ⟨actorRef, hactorRef, h⟩ := Option.bind_eq_some_iff.mp h
    obtain ⟨targetRef, htargetRef, h⟩ := Option.bind_eq_some_iff.mp h
    obtain ⟨sourceRef, hsourceRef, h⟩ := Option.bind_eq_some_iff.mp h
    have hr := Option.some.inj h
    subst hr
    constructor
    · constructor
      · apply Ingest.requiredString_eq_some_iff.mp hauditId
      · rfl
      · apply Ingest.requiredString_eq_some_iff.mp hoccurredAt
      · apply Ingest.requiredString_eq_some_iff.mp hcorrelationId
      · apply Ingest.requiredString_eq_some_iff.mp haction
      · apply Ingest.requiredString_eq_some_iff.mp houtcome
      · exact ⟨actorRef, rfl, Ingest.requiredString_eq_some_iff.mp hactorRef⟩
      · exact ⟨targetRef, rfl, Ingest.requiredString_eq_some_iff.mp htargetRef⟩
      · exact ⟨sourceRef, rfl, Ingest.requiredString_eq_some_iff.mp hsourceRef⟩
    · constructor
      · apply hknown
      · apply hchecked
      · rfl
  · intro ⟨h, hform⟩
    obtain ⟨actor, hactor, hactorRef⟩ := h.actorRef
    obtain ⟨target, htarget, htargetRef⟩ := h.targetRef
    obtain ⟨source, hsource, hsourceRef⟩ := h.sourceRef
    apply Option.bind_eq_some_iff.mpr
      ⟨r.action, Ingest.requiredString_eq_some_iff.mpr h.action, _⟩
    apply Ingest.guard_bind_eq_some_iff.mpr ⟨hform.action, _⟩
    apply Option.bind_eq_some_iff.mpr
      ⟨r.outcome, Ingest.requiredString_eq_some_iff.mpr h.outcome, _⟩
    apply Ingest.guard_bind_eq_some_iff.mpr ⟨hform.outcome, _⟩
    apply Option.bind_eq_some_iff.mpr
      ⟨r.auditId, Ingest.requiredString_eq_some_iff.mpr h.auditId, _⟩
    apply Option.bind_eq_some_iff.mpr
      ⟨r.occurredAt, Ingest.requiredString_eq_some_iff.mpr h.occurredAt, _⟩
    apply Option.bind_eq_some_iff.mpr
      ⟨r.correlationId, Ingest.requiredString_eq_some_iff.mpr h.correlationId, _⟩
    apply Option.bind_eq_some_iff.mpr
      ⟨actor, Ingest.requiredString_eq_some_iff.mpr hactorRef, _⟩
    apply Option.bind_eq_some_iff.mpr
      ⟨target, Ingest.requiredString_eq_some_iff.mpr htargetRef, _⟩
    apply Option.bind_eq_some_iff.mpr
      ⟨source, Ingest.requiredString_eq_some_iff.mpr hsourceRef, _⟩
    rw [← h.eventVersion, ← hform.sourceService, ← hactor, ← htarget, ← hsource]
    rfl

/-- What the parser accepts. -/
theorem parseRecord_eq_some_iff {loads : List UInt8 → Option Wire} {raw : List UInt8} :
  parseRecord loads raw = some r
    ↔ ∃ body event, loads raw = some body
      ∧ Envelope (fun version => version.equalsInt 1) eventKeys body event
      ∧ Fields event r ∧ Form r
  := by
  have hdisjoint : ∀ key ∈ forbiddenEventKeys, key ∉ eventKeys := by decide
  rw [parseRecord]
  constructor
  · intro h
    obtain ⟨body, hloads, h⟩ := Option.bind_eq_some_iff.mp h
    obtain ⟨event, henvelope, h⟩ := Option.bind_eq_some_iff.mp h
    use body, event, hloads
    constructor
    · apply (Ingest.parseEnvelope_eq_some_iff hdisjoint).mp henvelope
    · apply recordOf_eq_some_iff.mp h
  · intro ⟨body, event, hloads, henvelope, hrecord⟩
    apply Option.bind_eq_some_iff.mpr ⟨body, hloads, _⟩
    apply Option.bind_eq_some_iff.mpr
      ⟨event, (Ingest.parseEnvelope_eq_some_iff hdisjoint).mpr henvelope, _⟩
    apply recordOf_eq_some_iff.mpr hrecord

end Parse

end ControlPlane.ImportAudit
