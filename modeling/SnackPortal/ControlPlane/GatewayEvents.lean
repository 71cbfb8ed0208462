import SnackPortal.ApiGateway.Handling
import SnackPortal.ControlPlane.GatewayAudit
import SnackPortal.ControlPlane.RouterEvents

/-!
# Events of the gateway

What a request emits, and what the gateway's ingest accepts of it: an event of a durable class
whose texts are texts that an event may carry, whose principal is not empty where it is that of a
success, and whose carrier is not blank where it is that of a mismatch (`Shaped.accepted_iff`).
-/

namespace ControlPlane.EmittedAudit

open Ingest (Admitted)
open Wire (Entries)
open CodePoints (ofString)
open DatabaseRouter (RequestContext)
open ApiGateway (GatewayAuditEvent AuditAction Gateway InboundRequest GatewayProgram
  GatewayResponse gatewaySignature recognizedCarriers opaqueCarrierRef correlationIdOf)
open Program

/-- `AuditAction.value`. -/
def actionValue : AuditAction → String
  | .carrierMismatch => "CarrierMismatch"
  | .carrierOnControlAnomaly => "CarrierOnControlAnomaly"
  | .routeDenied => "RouteDenied"
  | .isolationAnomaly => "IsolationAnomaly"
  | .workspaceMembershipsRead => "workspace_memberships_read"
  | .tenantStartupRead => "tenant_startup_read"
  | .tenantStartupUpdate => "tenant_startup_update"

/-- `_CLM_DURABLE_ACTIONS`: the classes that are sent to the control plane; the events of the
other two stay in memory. -/
def durable : AuditAction → Bool
  | .workspaceMembershipsRead | .tenantStartupRead | .tenantStartupUpdate | .routeDenied
  | .carrierMismatch => true
  | .carrierOnControlAnomaly | .isolationAnomaly => false

/-- `_wire_event` of the gateway's transport. -/
def gatewayFields (event : GatewayAuditEvent) : List (String × Wire) :=
  [("audit_id", ofText event.auditId), ("event_version", .int event.eventVersion),
    ("occurred_at", ofText event.occurredAt), ("correlation_id", ofText event.correlationId),
    ("action", ofText (actionValue event.action)), ("outcome", ofText event.outcome),
    ("actor_ref", ofOption event.actorRef), ("subject_ref", ofOption event.subjectRef),
    ("tenant_ref", ofOption event.tenantRef), ("carrier_ref", ofOption event.carrierRef),
    ("record_ref", ofOption event.recordRef)]

/-- What is sent for an event of the gateway. -/
def gatewayBody (event : GatewayAuditEvent) : Wire :=
  sent (entriesOf (gatewayFields event))

/-- The texts of an event that come from outside the gateway. -/
def gatewayReferences (event : GatewayAuditEvent) : List String :=
  [event.correlationId]
    ++ [event.actorRef, event.subjectRef, event.tenantRef, event.carrierRef,
      event.recordRef].reduceOption

/-- What the gateway gives with an event, by its class. -/
inductive Given (request : InboundRequest) (event : GatewayAuditEvent) : Prop where
  | undurable (haction : durable event.action = false)
  | denied (haction : event.action = .routeDenied) (houtcome : event.outcome = "rejected")
  | mismatch (haction : event.action = .carrierMismatch) (houtcome : event.outcome = "rejected")
      (hrecord : event.recordRef = none) (htenant : event.tenantRef = none)
      (hcarrier : event.carrierRef = (recognizedCarriers request).head?.map opaqueCarrierRef)
  | startup (haction : event.action = .tenantStartupRead ∨ event.action = .tenantStartupUpdate)
      (houtcome : event.outcome = "success") (actor tenant record : String)
      (hactor : event.actorRef = some actor) (htenant : event.tenantRef = some tenant)
      (hrecord : event.recordRef = some record) (hne : record ≠ "")
  | memberships (haction : event.action = .workspaceMembershipsRead)
      (houtcome : event.outcome = "success") (principal : String)
      (hactor : event.actorRef = some principal) (hsubject : event.subjectRef = some principal)
      (hrecord : event.recordRef = none)

/-- An event that the gateway puts together for a request. -/
structure Shaped (minted : ApiGateway.Minted) (request : InboundRequest)
    (event : GatewayAuditEvent) : Prop where
  correlationId : event.correlationId = correlationIdOf minted request
  auditId : event.auditId = minted.auditId event.action
  occurredAt : event.occurredAt = minted.occurredAt event.action
  eventVersion : event.eventVersion = 1
  given : Given request event

/-- The texts of an event are texts that it may carry: the principal of a success is not empty,
and the carrier of a mismatch is not blank. -/
structure Carried (request : InboundRequest) (event : GatewayAuditEvent) : Prop where
  durable : durable event.action
  admitted : ∀ ref ∈ gatewayReferences event, Admitted (ofString ref)
  actorRef : event.action.success → event.actorRef ≠ some ""
  carrier : event.action = .carrierMismatch →
    ∃ carrier, (recognizedCarriers request).head? = some carrier ∧ Text.strip carrier ≠ ""

/-- What is minted for a request are minted texts. -/
structure MintedTexts (minted : ApiGateway.Minted) : Prop where
  correlationId : MintedText minted.correlationId
  auditId : ∀ action, MintedText (minted.auditId action)
  occurredAt : ∀ action, MintedText (minted.occurredAt action)

theorem correlationIdOf_ne {minted : ApiGateway.Minted} (h : MintedTexts minted)
    (request : InboundRequest) :
  correlationIdOf minted request ≠ ""
  := by
  rw [correlationIdOf]
  generalize hfound : List.findSome? _ request.headers = found
  cases found with
  | none => apply h.correlationId.ne
  | some value =>
      obtain ⟨header, -, hvalue⟩ := List.exists_of_findSome?_eq_some hfound
      obtain ⟨hgiven, heq⟩ := Option.ite_none_right_eq_some.mp hvalue
      rw [Option.getD_some, ← Option.some.inj heq]
      apply hgiven.2

/-- The rendering of a carrier has the shape that is asked for where the carrier is not blank. -/
theorem opaqueShaped_iff (carrier : String) :
  GatewayAudit.opaqueShaped (ofString (opaqueCarrierRef carrier)) ↔ Text.strip carrier ≠ ""
  := by
  have hrendering : ofString (opaqueCarrierRef carrier)
      = ofString "carrier:" ++ (ofString (Text.strip carrier)).take 56 := by
    rw [opaqueCarrierRef, ofString, String.toList_ofList, String.toList_append, List.map_take,
      List.map_append, List.take_append]
    rfl
  rw [hrendering, GatewayAudit.opaqueShaped, Bool.and_eq_true, Bool.and_eq_true,
    List.length_append, List.length_take, CodePoints.length_ofString,
    CodePoints.length_ofString]
  have hprefix : (ofString "carrier:").isPrefixOf
      (ofString "carrier:" ++ (ofString (Text.strip carrier)).take 56) = true := by
    apply List.isPrefixOf_iff_prefix.mpr
    apply List.prefix_append
  have hlength : "carrier:".length = 8 := rfl
  rw [hlength]
  constructor
  · rintro ⟨⟨_, hlong⟩, _⟩ hblank
    rw [hblank] at hlong
    revert hlong
    decide
  · intro hne
    have hpos : 0 < (Text.strip carrier).length := by
      apply Nat.pos_of_ne_zero
      intro hzero
      apply hne
      apply String.toList_injective
      apply List.length_eq_zero_iff.mp
      rw [String.length_toList, hzero]
    constructor
    · constructor
      · apply hprefix
      · apply decide_eq_true
        omega
    · apply decide_eq_true
      omega

/-! ### Forms -/

/-- A class that is not durable is not wired. -/
theorem not_wired {action : AuditAction} (h : durable action = false) :
  ofString (actionValue action) ∉ GatewayAudit.wiredActions.map ofString
  := by
  cases action with
  | carrierOnControlAnomaly => decide
  | isolationAnomaly => decide
  | _ => cases h

section Forms

variable {r : GatewayAudit.GatewayAuditRecord} {TenantGiven : CodePoints → Prop}

theorem form_wired (h : GatewayAudit.Form TenantGiven r) :
  r.action ∈ GatewayAudit.wiredActions.map ofString
  := by
  cases h with
  | denied haction _ | carrierMismatch haction _ _ _ _ _ _ | memberships haction _ _ _ _ _ _ _ _ =>
      rw [haction]
      decide
  | startup haction _ _ _ _ _ _ _ _ _ _ =>
      rw [GatewayAudit.wiredActions, List.map_append]
      apply List.mem_append_right
      apply haction

/-- The form of a carrier mismatch. -/
theorem form_mismatch_iff (haction : r.action = ofString GatewayAudit.carrierMismatchAction) :
  GatewayAudit.Form TenantGiven r
    ↔ r.outcome = ofString GatewayAudit.rejectedOutcome ∧ r.recordRef = none ∧ r.tenantRef = none
      ∧ ∃ carrier, r.carrierRef = some carrier ∧ GatewayAudit.opaqueShaped carrier
  := by
  constructor
  · intro h
    cases h with
    | carrierMismatch _ houtcome hrecord htenant carrier hcarrier hshape =>
        exact ⟨houtcome, hrecord, htenant, carrier, hcarrier, hshape⟩
    | denied haction' _ | memberships haction' _ _ _ _ _ _ _ _ =>
        exact absurd (haction'.symm.trans haction) (by decide)
    | startup haction' _ _ _ _ _ _ _ _ _ _ =>
        rw [haction] at haction'
        exact absurd haction' (by decide)
  · intro ⟨houtcome, hrecord, htenant, carrier, hcarrier, hshape⟩
    apply GatewayAudit.Form.carrierMismatch haction houtcome hrecord htenant carrier hcarrier
      hshape

/-- The form of a success on a startup. -/
theorem form_startup_iff
    (haction : r.action ∈ GatewayAudit.clmTenantSuccessActions.map ofString) :
  GatewayAudit.Form (fun _ => True) r
    ↔ r.outcome = ofString GatewayAudit.successOutcome ∧ r.actorRef ≠ none
      ∧ r.actorRef ≠ some [] ∧ r.recordRef ≠ none ∧ r.recordRef ≠ some [] ∧ r.tenantRef ≠ none
  := by
  constructor
  · intro h
    cases h with
    | startup _ houtcome actor record tenant hactor hactor' hrecord hrecord' htenant _ =>
        rw [hactor, hrecord, htenant]
        simp [houtcome, hactor', hrecord']
    | denied haction' _ | carrierMismatch haction' _ _ _ _ _ _
    | memberships haction' _ _ _ _ _ _ _ _ =>
        rw [haction'] at haction
        exact absurd haction (by decide)
  · intro ⟨houtcome, hactor, hactor', hrecord, hrecord', htenant⟩
    obtain ⟨actor, hactorRef⟩ := Option.ne_none_iff_exists'.mp hactor
    obtain ⟨record, hrecordRef⟩ := Option.ne_none_iff_exists'.mp hrecord
    obtain ⟨tenant, htenantRef⟩ := Option.ne_none_iff_exists'.mp htenant
    apply GatewayAudit.Form.startup haction houtcome actor record tenant hactorRef _ hrecordRef _
      htenantRef trivial
    · intro hnil
      apply hactor'
      rw [hactorRef, hnil]
    · intro hnil
      apply hrecord'
      rw [hrecordRef, hnil]

/-- The form of a success on the memberships. -/
theorem form_memberships_iff (haction : r.action = ofString GatewayAudit.membershipsAction) :
  GatewayAudit.Form TenantGiven r
    ↔ r.outcome = ofString GatewayAudit.successOutcome ∧ r.actorRef ≠ none
      ∧ r.actorRef ≠ some [] ∧ r.subjectRef ≠ none ∧ r.subjectRef ≠ some []
      ∧ r.recordRef = none
  := by
  constructor
  · intro h
    cases h with
    | memberships _ houtcome actor subject hactor hactor' hsubject hsubject' hrecord =>
        rw [hactor, hsubject]
        simp [houtcome, hactor', hsubject', hrecord]
    | denied haction' _ | carrierMismatch haction' _ _ _ _ _ _ =>
        exact absurd (haction'.symm.trans haction) (by decide)
    | startup haction' _ _ _ _ _ _ _ _ _ _ =>
        rw [haction] at haction'
        exact absurd haction' (by decide)
  · intro ⟨houtcome, hactor, hactor', hsubject, hsubject', hrecord⟩
    obtain ⟨actor, hactorRef⟩ := Option.ne_none_iff_exists'.mp hactor
    obtain ⟨subject, hsubjectRef⟩ := Option.ne_none_iff_exists'.mp hsubject
    apply GatewayAudit.Form.memberships haction houtcome actor subject hactorRef _ hsubjectRef _
      hrecord
    · intro hnil
      apply hactor'
      rw [hactorRef, hnil]
    · intro hnil
      apply hsubject'
      rw [hsubjectRef, hnil]

end Forms

/-- The record of an event. -/
def gatewayRecordFrom (event : GatewayAuditEvent) : GatewayAudit.GatewayAuditRecord where
  auditId := ofString event.auditId
  eventVersion := 1
  occurredAt := ofString event.occurredAt
  correlationId := ofString event.correlationId
  action := ofString (actionValue event.action)
  outcome := ofString event.outcome
  sourceService := ofString GatewayAudit.gatewayAuditSourceService
  actorRef := event.actorRef.map ofString
  subjectRef := event.subjectRef.map ofString
  tenantRef := event.tenantRef.map ofString
  carrierRef := event.carrierRef.map ofString
  recordRef := event.recordRef.map ofString

seal ApiGateway.recognizedCarriers

section Accepted

variable {minted : ApiGateway.Minted} {request : InboundRequest} {event : GatewayAuditEvent}

/-- The fields of what is sent are those of its record, where its texts are admitted. -/
theorem fields_iff {r : GatewayAudit.GatewayAuditRecord} :
  GatewayAudit.Fields (entriesOf (gatewayFields event)) r
    ↔ r = gatewayRecordFrom event
      ∧ (∀ text ∈ [event.auditId, event.occurredAt, event.correlationId,
          actionValue event.action, event.outcome], Admitted (ofString text) ∧ text ≠ "")
      ∧ ∀ ref ∈ gatewayReferences event, Admitted (ofString ref)
  := by
  constructor
  · intro h
    obtain ⟨hauditId, hauditId'⟩ := (required_iff rfl).mp h.auditId
    obtain ⟨hoccurredAt, hoccurredAt'⟩ := (required_iff rfl).mp h.occurredAt
    obtain ⟨hcorrelationId, hcorrelationId'⟩ := (required_iff rfl).mp h.correlationId
    obtain ⟨haction, haction'⟩ := (required_iff rfl).mp h.action
    obtain ⟨houtcome, houtcome'⟩ := (required_iff rfl).mp h.outcome
    obtain ⟨hactorRef, hactorRef'⟩ := (nullable_iff rfl).mp h.actorRef
    obtain ⟨hsubjectRef, hsubjectRef'⟩ := (nullable_iff rfl).mp h.subjectRef
    obtain ⟨htenantRef, htenantRef'⟩ := (nullable_iff rfl).mp h.tenantRef
    obtain ⟨hcarrierRef, hcarrierRef'⟩ := (nullable_iff rfl).mp h.carrierRef
    obtain ⟨hrecordRef, hrecordRef'⟩ := (nullable_iff rfl).mp h.recordRef
    constructor
    · have hversion := h.eventVersion
      have hservice := h.sourceService
      obtain ⟨auditId, eventVersion, occurredAt, correlationId, action, outcome, sourceService,
        actorRef, subjectRef, tenantRef, carrierRef, recordRef⟩ := r
      dsimp only at hauditId hversion hoccurredAt hcorrelationId haction houtcome hservice
      dsimp only at hactorRef hsubjectRef htenantRef hcarrierRef hrecordRef
      rw [hauditId, hversion, hoccurredAt, hcorrelationId, haction, houtcome, hservice,
        hactorRef, hsubjectRef, htenantRef, hcarrierRef, hrecordRef, gatewayRecordFrom]
    constructor
    · simp only [List.forall_mem_cons]
      exact ⟨hauditId', hoccurredAt', hcorrelationId', haction', houtcome',
        fun _ hmem => (List.not_mem_nil hmem).elim⟩
    · intro ref href
      rcases List.mem_append.mp href with href | href
      · rw [List.mem_singleton.mp href]
        apply hcorrelationId'.1
      · have hsome := List.reduceOption_mem_iff.mp href
        simp only [List.mem_cons, List.not_mem_nil, or_false] at hsome
        rcases hsome with href | href | href | href | href
        · apply hactorRef' ref href.symm
        · apply hsubjectRef' ref href.symm
        · apply htenantRef' ref href.symm
        · apply hcarrierRef' ref href.symm
        · apply hrecordRef' ref href.symm
  · rintro ⟨hr, hfixed, hadmitted⟩
    rw [hr]
    have houtside : ∀ ref ∈ [event.actorRef, event.subjectRef, event.tenantRef,
        event.carrierRef, event.recordRef], ∀ text ∈ ref, Admitted (ofString text) := by
      intro ref href text htext
      apply hadmitted
      apply List.mem_append_right
      apply mem_reduceOption_of_mem href htext
    simp only [List.forall_mem_cons] at hfixed
    obtain ⟨hauditId, hoccurredAt, hcorrelationId, haction, houtcome, -⟩ := hfixed
    constructor
    · apply (required_iff rfl).mpr ⟨rfl, hauditId⟩
    · rfl
    · apply (required_iff rfl).mpr ⟨rfl, hoccurredAt⟩
    · apply (required_iff rfl).mpr ⟨rfl, hcorrelationId⟩
    · apply (required_iff rfl).mpr ⟨rfl, haction⟩
    · apply (required_iff rfl).mpr ⟨rfl, houtcome⟩
    · rfl
    · apply (nullable_iff rfl).mpr ⟨rfl, houtside _ (by simp)⟩
    · apply (nullable_iff rfl).mpr ⟨rfl, houtside _ (by simp)⟩
    · apply (nullable_iff rfl).mpr ⟨rfl, houtside _ (by simp)⟩
    · apply (nullable_iff rfl).mpr ⟨rfl, houtside _ (by simp)⟩
    · apply (nullable_iff rfl).mpr ⟨rfl, houtside _ (by simp)⟩

/-- What is given with an event has the form that its parser asks for where the class is a
durable one, the principal of a success is not empty and the carrier of a mismatch not blank. -/
theorem Given.form_iff (h : Given request event) :
  GatewayAudit.Form (fun _ => True) (gatewayRecordFrom event)
    ↔ durable event.action
      ∧ (event.action.success → event.actorRef ≠ some "")
      ∧ (event.action = .carrierMismatch →
        ∃ carrier, (recognizedCarriers request).head? = some carrier ∧ Text.strip carrier ≠ "")
  := by
  have haction : (gatewayRecordFrom event).action = ofString (actionValue event.action) := rfl
  have houtcome : (gatewayRecordFrom event).outcome = ofString event.outcome := rfl
  have hempty : ∀ {text : Option String}, text.map ofString = some [] ↔ text = some "" := by
    intro text
    cases text with
    | none => simp
    | some text => simp [CodePoints.ofString_eq_nil]
  cases h with
  | undurable haction' =>
      constructor
      · intro hform
        have hwired := form_wired hform
        rw [haction] at hwired
        exact absurd hwired (not_wired haction')
      · intro ⟨hdurable, _⟩
        rw [haction'] at hdurable
        cases hdurable
  | denied haction' houtcome' =>
      constructor
      · intro _
        rw [haction']
        use rfl
        constructor
        · intro hsuccess
          cases hsuccess
        · intro hmismatch
          cases hmismatch
      · intro _
        apply GatewayAudit.Form.denied
        · rw [haction, haction']
          rfl
        · rw [houtcome, houtcome']
          rfl
  | mismatch haction' houtcome' hrecord htenant hcarrier =>
      rw [haction'] at haction ⊢
      rw [form_mismatch_iff haction, houtcome, houtcome', gatewayRecordFrom, hrecord, htenant,
        hcarrier]
      constructor
      · intro ⟨_, _, _, carrier, hcarrier', hshape⟩
        use rfl
        constructor
        · intro hsuccess
          cases hsuccess
        · intro _
          obtain ⟨rendering, hrendering, rfl⟩ := Option.map_eq_some_iff.mp hcarrier'
          obtain ⟨carrier, hhead, rfl⟩ := Option.map_eq_some_iff.mp hrendering
          use carrier, hhead
          apply (opaqueShaped_iff carrier).mp hshape
      · intro ⟨_, _, hgiven⟩
        obtain ⟨carrier, hhead, hne⟩ := hgiven rfl
        have hshape := (opaqueShaped_iff carrier).mpr hne
        rw [hhead]
        exact ⟨rfl, rfl, rfl, _, rfl, hshape⟩
  | startup haction' houtcome' actor tenant record hactor htenant hrecord hne =>
      have hstartup : (gatewayRecordFrom event).action
          ∈ GatewayAudit.clmTenantSuccessActions.map ofString := by
        rw [haction]
        rcases haction' with haction' | haction'
        · rw [haction']
          decide
        · rw [haction']
          decide
      have hrecord' : event.recordRef ≠ some "" := by
        rw [hrecord]
        intro hsome
        apply hne (Option.some.inj hsome)
      rw [form_startup_iff hstartup, houtcome, houtcome']
      simp only [gatewayRecordFrom, ne_eq, hempty, Option.map_eq_none_iff]
      constructor
      · intro ⟨_, _, hactor', _⟩
        constructor
        · rcases haction' with haction' | haction'
          · rw [haction']
            rfl
          · rw [haction']
            rfl
        constructor
        · intro _
          apply hactor'
        · intro hmismatch
          rw [hmismatch] at haction'
          rcases haction' with haction' | haction'
          · cases haction'
          · cases haction'
      · intro ⟨_, hactor', _⟩
        have hsuccess : event.action.success := by
          rcases haction' with haction' | haction'
          · rw [haction']
            rfl
          · rw [haction']
            rfl
        use rfl
        constructor
        · rw [hactor]
          exact Option.some_ne_none _
        constructor
        · apply hactor' hsuccess
        constructor
        · rw [hrecord]
          exact Option.some_ne_none _
        constructor
        · apply hrecord'
        · rw [htenant]
          exact Option.some_ne_none _
  | memberships haction' houtcome' principal hactor hsubject hrecord =>
      rw [haction'] at haction ⊢
      rw [form_memberships_iff haction, houtcome, houtcome']
      simp only [gatewayRecordFrom, ne_eq, hempty, Option.map_eq_none_iff]
      rw [hactor, hsubject, hrecord]
      constructor
      · intro ⟨_, _, hactor', _⟩
        use rfl
        constructor
        · intro _
          apply hactor'
        · intro hmismatch
          cases hmismatch
      · intro ⟨_, hactor', _⟩
        have hne := hactor' rfl
        exact ⟨rfl, Option.some_ne_none _, hne, Option.some_ne_none _, hne, rfl⟩

/-- The outcome of a durable event is one of two fixed texts. -/
theorem Given.outcome (h : Given request event) (hdurable : durable event.action) :
  Admitted (ofString event.outcome) ∧ event.outcome ≠ ""
  := by
  cases h with
  | undurable haction =>
      rw [haction] at hdurable
      cases hdurable
  | denied _ houtcome | mismatch _ houtcome _ _ _ =>
      rw [houtcome]
      decide +kernel
  | startup _ houtcome _ _ _ _ _ _ _ | memberships _ houtcome _ _ _ _ =>
      rw [houtcome]
      decide +kernel

/-- An event of the gateway is accepted exactly where it is carried: its class is a durable one,
and its texts are texts that it may carry. -/
theorem Shaped.accepted_iff (h : Shaped minted request event) (hminted : MintedTexts minted)
    {loads : List UInt8 → Option Wire} {raw : List UInt8}
    (hloads : loads raw = some (gatewayBody event)) :
  (GatewayAudit.parseRecord loads raw).isSome ↔ Carried request event
  := by
  rw [Option.isSome_iff_exists]
  constructor
  · intro ⟨r, hr⟩
    obtain ⟨body, hloads', hgrammar⟩ := GatewayAudit.parseRecord_eq_some_iff.mp hr
    rw [hloads] at hloads'
    obtain rfl := Option.some.inj hloads'
    obtain ⟨event', henvelope, hfields⟩ := hgrammar.event
    obtain rfl := Envelope.eq_sent henvelope
    obtain ⟨rfl, -, hadmitted⟩ := fields_iff.mp hfields
    obtain ⟨hdurable, hactor, hcarrier⟩ := h.given.form_iff.mp hgrammar.form
    exact ⟨hdurable, hadmitted, hactor, hcarrier⟩
  · intro hcarried
    use gatewayRecordFrom event
    apply GatewayAudit.parseRecord_eq_some_iff.mpr
    use gatewayBody event, hloads
    constructor
    · use entriesOf (gatewayFields event)
      constructor
      · have hkeys : (gatewayFields event).map Prod.fst = GatewayAudit.eventKeys := rfl
        apply sent_envelope hkeys
        rw [gatewayFields, h.eventVersion]
        rfl
      · apply fields_iff.mpr
        use rfl
        constructor
        · simp only [List.forall_mem_cons]
          constructor
          · rw [h.auditId]
            exact ⟨(hminted.auditId _).admitted, (hminted.auditId _).ne⟩
          constructor
          · rw [h.occurredAt]
            exact ⟨(hminted.occurredAt _).admitted, (hminted.occurredAt _).ne⟩
          constructor
          · constructor
            · apply hcarried.admitted
              apply List.mem_cons_self
            · rw [h.correlationId]
              apply correlationIdOf_ne hminted
          constructor
          · cases event.action <;> decide +kernel
          constructor
          · apply h.given.outcome hcarried.durable
          · intro _ hnone
            cases hnone
        · apply hcarried.admitted
    · apply h.given.form_iff.mpr
      exact ⟨hcarried.durable, hcarried.actorRef, hcarried.carrier⟩

end Accepted

/-! ### In a request -/

def emits : ApiGateway.GatewayOp → Bool
  | .emit _ => true
  | _ => false

/-- An event that is emitted is put together for the request. -/
def Emits (minted : ApiGateway.Minted) (request : InboundRequest)
    (op : ApiGateway.GatewayOp) : Prop :=
  ∀ event, op = .emit event → Shaped minted request event

section Request

variable {minted : ApiGateway.Minted} {request : InboundRequest}

/-- An event of the request, with the references that are given with it. -/
theorem Given.shaped {action : ApiGateway.AuditAction} {outcome : String}
    {actorRef subjectRef tenantRef carrierRef recordRef : Option String}
    (h : Given request { ApiGateway.auditEvent minted request action outcome with
      actorRef, subjectRef, tenantRef, carrierRef, recordRef }) :
  Shaped minted request { ApiGateway.auditEvent minted request action outcome with
    actorRef, subjectRef, tenantRef, carrierRef, recordRef }
  := by
  constructor
  · rfl
  · rfl
  · rfl
  · rfl
  · apply h

theorem Emits.emit {event : GatewayAuditEvent} (h : Shaped minted request event) :
  Emits minted request (.emit event)
  := by
  intro event' hevent
  cases hevent
  apply h

theorem emit_emits {event : GatewayAuditEvent} (h : Shaped minted request event)
    (emitted : ApiGateway.Emitted) :
  (ApiGateway.emit emitted event).Calls (Emits minted request)
  := by
  unfold ApiGateway.emit
  split
  · apply Calls.pure
  · apply Calls.andThen (Calls.perform (S := gatewaySignature) (Emits.emit h))
    intro r
    cases r with
    | ok _ => apply Calls.pure
    | error _ => apply Calls.pure

theorem evidenced_emits {event : GatewayAuditEvent} (h : Shaped minted request event)
    (emitted : ApiGateway.Emitted) (category : Option ApiGateway.DispatchCategory)
    (response : GatewayResponse) :
  (ApiGateway.evidenced emitted event category response).Calls (Emits minted request)
  := by
  apply Calls.bind (emit_emits h emitted)
  · intro (accepted, _)
    cases accepted with
    | true => apply Calls.pure
    | false => apply Calls.pure

theorem emitSuccess_emits {event : GatewayAuditEvent} (h : Shaped minted request event)
    (category : ApiGateway.DispatchCategory) (dto : ApiGateway.PortalDTO) :
  (ApiGateway.emitSuccess event category dto).Calls (Emits minted request)
  := by
  apply Calls.andThen (Calls.perform (S := gatewaySignature) (Emits.emit h))
  intro r
  cases r with
  | ok _ => apply Calls.pure
  | error _ => apply Calls.pure

theorem Emits.silent {op : ApiGateway.GatewayOp} (hop : emits op = false) :
  Emits minted request op
  := by
  intro event hevent
  rw [hevent] at hop
  cases hop

/-- A call that is no emission, and what follows it. -/
theorem Emits.ask {op : ApiGateway.GatewayOp} {α : Type} (hop : emits op = false)
    {f : Except ApiGateway.Raised (gatewaySignature.Ans op) → GatewayProgram α}
    (hf : ∀ r, (f r).Calls (Emits minted request)) :
  ((perform (S := gatewaySignature) op).andThen f).Calls (Emits minted request)
  := Calls.andThen (Calls.perform (S := gatewaySignature) (Emits.silent hop)) hf

theorem Emits.branch {p : Prop} [Decidable p] {α : Type} {x y : GatewayProgram α}
    (hx : x.Calls (Emits minted request)) (hy : y.Calls (Emits minted request)) :
  (if p then x else y).Calls (Emits minted request)
  := by
  split
  · apply hx
  · apply hy

theorem routeDenied_emits (auth : ApiGateway.AuthResult) (emitted : ApiGateway.Emitted)
    (category : ApiGateway.DispatchCategory) :
  (ApiGateway.routeDenied minted request auth emitted category).Calls (Emits minted request)
  := by
  apply evidenced_emits
  apply Given.shaped
  apply Given.denied rfl rfl

/-- The record of a startup route is not empty. -/
theorem tenantStartupRef_ne {path startupRef : String}
    (h : ApiGateway.tenantStartupRef path = some startupRef) :
  startupRef ≠ ""
  := by
  unfold ApiGateway.tenantStartupRef at h
  split at h
  · cases h
  · dsimp only at h
    split at h
    · cases h
    · rename_i hsuffix
      obtain rfl := Option.some.inj h
      intro hempty
      apply hsuffix
      left
      apply hempty

theorem tenantStartupOperation_emits (auth : ApiGateway.AuthResult)
    (category : ApiGateway.DispatchCategory) (decision : ApiGateway.DispatchDecision)
    {startupRef : String} (hne : startupRef ≠ "") :
  (ApiGateway.tenantStartupOperation minted request auth category decision startupRef).Calls
    (Emits minted request)
  := by
  unfold ApiGateway.tenantStartupOperation
  split
  · apply Calls.raise
  · rename_i target _
    dsimp only
    split
    · split
      · apply Calls.pure
      · apply Emits.ask rfl
        intro r
        rcases r with _ | _ | detail
        · apply Calls.pure
        · apply Calls.pure
        · apply emitSuccess_emits
          apply Given.shaped
          apply Given.startup (.inr rfl) rfl auth.principalRef target startupRef rfl rfl rfl hne
    · apply Emits.ask rfl
      intro r
      rcases r with _ | _ | detail
      · apply Calls.pure
      · apply Calls.pure
      · apply emitSuccess_emits
        apply Given.shaped
        apply Given.startup (.inl rfl) rfl auth.principalRef target startupRef rfl rfl rfl hne

theorem controlReadOperation_emits (auth : ApiGateway.AuthResult)
    (emitted : ApiGateway.Emitted) (category : ApiGateway.DispatchCategory) :
  (ApiGateway.controlReadOperation minted request auth emitted category).Calls
    (Emits minted request)
  := by
  unfold ApiGateway.controlReadOperation
  split
  · apply Emits.ask rfl
    intro r
    rcases r with _ | _ | page
    · apply Calls.pure
    · apply routeDenied_emits
    · apply Calls.pure
  · apply Emits.ask rfl
    intro r
    rcases r with _ | _ | memberships
    · apply Calls.pure
    · apply routeDenied_emits
    · dsimp only
      split
      · apply emitSuccess_emits
        apply Given.shaped
        apply Given.memberships rfl rfl auth.principalRef rfl rfl rfl
      · apply Calls.pure

theorem importOperation_emits (auth : ApiGateway.AuthResult) (emitted : ApiGateway.Emitted)
    (category : ApiGateway.DispatchCategory) (decision : ApiGateway.DispatchDecision) :
  (ApiGateway.importOperation minted request auth emitted category decision).Calls
    (Emits minted request)
  := by
  unfold ApiGateway.importOperation
  split
  · apply Calls.raise
  · apply Calls.bind
    · apply Calls.perform (S := gatewaySignature) (Emits.silent rfl)
    · intro result
      dsimp only
      split
      · apply Calls.pure
      split
      · apply routeDenied_emits
      · apply Calls.pure

theorem decided_emits (gateway : Gateway) (auth : ApiGateway.AuthResult)
    (emitted : ApiGateway.Emitted) (context : RequestContext)
    (category : ApiGateway.DispatchCategory) (decision : ApiGateway.DispatchDecision) :
  (ApiGateway.decided gateway minted request auth emitted context category decision).Calls
    (Emits minted request)
  := by
  unfold ApiGateway.decided
  split
  · rename_i startupRef href
    apply tenantStartupOperation_emits
    split at href
    · apply tenantStartupRef_ne href
    · cases href
  · split
    · apply controlReadOperation_emits
    split
    · apply importOperation_emits
    · apply Calls.bind
      · apply Calls.perform (S := gatewaySignature) (Emits.silent rfl)
      · intro outcome
        apply Calls.pure

theorem authenticated_emits (gateway : Gateway) (auth : ApiGateway.AuthResult)
    (emitted : ApiGateway.Emitted) :
  (ApiGateway.authenticated gateway minted request auth emitted).Calls (Emits minted request)
  := by
  unfold ApiGateway.authenticated
  dsimp only
  split
  · rename_i denied _
    apply evidenced_emits
    apply Given.shaped
    cases hanomaly : denied.isolationAnomaly with
    | true =>
        apply Given.undurable
        rfl
    | false => apply Given.denied rfl rfl
  · apply decided_emits

/-- Every event that a request emits is put together for it. -/
theorem handle_emits (gateway : Gateway) :
  (ApiGateway.handle gateway minted request).Calls (Emits minted request)
  := by
  simp only [ApiGateway.handle]
  apply Emits.branch
  · apply evidenced_emits
    apply Given.shaped
    apply Given.undurable
    rfl
  · constructor
    · apply Emits.silent
      rfl
    · intro r
      rcases r with (⟨httpStatus, publicCode⟩ | _) | auth
      · apply evidenced_emits
        apply Given.shaped
        by_cases hmismatch : publicCode = "carrier_mismatch"
        · apply Given.mismatch
          · exact if_pos hmismatch
          · rfl
          · rfl
          · rfl
          · exact if_pos hmismatch
        · apply Given.denied
          · exact if_neg hmismatch
          · rfl
      · apply Calls.raise
      · simp only [andThen]
        split
        · apply Calls.bind
          · apply emit_emits
            apply Given.shaped
            apply Given.undurable
            rfl
          · rintro ⟨accepted, emitted⟩
            cases accepted with
            | true => apply authenticated_emits
            | false => apply Calls.pure
        · apply authenticated_emits

end Request

end ControlPlane.EmittedAudit
