import Mathlib.Data.List.ReduceOption
import SnackPortal.ControlPlane.RoutingAudit
import SnackPortal.ControlPlane.SentAudit
import SnackPortal.DatabaseRouter.Router
import SnackPortal.Program.Recording

/-!
# Events of the router

What a route initiates, and what the routing ingest accepts of it.  The router puts an event
together so that its action, its outcome and its codes are those that the parser asks for; what
is left are the texts that come from outside (`Routed.accepted_iff`).
-/

namespace ControlPlane.EmittedAudit

open Ingest (Admitted Nullable)
open Wire (Entries item)
open CodePoints (ofString)
open DatabaseRouter (RoutingAuditEvent RequestContext RouterProgram RouterError TenantConnection
  TenantRoutingView routerSignature)
open Program

/-- `_wire_event` of the router's transport; no event of the router has an error class. -/
def routingFields (event : RoutingAuditEvent) : List (String × Wire) :=
  [("event_id", ofText event.eventId), ("event_version", .int event.eventVersion),
    ("occurred_at", ofText event.occurredAt), ("correlation_id", ofText event.correlationId),
    ("actor_ref", ofText event.actorRef), ("action", ofText event.action),
    ("outcome", ofText event.outcome), ("source_service", ofText event.sourceService),
    ("source_version", ofText event.sourceVersion), ("request_ref", ofOption event.requestRef),
    ("tenant_ref", ofOption event.targetRef),
    ("resolved_tenant_ref", ofOption event.resolvedTenantRef),
    ("public_code", ofOption event.publicCode), ("error_class", .null),
    ("association_store_ref", ofOption event.associationStoreRef),
    ("association_version", ofOption event.associationVersion), ("lane", ofOption event.lane)]

/-- What is sent for an event of the router. -/
def routingBody (event : RoutingAuditEvent) : Wire :=
  sent (entriesOf (routingFields event))

/-- The texts of an event that come from outside the router. -/
def routingReferences (event : RoutingAuditEvent) : List String :=
  [event.correlationId, event.actorRef]
    ++ [event.requestRef, event.targetRef, event.resolvedTenantRef, event.associationStoreRef,
      event.associationVersion].reduceOption

/-- The action, the outcome, the public code and the lane are admitted and go together. -/
def goTogether (action outcome : String) (publicCode lane : Option String) : Bool :=
  (RoutingAudit.routingAuditStoreActions.map ofString).contains (ofString action)
    && RoutingAudit.combination (ofString action) (ofString outcome) (publicCode.map ofString)
    && RoutingAudit.laned (lane.map ofString)
    && ([action, outcome] ++ [publicCode, lane].reduceOption).all fun text =>
      decide (text ≠ "" ∧ Admitted (ofString text))

/-- An event that the router puts together for a context. -/
structure Routed (ctx : RequestContext) (event : RoutingAuditEvent) : Prop where
  correlationId : event.correlationId = ctx.correlationId
  actorRef : event.actorRef ≠ ""
  formed : goTogether event.action event.outcome event.publicCode event.lane
  sourceService : event.sourceService = DatabaseRouter.routingAuditSourceService
  sourceVersion : event.sourceVersion = DatabaseRouter.routingAuditSourceVersion
  eventVersion : event.eventVersion = DatabaseRouter.routingAuditEventVersion
  eventId : MintedText event.eventId
  occurredAt : MintedText event.occurredAt

/-- The record of an event. -/
def recordFrom (event : RoutingAuditEvent) : RoutingAudit.RoutingAuditRecord where
  eventId := ofString event.eventId
  eventVersion := 1
  occurredAt := ofString event.occurredAt
  correlationId := ofString event.correlationId
  actorRef := ofString event.actorRef
  action := ofString event.action
  outcome := ofString event.outcome
  sourceService := ofString event.sourceService
  sourceVersion := ofString event.sourceVersion
  requestRef := event.requestRef.map ofString
  traceRef := none
  tenantRef := event.targetRef.map ofString
  resolvedTenantRef := event.resolvedTenantRef.map ofString
  publicCode := event.publicCode.map ofString
  errorClass := none
  associationStoreRef := event.associationStoreRef.map ofString
  associationVersion := event.associationVersion.map ofString
  lane := event.lane.map ofString

theorem mem_reduceOption_of_mem {text : String} {texts : List (Option String)}
    {ref : Option String} (href : ref ∈ texts) (htext : text ∈ ref) :
  text ∈ texts.reduceOption
  := by
  rw [Option.mem_def.mp htext] at href
  apply List.reduceOption_mem_iff.mpr href

/-- An event of the router is accepted exactly where the texts that it carries from outside are
texts that an event may carry, its correlation among them not empty. -/
theorem Routed.accepted_iff {ctx : RequestContext} {event : RoutingAuditEvent}
    (h : Routed ctx event) {loads : List UInt8 → Option Wire} {raw : List UInt8}
    (hloads : loads raw = some (routingBody event)) :
  (RoutingAudit.parseRecord loads raw).isSome
    ↔ ctx.correlationId ≠ "" ∧ ∀ ref ∈ routingReferences event, Admitted (ofString ref)
  := by
  have hformed := h.formed
  rw [goTogether, Bool.and_eq_true, Bool.and_eq_true, Bool.and_eq_true, List.all_eq_true] at hformed
  obtain ⟨⟨⟨haction, hcombination⟩, hlane⟩, htexts⟩ := hformed
  rw [Option.isSome_iff_exists]
  constructor
  · intro ⟨r, hr⟩
    obtain ⟨body, event', hloads', henvelope, hfields, -⟩ :=
      RoutingAudit.parseRecord_eq_some_iff.mp hr
    rw [hloads] at hloads'
    obtain rfl := Option.some.inj hloads'
    obtain rfl := Envelope.eq_sent henvelope
    obtain ⟨-, hcorrelation, hne⟩ := (required_iff rfl).mp hfields.correlationId
    constructor
    · rw [← h.correlationId]
      apply hne
    · intro ref href
      rcases List.mem_append.mp href with href | href
      · rcases List.mem_pair.mp href with rfl | rfl
        · apply hcorrelation
        · apply ((required_iff rfl).mp hfields.actorRef).2.1
      · have hsome := List.reduceOption_mem_iff.mp href
        simp only [List.mem_cons, List.not_mem_nil, or_false] at hsome
        rcases hsome with href | href | href | href | href
        · apply ((nullable_iff rfl).mp hfields.requestRef).2 ref href.symm
        · apply ((nullable_iff rfl).mp hfields.tenantRef).2 ref href.symm
        · apply ((nullable_iff rfl).mp hfields.resolvedTenantRef).2 ref href.symm
        · apply ((nullable_iff rfl).mp hfields.associationStoreRef).2 ref href.symm
        · apply ((nullable_iff rfl).mp hfields.associationVersion).2 ref href.symm
  · intro ⟨hne, hadmitted⟩
    use recordFrom event
    apply RoutingAudit.parseRecord_eq_some_iff.mpr
    have hfixed : ∀ text ∈ [event.action, event.outcome] ++ [event.publicCode,
        event.lane].reduceOption, text ≠ "" ∧ Admitted (ofString text) :=
      fun text htext => of_decide_eq_true (htexts text htext)
    have houtside : ∀ ref ∈ [event.requestRef, event.targetRef, event.resolvedTenantRef,
        event.associationStoreRef, event.associationVersion], ∀ text ∈ ref,
        Admitted (ofString text) := by
      intro ref href text htext
      apply hadmitted
      apply List.mem_append_right
      apply mem_reduceOption_of_mem href htext
    have hcodes : ∀ ref ∈ [event.publicCode, event.lane], ∀ text ∈ ref,
        Admitted (ofString text) := by
      intro ref href text htext
      apply (hfixed text _).2
      apply List.mem_append_right
      apply mem_reduceOption_of_mem href htext
    use routingBody event, entriesOf (routingFields event), hloads
    constructor
    · have hkeys : (routingFields event).map Prod.fst = RoutingAudit.eventKeys := rfl
      apply sent_envelope hkeys
      rw [routingFields, h.eventVersion]
      rfl
    constructor
    · constructor
      · apply (required_iff rfl).mpr ⟨rfl, h.eventId.admitted, h.eventId.ne⟩
      · rfl
      · apply (required_iff rfl).mpr ⟨rfl, h.occurredAt.admitted, h.occurredAt.ne⟩
      · apply (required_iff rfl).mpr ⟨rfl, hadmitted _ _, _⟩
        · simp [routingReferences]
        · rw [h.correlationId]
          apply hne
      · apply (required_iff rfl).mpr ⟨rfl, hadmitted _ _, h.actorRef⟩
        simp [routingReferences]
      · obtain ⟨hne', hadmitted'⟩ := hfixed event.action (by simp)
        apply (required_iff rfl).mpr ⟨rfl, hadmitted', hne'⟩
      · obtain ⟨hne', hadmitted'⟩ := hfixed event.outcome (by simp)
        apply (required_iff rfl).mpr ⟨rfl, hadmitted', hne'⟩
      · apply (required_iff rfl).mpr ⟨rfl, _⟩
        rw [h.sourceService]
        decide
      · apply (required_iff rfl).mpr ⟨rfl, _⟩
        rw [h.sourceVersion]
        decide
      · apply (nullable_iff rfl).mpr ⟨rfl, houtside _ (by simp)⟩
      · rfl
      · apply (nullable_iff rfl).mpr ⟨rfl, houtside _ (by simp)⟩
      · apply (nullable_iff rfl).mpr ⟨rfl, houtside _ (by simp)⟩
      · apply (nullable_iff rfl).mpr ⟨rfl, hcodes _ (by simp)⟩
      · rw [recordFrom, Nullable, item_entriesOf]
        rfl
      · apply (nullable_iff rfl).mpr ⟨rfl, houtside _ (by simp)⟩
      · apply (nullable_iff rfl).mpr ⟨rfl, houtside _ (by simp)⟩
      · apply (nullable_iff rfl).mpr ⟨rfl, hcodes _ (by simp)⟩
    · constructor
      · apply haction
      · apply hcombination
      · rfl
      · apply hlane
      · rw [recordFrom, h.sourceService]
        rfl

/-! ### In a route -/

/-- What a call of the router is answered: an identity and a time that are minted texts, and no
denial with a code that is not a public one. -/
structure Fit (e : Event routerSignature RouterError) : Prop where
  minted : ∀ eventId occurredAt, e = ⟨.mint, .ok (eventId, occurredAt)⟩ →
    MintedText eventId ∧ MintedText occurredAt
  denied : ∀ d, e.answer = .error (.denied d) → d.publicCode ∈ RoutingAudit.publicCodes

/-- An event that is initiated is put together for the context. -/
def Puts (ctx : RequestContext) (_ : List (Event routerSignature RouterError))
    (op : DatabaseRouter.RouterOp) : Prop :=
  ∀ event, op = .initiate event → Routed ctx event

/-- A denial has one of these codes. -/
def Coded (codes : String → Prop) {α : Type} (r : Except RouterError α)
    (_ : List (Event routerSignature RouterError)) : Prop :=
  ∀ d, r = .error (.denied d) → codes d.publicCode

/-- Against fit answers, the program puts its events together for the context, and its denial has
one of these codes. -/
def Minting (ctx : RequestContext) (codes : String → Prop) {α : Type} (x : RouterProgram α) :
    Prop :=
  ∀ h, Guarded (Fairly Fit (Puts ctx)) (Finally Fit (Coded codes)) x h

def initiates : DatabaseRouter.RouterOp → Bool
  | .initiate _ => true
  | _ => false

section Route

variable {ctx : RequestContext} {codes : String → Prop} {α β : Type}

theorem Minting.pure (a : α) :
  Minting ctx codes (Pure.pure a)
  := by
  intro h _ d hd
  cases hd

theorem Minting.raise {e : RouterError} (he : ∀ d, e = .denied d → codes d.publicCode) :
  Minting ctx codes (Program.raise (α := α) e)
  := by
  intro h _ d hd
  apply he d (Except.error.inj hd)

theorem Minting.deny {d : DatabaseRouter.RoutingDenied} (hd : codes d.publicCode) :
  Minting ctx codes (DatabaseRouter.deny (α := α) d)
  := by
  apply Minting.raise
  intro d' hd'
  rw [← RouterError.denied.inj hd']
  apply hd

theorem Minting.bind {x : RouterProgram α} {f : α → RouterProgram β} (hx : Minting ctx codes x)
    (hf : ∀ a, Minting ctx codes (f a)) :
  Minting ctx codes (x >>= f)
  := by
  intro h
  apply Guarded.bind (hx h)
  · intro a h' _
    apply hf a h'
  · intro e h' hq hfair d hd
    apply hq hfair d
    rw [Except.error.inj hd]

/-- The handler is given the denials of the program. -/
theorem Minting.rescue {q : String → Prop} {x : RouterProgram α}
    {handler : RouterError → RouterProgram α} (hx : Minting ctx q x)
    (hh : ∀ e, (∀ d, e = .denied d → q d.publicCode) → Minting ctx codes (handler e)) :
  Minting ctx codes (x.rescue handler)
  := by
  intro h
  apply Guarded.andThen (hx h)
  intro r h' hq
  cases r with
  | ok a =>
      intro _ d hd
      cases hd
  | error e =>
      apply Guarded.fairly
      intro hfair
      apply hh e
      intro d hd
      apply hq hfair d
      rw [hd]

section Codes

variable (hcodes : ∀ code ∈ RoutingAudit.publicCodes, codes code)

include hcodes

/-- A call that initiates no event. -/
theorem Minting.call {op : DatabaseRouter.RouterOp} (hop : initiates op = false) :
  Minting ctx codes (DatabaseRouter.call op)
  := by
  intro h
  constructor
  · intro _ event hevent
    rw [hevent] at hop
    cases hop
  · intro r hfair d hd
    apply hcodes
    apply (hfair _ List.mem_cons_self).denied d hd

theorem emit_minting {action outcome : String} {publicCode lane : Option String}
    (hgo : goTogether action outcome publicCode lane)
    (tenantId resolvedTenantRef associationStoreRef associationVersion : Option String) :
  Minting ctx codes (DatabaseRouter.emit ctx action outcome tenantId resolvedTenantRef publicCode
    associationStoreRef associationVersion lane)
  := by
  intro h
  apply Guarded.step
  · intro _ event hevent
    cases hevent
  · rintro ⟨eventId, occurredAt⟩
    apply Guarded.fairly
    intro hfair
    obtain ⟨heventId, hoccurredAt⟩ :=
      (hfair _ List.mem_cons_self).minted eventId occurredAt rfl
    constructor
    · intro _ event hevent
      cases hevent
      constructor
      · rfl
      · dsimp only
        split
        · decide
        · split
          · decide
          · assumption
      · apply hgo
      · rfl
      · rfl
      · rfl
      · apply heventId
      · apply hoccurredAt
    · intro r hfair' d hd
      apply hcodes
      apply (hfair' _ List.mem_cons_self).denied d hd
  · intro e hfair d hd
    apply hcodes
    apply (hfair _ List.mem_cons_self).denied d
    rw [Except.error.inj hd]

/-- The event of a denial with a public code. -/
theorem auditDenied_minting {code : String} (hcode : code ∈ RoutingAudit.publicCodes)
    (tenantId : Option String) :
  Minting ctx codes (DatabaseRouter.auditDenied ctx tenantId code)
  := by
  apply emit_minting hcodes
  revert code
  decide +kernel

end Codes

/-- What a state of the lifecycle denies, it denies with a public code. -/
theorem denialForState_publicCode {lifecycleState : String} {ready : Bool}
    {d : DatabaseRouter.RoutingDenied}
    (h : DatabaseRouter.denialForState lifecycleState ready = some d) :
  d.publicCode ∈ RoutingAudit.publicCodes
  := by
  unfold DatabaseRouter.denialForState at h
  split at h
  · cases h
  split at h
  · obtain rfl := Option.some.inj h
    decide
  split at h
  · obtain rfl := Option.some.inj h
    decide
  split at h
  · obtain rfl := Option.some.inj h
    decide
  split at h
  · obtain rfl := Option.some.inj h
    decide
  · obtain rfl := Option.some.inj h
    decide

/-- The codes that the audit of a denial may have. -/
abbrev Public (code : String) : Prop := code ∈ RoutingAudit.publicCodes

theorem routingView_minting (tenantId : String) :
  Minting ctx Public (DatabaseRouter.routingView tenantId)
  := by
  apply Minting.bind
  · apply Minting.call (fun _ => id)
    rfl
  · intro view
    cases view with
    | some view => apply Minting.pure
    | none =>
        apply Minting.bind
        · apply Minting.rescue (q := Public)
          · apply Minting.call (fun _ => id)
            rfl
          · intro e _
            apply Minting.deny
            decide
        · intro read
          cases read with
          | none =>
              apply Minting.deny
              decide
          | some view =>
              apply Minting.bind
              · apply Minting.call (fun _ => id)
                rfl
              · intro _
                apply Minting.pure

theorem resolve_minting (supportedSchemaVersions : List String) (tenantId : String) :
  Minting ctx Public (DatabaseRouter.resolve supportedSchemaVersions tenantId)
  := by
  apply Minting.bind (routingView_minting tenantId)
  intro view
  split
  · rename_i d hd
    apply Minting.deny (denialForState_publicCode hd)
  · split
    · apply Minting.deny
      decide
    · apply Minting.pure

theorem bindTenant_minting (supportedSchemaVersions : List String) (tenantId : String)
    (lane : DatabaseRouter.Lane) :
  Minting ctx Public (DatabaseRouter.bindTenant supportedSchemaVersions tenantId lane)
  := by
  apply Minting.bind (resolve_minting supportedSchemaVersions tenantId)
  intro view
  apply Minting.bind
  · apply Minting.rescue (q := Public)
    · apply Minting.call (fun _ => id)
      rfl
    · intro e he
      cases e with
      | denied d => apply Minting.deny (he d rfl)
      | acquire _ | port =>
          apply Minting.deny
          decide
  · intro conn
    apply Minting.pure

/-- The end of a route may be denied with any code. -/
theorem handBack_minting (tenantId : String) (lane : DatabaseRouter.Lane)
    (view : TenantRoutingView) (conn : TenantConnection) :
  Minting ctx (fun _ => True) (DatabaseRouter.handBack ctx tenantId lane view conn)
  := by
  unfold DatabaseRouter.handBack
  split
  · apply Minting.bind
    · apply emit_minting (fun _ _ => trivial)
      decide +kernel
    · intro _
      apply Minting.bind
      · apply Minting.call (fun _ _ => trivial)
        rfl
      · intro _
        apply Minting.deny
        trivial
  · apply Minting.bind
    · apply Minting.rescue (q := fun _ => True)
      · apply emit_minting (fun _ _ => trivial)
        cases lane with
        | interactive => decide +kernel
        | bulk => decide +kernel
      · intro e _
        apply Minting.bind
        · apply Minting.call (fun _ _ => trivial)
          rfl
        · intro _
          apply Minting.deny
          trivial
    · intro _
      apply Minting.pure

theorem route_minting (supportedSchemaVersions : List String) (bootstrapPhase0 : Bool)
    (lane : DatabaseRouter.Lane) :
  Minting ctx (fun _ => True)
    (DatabaseRouter.route supportedSchemaVersions ctx bootstrapPhase0 lane)
  := by
  unfold DatabaseRouter.route
  split
  · rename_i d hd
    apply Minting.bind
    · apply auditDenied_minting (fun _ _ => trivial)
      unfold DatabaseRouter.determineTarget at hd
      split at hd
      · split at hd
        · obtain rfl := Except.error.inj hd
          decide
        · cases hd
      · split at hd
        · cases hd
        · obtain rfl := Except.error.inj hd
          decide
    · intro _
      apply Minting.deny
      trivial
  · apply Minting.bind
    · apply Minting.rescue (q := fun _ => True)
      · apply emit_minting (fun _ _ => trivial)
        decide +kernel
      · intro e _
        apply Minting.deny
        trivial
    · intro _
      apply Minting.pure
  · apply Minting.bind
    · apply Minting.rescue (bindTenant_minting supportedSchemaVersions _ lane)
      intro e he
      cases e with
      | denied d =>
          apply Minting.bind
          · apply auditDenied_minting (fun _ _ => trivial) (he d rfl)
          · intro _
            apply Minting.deny
            trivial
      | acquire _ | port =>
          apply Minting.raise
          intro d hd
          trivial
    · intro (view, conn)
      apply handBack_minting

end Route

end ControlPlane.EmittedAudit
