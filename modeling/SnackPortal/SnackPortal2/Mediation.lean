import SnackPortal.SnackPortal2.Surface

/-!
# Mediation

Every way a request can go, whatever its ports answer or raise.  A service of the tenant's
domain or a read of the control plane is called only for an identified, authorized and, where
the operation is on tenant records, routed request, under the context of the signed identity;
and a request that is denied has recorded exactly the denials it met.
-/

namespace SnackPortal2

open Program

abbrev BffEvent := Event bffSignature Raised

/-- The record that a route addresses. -/
def Endpoint.recordRef : Endpoint → Option String
  | .readStartup ref | .updateStartup ref _ | .readInvestor ref | .updateInvestor ref _
  | .readDeal ref | .updateDeal ref .. | .readLineage ref => some ref
  | _ => none

/-- The carrier of a request. -/
def observed (baseDomain : String) (request : Request) : CarrierObservation :=
  recognizedCarrier request.headers ((request.header "host").getD "") baseDomain

/-- A call of a domain service or a read of the control plane. -/
def BffOp.serving : BffOp → Prop
  | .call .. | .listMemberships _ | .listDirectory _ => True
  | _ => False

/-- The router raised. -/
def unrouted : BffEvent → Prop
  | ⟨.resolve _, .error _⟩ => True
  | _ => False

/-! ## What was answered -/

section Answers

variable (baseDomain : String) (request : Request) (operation : BffOperation)
  (recordRef : Option String)

/-- Authentication answered this identity for the request's credential and its carrier, which
does not disagree with itself and is no mismatch. -/
structure Identified (h : List BffEvent) (credential : String) (result : AuthenticationResult) :
    Prop where
  presented : Bff.bearer request = some credential ∧ credential ≠ ""
  authenticated : ⟨.authenticate credential (observed baseDomain request).value
    (Bff.correlationIdOf request), .ok (some result)⟩ ∈ h
  agreeing : (observed baseDomain request).conflict = false
  matched : result.carrierVerdict ≠ .mismatch

/-- The context of an identified request. -/
def Established (h : List BffEvent) (context : RequestContext) : Prop :=
  ∃ credential result, Identified baseDomain request h credential result
    ∧ context = .fromAuthContext result.authContext

/-- The context of a request that access control allowed into the operation's own domain. -/
structure Cleared (h : List BffEvent) (context : RequestContext) : Prop where
  established : Established baseDomain request h context
  allowed : ∃ decision, ⟨.decide context operation recordRef, .ok decision⟩ ∈ h
    ∧ decision.allowed = true ∧ decision.resolvedDomain = some (domainOf operation)
  signed : domainOf operation = .tenant →
    ∃ tenant, tenant ≠ "" ∧ context.tenantContext = some tenant

/-- The context of a request that may be served. -/
structure Served (h : List BffEvent) (context : RequestContext) : Prop where
  cleared : Cleared baseDomain request operation recordRef h context
  routed : domainOf operation = .tenant → ∃ target, ⟨.resolve context, .ok target⟩ ∈ h

/-- What has to be answered before a call. -/
def Mediated (h : List BffEvent) : BffOp → Prop
  | .authenticate .. | .emit _ => True
  | .decide context .. => Established baseDomain request h context
  | .resolve context => Cleared baseDomain request operation recordRef h context
  | .listMemberships principalRef =>
      ∃ context, Served baseDomain request operation recordRef h context
        ∧ principalRef = context.principalRef
  | .listDirectory _ => ∃ context, Served baseDomain request operation recordRef h context
  | .call _ _ payload => Served baseDomain request operation recordRef h payload.context

/-! ## Denials -/

/-- The class of the denial that an answer leads to. -/
def deniedBy : BffEvent → Option AuditAction
  | ⟨.authenticate .., .ok (some result)⟩ =>
      if (observed baseDomain request).conflict ∨ result.carrierVerdict = .mismatch then
        some .carrierMismatch
      else
        none
  | ⟨.decide context .., .ok decision⟩ =>
      if ¬ decision.allowed then
        some .routeDenied
      else if decision.resolvedDomain ≠ some (domainOf operation)
          ∨ domainOf operation = .tenant ∧ context.tenantContext.getD "" = "" then
        some .isolationAnomaly
      else
        none
  | _ => none

/-- The denials of a history. -/
def denials (h : List BffEvent) : List AuditAction :=
  h.filterMap (deniedBy baseDomain request operation)

end Answers

/-- The classes of a denial. -/
def AuditAction.denying : AuditAction → Bool
  | .carrierMismatch | .routeDenied | .isolationAnomaly => true
  | _ => false

/-- The class of a denial that is emitted. -/
def emittedBy (event : BffEvent) : Option AuditAction :=
  match event.op with
  | .emit audit => if audit.action.denying then some audit.action else none
  | _ => none

/-- The denials that a history emits. -/
def emissions (h : List BffEvent) : List AuditAction :=
  h.filterMap emittedBy

/-- The answer to a denied request. -/
def AuditAction.answer : AuditAction → AppError
  | .carrierMismatch => SnackPortal2.carrierMismatch
  | .routeDenied => accessDenied
  | _ => isolationViolation

/-- How a request ends. -/
structure Settled (baseDomain : String) (request : Request) (operation : BffOperation)
    (r : Except Raised PortalDTO) (h : List BffEvent) : Prop where
  /-- Each denial is emitted once, and no other. -/
  audited : emissions h = denials baseDomain request operation h
  once : (denials baseDomain request operation h).length ≤ 1
  /-- A denied request is not served, also where the audit raises. -/
  refused : ∀ action ∈ denials baseDomain request operation h,
    (∀ event ∈ h, ¬ event.op.serving)
      ∧ (r = .error (.denial action.answer)
        ∨ ∃ audit e, ⟨.emit audit, .error e⟩ ∈ h ∧ r = .error e)
  /-- A request that is not routed is not served, and records no denial. -/
  unrouted : ∀ context e, ⟨.resolve context, .error e⟩ ∈ h →
    r = .error e ∧ (∀ event ∈ h, ¬ event.op.serving) ∧ emissions h = []

/-! ## A request that goes on -/

-- The credential is read out of the request's texts, which nothing here evaluates.
seal Bff.bearer

section Requests

variable {baseDomain : String} {request : Request} {operation : BffOperation}
  {recordRef : Option String}

/-- Nothing was denied, emitted as a denial or served. -/
structure Open (baseDomain : String) (request : Request) (operation : BffOperation)
    (h : List BffEvent) : Prop where
  undenied : denials baseDomain request operation h = []
  unemitted : emissions h = []
  unserved : ∀ event ∈ h, ¬ event.op.serving
  resolved : ∀ event ∈ h, ¬ unrouted event

theorem Open.nil :
  Open baseDomain request operation []
  := ⟨rfl, rfl, fun _ => (nomatch ·), fun _ => (nomatch ·)⟩

theorem Open.cons {h : List BffEvent} (hh : Open baseDomain request operation h)
    {event : BffEvent} (hd : deniedBy baseDomain request operation event = none)
    (he : emittedBy event = none) (hs : ¬ event.op.serving)
    (hr : ¬ unrouted event) :
  Open baseDomain request operation (event :: h)
  := by
  constructor
  · rw [denials, List.filterMap_cons_none hd]
    apply hh.undenied
  · rw [emissions, List.filterMap_cons_none he]
    apply hh.unemitted
  · intro event' hmem
    rcases List.mem_cons.mp hmem with rfl | hmem
    · apply hs
    · apply hh.unserved event' hmem
  · intro event' hmem
    rcases List.mem_cons.mp hmem with rfl | hmem
    · apply hr
    · apply hh.resolved event' hmem

/-- A request that ends with nothing denied. -/
theorem Open.settled {h : List BffEvent} (hh : Open baseDomain request operation h)
    (r : Except Raised PortalDTO) :
  Settled baseDomain request operation r h
  := by
  constructor
  · rw [hh.unemitted, hh.undenied]
  · simp [hh.undenied]
  · simp [hh.undenied]
  · intro context e he
    cases hh.resolved _ he trivial

/-- How a stage of a request ends: it goes on with a result, or the request has ended. -/
def Stage {α : Type} (baseDomain : String) (request : Request) (operation : BffOperation)
    (P : α → List BffEvent → Prop) : Except Raised α → List BffEvent → Prop
  | .ok a, h => Open baseDomain request operation h ∧ P a h
  | .error e, h => Settled baseDomain request operation (.error e) h

/-- The denial that follows an answer: it is emitted, and then raised. -/
theorem denied_stage {α : Type} {P : α → List BffEvent → Prop} (action : AuditAction)
    {h : List BffEvent} (hh : Open baseDomain request operation h) {event : BffEvent}
    (hd : deniedBy baseDomain request operation event = some action)
    (hs : ¬ event.op.serving) {audit : AuditEvent} (ha : audit.action = action)
    (hdenying : action.denying = true) :
  Guarded (Mediated baseDomain request operation recordRef)
    (Stage baseDomain request operation P)
    (Bff.emit audit >>= fun _ => Bff.deny action.answer) (event :: h)
  := by
  have hresolved : ∀ context e, event ≠ ⟨.resolve context, .error e⟩ := by
    rintro context e rfl
    cases hd
  have hemitted : ∀ r, emittedBy ⟨.emit audit, r⟩ = some action := by
    intro r
    simp only [emittedBy, ha]
    rw [if_pos hdenying]
  have hunemitted : emittedBy event = none := by
    obtain ⟨op, r⟩ := event
    cases op with
    | emit _ => cases hd
    | _ => rfl
  have hsettled : ∀ (r : Except Raised Unit) (r' : Except Raised PortalDTO),
      (r' = .error (.denial action.answer) ∨ ∃ e, r = .error e ∧ r' = .error e) →
      Settled baseDomain request operation r' (⟨.emit audit, r⟩ :: event :: h) := by
    intro r r' hr
    have hdenials : denials baseDomain request operation (⟨.emit audit, r⟩ :: event :: h)
        = [action] := by
      rw [denials, List.filterMap_cons_none rfl, List.filterMap_cons_some hd]
      congr 1
      apply hh.undenied
    constructor
    · rw [hdenials, emissions, List.filterMap_cons_some (hemitted r),
        List.filterMap_cons_none hunemitted]
      congr 1
      apply hh.unemitted
    · simp [hdenials]
    · rw [hdenials]
      intro action' haction
      obtain rfl := List.mem_singleton.mp haction
      constructor
      · intro event' he
        rcases List.mem_cons.mp he with rfl | he
        · exact id
        · rcases List.mem_cons.mp he with rfl | he
          · apply hs
          · apply hh.unserved event' he
      · rcases hr with hr | ⟨e, rfl, hr⟩
        · apply Or.inl hr
        · right
          use audit, e
          constructor
          · apply List.mem_cons_self
          · apply hr
    · intro context e he
      rcases List.mem_cons.mp he with he | he
      · cases he
      · rcases List.mem_cons.mp he with he | he
        · cases hresolved context e he.symm
        · cases hh.resolved _ he trivial
  apply Guarded.step trivial
  · intro _
    apply hsettled
    apply Or.inl rfl
  · intro e
    apply hsettled
    right
    use e

/-- An exception of a port ends a request that was not denied. -/
theorem Open.raised {α : Type} {P : α → List BffEvent → Prop} {h : List BffEvent}
    (hh : Open baseDomain request operation h) (e : Raised) :
  Stage baseDomain request operation P (.error e) h
  := hh.settled (.error e)

theorem Identified.mono {h h' : List BffEvent} (hsub : h ⊆ h') {credential : String}
    {result : AuthenticationResult} (hi : Identified baseDomain request h credential result) :
  Identified baseDomain request h' credential result
  := { hi with authenticated := hsub hi.authenticated }

theorem Established.mono {h h' : List BffEvent} (hsub : h ⊆ h') {context : RequestContext}
    (he : Established baseDomain request h context) :
  Established baseDomain request h' context
  := by
  obtain ⟨credential, result, hi, hcontext⟩ := he
  use credential, result
  constructor
  · apply hi.mono hsub
  · apply hcontext

theorem Cleared.mono {h h' : List BffEvent} (hsub : h ⊆ h') {context : RequestContext}
    (hc : Cleared baseDomain request operation recordRef h context) :
  Cleared baseDomain request operation recordRef h' context
  := by
  obtain ⟨decision, hdecided, hallowed⟩ := hc.allowed
  constructor
  · apply hc.established.mono hsub
  · use decision
    constructor
    · apply hsub hdecided
    · apply hallowed
  · apply hc.signed

theorem Served.mono {h h' : List BffEvent} (hsub : h ⊆ h') {context : RequestContext}
    (hs : Served baseDomain request operation recordRef h context) :
  Served baseDomain request operation recordRef h' context
  := by
  constructor
  · apply hs.cleared.mono hsub
  · intro htenant
    obtain ⟨target, hrouted⟩ := hs.routed htenant
    use target
    apply hsub hrouted

/-- Stages 1 to 3. -/
theorem establish_stage :
  Guarded (Mediated baseDomain request operation recordRef)
    (Stage baseDomain request operation
      fun established h => Established baseDomain request h established.context)
    (Bff.establish baseDomain (Bff.bearer request) request.headers
      ((request.header "host").getD "") (Bff.correlationIdOf request)) []
  := by
  unfold Bff.establish
  split
  · apply Open.nil.raised
  · rename_i credential hbearer
    split
    · apply Open.nil.raised
    · rename_i hcredential
      apply Guarded.step trivial
      · intro answer
        cases answer with
        | none => apply (Open.nil.cons rfl rfl id id).raised
        | some result =>
            simp only
            split
            · rename_i hconflict
              apply denied_stage .carrierMismatch Open.nil
              · apply if_pos (Or.inl hconflict)
              · exact id
              · rfl
              · rfl
            · rename_i hconflict
              split
              · rename_i hmismatch
                apply denied_stage .carrierMismatch Open.nil
                · apply if_pos (Or.inr hmismatch)
                · exact id
                · rfl
                · rfl
              · rename_i hmismatch
                have hopen : Open baseDomain request operation [⟨.authenticate credential
                    (observed baseDomain request).value (Bff.correlationIdOf request),
                    .ok (some result)⟩] := by
                  apply Open.nil.cons _ rfl id id
                  apply if_neg
                  rintro (h | h)
                  · apply hconflict h
                  · apply hmismatch h
                have hestablished : Established baseDomain request [⟨.authenticate credential
                    (observed baseDomain request).value (Bff.correlationIdOf request),
                    .ok (some result)⟩] (.fromAuthContext result.authContext) := by
                  use credential, result
                  constructor
                  · constructor
                    · use hbearer
                    · apply List.mem_singleton_self
                    · apply Bool.eq_false_iff.mpr hconflict
                    · apply hmismatch
                  · rfl
                split
                · apply Guarded.step trivial
                  · intro _
                    constructor
                    · apply hopen.cons rfl rfl id id
                    · apply hestablished.mono
                      apply List.subset_cons_self
                  · intro e
                    apply (hopen.cons rfl rfl id id).raised
                · constructor
                  · apply hopen
                  · apply hestablished
      · intro e
        apply (Open.nil.cons rfl rfl id id).raised

/-- Stage 4: access control, and its enforcement. -/
theorem authorize_stage {h : List BffEvent} (hh : Open baseDomain request operation h)
    {context : RequestContext} (he : Established baseDomain request h context) :
  Guarded (Mediated baseDomain request operation recordRef)
    (Stage baseDomain request operation
      fun _ h' => Cleared baseDomain request operation recordRef h' context)
    (Bff.authorize context operation recordRef) h
  := by
  apply Guarded.step he
  · intro decision
    simp only
    split
    · rename_i hallowed
      apply denied_stage .routeDenied hh
      · apply if_pos hallowed
      · exact id
      · rfl
      · rfl
    · rename_i hallowed
      have hdenied (hd : decision.resolvedDomain ≠ some (domainOf operation)
          ∨ domainOf operation = .tenant ∧ context.tenantContext.getD "" = "") :
          deniedBy baseDomain request operation
            ⟨.decide context operation recordRef, .ok decision⟩ = some .isolationAnomaly :=
        (if_neg hallowed).trans (if_pos hd)
      split
      · rename_i hnone
        apply denied_stage .isolationAnomaly hh
        · apply hdenied
          left
          rw [hnone]
          exact nofun
        · exact id
        · rfl
        · rfl
      · split
        · rename_i hdomain
          apply denied_stage .isolationAnomaly hh
          · apply hdenied (Or.inl hdomain)
          · exact id
          · rfl
          · rfl
        · rename_i hdomain
          split
          · rename_i hunsigned
            apply denied_stage .isolationAnomaly hh
            · apply hdenied (Or.inr hunsigned)
            · exact id
            · rfl
            · rfl
          · rename_i hsigned
            constructor
            · apply hh.cons _ rfl id id
              apply (if_neg hallowed).trans
              apply if_neg
              rintro (h | h)
              · apply hdomain h
              · apply hsigned h
            · constructor
              · apply he.mono
                apply List.subset_cons_self
              · use decision
                constructor
                · apply List.mem_cons_self
                · constructor
                  · apply not_not.mp hallowed
                  · apply not_not.mp hdomain
              · intro htenant
                cases hcontext : context.tenantContext with
                | none =>
                    cases hsigned ⟨htenant, by rw [hcontext]; rfl⟩
                | some tenant =>
                    use tenant
                    constructor
                    · rintro rfl
                      apply hsigned
                      constructor
                      · apply htenant
                      · rw [hcontext]
                        rfl
                    · rfl
  · intro e
    apply (hh.cons rfl rfl id id).raised

/-- Stages 1 to 4. -/
theorem authorized_stage :
  Guarded (Mediated baseDomain request operation recordRef)
    (Stage baseDomain request operation
      fun context h => Cleared baseDomain request operation recordRef h context)
    (Bff.authorized baseDomain request operation recordRef) []
  := by
  unfold Bff.authorized
  apply Guarded.bind establish_stage
  · rintro established h ⟨hopen, hestablished⟩
    apply Guarded.bind (authorize_stage hopen hestablished)
    · rintro _ h' hcleared
      apply hcleared
    · intro e h' hsettled
      apply hsettled
  · intro e h hsettled
    apply hsettled

/-! ### Served requests -/

/-- The calls of a request that may be served, and its success events. -/
def Following (context : RequestContext) : BffOp → Prop
  | .emit audit => audit.action.denying = false
  | .call _ _ payload => payload.context = context
  | .listMemberships principalRef => principalRef = context.principalRef
  | .listDirectory _ => True
  | _ => False

theorem Served.mediated {h : List BffEvent} {context : RequestContext}
    (hs : Served baseDomain request operation recordRef h context) {op : BffOp}
    (hop : Following context op) :
  Mediated baseDomain request operation recordRef h op
  := by
  cases op with
  | emit audit => trivial
  | call service path payload =>
      cases hop
      apply hs
  | listMemberships principalRef =>
      use context
      exact ⟨hs, hop⟩
  | listDirectory directory => exact ⟨context, hs⟩
  | authenticate _ _ _ => trivial
  | decide _ _ _ => cases hop
  | resolve _ => cases hop

theorem deniedBy_following {context : RequestContext} {event : BffEvent}
    (he : Following context event.op) :
  deniedBy baseDomain request operation event = none
  := by
  obtain ⟨op, r⟩ := event
  cases op with
  | authenticate _ _ _ => cases he
  | decide _ _ _ => cases he
  | resolve _ => cases he
  | _ => rfl

theorem emittedBy_following {context : RequestContext} {event : BffEvent}
    (he : Following context event.op) :
  emittedBy event = none
  := by
  obtain ⟨op, r⟩ := event
  cases op with
  | emit audit =>
      apply if_neg
      rw [show audit.action.denying = false from he]
      exact nofun
  | _ => rfl

/-- What remains of a request that may be served. -/
theorem served_rest {h : List BffEvent} (hh : Open baseDomain request operation h)
    {context : RequestContext} (hs : Served baseDomain request operation recordRef h context)
    {x : BffProgram PortalDTO} (hx : x.Calls (Following context)) :
  Guarded (Mediated baseDomain request operation recordRef)
    (Settled baseDomain request operation) x h
  := by
  apply Guarded.mono (Guarded.of_calls_after hx _)
  · rintro r h' ⟨events, rfl, hevents⟩
    have hdenials : denials baseDomain request operation (events ++ h) = [] := by
      rw [denials, List.filterMap_append]
      apply List.append_eq_nil_iff.mpr
      constructor
      · apply List.filterMap_eq_nil_iff.mpr
        intro event he
        apply deniedBy_following (hevents event he)
      · apply hh.undenied
    have hemissions : emissions (events ++ h) = [] := by
      rw [emissions, List.filterMap_append]
      apply List.append_eq_nil_iff.mpr
      constructor
      · apply List.filterMap_eq_nil_iff.mpr
        intro event he
        apply emittedBy_following (hevents event he)
      · apply hh.unemitted
    constructor
    · rw [hemissions, hdenials]
    · simp [hdenials]
    · simp [hdenials]
    · intro context' e he
      rcases List.mem_append.mp he with he | he
      · cases hevents _ he
      · cases hh.resolved _ he trivial
  · intro events op hop
    apply (hs.mono _).mediated hop
    apply List.subset_append_right

/-- A request on the control domain: what follows its authorization. -/
theorem authorized_then {f : RequestContext → BffProgram PortalDTO}
    (hdomain : domainOf operation = .control)
    (hf : ∀ context, (f context).Calls (Following context)) :
  Guarded (Mediated baseDomain request operation recordRef)
    (Settled baseDomain request operation)
    (Bff.authorized baseDomain request operation recordRef >>= f) []
  := by
  apply Guarded.bind authorized_stage
  · rintro context h ⟨hopen, hcleared⟩
    apply served_rest hopen _ (hf context)
    constructor
    · apply hcleared
    · rw [hdomain]
      exact nofun
  · intro e h hsettled
    apply hsettled

/-- A request on tenant records: what follows the call of its service. -/
theorem tenantCall_then {f : RequestContext × Body → BffProgram PortalDTO}
    {service path : String} {extra : List (String × PayloadValue)}
    (hf : ∀ context body, (f (context, body)).Calls (Following context)) :
  Guarded (Mediated baseDomain request operation recordRef)
    (Settled baseDomain request operation)
    (Bff.tenantCall baseDomain request operation recordRef service path extra >>= f) []
  := by
  simp only [Bff.tenantCall, Bff.routed, bind_assoc, pure_bind]
  apply Guarded.bind authorized_stage
  · rintro context h ⟨hopen, hcleared⟩
    apply Guarded.step hcleared
    · intro target
      have hrouted : Open baseDomain request operation (⟨.resolve context, .ok target⟩ :: h) :=
        hopen.cons rfl rfl id id
      apply served_rest hrouted
      · constructor
        · apply hcleared.mono
          apply List.subset_cons_self
        · intro _
          use target
          apply List.mem_cons_self
      · apply Calls.bind
        · apply Calls.perform
          rfl
        · intro body
          apply hf
    · intro e
      have hundenied : denials baseDomain request operation (⟨.resolve context, .error e⟩ :: h)
          = [] := by
        rw [denials, List.filterMap_cons_none rfl]
        apply hopen.undenied
      have hunemitted : emissions (⟨.resolve context, .error e⟩ :: h) = [] := by
        rw [emissions, List.filterMap_cons_none rfl]
        apply hopen.unemitted
      constructor
      · rw [hunemitted, hundenied]
      · simp [hundenied]
      · simp [hundenied]
      · intro context' e' he
        rcases List.mem_cons.mp he with he | he
        · cases he
          constructor
          · rfl
          · constructor
            · intro event he
              rcases List.mem_cons.mp he with rfl | he
              · exact id
              · apply hopen.unserved event he
            · apply hunemitted
        · cases hopen.resolved _ he trivial
  · intro e h hsettled
    apply hsettled

end Requests

/-! ## The routes -/

section Routes

variable {baseDomain : String} {request : Request}

/-- A program that calls nothing. -/
def Silent {α : Type} (x : BffProgram α) : Prop :=
  x.Calls fun _ => False

theorem Silent.calls {α : Type} {x : BffProgram α} (hx : Silent x) {p : BffOp → Prop} :
  x.Calls p
  := Calls.mono (fun _ => False.elim) hx

theorem item_silent (record : Record) (name : String) :
  Silent (Bff.item record name)
  := by
  unfold Bff.item
  split
  · apply Calls.raise
  · apply Calls.pure

theorem asRecord_silent (body : Body) :
  Silent (Bff.asRecord body)
  := by
  cases body with
  | object fields => apply Calls.pure
  | null => apply Calls.raise
  | listing key records => apply Calls.raise

theorem asListing_silent (key : String) (body : Body) :
  Silent (Bff.asListing key body)
  := by
  cases body with
  | object fields => apply Calls.raise
  | null => apply Calls.raise
  | listing key' records =>
      rw [Bff.asListing]
      split
      · apply Calls.pure
      · apply Calls.raise

theorem membershipEntry_silent (record : Record) :
  Silent (Bff.membershipEntry record)
  := by
  apply Calls.bind (item_silent _ _)
  intro tenantId
  apply Calls.bind (item_silent _ _)
  intro role
  split
  · apply Calls.raise
  · apply Calls.pure

theorem directoryEntry_silent (record : Record) :
  Silent (Bff.directoryEntry record)
  := by
  apply Calls.bind (item_silent _ _)
  intro recordRef
  apply Calls.bind (item_silent _ _)
  intro displayName
  apply Calls.pure

theorem importResult_silent (record : Record) :
  Silent (Bff.importResult record)
  := by
  repeat
    apply Calls.bind (item_silent _ _)
    intro _
  split
  · apply Calls.raise
  · apply Calls.pure

theorem startupDetail_silent (record : Record) :
  Silent (Bff.startupDetail record)
  := Calls.bind (item_silent _ _) fun _ => Calls.pure

theorem investorDetail_silent (record : Record) :
  Silent (Bff.investorDetail record)
  := Calls.bind (item_silent _ _) fun _ => Calls.pure

theorem dealDetail_silent (record : Record) :
  Silent (Bff.dealDetail record)
  := Calls.bind (item_silent _ _) fun _ => Calls.pure

/-- The route's handler is mediated, and ends with its denials recorded. -/
def Governed (baseDomain : String) (request : Request) (operation : BffOperation)
    (recordRef : Option String) (x : BffProgram PortalDTO) : Prop :=
  Guarded (Mediated baseDomain request operation recordRef)
    (Settled baseDomain request operation) x []

theorem readDirectory_governed {operation : BffOperation} {directory : String}
    {dto : List DirectoryEntryDTO → PortalDTO} (hdomain : domainOf operation = .control) :
  Governed baseDomain request operation none
    (Bff.readDirectory baseDomain request operation directory >>= fun entries =>
      pure (dto entries))
  := by
  simp only [Bff.readDirectory, bind_assoc]
  apply authorized_then hdomain
  intro context
  apply Calls.bind
  · apply Calls.perform
    trivial
  · intro records
    apply Calls.bind
    · apply Calls.mapM fun record => (directoryEntry_silent record).calls
    · intro entries
      apply Calls.pure

theorem listRecords_governed {α : Type} {operation : BffOperation} {service path : String}
    {limit : Int} {detail : Record → BffProgram α} (hdetail : ∀ record, Silent (detail record))
    {dto : List α → PortalDTO} :
  Governed baseDomain request operation none
    (Bff.listRecords baseDomain request operation service path limit detail >>= fun records =>
      pure (dto records))
  := by
  simp only [Bff.listRecords, bind_assoc]
  apply tenantCall_then
  intro context body
  apply Calls.bind (asListing_silent _ _).calls
  intro records
  apply Calls.bind (Calls.mapM (fun record => (hdetail record).calls) _)
  intro details
  apply Calls.pure

theorem oneRecord_governed {α : Type} {operation : BffOperation} {recordRef : Option String}
    {service path : String} {extra : List (String × PayloadValue)}
    {detail : Record → BffProgram α} (hdetail : ∀ record, Silent (detail record))
    {dto : α → PortalDTO} :
  Governed baseDomain request operation recordRef
    (Bff.oneRecord baseDomain request operation recordRef service path extra detail >>= fun a =>
      pure (dto a))
  := by
  simp only [Bff.oneRecord, bind_assoc]
  apply tenantCall_then
  intro context body
  apply Calls.bind (asRecord_silent _).calls
  intro record
  apply Calls.bind (hdetail record).calls
  intro details
  apply Calls.pure

theorem readRecord_governed {α : Type} {operation : BffOperation}
    {recordRef service path : String} {detail : Record → BffProgram α}
    (hdetail : ∀ record, Silent (detail record)) {dto : α → PortalDTO} :
  Governed baseDomain request operation (some recordRef)
    (Bff.readRecord baseDomain request operation recordRef service path detail >>= fun a =>
      pure (dto a))
  := by
  simp only [Bff.readRecord, bind_assoc]
  apply tenantCall_then
  intro context body
  apply Calls.bind _ fun _ => Calls.pure
  split
  · apply Calls.raise
  · apply Calls.bind (asRecord_silent _).calls
    intro record
    apply (hdetail record).calls

theorem emitStartup_following {action : AuditAction} (haction : action.denying = false)
    (context : RequestContext) (recordRef : String) :
  (Bff.emitStartup action context recordRef).Calls (Following context)
  := Calls.perform haction

theorem handler_governed (endpoint : Endpoint) :
  Governed baseDomain request endpoint.operation endpoint.recordRef
    (Bff.handler baseDomain request endpoint)
  := by
  cases endpoint with
  | listMemberships =>
      apply authorized_then rfl
      intro context
      apply Calls.bind
      · apply Calls.perform
        rfl
      · intro raw
        apply Calls.bind
        · apply Calls.mapM fun record => (membershipEntry_silent record).calls
        · intro memberships
          apply Calls.bind
          · apply Calls.perform
            rfl
          · intro _
            apply Calls.pure
  | readStartupDirectory => apply readDirectory_governed rfl
  | readInvestorDirectory => apply readDirectory_governed rfl
  | importStartup sourceRef =>
      apply tenantCall_then
      intro context body
      apply Calls.bind (asRecord_silent _).calls
      intro record
      apply Calls.bind (importResult_silent _).calls
      intro result
      apply Calls.pure
  | listStartups limit => apply listRecords_governed startupDetail_silent
  | readStartup recordRef =>
      apply tenantCall_then
      intro context body
      simp only
      split
      · apply Calls.raise
      · apply Calls.bind (emitStartup_following rfl context recordRef)
        intro _
        apply Calls.bind (asRecord_silent _).calls
        intro record
        apply Calls.bind (startupDetail_silent _).calls
        intro detail
        apply Calls.pure
  | createStartup body => apply oneRecord_governed startupDetail_silent
  | updateStartup recordRef shortDescription =>
      apply tenantCall_then
      intro context body
      apply Calls.bind (emitStartup_following rfl context recordRef)
      intro _
      apply Calls.bind (asRecord_silent _).calls
      intro record
      apply Calls.bind (startupDetail_silent _).calls
      intro detail
      apply Calls.pure
  | listInvestors limit => apply listRecords_governed investorDetail_silent
  | readInvestor recordRef => apply readRecord_governed investorDetail_silent
  | createInvestor body => apply oneRecord_governed investorDetail_silent
  | updateInvestor recordRef shortDescription =>
      apply oneRecord_governed investorDetail_silent
  | listDeals limit => apply listRecords_governed dealDetail_silent
  | readDeal recordRef => apply readRecord_governed dealDetail_silent
  | createDeal body => apply oneRecord_governed dealDetail_silent
  | updateDeal recordRef stage status => apply oneRecord_governed dealDetail_silent
  | readLineage recordRef =>
      apply tenantCall_then
      intro context body
      apply Calls.bind (asListing_silent _ _).calls
      intro entries
      apply Calls.bind (Calls.mapM (fun record => (item_silent record _).calls) _)
      intro lineage
      apply Calls.bind (Calls.mapM (fun record => (item_silent record _).calls) _)
      intro sources
      apply Calls.pure

end Routes

/-- A verdict that is authentication's own comparison, and no mismatch: there is no carrier, or
it is ignored for want of a signed tenant, or it names the signed tenant. -/
theorem checkCarrier_agrees {activeTenantRef carrier : Option String}
    (h : checkCarrier activeTenantRef carrier ≠ .mismatch) :
  carrier.getD "" = "" ∨ activeTenantRef = none ∨ carrier = activeTenantRef
  := by
  unfold checkCarrier at h
  split at h
  · rename_i habsent
    left
    rcases habsent with rfl | rfl
    · rfl
    · rfl
  · split at h
    · rename_i hcontrol
      right
      left
      apply hcontrol
    · split at h
      · rename_i hmatched
        right
        right
        apply hmatched
      · cases h rfl

theorem serve_governed (baseDomain : String) (request : Request) (endpoint : Endpoint) :
  Governed baseDomain request endpoint.operation endpoint.recordRef
    (Bff.serve baseDomain request endpoint)
  := by
  unfold Bff.serve
  split
  · apply handler_governed
  · apply Open.nil.settled

/-- Whatever the ports answered or raised, the next call of a request is one that it was cleared
for, and where the request has ended it has recorded the denials it met, and no others. -/
theorem serve_mediated (baseDomain : String) (request : Request) (endpoint : Endpoint)
    {h : List BffEvent} {y : BffProgram PortalDTO}
    (hrun : (Bff.serve baseDomain request endpoint).After h y) :
  (∀ op k, y = .call op k →
      Mediated baseDomain request endpoint.operation endpoint.recordRef h op)
    ∧ (∀ r, y = .ret r → Settled baseDomain request endpoint.operation r h)
    ∧ ∀ credential result, Identified baseDomain request h credential result →
      result.carrierVerdict = checkCarrier result.authContext.activeTenantRef
        (observed baseDomain request).value →
      (observed baseDomain request).value.getD "" = ""
        ∨ result.authContext.activeTenantRef = none
        ∨ (observed baseDomain request).value = result.authContext.activeTenantRef
  := by
  have hserve := (serve_governed baseDomain request endpoint).after hrun
  constructor
  · rintro op k rfl
    apply hserve.1
  · constructor
    · rintro r rfl
      apply hserve
    · intro credential result hidentified hverdict
      apply checkCarrier_agrees
      rw [← hverdict]
      apply hidentified.matched

section Unrouted

/-- A request that names a tenant in its header. -/
def tenantRequest (carrier : String) : Request where
  headers := [("Authorization", "Bearer token"), ("X-Tenant-Id", carrier)]
  boundCorrelationId := "c-1"
  mintedCorrelationId := "c-2"

/-- An agent that is signed into a tenant. -/
def tenantAgent : AuthContext where
  correlationId := "c-1"
  principalRef := "agent"
  role := .tenantAgent
  activeTenantRef := some "tenant-a"

/-- The answers on which a request for the startups of the signed tenant is cleared, and what
the router then answers. -/
def clearedAnswers (carrier : String) (routing : Except Raised RoutedTenant) : List BffEvent :=
  [⟨.authenticate "token" (some carrier) "c-1", .ok (some ⟨tenantAgent, .matched⟩)⟩,
    ⟨.decide (.fromAuthContext tenantAgent) .listTenantStartups none,
      .ok ⟨true, none, some .tenant⟩⟩,
    ⟨.resolve (.fromAuthContext tenantAgent), routing⟩]

/-- On these answers the request goes on to its service, under the signed tenant. -/
theorem serve_mediated_listStartups :
  Mediated "" (tenantRequest "tenant-a") .listTenantStartups none
    (clearedAnswers "tenant-a" (.ok ⟨"tenant-a", "target"⟩)).reverse
    (.call "startups" "/internal/startups/list"
      ⟨.fromAuthContext tenantAgent, [("limit", .number 10)]⟩)
  := by
  have hreplay : ((Bff.serve "" (tenantRequest "tenant-a") (.listStartups 10)).replay
      (clearedAnswers "tenant-a" (.ok ⟨"tenant-a", "target"⟩))).bind nextOp
      = some (.call "startups" "/internal/startups/list"
        ⟨.fromAuthContext tenantAgent, [("limit", .number 10)]⟩) := by
    decide +kernel
  obtain ⟨k, hafter⟩ := After.of_nextOp hreplay
  obtain ⟨hmediated, -⟩ := serve_mediated "" (tenantRequest "tenant-a") (.listStartups 10)
    hafter
  apply hmediated _ k rfl

/-- A request that the router refuses ends with nothing recorded; and where authentication calls
another tenant's carrier a match, the request is served under the signed tenant. -/
theorem serve_unrouted_unrecorded :
  (∃ h, (Bff.serve "" (tenantRequest "tenant-a") (.listStartups 10)).After h
        (.ret (.error (.denial tenantNotReady)))
      ∧ (∃ context, ⟨.resolve context, .error (.denial tenantNotReady)⟩ ∈ h)
      ∧ ∀ event ∈ h, ∀ audit, event.op ≠ .emit audit)
    ∧ ∃ h op k, (Bff.serve "" (tenantRequest "tenant-b") (.listStartups 10)).After h
        (.call op k)
      ∧ op.serving
      ∧ ∃ credential result, Identified "" (tenantRequest "tenant-b") h credential result
        ∧ (observed "" (tenantRequest "tenant-b")).value = some "tenant-b"
        ∧ result.authContext.activeTenantRef = some "tenant-a"
  := by
  constructor
  · have hreplay : ((Bff.serve "" (tenantRequest "tenant-a") (.listStartups 10)).replay
        (clearedAnswers "tenant-a" (.error (.denial tenantNotReady)))).bind ending
        = some (.error (.denial tenantNotReady)) := by
      decide +kernel
    have hafter := After.of_ending hreplay
    use (clearedAnswers "tenant-a" (.error (.denial tenantNotReady))).reverse
    constructor
    · apply hafter
    · constructor
      · use .fromAuthContext tenantAgent
        apply List.mem_cons_self
      · simp [clearedAnswers]
  · have hreplay : ((Bff.serve "" (tenantRequest "tenant-b") (.listStartups 10)).replay
        (clearedAnswers "tenant-b" (.ok ⟨"tenant-a", "target"⟩))).bind nextOp
        = some (.call "startups" "/internal/startups/list"
          ⟨.fromAuthContext tenantAgent, [("limit", .number 10)]⟩) := by
      decide +kernel
    obtain ⟨k, hafter⟩ := After.of_nextOp hreplay
    refine ⟨_, _, k, hafter, trivial, "token", ⟨tenantAgent, .matched⟩, ?_, ?_⟩
    · constructor
      · decide +kernel
      · simp only [clearedAnswers, List.mem_reverse]
        apply List.mem_cons.mpr
        left
        rw [show (observed "" (tenantRequest "tenant-b")).value = some "tenant-b" by
          decide +kernel]
        rfl
      · decide +kernel
      · exact nofun
    · decide +kernel

end Unrouted

end SnackPortal2
