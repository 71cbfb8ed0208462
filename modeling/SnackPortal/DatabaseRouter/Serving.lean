import SnackPortal.DatabaseRouter.Association

/-!
# A route serves its view

In every run in which no write of the control plane gives a tenant a version that it had with
another store reference, a route hands back a connection opened for the very reference of its view,
and its success event names that reference (`route_serves`).  Otherwise an idle connection of the
former association serves a route to the new one (`route_serves_former`).
-/

namespace DatabaseRouter

open ControlPlane (SecretRef)

section Routes

open Discipline

variable {ι : Type} [DecidableEq ι] {i : ι}

/-- The thread works with the view, which is or was that of its tenant. -/
def Serving (i : ι) (view : TenantRoutingView) (s : RouterHistory ι) : Prop :=
  view ∈ s.base.views view.tenantId ∧ (seenBy i s.journal).used = some view

theorem Serving.stable (view : TenantRoutingView) :
  (association ι).Stable i (Serving i view)
  := by
  rintro s s' hs ⟨hview, hused⟩
  have hown : seenBy i s'.journal = seenBy i s.journal := hs.own
  constructor
  · apply hs.evolve _ view hview
  · rw [hown]
    apply hused

/-- One call: the state stays in order and the views grow, so only the postcondition is left. -/
theorem router_call {op : RouterOp} {P : RouterHistory ι → Prop}
    {Q : Except RouterError op.Ans → RouterHistory ι → Prop}
    (hP : (association ι).Stable i P) (hQ : ∀ r, (association ι).Stable i (Q r))
    (hput : ∀ s, P s → ∀ t view, op = .cachePut t view → view ∈ s.base.views t)
    (hacquire : ∀ s, P s → ∀ lane t ref, op = .acquire lane t ref →
      ∃ view ∈ s.base.views t, view.databaseAssociationRef = ref)
    (hpost : ∀ (s s' : RouterHistory ι) c r, Associated s.base → P s →
      (databaseRouter ι).answer i op c s.base = some (r, s'.base) →
      (∀ t, ∀ view ∈ s.base.views t, view ∈ s'.base.views t) →
      s'.journal = .call i op r :: s.journal → Q r s') :
  (association ι).Triple i P (call op) Q
  := by
  apply Triple.perform (S := routerSignature) hP hQ
  intro s c r s' hs hp hguard ha
  obtain ⟨hbase, hj⟩ := Machine.journaled_answer ha
  obtain ⟨hs', hgrow⟩ := Associated.answer hs hguard (hput s hp) (hacquire s hp) hbase
  constructor
  · constructor
    · apply hs'
    · apply hgrow
    · intro j hj'
      change seenBy j s'.journal = seenBy j s.journal
      rw [hj, seenBy_call hj']
  · apply hpost s s' c r hs hp hbase hgrow hj

/-- The call neither acquires a connection nor caches a view. -/
def plainCall : RouterOp → Prop
  | .acquire _ _ _ => False
  | .cachePut _ _ => False
  | _ => True

theorem call_lawful (op : RouterOp) (hop : plainCall op) :
  (association ι).Lawful i (call op)
  := by
  apply router_call Stable.true
  · rintro (e | a) <;> apply Stable.true
  · rintro _ _ _ _ rfl
    contradiction
  · rintro _ _ _ _ _ rfl
    contradiction
  · rintro _ _ _ (e | a) _ _ _ _ _ <;> trivial

/-! ### Resolution -/

/-- A view that the thread has just got for the tenant. -/
def Got (i : ι) (tenantId : String) (got : Option TenantRoutingView) (s : RouterHistory ι) :
    Prop :=
  ∀ view, got = some view → view.tenantId = tenantId ∧ Serving i view s

theorem Got.stable (tenantId : String) (got : Option TenantRoutingView) :
  (association ι).Stable i (Got i tenantId got)
  := by
  intro s s' hs h view hgot
  obtain ⟨htenant, hserving⟩ := h view hgot
  exact ⟨htenant, Serving.stable view s s' hs hserving⟩

/-- A view of the tenant that comes with an answer is the one the thread works with. -/
theorem Got.answered {s s' : RouterHistory ι} {op : RouterOp} {tenantId : String}
    {r : Except RouterError op.Ans} {view : TenantRoutingView} (hs : Associated s.base)
    (hview : view ∈ s.base.views tenantId)
    (hgrow : ∀ t, ∀ view ∈ s.base.views t, view ∈ s'.base.views t)
    (hj : s'.journal = .call i op r :: s.journal)
    (hused : ((seenBy i s.journal).after op r).used = some view) :
  Got i tenantId (some view) s'
  := by
  rintro _ ⟨⟩
  have htenant := hs.keyed tenantId view hview
  constructor
  · apply htenant
  · constructor
    · rw [htenant]
      apply hgrow tenantId view hview
    · rw [hj, seenBy_call_self]
      apply hused

theorem cacheGet_got (tenantId : String) :
  (association ι).Triple i (fun _ => True) (call (.cacheGet tenantId))
    (Returns (Got i tenantId))
  := by
  apply router_call Stable.true
  · rintro (e | got)
    · apply Stable.true
    · apply Got.stable
  · rintro _ _ _ _ ⟨⟩
  · rintro _ _ _ _ _ ⟨⟩
  · rintro s s' c (e | got) hs _ ha hgrow hj
    · trivial
    · simp only [Option.some.injEq] at ha
      split at ha
      · cases (Prod.mk.inj ha).1
      · obtain rfl := Except.ok.inj (Prod.mk.inj ha).1
        intro view hgot
        apply Got.answered hs ((hs.cached.get c.now tenantId).2 view hgot) hgrow hj _ view rfl
        rw [hgot]
        rfl

theorem getRoutingView_got (tenantId : String) :
  (association ι).Triple i (fun _ => True) (call (.getRoutingView tenantId))
    (Returns (Got i tenantId))
  := by
  apply router_call Stable.true
  · rintro (e | got)
    · apply Stable.true
    · apply Got.stable
  · rintro _ _ _ _ ⟨⟩
  · rintro _ _ _ _ _ ⟨⟩
  · rintro s s' c (e | got) hs _ ha hgrow hj
    · trivial
    · simp only [Option.some.injEq] at ha
      split at ha
      · cases (Prod.mk.inj ha).1
      · obtain rfl := Except.ok.inj (Prod.mk.inj ha).1
        intro view hgot
        have hview : view ∈ s.base.views tenantId := by
          split at hgot
          · cases hgot
          · apply List.mem_of_mem_head? hgot
        apply Got.answered hs hview hgrow hj _ view rfl
        rw [hgot]
        rfl

theorem cachePut_serving {view : TenantRoutingView} :
  (association ι).Triple i (Serving i view) (call (.cachePut view.tenantId view))
    (Returns fun _ => Serving i view)
  := by
  apply router_call (Serving.stable view)
  · rintro (e | a)
    · apply Stable.true
    · apply Serving.stable
  · rintro s ⟨hview, _⟩ t v hop
    obtain ⟨rfl, rfl⟩ := RouterOp.cachePut.inj hop
    apply hview
  · rintro _ _ _ _ _ ⟨⟩
  · rintro s s' c (e | a) _ ⟨hview, hused⟩ _ hgrow hj
    · trivial
    · constructor
      · apply hgrow _ view hview
      · rw [hj, seenBy_call_self]
        apply hused

/-- The assertion on a view that is handed on. -/
theorem Serving.stable_of (tenantId : String) (view : TenantRoutingView) :
  (association ι).Stable i fun s => view.tenantId = tenantId ∧ Serving i view s
  := by
  rintro s s' hs ⟨htenant, hserving⟩
  exact ⟨htenant, Serving.stable view s s' hs hserving⟩

theorem routingView_serving (tenantId : String) :
  (association ι).Triple i (fun _ => True) (routingView tenantId)
    (Returns fun view s => view.tenantId = tenantId ∧ Serving i view s)
  := by
  apply Triple.seq (cacheGet_got tenantId)
  rintro (_ | view)
  · apply Triple.seq (Q := Got i tenantId)
    · apply Triple.mono (P := fun _ => True)
      · apply Triple.rescue (getRoutingView_got tenantId) (Got.stable tenantId)
        intro e
        apply Triple.throw
      · exact fun _ _ _ => trivial
      · exact fun _ _ _ h => h
    · rintro (_ | view)
      · apply Triple.throw
      · apply Triple.mono (P := fun s => view.tenantId = tenantId ∧ Serving i view s)
          (Q := Returns fun view s => view.tenantId = tenantId ∧ Serving i view s)
        · apply Triple.given
          rintro rfl
          apply Triple.seq cachePut_serving
          intro _
          apply Triple.ok (Serving.stable view)
          exact fun _ _ h => ⟨rfl, h⟩
        · intro s _ h
          apply h view rfl
        · exact fun _ _ _ h => h
  · apply Triple.ok (Got.stable tenantId (some view))
    intro s _ h
    apply h view rfl

/-- Resolution hands on a view of the tenant that the thread works with. -/
theorem resolve_serving (supportedSchemaVersions : List String) (tenantId : String) :
  (association ι).Triple i (fun _ => True) (resolve supportedSchemaVersions tenantId)
    (Returns fun view s => view.tenantId = tenantId ∧ Serving i view s)
  := by
  apply Triple.seq (routingView_serving tenantId)
  intro view
  split
  · apply Triple.throw
  · split
    · apply Triple.throw
    · apply Triple.ok (Serving.stable_of tenantId view)
      exact fun _ _ h => h

/-! ### Acquisition -/

/-- The connection is bound to the association of the view and was opened for it. -/
def OpenedFor (view : TenantRoutingView) (conn : TenantConnection) : Prop :=
  conn.tenantId = view.tenantId
    ∧ conn.associationVersion = view.databaseAssociationRef.version
    ∧ conn.openedFrom = view.databaseAssociationRef

/-- A connection of the pool of a view was opened for the reference of the view. -/
theorem Belongs.openedFor {s : RouterState} (hs : Associated s) {view : TenantRoutingView}
    (hview : view ∈ s.views view.tenantId) {conn : TenantConnection}
    (hconn : Belongs s (view.tenantId, view.databaseAssociationRef.version) conn) :
  OpenedFor view conn
  := by
  obtain ⟨hkey, hversion, former, hformer, href⟩ := hconn
  obtain ⟨htenant, hbound⟩ := Prod.mk.inj hkey
  have hstore : former.databaseAssociationRef.storeRef
      = view.databaseAssociationRef.storeRef := by
    apply hs.versioned view.tenantId former hformer view hview
    rw [href, hversion]
  constructor
  · apply htenant
  · constructor
    · apply hbound
    · rw [href] at hstore
      calc conn.openedFrom
          = ⟨conn.openedFrom.storeRef, conn.openedFrom.version⟩ := rfl
        _ = ⟨view.databaseAssociationRef.storeRef, view.databaseAssociationRef.version⟩ := by
            rw [hstore, hversion]
        _ = view.databaseAssociationRef := rfl

theorem acquire_opened {view : TenantRoutingView} (lane : Lane) :
  (association ι).Triple i (Serving i view)
    (call (.acquire lane view.tenantId view.databaseAssociationRef))
    (Returns fun conn s => OpenedFor view conn ∧ Serving i view s)
  := by
  apply router_call (Serving.stable view)
  · rintro (e | conn)
    · apply Stable.true
    · rintro s s' hs ⟨hopened, hserving⟩
      exact ⟨hopened, Serving.stable view s s' hs hserving⟩
  · rintro _ _ _ _ ⟨⟩
  · rintro s ⟨hview, _⟩ lane' t ref hop
    obtain ⟨-, rfl, rfl⟩ := RouterOp.acquire.inj hop
    exact ⟨view, hview, rfl⟩
  · rintro s s' c (e | conn) hs ⟨hview, hused⟩ ha hgrow hj
    · trivial
    · constructor
      · apply Belongs.openedFor hs hview
        simp only [Option.some.injEq] at ha
        split at ha
        · cases (Prod.mk.inj ha).1
        · have hacquired := (Prod.mk.inj ha).1
          have hbelongs := (hs.pooled lane).acquire c.now
            (fun conn => c.isAlive conn.serial) view.tenantId
            view.databaseAssociationRef.version
            (RouterState.openConnection c view.databaseAssociationRef) ?_
          · apply hbelongs.2
            cases h : ((s.base.poolFor lane).acquire c.now (fun conn => c.isAlive conn.serial)
              view.tenantId view.databaseAssociationRef.version
              (RouterState.openConnection c view.databaseAssociationRef)).1 with
            | error e =>
                rw [h] at hacquired
                cases hacquired
            | ok conn' =>
                rw [h] at hacquired
                cases hacquired
                rfl
          · intro conn' hopened htenant hversion
            have hfrom := RouterState.openConnection_from hopened
            constructor
            · rw [TenantConnection.key, htenant, hversion]
            · rw [hfrom]
              exact ⟨rfl, view, hview, rfl⟩
      · constructor
        · apply hgrow _ view hview
        · rw [hj, seenBy_call_self]
          apply hused

theorem acquireConnection_opened {view : TenantRoutingView} (lane : Lane) :
  (association ι).Triple i (Serving i view)
    (acquireConnection view.tenantId view.databaseAssociationRef lane)
    (Returns fun conn s => OpenedFor view conn ∧ Serving i view s)
  := by
  apply Triple.rescue (acquire_opened lane)
  · rintro conn s s' hs ⟨hopened, hserving⟩
    exact ⟨hopened, Serving.stable view s s' hs hserving⟩
  · intro e
    cases e <;> apply Triple.throw

/-! ### The audit of a success -/

/-- The event of a success that names the tenant and the reference of the view. -/
def Names (event : RoutingAuditEvent) (tenantId : String) (view : TenantRoutingView) : Prop :=
  event.action = "Route" ∧ event.outcome = "success" ∧ event.targetRef = some tenantId
    ∧ event.associationStoreRef = some view.databaseAssociationRef.storeRef
    ∧ event.associationVersion = some view.databaseAssociationRef.version

/-- The thread works with the view, and its last accepted event names it. -/
def Audited (i : ι) (tenantId : String) (view : TenantRoutingView) (s : RouterHistory ι) :
    Prop :=
  (seenBy i s.journal).used = some view
    ∧ ∃ event, (seenBy i s.journal).accepted = some event ∧ Names event tenantId view

theorem Audited.stable (tenantId : String) (view : TenantRoutingView) :
  (association ι).Stable i (Audited i tenantId view)
  := by
  intro s s' hs h
  have hown : seenBy i s'.journal = seenBy i s.journal := hs.own
  rw [Audited, hown]
  apply h

theorem initiate_audited {tenantId : String} {view : TenantRoutingView}
    {event : RoutingAuditEvent} (hevent : Names event tenantId view) :
  (association ι).Triple i (Serving i view) (call (.initiate event))
    (Returns fun _ => Audited i tenantId view)
  := by
  apply router_call (Serving.stable view)
  · rintro (e | a)
    · apply Stable.true
    · apply Audited.stable
  · rintro _ _ _ _ ⟨⟩
  · rintro _ _ _ _ _ ⟨⟩
  · rintro s s' c (e | a) _ ⟨_, hused⟩ _ _ hj
    · trivial
    · change Audited i tenantId view s'
      rw [Audited, hj, seenBy_call_self]
      exact ⟨hused, event, rfl, hevent⟩

theorem auditRoute_audited (ctx : RequestContext) (tenantId : String) {conn : TenantConnection}
    {view : TenantRoutingView} (hconn : OpenedFor view conn) (lane : Lane) :
  (association ι).Triple i (Serving i view) (auditRoute ctx tenantId conn view lane)
    (Returns fun _ => Audited i tenantId view)
  := by
  apply Triple.seq (Q := fun _ => Serving i view)
  · apply router_call (Serving.stable view)
    · rintro (e | a)
      · apply Stable.true
      · apply Serving.stable
    · rintro _ _ _ _ ⟨⟩
    · rintro _ _ _ _ _ ⟨⟩
    · rintro s s' c (e | a) _ ⟨hview, hused⟩ _ hgrow hj
      · trivial
      · constructor
        · apply hgrow _ view hview
        · rw [hj, seenBy_call_self]
          apply hused
  · rintro ⟨eventId, occurredAt⟩
    apply initiate_audited
    obtain ⟨-, hversion, -⟩ := hconn
    exact ⟨rfl, rfl, rfl, rfl, congrArg some hversion⟩

/-! ### Routes -/

/-- The result hands back no connection, or one opened for the view of its tenant that the route
worked with and named in its success event. -/
def Served (i : ι) (tenantId : Option String) (result : RouteResult) (s : RouterHistory ι) :
    Prop :=
  ∀ conn ∈ result.connection, tenantId = some conn.tenantId
    ∧ ∃ view, OpenedFor view conn ∧ Audited i conn.tenantId view s

theorem Served.stable (tenantId : Option String) (result : RouteResult) :
  (association ι).Stable i (Served i tenantId result)
  := by
  intro s s' hs h conn hconn
  obtain ⟨htenant, view, hopened, haudited⟩ := h conn hconn
  exact ⟨htenant, view, hopened, Audited.stable _ view s s' hs haudited⟩

theorem bindTenant_opened (supportedSchemaVersions : List String) (tenantId : String)
    (lane : Lane) :
  (association ι).Triple i (fun _ => True) (bindTenant supportedSchemaVersions tenantId lane)
    (Returns fun bound s => OpenedFor bound.1 bound.2 ∧ Serving i bound.1 s)
  := by
  apply Triple.seq (resolve_serving supportedSchemaVersions tenantId)
  intro view
  apply Triple.given
  intro _
  apply Triple.seq (acquireConnection_opened lane)
  intro conn
  apply Triple.ok
  · rintro s s' hs ⟨hopened, hserving⟩
    exact ⟨hopened, Serving.stable view s s' hs hserving⟩
  · exact fun _ _ h => h

theorem handBack_served (ctx : RequestContext) (tenantId : String) (lane : Lane)
    (view : TenantRoutingView) (conn : TenantConnection) :
  (association ι).Triple i (fun s => OpenedFor view conn ∧ Serving i view s)
    (handBack ctx tenantId lane view conn) (Returns (Served i (some tenantId)))
  := by
  apply Triple.given
  intro hopened
  rw [handBack]
  split
  · apply Triple.seq (Q := fun _ _ => True)
    · apply Lawful.triple
      apply Lawful.seq (call_lawful .mint trivial)
      intro minted
      apply call_lawful (.initiate _) trivial
    · intro _
      apply Triple.seq (call_lawful (.discard lane conn) trivial)
      intro _
      apply Triple.throw
  · rename_i htenant
    obtain rfl := not_not.mp htenant
    apply Triple.seq (Q := fun _ => Audited i conn.tenantId view)
    · apply Triple.rescue (auditRoute_audited ctx conn.tenantId hopened lane)
      · intro _
        apply Audited.stable
      · intro e
        apply Triple.seq (call_lawful (.discard lane conn) trivial)
        intro _
        apply Triple.throw
    · intro _
      apply Triple.ok (Audited.stable conn.tenantId view)
      rintro s _ haudited _ ⟨⟩
      exact ⟨rfl, view, hopened, haudited⟩

theorem emit_lawful (ctx : RequestContext) (action outcome : String) (tenantId resolvedTenantRef
    publicCode associationStoreRef associationVersion lane : Option String) :
  (association ι).Lawful i (emit ctx action outcome tenantId resolvedTenantRef publicCode
    associationStoreRef associationVersion lane)
  := by
  apply Lawful.seq (call_lawful .mint trivial)
  intro minted
  apply call_lawful (.initiate _) trivial

/-- A route serves its view. -/
theorem route_served (supportedSchemaVersions : List String) (ctx : RequestContext)
    (bootstrapPhase0 : Bool) (lane : Lane) :
  (association ι).Triple i (fun _ => True)
    (route supportedSchemaVersions ctx bootstrapPhase0 lane)
    (Returns (Served i ctx.activeTenantId))
  := by
  rw [route]
  split
  · apply Triple.seq (emit_lawful _ _ _ _ _ _ _ _ _)
    intro _
    apply Triple.throw
  · apply Triple.seq (Q := fun _ _ => True)
    · apply Lawful.rescue (emit_lawful _ _ _ _ _ _ _ _ _)
      intro e
      apply Lawful.raise
    · intro _
      apply Triple.ok Stable.true
      rintro _ _ _ _ ⟨⟩
  · rename_i htarget
    have htenant : ctx.activeTenantId = some (ctx.activeTenantId.getD "") := by
      rw [determineTarget] at htarget
      split at htarget
      · rename_i hsome
        obtain ⟨t, ht⟩ := Option.isSome_iff_exists.mp hsome
        rw [ht]
        rfl
      · split at htarget <;> cases htarget
    apply Triple.seq (Q := fun bound s => OpenedFor bound.1 bound.2 ∧ Serving i bound.1 s)
    · apply Triple.rescue (bindTenant_opened supportedSchemaVersions _ lane)
      · rintro ⟨view, conn⟩ s s' hs ⟨hopened, hserving⟩
        exact ⟨hopened, Serving.stable view s s' hs hserving⟩
      · intro e
        cases e with
        | denied d =>
            apply Triple.seq (emit_lawful _ _ _ _ _ _ _ _ _)
            intro _
            apply Triple.throw
        | _ => apply Triple.throw
    · rintro ⟨view, conn⟩
      rw [htenant]
      apply handBack_served

/-- What a request may end with. -/
def RouterRequest.Answers (i : ι) (q : RouterRequest) (answer : Option RouteResult)
    (s : RouterHistory ι) : Prop :=
  ∀ ctx bootstrapPhase0 lane, q = .route ctx bootstrapPhase0 lane →
    ∀ result ∈ answer, Served i ctx.activeTenantId result s

/-- A request other than a route keeps the discipline. -/
theorem plain_answers {α : Type} {q : RouterRequest} {x : RouterProgram α}
    (hq : ∀ ctx bootstrapPhase0 lane, q ≠ .route ctx bootstrapPhase0 lane)
    (hx : (association ι).Lawful i x) :
  (association ι).Triple i (fun _ => True) (x >>= fun _ => pure none)
    (Returns (q.Answers i))
  := by
  apply Triple.seq hx
  intro _
  apply Triple.ok Stable.true
  intro s _ _ ctx bootstrapPhase0 lane h
  exact absurd h (hq ctx bootstrapPhase0 lane)

theorem program_answers (supportedSchemaVersions : List String) (q : RouterRequest) :
  (association ι).Triple i (fun _ => True) (q.program supportedSchemaVersions)
    (Returns (q.Answers i))
  := by
  cases q with
  | route ctx bootstrapPhase0 lane =>
      apply Triple.seq (route_served supportedSchemaVersions ctx bootstrapPhase0 lane)
      intro result
      apply Triple.ok (Served.stable ctx.activeTenantId result)
      rintro s _ hserved _ _ _ ⟨⟩ _ ⟨⟩
      apply hserved
  | release result =>
      apply plain_answers
      · rintro _ _ _ ⟨⟩
      · rw [release]
        split
        · apply Lawful.pure
        · apply call_lawful (.release _ _) trivial
  | invalidateTenant t =>
      apply plain_answers _ (call_lawful (.cacheInvalidate t) trivial)
      rintro _ _ _ ⟨⟩
  | invalidateVersion lane t keepVersion =>
      apply plain_answers _ (call_lawful (.invalidateVersion lane t keepVersion) trivial)
      rintro _ _ _ ⟨⟩
  | putView view =>
      apply plain_answers _ (call_lawful (.putView view) trivial)
      rintro _ _ _ ⟨⟩
  | reassociate t ref =>
      apply plain_answers _ (call_lawful (.reassociate t ref) trivial)
      rintro _ _ _ ⟨⟩
  | transition t lifecycleState ready =>
      apply plain_answers _ (call_lawful (.transition t lifecycleState ready) trivial)
      rintro _ _ _ ⟨⟩

end Routes

/-! ### Runs -/

/-- The requests as threads of the router with a journal, in the state `s`. -/
def RouterState.serving {ι : Type} (s : RouterState) (supportedSchemaVersions : List String)
    (requests : ι → RouterRequest) :
    (Machine.journaled (databaseRouter ι)).Config (Option RouteResult) :=
  ⟨⟨s, []⟩, fun i => some ((requests i).program supportedSchemaVersions)⟩

/-- A router that has served nothing yet: no view is cached, no pool exists, and every tenant
has at most one view, its own. -/
structure RouterState.Fresh (s : RouterState) : Prop where
  uncached : s.cache.data = ∅
  unpooled : ∀ lane key, (s.poolFor lane).pools key = none
  own : ∀ t, s.views t = [] ∨ ∃ view, s.views t = [view] ∧ view.tenantId = t

theorem RouterState.Fresh.associated {s : RouterState} (hs : s.Fresh) :
  Associated s
  := by
  constructor
  · intro t view hview
    rcases hs.own t with h | ⟨v, h, ht⟩
    · rw [h] at hview
      cases hview
    · rw [h] at hview
      obtain rfl := List.mem_singleton.mp hview
      apply ht
  · intro t view hview view' hview' _
    rcases hs.own t with h | ⟨v, h, -⟩
    · rw [h] at hview
      cases hview
    · rw [h] at hview hview'
      obtain rfl := List.mem_singleton.mp hview
      obtain rfl := List.mem_singleton.mp hview'
      rfl
  · intro t expiresAt view hview
    rw [hs.uncached] at hview
    cases hview
  · intro lane key pool hpool
    rw [hs.unpooled] at hpool
    cases hpool

/-- In a run in which neither a re-association nor the upsert of a registration gives a tenant a
version that it had with another store reference, a route that hands back a connection has opened
it for the reference of the view it worked with, and its success event names that reference. -/
theorem route_serves {ι : Type} [DecidableEq ι] (supportedSchemaVersions : List String)
    (requests : ι → RouterRequest) {s : RouterState} (hs : s.Fresh)
    {cfg : (Machine.journaled (databaseRouter ι)).Config (Option RouteResult)}
    (h : Machine.Reaches keepsVersions (s.serving supportedSchemaVersions requests) cfg) {i : ι}
    {ctx : RequestContext} {bootstrapPhase0 : Bool} {lane : Lane}
    (hi : requests i = .route ctx bootstrapPhase0 lane) {result : RouteResult}
    (hresult : cfg.threads i = some (.ret (.ok (some result)))) {conn : TenantConnection}
    (hconn : result.connection = some conn) :
  ∃ view event, (seenBy i cfg.state.journal).used = some view
    ∧ conn.openedFrom = view.databaseAssociationRef
    ∧ (seenBy i cfg.state.journal).accepted = some event ∧ event.outcome = "success"
    ∧ event.associationStoreRef = some conn.openedFrom.storeRef
    ∧ event.associationVersion = some conn.openedFrom.version
  := by
  have hstart : (association ι).inv (⟨s, []⟩ : RouterHistory ι) := hs.associated
  have hending := Discipline.Safe.ending (D := association ι)
    (Q := fun i => Discipline.Returns ((requests i).Answers i)) h hstart
    (fun j x hx => by
      obtain rfl := Option.some.inj hx
      apply program_answers supportedSchemaVersions (requests j) _ hstart trivial) hresult
  obtain ⟨-, view, ⟨-, -, hfrom⟩, hused, event, haccepted, hnames⟩ :=
    hending ctx bootstrapPhase0 lane hi result rfl conn hconn
  obtain ⟨-, houtcome, -, hstore, hversion⟩ := hnames
  use view, event
  rw [hfrom]
  exact ⟨hused, rfl, haccepted, houtcome, hstore, hversion⟩

section Reassociation

instance {ι : Type} (s : RouterHistory ι) (i : ι) (op : RouterOp) (c : RouterChoice) :
    Decidable (keepsVersions s i op c) :=
  match op with
  | .reassociate t ref => inferInstanceAs (Decidable (c.fault = false → s.base.Keeps t ref))
  | .putView view => inferInstanceAs (Decidable (c.fault = false → s.base.Keeps view.tenantId
      view.databaseAssociationRef))
  | .mint | .cacheGet _ | .cachePut _ _ | .cacheInvalidate _ | .getRoutingView _
  | .acquire _ _ _ | .release _ _ | .discard _ _ | .invalidateVersion _ _ _ | .initiate _
  | .transition _ _ _ => .isTrue trivial

/-- The result a thread has ended with. -/
def resultOf {S : Signature} {ε : Type} :
    Option (Program S ε (Option RouteResult)) → Option RouteResult
  | some (.ret (.ok result)) => result
  | _ => none

theorem threads_of_resultOf {S : Signature} {ε : Type}
    {x : Option (Program S ε (Option RouteResult))} {result : RouteResult}
    (h : resultOf x = some result) :
  x = some (.ret (.ok (some result)))
  := by
  match x, h with
  | some (.ret (.ok (some result))), rfl => rfl

/-- A router with an empty cache and no pools; tenant `acme` is ready on the store `A`. -/
def acmeRouter : RouterState where
  cache := ⟨15, 4096, ∅⟩
  pool := ⟨5, 60, fun _ => none⟩
  bulkPool := none
  views := Function.update (fun _ => []) "acme"
    [⟨"acme", "Ready", true, ⟨"A", "1"⟩, "1"⟩]
  trail := []

/-- The connection opened for the store `A`. -/
def connectionToA : TenantConnection := ⟨7, "acme", "1", ⟨"A", "1"⟩⟩

/-- A user of the tenant. -/
def acmeUser : RequestContext := ⟨"c", none, some "acme", some "user", none⟩

/-- The tenant is re-associated with the store `B` between two routes; the first connection is
released before. -/
def routesAround (newVersion : String) : Fin 5 → RouterRequest
  | 0 => .route acmeUser false .interactive
  | 1 => .release ⟨.tenant, some "acme", some "1", some connectionToA, .interactive⟩
  | 2 => .reassociate "acme" ⟨"B", newVersion⟩
  | 3 => .transition "acme" "Ready" true
  | 4 => .route acmeUser false .interactive

/-- The next call of a thread at a time, where the factory opens the connection given. -/
def callAt (now : Int) (opened : Nat × String × String) (i : Fin 5) :
    Move (Fin 5) RouterChoice :=
  .call i ⟨false, now, now, "e", "t", fun _ => true, true, false, some "dsn", some opened⟩

/-- A route, its release, the re-association, and a route after the cached view has expired. -/
def routeReassociateRoute (newVersion : String) : List (Move (Fin 5) RouterChoice) :=
  ([0, 0, 0, 0, 0, 0, 1, 2, 3].filterMap ((List.finRange 5)[·]?)).map
      (callAt 0 (7, "acme", "1"))
    ++ ((List.replicate 6 4).filterMap ((List.finRange 5)[·]?)).map
      (callAt 20 (8, "acme", newVersion))

theorem acmeRouter_fresh :
  acmeRouter.Fresh
  := by
  constructor
  · rfl
  · intro lane key
    cases lane <;> rfl
  · intro t
    by_cases ht : t = "acme"
    · right
      subst ht
      exact ⟨⟨"acme", "Ready", true, ⟨"A", "1"⟩, "1"⟩, rfl, rfl⟩
    · left
      apply Function.update_of_ne ht

/-- A re-association with a new version: the second route serves the store `B`. -/
theorem route_serves_reassociated :
  ∃ cfg : (Machine.journaled (databaseRouter (Fin 5))).Config (Option RouteResult),
    (resultOf (cfg.threads 4)).bind RouteResult.connection
        = some ⟨8, "acme", "2", ⟨"B", "2"⟩⟩
    ∧ ∃ (view : TenantRoutingView) (event : RoutingAuditEvent),
      (seenBy 4 cfg.state.journal).used = some view
      ∧ (⟨"B", "2"⟩ : SecretRef) = view.databaseAssociationRef
      ∧ (seenBy 4 cfg.state.journal).accepted = some event ∧ event.outcome = "success"
      ∧ event.associationStoreRef = some "B" ∧ event.associationVersion = some "2"
  := by
  have hrun : ((acmeRouter.serving ["1"] (routesAround "2")).run keepsVersions
      (routeReassociateRoute "2")).map
        (fun cfg => (resultOf (cfg.threads 4)).bind RouteResult.connection)
      = some (some ⟨8, "acme", "2", ⟨"B", "2"⟩⟩) := by
    decide +kernel
  obtain ⟨cfg, hcfg, hconn⟩ := Machine.Reaches.of_map_run hrun
  obtain ⟨result, hresult, hconn'⟩ := Option.bind_eq_some_iff.mp hconn
  exact ⟨cfg, hconn, route_serves ["1"] (routesAround "2") acmeRouter_fresh hcfg (i := 4) rfl
    (threads_of_resultOf hresult) hconn'⟩

/-- A re-association with the version of the former association: after the cached view has
expired, the second route works with the view of the store `B` and hands back the idle
connection to the store `A`. -/
theorem route_serves_former :
  ¬ ∀ cfg : (Machine.journaled (databaseRouter (Fin 5))).Config (Option RouteResult),
    Machine.Reaches (Machine.anyCall _)
      (acmeRouter.serving ["1"] (routesAround "1")) cfg →
    ∀ i ctx bootstrapPhase0 lane, routesAround "1" i = .route ctx bootstrapPhase0 lane →
    ∀ result, cfg.threads i = some (.ret (.ok (some result))) →
    ∀ conn, result.connection = some conn →
    ∃ view event, (seenBy i cfg.state.journal).used = some view
      ∧ conn.openedFrom = view.databaseAssociationRef
      ∧ (seenBy i cfg.state.journal).accepted = some event ∧ event.outcome = "success"
      ∧ event.associationStoreRef = some conn.openedFrom.storeRef
      ∧ event.associationVersion = some conn.openedFrom.version
  := by
  intro hclaim
  have hrun : ((acmeRouter.serving ["1"] (routesAround "1")).run (Machine.anyCall _)
      (routeReassociateRoute "1")).map (fun cfg => ((resultOf (cfg.threads 4)).bind
        RouteResult.connection, (seenBy 4 cfg.state.journal).used.map
          TenantRoutingView.databaseAssociationRef))
      = some (some connectionToA, some ⟨"B", "1"⟩) := by
    decide +kernel
  obtain ⟨cfg, hcfg, hf⟩ := Machine.Reaches.of_map_run hrun
  obtain ⟨hconn, hused⟩ := Prod.mk.inj hf
  obtain ⟨result, hresult, hconn'⟩ := Option.bind_eq_some_iff.mp hconn
  obtain ⟨v, hv, href⟩ := Option.map_eq_some_iff.mp hused
  obtain ⟨view, event, hview, hfrom, -⟩ := hclaim cfg hcfg 4 _ _ _ rfl result
    (threads_of_resultOf hresult) connectionToA hconn'
  rw [hv] at hview
  obtain rfl := Option.some.inj hview
  rw [href] at hfrom
  revert hfrom
  decide

end Reassociation

end DatabaseRouter
