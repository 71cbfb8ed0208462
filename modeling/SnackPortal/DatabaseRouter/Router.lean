import SnackPortal.DatabaseRouter.Ports

/-!
# The database router

A route determines its target, resolves the routing view of the active tenant, acquires a
connection for the association of the view, checks its binding, and is audited before it is
handed back.
-/

namespace DatabaseRouter

open ControlPlane (SecretRef)

/-- One call of the router. -/
def call (op : RouterOp) : RouterProgram op.Ans := Program.perform (S := routerSignature) op

/-- Deny the route. -/
def deny {α : Type} (d : RoutingDenied) : RouterProgram α := Program.raise (.denied d)

/-! ### Resolution -/

/-- The cached view of a tenant, or the one read from the control plane and then cached. -/
def routingView (tenantId : String) : RouterProgram TenantRoutingView := do
  match ← call (.cacheGet tenantId) with
  | some view => pure view
  | none => do
      let read ← (call (.getRoutingView tenantId)).rescue fun _ =>
        deny (unavailable "control_plane_unavailable")
      match read with
      | none => deny (notFound "not_found")
      | some view => do
          call (.cachePut tenantId view)
          pure view

/-- `RoutingResolver.resolve`. -/
def resolve (supportedSchemaVersions : List String) (tenantId : String) :
    RouterProgram TenantRoutingView := do
  let view ← routingView tenantId
  match denialForState view.lifecycleState view.ready with
  | some d => deny d
  | none =>
      if view.expectedSchemaVersion ∉ supportedSchemaVersions then
        deny (notReady "schema_out_of_range")
      else
        pure view

/-! ### Audit -/

/-- `_mint` and the emission of the event. -/
def emit (ctx : RequestContext) (action outcome : String) (tenantId resolvedTenantRef publicCode
    associationStoreRef associationVersion lane : Option String) : RouterProgram Unit := do
  let (eventId, occurredAt) ← call .mint
  call (.initiate
    { actorRef := match ctx.principalRef with
        | none => "<unknown>"
        | some principal => if principal = "" then "<unknown>" else principal
      action := action
      correlationId := ctx.correlationId
      outcome := outcome
      targetRef := tenantId
      eventId := eventId
      eventVersion := routingAuditEventVersion
      occurredAt := occurredAt
      sourceService := routingAuditSourceService
      sourceVersion := routingAuditSourceVersion
      requestRef := ctx.requestId
      resolvedTenantRef := resolvedTenantRef
      publicCode := publicCode
      associationStoreRef := associationStoreRef
      associationVersion := associationVersion
      lane := lane })

/-- `_denied`. -/
def auditDenied (ctx : RequestContext) (tenantId : Option String) (code : String) :
    RouterProgram Unit :=
  emit ctx "RouteDenied" ("denied:" ++ code) tenantId none (some code) none none none

/-- `_anomaly`. -/
def auditAnomaly (ctx : RequestContext) (tenantId resolvedTenantRef : Option String) :
    RouterProgram Unit :=
  emit ctx "IsolationAnomaly" "anomaly:tenant_binding" tenantId resolvedTenantRef none none none
    none

/-- `_ok` for a tenant route. -/
def auditRoute (ctx : RequestContext) (tenantId : String) (conn : TenantConnection)
    (view : TenantRoutingView) (lane : Lane) : RouterProgram Unit :=
  emit ctx "Route" "success" (some tenantId) (some conn.tenantId) none
    (some view.databaseAssociationRef.storeRef) (some conn.associationVersion) (some lane.value)

/-! ### Routing -/

def controlRole := "CONTROL"

/-- `_determine_target`. -/
def determineTarget (ctx : RequestContext) (bootstrapPhase0 : Bool) :
    Except RoutingDenied RoutingTarget :=
  if ctx.activeTenantId.isSome then
    if bootstrapPhase0 then
      .error (unavailable "tenant_routing_unavailable")
    else
      .ok .tenant
  else if ctx.role = some controlRole then
    .ok .control
  else
    .error (forbidden "no_active_tenant")

/-- `_acquire`. -/
def acquireConnection (tenantId : String) (associationRef : SecretRef) (lane : Lane) :
    RouterProgram TenantConnection :=
  (call (.acquire lane tenantId associationRef)).rescue fun
    | .denied d => deny d
    | _ => deny (unavailable "connection_unavailable")

/-- The view and the connection of a tenant route. -/
def bindTenant (supportedSchemaVersions : List String) (tenantId : String) (lane : Lane) :
    RouterProgram (TenantRoutingView × TenantConnection) := do
  let view ← resolve supportedSchemaVersions tenantId
  let conn ← acquireConnection view.tenantId view.databaseAssociationRef lane
  pure (view, conn)

/-- The rest of a tenant route: the binding check and the audit of the success. -/
def handBack (ctx : RequestContext) (tenantId : String) (lane : Lane)
    (view : TenantRoutingView) (conn : TenantConnection) : RouterProgram RouteResult :=
  if conn.tenantId ≠ tenantId then do
    auditAnomaly ctx (some tenantId) (some conn.tenantId)
    call (.discard lane conn)
    deny (unavailable "routing_isolation_fault")
  else do
    -- a route whose audit failed is never handed back
    (auditRoute ctx tenantId conn view lane).rescue fun _ => do
      call (.discard lane conn)
      deny (unavailable "routing_audit_unavailable")
    pure
      { target := .tenant
        tenantId := some tenantId
        associationVersion := some conn.associationVersion
        connection := some conn
        lane := lane }

/-- `route`. -/
def route (supportedSchemaVersions : List String) (ctx : RequestContext)
    (bootstrapPhase0 : Bool) (lane : Lane) : RouterProgram RouteResult :=
  match determineTarget ctx bootstrapPhase0 with
  | .error d => do
      auditDenied ctx ctx.activeTenantId d.publicCode
      deny d
  | .ok .control => do
      (emit ctx "RouteControl" "success" none none none none none none).rescue fun _ =>
        deny (unavailable "routing_audit_unavailable")
      pure { target := .control }
  | .ok .tenant => do
      let tenantId := ctx.activeTenantId.getD ""
      let (view, conn) ← (bindTenant supportedSchemaVersions tenantId lane).rescue fun
        | .denied d => do
            auditDenied ctx (some tenantId) d.publicCode
            deny d
        | e => Program.raise e
      handBack ctx tenantId lane view conn

/-- `release`. -/
def release (result : RouteResult) : RouterProgram Unit :=
  match result.connection with
  | none => pure ()
  | some conn => call (.release result.lane conn)

/-! ### The requests -/

/-- What the threads ask for: routes and releases, invalidations, and the changes the control
plane makes to the routing views, among them the upsert that ends a registration.  That one comes
whenever no record was read before, so it may replace a view that was written in between. -/
inductive RouterRequest where
  | route (ctx : RequestContext) (bootstrapPhase0 : Bool) (lane : Lane)
  | release (result : RouteResult)
  | invalidateTenant (tenantId : String)
  | invalidateVersion (lane : Lane) (tenantId keepVersion : String)
  | putView (view : TenantRoutingView)
  | reassociate (tenantId : String) (newAssociationRef : SecretRef)
  | transition (tenantId lifecycleState : String) (ready : Bool)

/-- The program of a request; a route ends with its result. -/
def RouterRequest.program (supportedSchemaVersions : List String) :
    RouterRequest → RouterProgram (Option RouteResult)
  | .route ctx bootstrapPhase0 lane => do
      let result ← DatabaseRouter.route supportedSchemaVersions ctx bootstrapPhase0 lane
      pure (some result)
  | .release result => do
      DatabaseRouter.release result
      pure none
  | .invalidateTenant t => do
      call (.cacheInvalidate t)
      pure none
  | .invalidateVersion lane t keepVersion => do
      call (.invalidateVersion lane t keepVersion)
      pure none
  | .putView view => do
      call (.putView view)
      pure none
  | .reassociate t ref => do
      call (.reassociate t ref)
      pure none
  | .transition t lifecycleState ready => do
      call (.transition t lifecycleState ready)
      pure none

end DatabaseRouter
