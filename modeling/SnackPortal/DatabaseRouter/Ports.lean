import SnackPortal.Program.Machine
import SnackPortal.DatabaseRouter.Cache
import SnackPortal.DatabaseRouter.Pool

/-!
# The calls of the router

The calls the router makes: on the routing-view cache, the control-plane read, the pools of the
two lanes and the audit port.  The machine that answers them also answers the changes the
control plane makes to its routing views.
-/

namespace DatabaseRouter

open ControlPlane (SecretRef)

/-- The exceptions of the router.  `port` is every exception that the router does not tell
apart. -/
inductive RouterError where
  | denied (d : RoutingDenied)
  | acquire (e : AcquireError)
  | port
deriving DecidableEq, Repr, Inhabited

/-- The calls. -/
inductive RouterOp where
  | mint
  | cacheGet (tenantId : String)
  | cachePut (tenantId : String) (view : TenantRoutingView)
  | cacheInvalidate (tenantId : String)
  | getRoutingView (tenantId : String)
  | acquire (lane : Lane) (tenantId : String) (associationRef : SecretRef)
  | release (lane : Lane) (conn : TenantConnection)
  | discard (lane : Lane) (conn : TenantConnection)
  | invalidateVersion (lane : Lane) (tenantId keepVersion : String)
  | initiate (event : RoutingAuditEvent)
  | putView (view : TenantRoutingView)
  | reassociate (tenantId : String) (newAssociationRef : SecretRef)
  | transition (tenantId lifecycleState : String) (ready : Bool)
deriving DecidableEq

/-- The type of the answers to a call. -/
abbrev RouterOp.Ans : RouterOp → Type
  | .mint => String × String
  | .cacheGet _ => Option TenantRoutingView
  | .cachePut _ _ => Unit
  | .cacheInvalidate _ => Unit
  | .getRoutingView _ => Option TenantRoutingView
  | .acquire _ _ _ => TenantConnection
  | .release _ _ => Unit
  | .discard _ _ => Unit
  | .invalidateVersion _ _ _ => Unit
  | .initiate _ => Unit
  | .putView _ => Unit
  | .reassociate _ _ => Unit
  | .transition _ _ _ => Unit

/-- The signature of the router. -/
abbrev routerSignature : Signature := ⟨RouterOp, RouterOp.Ans⟩

/-- A program of the router. -/
abbrev RouterProgram := Program routerSignature RouterError

/-- The cache and the pools of the router, the routing views of the control plane (for every
tenant the current one first, and behind it the former ones) and the audit trail. -/
structure RouterState where
  cache : RoutingViewCache
  pool : ConnectionPoolManager
  bulkPool : Option ConnectionPoolManager
  views : String → List TenantRoutingView
  trail : List RoutingAuditEvent

/-- What one call leaves to the outside world: the clock and a later reading of it, which
connections are alive, whether a connection resets, the material of the secret, and the
connection which the factory opens (its identity and its binding). -/
structure RouterChoice where
  /-- The call raises before it takes effect. -/
  fault : Bool
  now : Int
  later : Int
  eventId : String
  occurredAt : String
  isAlive : Nat → Bool
  resets : Bool
  /-- The control plane does not tell the view. -/
  unknown : Bool
  secret : Option String
  opened : Option (Nat × String × String)

namespace RouterState

variable (s : RouterState)

/-- The pools that serve a lane. -/
def poolFor : Lane → ConnectionPoolManager
  | .bulk => s.bulkPool.getD s.pool
  | .interactive => s.pool

/-- The state with other pools for a lane. -/
def setPoolFor (lane : Lane) (m : ConnectionPoolManager) : RouterState :=
  match lane with
  | .interactive => { s with pool := m }
  | .bulk =>
      match s.bulkPool with
      | none => { s with pool := m }
      | some _ => { s with bulkPool := some m }

@[simp] theorem setPoolFor_views (lane : Lane) (m : ConnectionPoolManager) :
  (s.setPoolFor lane m).views = s.views
  := by
  cases lane with
  | interactive => rfl
  | bulk =>
      rw [setPoolFor.eq_def]
      cases s.bulkPool <;> rfl

@[simp] theorem setPoolFor_cache (lane : Lane) (m : ConnectionPoolManager) :
  (s.setPoolFor lane m).cache = s.cache
  := by
  cases lane with
  | interactive => rfl
  | bulk =>
      rw [setPoolFor.eq_def]
      cases s.bulkPool <;> rfl

/-- `open_fn`: the secret of the reference is resolved, and the factory opens a connection. -/
def openConnection (c : RouterChoice) (associationRef : SecretRef) :
    Except AcquireError TenantConnection :=
  match c.secret, c.opened with
  | some _, some (serial, tenantId, associationVersion) =>
      .ok ⟨serial, tenantId, associationVersion, associationRef⟩
  | _, _ => .error .openFailed

/-- A connection is opened for the reference it is asked for. -/
theorem openConnection_from {c : RouterChoice} {ref : SecretRef} {conn : TenantConnection}
    (h : openConnection c ref = .ok conn) :
  conn.openedFrom = ref
  := by
  rw [openConnection] at h
  split at h
  · cases h
    rfl
  · cases h

/-- The view becomes the current one of its tenant. -/
def pushView (view : TenantRoutingView) : RouterState :=
  { s with views := Function.update s.views view.tenantId (view :: s.views view.tenantId) }

/-- A change of the current view of a tenant. -/
def changeView (tenantId : String) (change : TenantRoutingView → TenantRoutingView) :
    RouterState :=
  match s.views tenantId with
  | [] => s
  | view :: former =>
      { s with views := Function.update s.views tenantId (change view :: view :: former) }

/-- The answer to a call that does not fail. -/
def answer (c : RouterChoice) : (op : RouterOp) → Except RouterError op.Ans × RouterState
  | .mint => (.ok (c.eventId, c.occurredAt), s)
  | .cacheGet t => (.ok (s.cache.get c.now t).1, { s with cache := (s.cache.get c.now t).2 })
  | .cachePut t view => (.ok (), { s with cache := s.cache.put c.now t view })
  | .cacheInvalidate t => (.ok (), { s with cache := s.cache.invalidate t })
  | .getRoutingView t => (.ok (if c.unknown then none else (s.views t).head?), s)
  | .acquire lane t ref =>
      let acquired := (s.poolFor lane).acquire c.now (fun conn => c.isAlive conn.serial) t
        ref.version (openConnection c ref)
      (acquired.1.mapError .acquire, s.setPoolFor lane acquired.2)
  | .release lane conn =>
      (.ok (), s.setPoolFor lane
        ((s.poolFor lane).release c.now c.later c.resets (c.isAlive conn.serial) conn))
  | .discard lane conn => (.ok (), s.setPoolFor lane ((s.poolFor lane).discard conn))
  | .invalidateVersion lane t keepVersion =>
      (.ok (), s.setPoolFor lane ((s.poolFor lane).invalidateVersion t keepVersion))
  | .initiate event => (.ok (), { s with trail := s.trail ++ [event] })
  -- `put_tenant` is an upsert: it replaces whatever view the tenant has by now
  | .putView view => (.ok (), s.pushView view)
  | .reassociate t ref => (.ok (), s.changeView t fun view => { view with
      databaseAssociationRef := ref
      lifecycleState := "Verifying"
      ready := false })
  | .transition t lifecycleState ready => (.ok (), s.changeView t fun view => { view with
      lifecycleState := lifecycleState
      ready := ready })

end RouterState

/-- The router as a machine for the threads of `ι`. -/
abbrev databaseRouter (ι : Type) : Machine routerSignature RouterError ι where
  State := RouterState
  Choice := RouterChoice
  answer _ op c s := some (if c.fault then (.error .port, s) else s.answer c op)
  drop _ s := s

end DatabaseRouter
