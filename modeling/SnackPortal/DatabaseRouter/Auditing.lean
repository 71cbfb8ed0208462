import SnackPortal.Program.Evaluation
import SnackPortal.DatabaseRouter.Borrowing
import SnackPortal.DatabaseRouter.Router

/-!
# Audited routes

The audit port of the router is a policy over a transport that may fail: it sends an event once
more where the transport is unavailable, it lets the failure of a success event through and
swallows that of a denial.  Whatever the control plane, the secret store, the factory and the
transport answer, a route is handed back after its success event was accepted, or it is denied
and every pool has in use what it had before (`route_audited`).
-/

namespace DatabaseRouter

open Program
open ControlPlane (SecretRef)

/-! ### The policy -/

/-- The failures of the audit transport: its three kinds, and every other exception. -/
inductive AuditFailure where
  | unavailable
  | invalid
  | conflict
  | other
deriving DecidableEq, Repr, Inhabited

/-- One call of the transport, with the failure it raised where it raised one. -/
structure Sending where
  event : RoutingAuditEvent
  failure : Option AuditFailure
deriving DecidableEq, Repr, Inhabited

/-- The two degradation counters. -/
structure BoundedRoutingAuditPolicy where
  routeDeniedAuditFailures : Nat
  isolationAnomalyAuditFailures : Nat
deriving DecidableEq, Repr, Inhabited

namespace BoundedRoutingAuditPolicy

variable (policy : BoundedRoutingAuditPolicy)

/-- `_retryable`. -/
def retryable (failure : AuditFailure) : Bool := failure == .unavailable

/-- `_terminal`: whether the failure is raised, and the counters. -/
def terminal (event : RoutingAuditEvent) (failure : AuditFailure) :
    Option AuditFailure × BoundedRoutingAuditPolicy :=
  if event.action = "RouteDenied" then
    (none, { policy with routeDeniedAuditFailures := policy.routeDeniedAuditFailures + 1 })
  else if event.action = "IsolationAnomaly" then
    (none,
      { policy with isolationAnomalyAuditFailures := policy.isolationAnomalyAuditFailures + 1 })
  else
    (some failure, policy)

/-- `initiate`, where the transport answers `first` and `second`: what is raised, the counters,
and the calls of the transport, the latest first. -/
def initiate (event : RoutingAuditEvent) (first second : Option AuditFailure) :
    Option AuditFailure × BoundedRoutingAuditPolicy × List Sending :=
  match first with
  | none => (none, policy, [⟨event, none⟩])
  | some failure =>
      if !retryable failure then
        let (raised, policy) := policy.terminal event failure
        (raised, policy, [⟨event, some failure⟩])
      else
        match second with
        | none => (none, policy, [⟨event, none⟩, ⟨event, some failure⟩])
        | some again =>
            let (raised, policy) := policy.terminal event again
            (raised, policy, [⟨event, some again⟩, ⟨event, some failure⟩])

/-- The failure of the event is swallowed. -/
def Swallows (event : RoutingAuditEvent) : Prop :=
  event.action = "RouteDenied" ∨ event.action = "IsolationAnomaly"

/-- The calls of the transport for one event: one, or a second one after the transport was
unavailable. -/
def Attempts (event : RoutingAuditEvent) (sendings : List Sending) : Prop :=
  ∃ last, sendings = [⟨event, last⟩]
    ∨ sendings = [⟨event, last⟩, ⟨event, some .unavailable⟩]

/-- The events the transport accepted. -/
def accepted (sendings : List Sending) : List RoutingAuditEvent :=
  (sendings.filter fun sending => sending.failure = none).map (·.event)

variable {policy}

theorem terminal_swallows {event : RoutingAuditEvent} {failure : AuditFailure} :
  (policy.terminal event failure).1 = none ↔ Swallows event
  := by
  rw [terminal, Swallows]
  split
  · rename_i h
    exact iff_of_true rfl (.inl h)
  · split
    · rename_i h
      exact iff_of_true rfl (.inr h)
    · rename_i h h'
      exact iff_of_false (nomatch ·) (not_or.mpr ⟨h, h'⟩)

/-- The policy sends an event at most twice and raises where neither was accepted, unless the
failure is swallowed. -/
theorem initiate_attempts (policy : BoundedRoutingAuditPolicy) (event : RoutingAuditEvent)
    (first second : Option AuditFailure) :
  Attempts event (policy.initiate event first second).2.2
    ∧ ((policy.initiate event first second).1 = none ↔ Swallows event
      ∨ accepted (policy.initiate event first second).2.2 = [event])
  := by
  cases first with
  | none => exact ⟨⟨none, .inl rfl⟩, iff_of_true rfl (.inr rfl)⟩
  | some failure =>
      cases hretry : retryable failure with
      | false =>
          simp only [initiate, hretry, Bool.not_false, if_true]
          refine ⟨⟨_, .inl rfl⟩, ?_⟩
          rw [terminal_swallows]
          exact (or_iff_left (nomatch ·)).symm
      | true =>
          obtain rfl := beq_iff_eq.mp hretry
          simp only [initiate, hretry, Bool.not_true, Bool.false_eq_true, if_false]
          cases second with
          | none => exact ⟨⟨_, .inr rfl⟩, iff_of_true rfl (.inr rfl)⟩
          | some again =>
              refine ⟨⟨_, .inr rfl⟩, ?_⟩
              rw [terminal_swallows]
              exact (or_iff_left (nomatch ·)).symm

end BoundedRoutingAuditPolicy

/-! ### The outside world of a route -/

/-- What one call leaves to the outside world: the clock, the minted identity of an event, the
connections that are alive, the answer of the control plane, the connection that the secret and
the factory lead to, and the answers of the transport to two sendings. -/
structure RoutingOutside where
  now : Int
  eventId : String
  occurredAt : String
  isAlive : Nat → Bool
  view : Except RouterError (Option TenantRoutingView)
  opening : Except RouterError (Nat × String × String)
  first : Option AuditFailure
  second : Option AuditFailure

/-- The router with its audit policy, the calls of the transport so far, the latest first, and
the outside world of its calls. -/
structure AuditedRouter where
  router : RouterState
  policy : BoundedRoutingAuditPolicy
  sent : List Sending
  outside : Nat → RoutingOutside
  used : Nat

namespace AuditedRouter

/-- The choice of a call that reaches no port. -/
def choice (o : RoutingOutside) : RouterChoice where
  fault := false
  now := o.now
  later := o.now
  eventId := o.eventId
  occurredAt := o.occurredAt
  isAlive := o.isAlive
  resets := true
  unknown := true
  secret := none
  opened := none

/-- What `open_fn` ends with, for the reference it is asked for. -/
def opening (o : RoutingOutside) (ref : SecretRef) : Except AcquireError TenantConnection :=
  match o.opening with
  | .ok (serial, tenantId, associationVersion) => .ok ⟨serial, tenantId, associationVersion, ref⟩
  | .error _ => .error .openFailed

/-- The exception of a failed acquisition; that of `open_fn` is passed on. -/
def acquireError (o : RoutingOutside) : AcquireError → RouterError
  | .poolExhausted => .acquire .poolExhausted
  | .openFailed =>
      match o.opening with
      | .error e => e
      | .ok _ => .acquire .openFailed

/-- The answer to a call of a route. -/
def answer : Answering routerSignature RouterError AuditedRouter := fun op s =>
  let o := s.outside s.used
  let s := { s with used := s.used + 1 }
  match op with
  | .mint => (.ok (o.eventId, o.occurredAt), s)
  | .getRoutingView _ => (o.view, s)
  | .acquire lane t ref =>
      let acquired := (s.router.poolFor lane).acquire o.now (fun conn => o.isAlive conn.serial) t
        ref.version (opening o ref)
      (acquired.1.mapError (acquireError o),
        { s with router := s.router.setPoolFor lane acquired.2 })
  | .initiate event =>
      let (raised, policy, sendings) := s.policy.initiate event o.first o.second
      (match raised with
        | none => .ok ()
        | some _ => .error .port,
        { s with policy := policy, sent := sendings ++ s.sent })
  | op =>
      let (r, router) := s.router.answer (choice o) op
      (r, { s with router := router })

/-! ### The pools of a lane -/

/-- Every pool of every lane has in use what it had. -/
def Still (s s' : AuditedRouter) : Prop :=
  ∀ lane key, (s'.router.poolFor lane).inUse key = (s.router.poolFor lane).inUse key

/-- Neither the pools nor the trail have changed. -/
structure Aside (s s' : AuditedRouter) : Prop where
  pool : s'.router.pool = s.router.pool
  bulkPool : s'.router.bulkPool = s.router.bulkPool
  sent : s'.sent = s.sent
  outside : s'.outside = s.outside

theorem Aside.trans {s s' s'' : AuditedRouter} (h : Aside s s') (h' : Aside s' s'') :
  Aside s s''
  := ⟨h'.pool.trans h.pool, h'.bulkPool.trans h.bulkPool, h'.sent.trans h.sent,
    h'.outside.trans h.outside⟩

theorem Aside.poolFor {s s' : AuditedRouter} (h : Aside s s') (lane : Lane) :
  s'.router.poolFor lane = s.router.poolFor lane
  := by
  cases lane with
  | interactive => exact h.pool
  | bulk =>
      rw [RouterState.poolFor, RouterState.poolFor, h.pool, h.bulkPool]

theorem Aside.still {s s' : AuditedRouter} (h : Aside s s') :
  Still s s'
  := by
  intro lane key
  rw [h.poolFor]

theorem poolFor_setPoolFor (router : RouterState) (lane : Lane) (m : ConnectionPoolManager) :
  (router.setPoolFor lane m).poolFor lane = m
  := by
  obtain ⟨cache, pool, bulkPool, views, trail⟩ := router
  cases lane <;> cases bulkPool <;> rfl

/-- Pools that have in use what those of the lane had leave every lane as it was. -/
theorem inUse_setPoolFor {router : RouterState} {lane : Lane} {m : ConnectionPoolManager}
    (h : ∀ key, m.inUse key = (router.poolFor lane).inUse key) (lane' : Lane) (key : PoolKey) :
  ((router.setPoolFor lane m).poolFor lane').inUse key = (router.poolFor lane').inUse key
  := by
  obtain ⟨cache, pool, bulkPool, views, trail⟩ := router
  cases lane <;> cases lane' <;> cases bulkPool <;> first | rfl | apply h

/-- Only the pools of the lane differ. -/
theorem inUse_setPoolFor_twice {router : RouterState} {lane : Lane}
    {m m' : ConnectionPoolManager} (h : ∀ key, m'.inUse key = (router.poolFor lane).inUse key)
    (lane' : Lane) (key : PoolKey) :
  (((router.setPoolFor lane m).setPoolFor lane m').poolFor lane').inUse key
    = (router.poolFor lane').inUse key
  := by
  obtain ⟨cache, pool, bulkPool, views, trail⟩ := router
  cases lane <;> cases lane' <;> cases bulkPool <;> first | rfl | apply h

/-- The route has borrowed the connection from a pool of the lane, and nothing else. -/
structure Borrowed (lane : Lane) (conn : TenantConnection) (s s' : AuditedRouter) : Prop where
  sent : s'.sent = s.sent
  sized : (s'.router.poolFor lane).Sized
  self : (s'.router.poolFor lane).inUse conn.key
    = conn :: (s.router.poolFor lane).inUse conn.key
  others : ∀ key, key ≠ conn.key →
    (s'.router.poolFor lane).inUse key = (s.router.poolFor lane).inUse key
  lanes : ∀ m : ConnectionPoolManager,
    (∀ key, m.inUse key = (s.router.poolFor lane).inUse key) → ∀ lane' key,
      ((s'.router.setPoolFor lane m).poolFor lane').inUse key
        = (s.router.poolFor lane').inUse key

theorem Borrowed.after {lane : Lane} {conn : TenantConnection} {s s' s'' : AuditedRouter}
    (h : Borrowed lane conn s' s'') (hs : Aside s s') :
  Borrowed lane conn s s''
  := by
  constructor
  · rw [h.sent, hs.sent]
  · apply h.sized
  · rw [h.self, hs.poolFor]
  · intro key hkey
    rw [h.others key hkey, hs.poolFor]
  · intro m hm lane' key
    rw [← hs.poolFor] at hm
    rw [h.lanes m hm, hs.poolFor]

/-- A borrowed connection that is discarded leaves every pool in use what it had. -/
theorem Borrowed.discard {lane : Lane} {conn : TenantConnection} {s s' s'' : AuditedRouter}
    (h : Borrowed lane conn s s') (hs : s''.router = s'.router) :
  Still s ((answer (.discard lane conn) s'').2)
  := by
  have hreturned := ConnectionPoolManager.discard_returned h.sized conn
  intro lane' key
  change ((s''.router.setPoolFor lane ((s''.router.poolFor lane).discard conn)).poolFor
    lane').inUse key = _
  rw [hs]
  apply h.lanes
  intro key'
  rw [hreturned.inUse]
  split
  · rename_i hkey
    rw [hkey, h.self, List.erase_cons_head]
  · rename_i hkey
    apply h.others key' hkey

/-! ### The parts of a route -/

/-- One event was emitted: the calls of the transport for it, and what came of them. -/
structure Emitted (action outcome : String) (s : AuditedRouter) (r : Except RouterError Unit)
    (s' : AuditedRouter) : Prop where
  router : s'.router = s.router
  sent : ∃ event sendings, s'.sent = sendings ++ s.sent
    ∧ BoundedRoutingAuditPolicy.Attempts event sendings
    ∧ event.action = action ∧ event.outcome = outcome
    ∧ (r = .ok () ∧ (BoundedRoutingAuditPolicy.Swallows event
        ∨ BoundedRoutingAuditPolicy.accepted sendings = [event])
      ∨ r = .error .port ∧ ¬ BoundedRoutingAuditPolicy.Swallows event)

theorem Emitted.from {action outcome : String} {s s' s'' : AuditedRouter}
    {r : Except RouterError Unit} (hrouter : s'.router = s.router) (hsent : s'.sent = s.sent)
    (h : Emitted action outcome s' r s'') :
  Emitted action outcome s r s''
  := ⟨h.router.trans hrouter, hsent ▸ h.sent⟩

/-- The policy emits one event. -/
theorem initiate_emitted (event : RoutingAuditEvent) (s : AuditedRouter)
    {action outcome : String} (haction : event.action = action)
    (houtcome : event.outcome = outcome) :
  Emitted action outcome s (answer (.initiate event) s).1 (answer (.initiate event) s).2
  := by
  obtain ⟨hattempts, hraised⟩ := BoundedRoutingAuditPolicy.initiate_attempts s.policy
    event (s.outside s.used).first (s.outside s.used).second
  constructor
  · rfl
  · refine ⟨event, _, rfl, hattempts, haction, houtcome, ?_⟩
    simp only [answer]
    cases hr : (s.policy.initiate event (s.outside s.used).first (s.outside s.used).second).1 with
    | none => exact .inl ⟨rfl, hraised.mp hr⟩
    | some failure =>
        right
        refine ⟨rfl, ?_⟩
        intro hswallows
        cases hr.symm.trans (hraised.mpr (.inl hswallows))

theorem emit_emitted (ctx : RequestContext) (action outcome : String)
    (tenantId resolvedTenantRef publicCode associationStoreRef associationVersion lane :
      Option String) (s : AuditedRouter) :
  Ends answer (emit ctx action outcome tenantId resolvedTenantRef publicCode associationStoreRef
    associationVersion lane) s (Emitted action outcome s)
  := by
  apply Ends.bind (Q := fun r s' => s'.router = s.router ∧ s'.sent = s.sent
    ∧ ∃ minted, r = .ok minted)
  · apply Ends.perform
    exact ⟨rfl, rfl, _, rfl⟩
  · rintro ⟨eventId, occurredAt⟩ s' ⟨hrouter, hsent, _⟩
    apply Ends.perform
    apply Emitted.from hrouter hsent
    apply initiate_emitted
    · rfl
    · rfl
  · rintro e s' ⟨_, _, _, h⟩
    cases h

/-- The emission of a denial or of an anomaly never raises. -/
theorem Emitted.swallowed {action outcome : String} {s s' : AuditedRouter}
    {r : Except RouterError Unit} (h : Emitted action outcome s r s')
    (haction : action = "RouteDenied" ∨ action = "IsolationAnomaly") :
  r = .ok ()
  := by
  obtain ⟨event, _, _, _, rfl, _, ⟨hr, _⟩ | ⟨_, hswallows⟩⟩ := h.sent
  · apply hr
  · exact absurd haction hswallows

theorem routingView_aside (tenantId : String) (s : AuditedRouter) :
  Ends answer (routingView tenantId) s fun r s' =>
    Aside s s' ∧ ∀ e, r = .error e → ∃ d, e = .denied d
  := by
  apply Ends.bind (Q := fun r s' => Aside s s' ∧ ∃ cached, r = .ok cached)
  · apply Ends.perform
    exact ⟨⟨rfl, rfl, rfl, rfl⟩, _, rfl⟩
  · rintro (_ | view) s₁ ⟨h₁, _⟩
    · apply Ends.bind (Q := fun r s' => Aside s s' ∧ ∀ e, r = .error e → ∃ d, e = .denied d)
      · apply Ends.rescue (Q := fun _ s' => Aside s s')
        · apply Ends.perform
          exact h₁.trans ⟨rfl, rfl, rfl, rfl⟩
        · intro read s₂ h₂
          exact ⟨h₂, nofun⟩
        · intro e s₂ h₂
          apply Ends.raise
          exact ⟨h₂, fun _ he => ⟨_, (Except.error.inj he).symm⟩⟩
      · rintro (_ | view) s₂ ⟨h₂, _⟩
        · apply Ends.raise
          exact ⟨h₂, fun _ he => ⟨_, (Except.error.inj he).symm⟩⟩
        · apply Ends.bind (Q := fun r s' => Aside s s' ∧ r = .ok ())
          · apply Ends.perform
            exact ⟨h₂.trans ⟨rfl, rfl, rfl, rfl⟩, rfl⟩
          · intro _ s₃ h₃
            exact ⟨h₃.1, nofun⟩
          · rintro e s₃ ⟨_, h⟩
            cases h
      · exact fun e s₂ h₂ => ⟨h₂.1, fun e' he => h₂.2 e' (congrArg Except.error (Except.error.inj he))⟩
    · exact ⟨h₁, nofun⟩
  · rintro e s₁ ⟨_, _, h⟩
    cases h

theorem resolve_aside (supportedSchemaVersions : List String) (tenantId : String)
    (s : AuditedRouter) :
  Ends answer (resolve supportedSchemaVersions tenantId) s fun r s' =>
    Aside s s' ∧ ∀ e, r = .error e → ∃ d, e = .denied d
  := by
  apply Ends.bind (routingView_aside tenantId s)
  · rintro view s₁ ⟨h₁, _⟩
    split
    · apply Ends.raise
      exact ⟨h₁, fun _ he => ⟨_, (Except.error.inj he).symm⟩⟩
    · split
      · apply Ends.raise
        exact ⟨h₁, fun _ he => ⟨_, (Except.error.inj he).symm⟩⟩
      · exact ⟨h₁, nofun⟩
  · exact fun e s₁ h₁ => ⟨h₁.1, fun e' he => h₁.2 e' (congrArg Except.error (Except.error.inj he))⟩

/-- The idle connections are under their own key, and none is in use. -/
structure Tidy (m : ConnectionPoolManager) : Prop where
  sized : m.Sized
  keyed : ∀ key, ∀ conn ∈ m.idleOf key, conn.key = key
  apart : ∀ key, ∀ conn ∈ m.idleOf key, conn ∉ m.inUse key

/-- The pools that borrowers reach are tidy. -/
theorem Tidy.of_reached {β : Type} [DecidableEq β] {maxPerTenant : Nat} {idleTimeout : Int}
    {s : Lending β} (h : Lending.Reached maxPerTenant idleTimeout s) :
  Tidy s.manager
  := by
  refine ⟨h.sound.sized, h.sound.keyed, ?_⟩
  intro key conn hconn
  exact (h.sound.exclusive.idle key conn hconn).2.1 key

/-- The factory opens no connection that is in use. -/
def OpensFresh (s : AuditedRouter) : Prop :=
  ∀ n serial tenantId associationVersion,
    (s.outside n).opening = .ok (serial, tenantId, associationVersion) →
    ∀ lane key, ∀ conn ∈ (s.router.poolFor lane).inUse key, conn.serial ≠ serial

/-- What an acquisition answers: one connection borrowed, or an exception and nothing. -/
theorem acquire_answer {s : AuditedRouter} {lane : Lane} (htidy : Tidy (s.router.poolFor lane))
    (hfresh : OpensFresh s) (tenantId : String) (ref : SecretRef) :
  (∃ conn, (answer (.acquire lane tenantId ref) s).1 = .ok conn
      ∧ Borrowed lane conn s (answer (.acquire lane tenantId ref) s).2)
    ∨ ∃ e, (answer (.acquire lane tenantId ref) s).1 = .error e
      ∧ Still s (answer (.acquire lane tenantId ref) s).2
      ∧ (answer (.acquire lane tenantId ref) s).2.sent = s.sent
  := by
  simp only [answer]
  rcases ConnectionPoolManager.acquire_cases htidy.sized (s.outside s.used).now
    (fun conn => (s.outside s.used).isAlive conn.serial) tenantId ref.version
    (opening (s.outside s.used) ref) with ⟨conn, hconn, hlent, hsource⟩ | ⟨e, he, hkept⟩
  · left
    have hbound : conn.key = (tenantId, ref.version)
        ∧ conn ∉ (s.router.poolFor lane).inUse (tenantId, ref.version) := by
      cases hsource with
      | reused halive htaken =>
          have hidle := htaken.subset List.mem_cons_self
          exact ⟨htidy.keyed _ conn hidle, htidy.apart _ conn hidle⟩
      | minted hopens hbound hemptied hroom =>
          refine ⟨hbound, ?_⟩
          intro hinUse
          rw [opening] at hopens
          split at hopens
          · rename_i hopening
            obtain rfl := Except.ok.inj hopens
            exact hfresh _ _ _ _ hopening lane _ _ hinUse rfl
          · cases hopens
    obtain ⟨hkey, hunused⟩ := hbound
    refine ⟨conn, congrArg (Except.mapError _) hconn, rfl, ?_, ?_, ?_, ?_⟩
    · rw [poolFor_setPoolFor]
      apply hlent.sized
    · rw [poolFor_setPoolFor, hkey, hlent.inUse_self, List.insert_of_not_mem hunused]
    · intro key hne
      rw [poolFor_setPoolFor]
      apply hlent.inUse_of_ne key
      rwa [hkey] at hne
    · intro m hm lane' key
      apply inUse_setPoolFor_twice hm
  · right
    refine ⟨_, congrArg (Except.mapError _) he, ?_, trivial⟩
    intro lane' key
    apply inUse_setPoolFor
    intro key'
    apply hkept.inUse

/-- What a route holds after it has tried to bind the tenant. -/
def Bound (lane : Lane) (s : AuditedRouter) :
    Except RouterError (TenantRoutingView × TenantConnection) → AuditedRouter → Prop
  | .ok (_, conn), s' => Borrowed lane conn s s'
  | .error e, s' => (∃ d, e = .denied d) ∧ Still s s' ∧ s'.sent = s.sent

theorem bindTenant_bound (supportedSchemaVersions : List String) (tenantId : String) {lane : Lane}
    {s : AuditedRouter} (htidy : Tidy (s.router.poolFor lane)) (hfresh : OpensFresh s) :
  Ends answer (bindTenant supportedSchemaVersions tenantId lane) s (Bound lane s)
  := by
  apply Ends.bind (resolve_aside supportedSchemaVersions tenantId s)
  · rintro view s₁ ⟨h₁, _⟩
    have htidy₁ : Tidy (s₁.router.poolFor lane) := by
      rw [h₁.poolFor]
      apply htidy
    have hfresh₁ : OpensFresh s₁ := by
      intro n serial t v hopening lane' key conn hconn
      rw [h₁.outside] at hopening
      rw [h₁.poolFor] at hconn
      apply hfresh n serial t v hopening lane' key conn hconn
    apply Ends.bind (Q := fun r s' => match r with
      | .ok conn => Borrowed lane conn s s'
      | .error e => (∃ d, e = .denied d) ∧ Still s s' ∧ s'.sent = s.sent)
    · apply Ends.rescue (Q := fun r s' => match r with
        | .ok conn => Borrowed lane conn s s'
        | .error _ => Still s s' ∧ s'.sent = s.sent)
      · apply Ends.perform
        rcases acquire_answer htidy₁ hfresh₁ view.tenantId view.databaseAssociationRef with
          ⟨conn, hconn, hborrowed⟩ | ⟨e, he, hstill, hsent⟩
        · rw [hconn]
          exact hborrowed.after h₁
        · rw [he]
          refine ⟨?_, hsent.trans h₁.sent⟩
          intro lane' key
          rw [hstill, h₁.poolFor]
      · exact fun conn s₂ h₂ => h₂
      · rintro e s₂ h₂
        cases e with
        | denied d =>
            apply Ends.raise
            exact ⟨⟨d, rfl⟩, h₂⟩
        | acquire e =>
            apply Ends.raise
            exact ⟨⟨_, rfl⟩, h₂⟩
        | port =>
            apply Ends.raise
            exact ⟨⟨_, rfl⟩, h₂⟩
    · intro conn s₂ h₂
      exact h₂
    · exact fun e s₂ h₂ => h₂
  · rintro e s₁ ⟨h₁, he⟩
    exact ⟨he e rfl, h₁.still, h₁.sent⟩

/-- A route was handed back, bound to the active tenant, after its success event was accepted,
or it was denied and every pool has in use what it had; one event was sent, at most twice. -/
def Audited (ctx : RequestContext) (s : AuditedRouter) (r : Except RouterError RouteResult)
    (s' : AuditedRouter) : Prop :=
  ∃ event sendings, s'.sent = sendings ++ s.sent
    ∧ BoundedRoutingAuditPolicy.Attempts event sendings
    ∧ ((∃ result, r = .ok result ∧ result.connection.map (·.tenantId) = ctx.activeTenantId
        ∧ event.outcome = "success" ∧ BoundedRoutingAuditPolicy.accepted sendings = [event])
      ∨ ∃ d, r = .error (.denied d) ∧ Still s s')

/-- A denial after an event whose failure is swallowed. -/
theorem Emitted.denied {ctx : RequestContext} {action outcome : String}
    {s s₁ s₂ s₃ : AuditedRouter} {r : Except RouterError Unit} (h : Emitted action outcome s₁ r s₂)
    (hsent : s₁.sent = s.sent) (hsent' : s₃.sent = s₂.sent) (hstill : Still s s₃)
    (d : RoutingDenied) :
  Audited ctx s (.error (.denied d)) s₃
  := by
  obtain ⟨event, sendings, hevents, hattempts, _⟩ := h.sent
  refine ⟨event, sendings, ?_, hattempts, .inr ⟨d, rfl, hstill⟩⟩
  rw [hsent', hevents, hsent]

theorem auditDenied_denied {α : Type} {ctx : RequestContext} {s s₁ : AuditedRouter}
    (hsent : s₁.sent = s.sent) (hstill : Still s s₁) (tenantId : Option String)
    (d : RoutingDenied) :
  Ends answer (auditDenied ctx tenantId d.publicCode >>= fun _ => deny d : RouterProgram α) s₁
    fun r s' => r = .error (.denied d) ∧ Audited ctx s (.error (.denied d)) s'
  := by
  apply Ends.bind (emit_emitted ctx "RouteDenied" _ tenantId none _ none none none s₁)
  · intro _ s₂ h₂
    apply Ends.raise
    refine ⟨rfl, h₂.denied hsent rfl ?_ d⟩
    intro lane key
    rw [h₂.router]
    apply hstill
  · intro e s₂ h₂
    cases h₂.swallowed (.inl rfl)

/-- The success event of a route that was accepted. -/
theorem Emitted.success {ctx : RequestContext} {action : String} {s s₁ s₂ : AuditedRouter}
    {a : Unit} {result : RouteResult} (h : Emitted action "success" s₁ (.ok a) s₂)
    (hsent : s₁.sent = s.sent) (hbound : result.connection.map (·.tenantId) = ctx.activeTenantId)
    (haction : action ≠ "RouteDenied" ∧ action ≠ "IsolationAnomaly") :
  Audited ctx s (.ok result) s₂
  := by
  obtain ⟨event, sendings, hevents, hattempts, rfl, houtcome, ⟨_, haccepted⟩ | ⟨hr, _⟩⟩ := h.sent
  · have hswallows : ¬ BoundedRoutingAuditPolicy.Swallows event := not_or.mpr haction
    refine ⟨event, sendings, ?_, hattempts, .inl ⟨result, rfl, hbound, houtcome, ?_⟩⟩
    · rw [hevents, hsent]
    · exact (or_iff_right hswallows).mp haccepted
  · cases hr

/-- A borrowed connection is discarded after the event, and the route denied. -/
theorem discard_denied {α : Type} {ctx : RequestContext} {lane : Lane} {conn : TenantConnection}
    {action outcome : String} {s s₁ s₂ : AuditedRouter} {r : Except RouterError Unit}
    (h₁ : Borrowed lane conn s s₁) (h₂ : Emitted action outcome s₁ r s₂) (d : RoutingDenied) :
  Ends answer (call (.discard lane conn) >>= fun _ => deny d : RouterProgram α) s₂
    fun r s' => r = .error (.denied d) ∧ Audited ctx s (.error (.denied d)) s'
  := by
  have hsent : (answer (.discard lane conn) s₂).2.sent = s₂.sent := rfl
  apply Ends.bind (Q := fun r s' => r = .ok () ∧ s' = (answer (.discard lane conn) s₂).2)
  · apply Ends.perform
    exact ⟨rfl, rfl⟩
  · rintro _ s₃ ⟨_, rfl⟩
    apply Ends.raise
    exact ⟨rfl, h₂.denied h₁.sent hsent (h₁.discard h₂.router) d⟩
  · rintro e s₃ ⟨he, _⟩
    cases he

theorem handBack_audited {ctx : RequestContext} {tenantId : String}
    (htenant : ctx.activeTenantId = some tenantId) {lane : Lane} (view : TenantRoutingView)
    {conn : TenantConnection} {s s₁ : AuditedRouter} (h₁ : Borrowed lane conn s s₁) :
  Ends answer (handBack ctx tenantId lane view conn) s₁ (Audited ctx s)
  := by
  rw [handBack]
  split
  · apply Ends.bind (emit_emitted ctx "IsolationAnomaly" _ _ _ none none none none s₁)
    · intro _ s₂ h₂
      apply (discard_denied h₁ h₂ _).mono
      rintro r s' ⟨rfl, h⟩
      exact h
    · intro e s₂ h₂
      cases h₂.swallowed (.inr rfl)
  · rename_i hsame
    have hemitted := emit_emitted ctx "Route" "success" (some tenantId) (some conn.tenantId) none
      (some view.databaseAssociationRef.storeRef) (some conn.associationVersion)
      (some lane.value) s₁
    apply Ends.bind (Q := fun r s' => match r with
      | .ok a => Emitted "Route" "success" s₁ (.ok a) s'
      | .error e => Audited ctx s (.error e) s')
    · apply Ends.rescue hemitted
      · exact fun a s₂ h₂ => h₂
      · intro e s₂ h₂
        apply (discard_denied h₁ h₂ _).mono
        rintro r s' ⟨rfl, h⟩
        exact h
    · intro a s₂ h₂
      apply Ends.pure
      refine h₂.success h₁.sent ?_ ⟨by decide, by decide⟩
      rw [htenant]
      exact congrArg some (not_not.mp hsame)
    · exact fun e s₂ h₂ => h₂

/-- Whatever its ports answer, a route is handed back after its success event was accepted, or
it is denied and every pool has in use what it had. -/
theorem route_ends (supportedSchemaVersions : List String) (ctx : RequestContext)
    (bootstrapPhase0 : Bool) (lane : Lane) {s : AuditedRouter}
    (htidy : Tidy (s.router.poolFor lane)) (hfresh : OpensFresh s) :
  Ends answer (route supportedSchemaVersions ctx bootstrapPhase0 lane) s (Audited ctx s)
  := by
  rw [route]
  cases htarget : determineTarget ctx bootstrapPhase0 with
  | error d =>
      apply (auditDenied_denied rfl (fun _ _ => rfl) ctx.activeTenantId d).mono
      rintro r s' ⟨rfl, h⟩
      exact h
  | ok target =>
      rw [determineTarget] at htarget
      cases htenant : ctx.activeTenantId with
      | none =>
          rw [htenant] at htarget
          simp only [Option.isSome_none, Bool.false_eq_true, if_false] at htarget
          split at htarget
          · obtain rfl := Except.ok.inj htarget
            apply Ends.bind (Q := fun r s' => match r with
              | .ok a => Emitted "RouteControl" "success" s (.ok a) s'
              | .error e => Audited ctx s (.error e) s')
            · apply Ends.rescue (emit_emitted ctx "RouteControl" "success" none none none none
                none none s)
              · exact fun a s₁ h₁ => h₁
              · intro e s₁ h₁
                apply Ends.raise
                apply h₁.denied rfl rfl
                intro lane' key
                rw [h₁.router]
            · intro a s₁ h₁
              apply Ends.pure
              refine h₁.success rfl htenant.symm ⟨by decide, by decide⟩
            · exact fun e s₁ h₁ => h₁
          · cases htarget
      | some tenantId =>
          rw [htenant] at htarget
          simp only [Option.isSome_some, if_true] at htarget
          split at htarget
          · cases htarget
          · obtain rfl := Except.ok.inj htarget
            simp only [Option.getD_some]
            apply Ends.bind (Q := fun r s' => match r with
              | .ok (_, conn) => Borrowed lane conn s s'
              | .error e => Audited ctx s (.error e) s')
            · apply Ends.rescue (bindTenant_bound supportedSchemaVersions tenantId htidy hfresh)
              · exact fun a s₁ h₁ => h₁
              · rintro e s₁ ⟨⟨d, rfl⟩, hstill, hsent⟩
                apply (auditDenied_denied hsent hstill (some tenantId) d).mono
                rintro r s' ⟨rfl, h⟩
                exact h
            · rintro ⟨view, conn⟩ s₁ h₁
              apply handBack_audited htenant view h₁
            · exact fun e s₁ h₁ => h₁

/-! ### Denials and the transport -/

/-- The same router before a transport that accepts every event. -/
def accepting (s : AuditedRouter) : AuditedRouter :=
  { s with outside := fun n => { s.outside n with first := none } }

/-- The second state is the first one before a transport that accepts every event; what was sent
may differ. -/
structure Alike (s s' : AuditedRouter) : Prop where
  router : s'.router = s.router
  used : s'.used = s.used
  outside : s'.outside = fun n => { s.outside n with first := none }

/-- The call is not the emission of a success event. -/
def indifferent : RouterOp → Prop
  | .initiate event => BoundedRoutingAuditPolicy.Swallows event
  | _ => True

/-- Only the emission of a success event tells the two states apart. -/
theorem Alike.step {op : RouterOp} {s s' : AuditedRouter} (hop : indifferent op)
    (h : Alike s s') :
  (answer op s).1 = (answer op s').1 ∧ Alike (answer op s).2 (answer op s').2
  := by
  obtain ⟨router, policy, sent, outside, used⟩ := s
  obtain ⟨router', policy', sent', outside', used'⟩ := s'
  obtain ⟨hrouter, hused, houtside⟩ := h
  simp only at hrouter hused houtside
  subst hrouter hused houtside
  cases op with
  | initiate event =>
      refine ⟨?_, rfl, rfl, rfl⟩
      simp only [answer]
      rw [(BoundedRoutingAuditPolicy.initiate_attempts policy event _ _).2.mpr (.inl hop),
        (BoundedRoutingAuditPolicy.initiate_attempts policy' event _ _).2.mpr (.inl hop)]
  | _ => exact ⟨rfl, rfl, rfl, rfl⟩

theorem call_indifferent (op : RouterOp) (hop : indifferent op) :
  (call op).Calls indifferent
  := Calls.perform (S := routerSignature) hop

theorem emit_indifferent (ctx : RequestContext) {action : String} (outcome : String)
    (tenantId resolvedTenantRef publicCode associationStoreRef associationVersion lane :
      Option String) (haction : action = "RouteDenied" ∨ action = "IsolationAnomaly") :
  (emit ctx action outcome tenantId resolvedTenantRef publicCode associationStoreRef
    associationVersion lane).Calls indifferent
  := by
  apply Calls.bind (call_indifferent .mint trivial)
  intro minted
  exact call_indifferent _ haction

theorem bindTenant_indifferent (supportedSchemaVersions : List String) (tenantId : String)
    (lane : Lane) :
  (bindTenant supportedSchemaVersions tenantId lane).Calls indifferent
  := by
  apply Calls.bind
  · apply Calls.bind
    · apply Calls.bind (call_indifferent (.cacheGet _) trivial)
      rintro (_ | view)
      · apply Calls.bind
        · apply Calls.rescue (call_indifferent (.getRoutingView _) trivial)
          intro _
          apply Calls.raise
        · rintro (_ | view)
          · apply Calls.raise
          · apply Calls.bind (call_indifferent (.cachePut _ _) trivial)
            intro _
            apply Calls.pure
      · apply Calls.pure
    · intro view
      split
      · apply Calls.raise
      · split
        · apply Calls.raise
        · apply Calls.pure
  · intro view
    apply Calls.bind
    · apply Calls.rescue (call_indifferent (.acquire _ _ _) trivial)
      rintro (d | _ | _) <;> apply Calls.raise
    · intro conn
      apply Calls.pure

theorem auditDenied_indifferent {α : Type} (ctx : RequestContext) (tenantId : Option String)
    (d : RoutingDenied) :
  (auditDenied ctx tenantId d.publicCode >>= fun _ => deny d : RouterProgram α).Calls indifferent
  := by
  apply Calls.bind (emit_indifferent ctx _ _ _ _ _ _ _ (.inl rfl))
  intro _
  apply Calls.raise

/-- Before a transport that accepts every event, no emission raises. -/
theorem emit_accepting (ctx : RequestContext) (action outcome : String)
    (tenantId resolvedTenantRef publicCode associationStoreRef associationVersion lane :
      Option String) {s : AuditedRouter} (h : ∀ n, (s.outside n).first = none) :
  Ends answer (emit ctx action outcome tenantId resolvedTenantRef publicCode associationStoreRef
    associationVersion lane) s fun r _ => r = .ok ()
  := by
  apply Ends.bind (Q := fun r s' => s'.outside = s.outside ∧ ∃ minted, r = .ok minted)
  · apply Ends.perform
    exact ⟨rfl, _, rfl⟩
  · rintro ⟨eventId, occurredAt⟩ s' ⟨hout, _⟩
    apply Ends.perform
    simp only [answer, hout, h, BoundedRoutingAuditPolicy.initiate]
  · rintro e s' ⟨_, _, he⟩
    cases he

theorem Ends.rescue_ok {α : Type} {x : RouterProgram α} {g : RouterError → RouterProgram α}
    {s : AuditedRouter} {a : α} (h : Ends answer x s fun r _ => r = .ok a) :
  Ends answer (x.rescue g) s fun r _ => r = .ok a
  := by
  apply Program.Ends.rescue h
  · exact fun _ _ hok => hok
  · intro e s' he
    cases he

/-- Runs of a program that emits no success event end alike. -/
theorem Alike.ending {α : Type} {x : RouterProgram α} (hx : x.Calls indifferent)
    {s s' : AuditedRouter} (h : Alike s s') :
  (x.evaluate answer s).ending = (x.evaluate answer s').ending
    ∧ Alike (x.evaluate answer s).state (x.evaluate answer s').state
  := hx.evaluate_congr (fun _ _ _ hop => Alike.step hop) h

/-- A program that emits no success event keeps the denials of what follows it. -/
theorem Alike.bind_denied {α β : Type} {x : RouterProgram α} {f : α → RouterProgram β}
    {s s' : AuditedRouter} {d : RoutingDenied} (h : Alike s s') (hx : x.Calls indifferent)
    (hf : ∀ a {s s'}, Alike s s' → ((f a).evaluate answer s').ending = .error (.denied d) →
      ((f a).evaluate answer s).ending = .error (.denied d))
    (hd : ((x >>= f).evaluate answer s').ending = .error (.denied d)) :
  ((x >>= f).evaluate answer s).ending = .error (.denied d)
  := by
  obtain ⟨hsame, halike⟩ := h.ending hx
  rw [ending_bind] at hd ⊢
  rw [hsame]
  cases hr : (x.evaluate answer s').ending with
  | error e =>
      rw [hr] at hd
      exact hd
  | ok a =>
      rw [hr] at hd
      apply hf a halike hd

theorem Alike.first {s s' : AuditedRouter} (h : Alike s s') (n : Nat) :
  (s'.outside n).first = none
  := by
  rw [h.outside]

theorem handBack_kept {ctx : RequestContext} {tenantId : String} {lane : Lane}
    {view : TenantRoutingView} {conn : TenantConnection} {s s' : AuditedRouter} (h : Alike s s')
    {d : RoutingDenied}
    (hd : ((handBack ctx tenantId lane view conn).evaluate answer s').ending
      = .error (.denied d)) :
  ((handBack ctx tenantId lane view conn).evaluate answer s).ending = .error (.denied d)
  := by
  rw [handBack] at hd ⊢
  by_cases hsame : conn.tenantId ≠ tenantId
  · rw [if_pos hsame] at hd ⊢
    rw [← hd]
    apply (h.ending _).1
    apply Calls.bind (emit_indifferent ctx _ _ _ _ _ _ _ (.inr rfl))
    intro _
    apply Calls.bind (call_indifferent (.discard _ _) trivial)
    intro _
    apply Calls.raise
  · rw [if_neg hsame] at hd
    have haccepted : Ends answer (auditRoute ctx tenantId conn view lane) s' fun r _ =>
        r = .ok () := emit_accepting ctx "Route" "success" _ _ _ _ _ _ h.first
    simp only [ending_bind] at hd
    rw [Ends.rescue_ok haccepted] at hd
    cases hd

/-- The denial of a route whose events are all accepted is its denial whatever the transport
answers. -/
theorem denial_kept (supportedSchemaVersions : List String) (ctx : RequestContext)
    (bootstrapPhase0 : Bool) (lane : Lane) {s s' : AuditedRouter} (h : Alike s s')
    {d : RoutingDenied}
    (hd : ((route supportedSchemaVersions ctx bootstrapPhase0 lane).evaluate answer s').ending
      = .error (.denied d)) :
  ((route supportedSchemaVersions ctx bootstrapPhase0 lane).evaluate answer s).ending
    = .error (.denied d)
  := by
  rw [route] at hd ⊢
  cases htarget : determineTarget ctx bootstrapPhase0 with
  | error denied =>
      rw [htarget] at hd
      rw [← hd]
      exact (h.ending (auditDenied_indifferent ctx _ denied)).1
  | ok target =>
      rw [htarget] at hd
      cases target with
      | control =>
          simp only [ending_bind] at hd
          rw [Ends.rescue_ok (emit_accepting ctx "RouteControl" "success" none none none none none
            none h.first)] at hd
          cases hd
      | tenant =>
          apply h.bind_denied _ _ hd
          · apply Calls.rescue (bindTenant_indifferent _ _ _)
            rintro (d | e | _)
            · apply auditDenied_indifferent
            · apply Calls.raise
            · apply Calls.raise
          · exact fun _ _ _ h₁ hd₁ => handBack_kept h₁ hd₁

/-- Borrowers that give back what they hold, once, have led to the pools. -/
def Managed (m : ConnectionPoolManager) : Prop :=
  ∃ maxPerTenant idleTimeout, ∃ lending : Lending Nat,
    Lending.Reached maxPerTenant idleTimeout lending ∧ lending.manager = m

/-- Whatever the control plane, the secret store, the factory and the transport answer, a route
is handed back bound to the active tenant after its one success event was accepted, or it is
denied and every pool has in use what it had; its event is sent at most twice; and a failure of
the transport leaves every denial as it is. -/
theorem route_audited (supportedSchemaVersions : List String) (ctx : RequestContext)
    (bootstrapPhase0 : Bool) (lane : Lane) {s : AuditedRouter}
    (hpools : ∀ lane, Managed (s.router.poolFor lane)) (hfresh : OpensFresh s) :
  Audited ctx s
      ((route supportedSchemaVersions ctx bootstrapPhase0 lane).evaluate answer s).ending
      ((route supportedSchemaVersions ctx bootstrapPhase0 lane).evaluate answer s).state
    ∧ ∀ d, ((route supportedSchemaVersions ctx bootstrapPhase0 lane).evaluate answer
        s.accepting).ending = .error (.denied d) →
      ((route supportedSchemaVersions ctx bootstrapPhase0 lane).evaluate answer s).ending
        = .error (.denied d)
  := by
  constructor
  · obtain ⟨maxPerTenant, idleTimeout, lending, hreached, hmanager⟩ := hpools lane
    have htidy : Tidy (s.router.poolFor lane) := by
      rw [← hmanager]
      apply Tidy.of_reached hreached
    exact route_ends supportedSchemaVersions ctx bootstrapPhase0 lane htidy hfresh
  · intro d hd
    have halike : Alike s s.accepting := ⟨rfl, rfl, rfl⟩
    apply denial_kept supportedSchemaVersions ctx bootstrapPhase0 lane halike hd

/-! ### A route of one tenant -/

/-- A request of a member of a tenant. -/
def sampleContext : RequestContext := ⟨"c-1", none, some "t", some "p", some "USER"⟩

/-- The control plane knows the tenant, the factory opens a connection for it, and the transport
is unavailable at the first sending of an event. -/
def sampleOutside : RoutingOutside where
  now := 0
  eventId := "e1"
  occurredAt := "2024-01-01T00:00:00+00:00"
  isAlive _ := true
  view := .ok (some ⟨"t", "Ready", true, ⟨"tenant/t/dsn", "1"⟩, "1"⟩)
  opening := .ok (0, "t", "1")
  first := some .unavailable
  second := none

/-- A router whose pools are empty. -/
def sampleRouter : AuditedRouter where
  router := ⟨⟨15, 4096, ∅⟩, ⟨5, 60, fun _ => none⟩, none, fun _ => [], []⟩
  policy := ⟨0, 0⟩
  sent := []
  outside _ := sampleOutside
  used := 0

/-- The request is routed, though the transport fails once. -/
theorem route_audited_sample :
  Audited sampleContext sampleRouter
      ((route ["1"] sampleContext false .interactive).evaluate answer sampleRouter).ending
      ((route ["1"] sampleContext false .interactive).evaluate answer sampleRouter).state
    ∧ ((route ["1"] sampleContext false .interactive).evaluate answer sampleRouter).state.sent.map
      (·.failure) = [none, some .unavailable]
    ∧ ((route ["1"] sampleContext false .interactive).evaluate answer sampleRouter).ending.isOk
  := by
  have hpools : ∀ lane, Managed (sampleRouter.router.poolFor lane) := by
    intro lane
    refine ⟨5, 60, _, Lending.Reached.start, ?_⟩
    cases lane <;> rfl
  have hfresh : OpensFresh sampleRouter := by
    intro _ _ _ _ _ lane key conn hconn
    cases lane <;> cases hconn
  exact ⟨(route_audited ["1"] sampleContext false .interactive hpools hfresh).1, by rfl, by rfl⟩

end AuditedRouter

end DatabaseRouter
