import SnackPortal.Program.Discipline
import SnackPortal.DatabaseRouter.Router

/-!
# Connections and associations

Pools are keyed by tenant and association version, so a connection serves a view as long as
the version determines the store reference.  No call breaks this except a write of the control
plane, by a re-association or a registration, that gives a tenant a version which it had with
another store reference (`association`).
-/

namespace DatabaseRouter

open ControlPlane (SecretRef)

/-- The state of the router with the journal of the calls on it. -/
abbrev RouterHistory (ι : Type) := Machine.Journaled RouterState routerSignature RouterError ι

/-- What a thread has last seen: the routing view it works with, and the audit event that was
last accepted from it. -/
structure RouterView where
  used : Option TenantRoutingView
  accepted : Option RoutingAuditEvent

/-- What the thread has seen after one more call. -/
def RouterView.after (v : RouterView) : (op : RouterOp) → Except RouterError op.Ans → RouterView
  | .cacheGet _, .ok (some view) => { v with used := some view }
  | .getRoutingView _, .ok (some view) => { v with used := some view }
  | .initiate event, .ok _ => { v with accepted := some event }
  | _, _ => v

section Journal

variable {ι : Type} [DecidableEq ι]

/-- What the thread `k` has seen. -/
def seenBy (k : ι) : List (Machine.Entry routerSignature RouterError ι) → RouterView
  | [] => ⟨none, none⟩
  | .call i op r :: js => if i = k then (seenBy k js).after op r else seenBy k js
  | .drop _ :: js => seenBy k js

theorem seenBy_call {i k : ι} {op : RouterOp} {r : Except RouterError op.Ans}
    {js : List (Machine.Entry routerSignature RouterError ι)} (h : k ≠ i) :
  seenBy k (.call i op r :: js) = seenBy k js
  := if_neg h.symm

theorem seenBy_call_self {i : ι} {op : RouterOp} {r : Except RouterError op.Ans}
    {js : List (Machine.Entry routerSignature RouterError ι)} :
  seenBy i (.call i op r :: js) = (seenBy i js).after op r
  := if_pos rfl

/-! ### The discipline -/

/-- The connection belongs to the pool of its binding, and was opened for an association which
the tenant has had with the version of the pool. -/
def Belongs (s : RouterState) (key : PoolKey) (conn : TenantConnection) : Prop :=
  conn.key = key ∧ conn.openedFrom.version = key.2
    ∧ ∃ view ∈ s.views key.1, view.databaseAssociationRef = conn.openedFrom

/-- Views are kept under their own tenants, the version of an association determines its store
reference, cached views are or were current, and pooled connections belong to their pools. -/
structure Associated (s : RouterState) : Prop where
  keyed : ∀ t, ∀ view ∈ s.views t, view.tenantId = t
  versioned : ∀ t, ∀ view ∈ s.views t, ∀ view' ∈ s.views t,
    view.databaseAssociationRef.version = view'.databaseAssociationRef.version →
      view.databaseAssociationRef.storeRef = view'.databaseAssociationRef.storeRef
  cached : s.cache.AllCached fun t view => view ∈ s.views t
  pooled : ∀ lane, (s.poolFor lane).AllHeld (Belongs s)

/-- The tenant had the version of the reference with no other store reference. -/
def RouterState.Keeps (s : RouterState) (t : String) (ref : SecretRef) : Prop :=
  ∀ view ∈ s.views t, view.databaseAssociationRef.version = ref.version →
    view.databaseAssociationRef.storeRef = ref.storeRef

instance (s : RouterState) (t : String) (ref : SecretRef) : Decidable (s.Keeps t ref) :=
  inferInstanceAs (Decidable (∀ view ∈ s.views t, _ → _))

/-- Neither a re-association nor the upsert of a registration gives the tenant a version that it
had with another store reference. -/
def keepsVersions : (Machine.journaled (databaseRouter ι)).Guard := fun s _ op c =>
  match op with
  | .reassociate t ref => c.fault = false → s.base.Keeps t ref
  | .putView view => c.fault = false → s.base.Keeps view.tenantId view.databaseAssociationRef
  | _ => True

theorem Belongs.mono {s s' : RouterState} (h : ∀ t, ∀ view ∈ s.views t, view ∈ s'.views t)
    {key : PoolKey} {conn : TenantConnection} (hconn : Belongs s key conn) :
  Belongs s' key conn
  := by
  obtain ⟨hkey, hversion, view, hview, href⟩ := hconn
  exact ⟨hkey, hversion, view, h _ view hview, href⟩

/-- The views only grow, so cached views and pooled connections stay in order. -/
theorem Associated.views {s : RouterState} (s' : RouterState) (hs : Associated s)
    (hgrow : ∀ t, ∀ view ∈ s.views t, view ∈ s'.views t) (hcache : s'.cache = s.cache)
    (hpool : ∀ lane, s'.poolFor lane = s.poolFor lane)
    (hkeyed : ∀ t, ∀ view ∈ s'.views t, view.tenantId = t)
    (hversioned : ∀ t, ∀ view ∈ s'.views t, ∀ view' ∈ s'.views t,
      view.databaseAssociationRef.version = view'.databaseAssociationRef.version →
        view.databaseAssociationRef.storeRef = view'.databaseAssociationRef.storeRef) :
  Associated s'
  := by
  constructor
  · apply hkeyed
  · apply hversioned
  · rw [hcache]
    apply hs.cached.mono hgrow
  · intro lane
    rw [hpool]
    exact (hs.pooled lane).mono fun key conn => Belongs.mono hgrow

theorem poolFor_setPoolFor {s : RouterState} {lane : Lane} {m : ConnectionPoolManager}
    {p : PoolKey → TenantConnection → Prop} (hm : m.AllHeld p)
    (hs : ∀ lane, (s.poolFor lane).AllHeld p) (lane' : Lane) :
  ((s.setPoolFor lane m).poolFor lane').AllHeld p
  := by
  cases lane with
  | interactive =>
      cases lane' with
      | interactive => apply hm
      | bulk =>
          have hbulk := hs .bulk
          simp only [RouterState.poolFor, RouterState.setPoolFor] at hbulk ⊢
          cases h : s.bulkPool with
          | none => apply hm
          | some bulk =>
              rw [h] at hbulk
              apply hbulk
  | bulk =>
      have hinteractive := hs .interactive
      simp only [RouterState.poolFor, RouterState.setPoolFor] at hinteractive ⊢
      cases h : s.bulkPool with
      | none => cases lane' <;> apply hm
      | some bulk =>
          cases lane' with
          | interactive => apply hinteractive
          | bulk => apply hm

/-- A change of the pools that keeps what they hold in order. -/
theorem Associated.pools {s : RouterState} (hs : Associated s) {lane : Lane}
    {m : ConnectionPoolManager} (hm : m.AllHeld (Belongs s)) :
  Associated (s.setPoolFor lane m)
  := by
  constructor
  · rw [RouterState.setPoolFor_views]
    apply hs.keyed
  · rw [RouterState.setPoolFor_views]
    apply hs.versioned
  · rw [RouterState.setPoolFor_cache, RouterState.setPoolFor_views]
    apply hs.cached
  · intro lane'
    have hbelongs : Belongs (s.setPoolFor lane m) = Belongs s := by
      funext key conn
      simp only [Belongs, RouterState.setPoolFor_views]
    rw [hbelongs]
    apply poolFor_setPoolFor hm hs.pooled

/-- A view becomes the current one of its tenant, and gives it no used version. -/
theorem Associated.pushView {s : RouterState} (hs : Associated s) {view : TenantRoutingView}
    (hversion : s.Keeps view.tenantId view.databaseAssociationRef) :
  Associated (s.pushView view) ∧ ∀ u, ∀ v ∈ s.views u, v ∈ (s.pushView view).views u
  := by
  have hnew : ∀ u, (s.pushView view).views u
      = if u = view.tenantId then view :: s.views view.tenantId else s.views u :=
    fun u => Function.update_apply _ _ _ u
  have hgrow : ∀ u, ∀ v ∈ s.views u, v ∈ (s.pushView view).views u := by
    intro u v hv
    rw [hnew]
    split
    · rename_i hu
      subst hu
      apply List.mem_cons_of_mem _ hv
    · apply hv
  constructor
  · apply Associated.views (s.pushView view) hs hgrow rfl
    · intro lane
      rfl
    · intro u v hv
      rw [hnew] at hv
      split at hv
      · rename_i hu
        rcases List.mem_cons.mp hv with rfl | hv
        · apply hu.symm
        · rw [hu]
          apply hs.keyed _ v hv
      · apply hs.keyed u v hv
    · intro u v hv v' hv'
      rw [hnew] at hv hv'
      split at hv
      · rename_i hu
        rw [if_pos hu] at hv'
        rcases List.mem_cons.mp hv with rfl | hv
        · rcases List.mem_cons.mp hv' with rfl | hv'
          · exact fun _ => rfl
          · intro heq
            symm
            apply hversion v' hv' heq.symm
        · rcases List.mem_cons.mp hv' with rfl | hv'
          · apply hversion v hv
          · apply hs.versioned _ v hv v' hv'
      · rename_i hu
        rw [if_neg hu] at hv'
        apply hs.versioned u v hv v' hv'
  · apply hgrow

/-- A change of the current view that keeps the tenant and gives it no used version. -/
theorem Associated.changeView {s : RouterState} (hs : Associated s) {t : String}
    {change : TenantRoutingView → TenantRoutingView}
    (htenant : ∀ view, (change view).tenantId = view.tenantId)
    (hversion : ∀ current ∈ (s.views t).head?, s.Keeps t (change current).databaseAssociationRef) :
  Associated (s.changeView t change)
    ∧ ∀ u, ∀ view ∈ s.views u, view ∈ (s.changeView t change).views u
  := by
  rw [RouterState.changeView]
  split
  · exact ⟨hs, fun _ _ h => h⟩
  · rename_i current former hcurrent
    have hmem : current ∈ s.views t := by
      rw [hcurrent]
      apply List.mem_cons_self
    have ht : (change current).tenantId = t := by
      rw [htenant]
      apply hs.keyed t current hmem
    have hkeeps := hversion current (by rw [hcurrent]; rfl)
    rw [← ht] at hkeeps
    have hpushed : s.pushView (change current)
        = { s with views := Function.update s.views t (change current :: current :: former) } := by
      rw [RouterState.pushView, ht, hcurrent]
    rw [← hpushed]
    apply hs.pushView hkeeps

omit [DecidableEq ι] in
/-- What a call does to the state: it stays in order, and the views only grow. -/
theorem Associated.answer {i : ι} {s s' : RouterHistory ι} (hs : Associated s.base)
    {op : RouterOp} {c : RouterChoice} {r : Except RouterError op.Ans}
    (hguard : keepsVersions s i op c)
    (hput : ∀ t view, op = .cachePut t view → view ∈ s.base.views t)
    (hacquire : ∀ lane t ref, op = .acquire lane t ref →
      ∃ view ∈ s.base.views t, view.databaseAssociationRef = ref)
    (ha : (databaseRouter ι).answer i op c s.base = some (r, s'.base)) :
  Associated s'.base ∧ ∀ u, ∀ view ∈ s.base.views u, view ∈ s'.base.views u
  := by
  simp only [Option.some.injEq] at ha
  split at ha
  · obtain ⟨-, hbase⟩ := Prod.mk.inj ha
    rw [← hbase]
    exact ⟨hs, fun _ _ h => h⟩
  · rename_i hfault
    obtain ⟨-, hbase⟩ := Prod.mk.inj ha
    rw [← hbase]
    cases op with
    | mint => exact ⟨hs, fun _ _ h => h⟩
    | getRoutingView t => exact ⟨hs, fun _ _ h => h⟩
    | initiate event => exact ⟨⟨hs.keyed, hs.versioned, hs.cached, hs.pooled⟩, fun _ _ h => h⟩
    | cacheGet t =>
        exact ⟨⟨hs.keyed, hs.versioned, (hs.cached.get c.now t).1, hs.pooled⟩, fun _ _ h => h⟩
    | cacheInvalidate t =>
        exact ⟨⟨hs.keyed, hs.versioned, hs.cached.invalidate t, hs.pooled⟩, fun _ _ h => h⟩
    | cachePut t view =>
        exact ⟨⟨hs.keyed, hs.versioned, hs.cached.put (hput t view rfl), hs.pooled⟩,
          fun _ _ h => h⟩
    | release lane conn =>
        constructor
        · apply hs.pools ((hs.pooled lane).release conn)
        · exact fun _ _ h => (RouterState.setPoolFor_views _ _ _).symm ▸ h
    | discard lane conn =>
        constructor
        · apply hs.pools ((hs.pooled lane).discard conn)
        · exact fun _ _ h => (RouterState.setPoolFor_views _ _ _).symm ▸ h
    | invalidateVersion lane t keepVersion =>
        constructor
        · apply hs.pools ((hs.pooled lane).invalidateVersion t keepVersion)
        · exact fun _ _ h => (RouterState.setPoolFor_views _ _ _).symm ▸ h
    | acquire lane t ref =>
        obtain ⟨view, hview, href⟩ := hacquire lane t ref rfl
        constructor
        · apply hs.pools
          apply ((hs.pooled lane).acquire _ _ _ _ _ _).1
          intro conn hopened htenant hversion
          have hfrom := RouterState.openConnection_from hopened
          constructor
          · rw [TenantConnection.key, htenant, hversion]
          · rw [hfrom]
            exact ⟨rfl, view, hview, href⟩
        · exact fun _ _ h => (RouterState.setPoolFor_views _ _ _).symm ▸ h
    | putView view =>
        apply hs.pushView (hguard (Bool.not_eq_true _ ▸ hfault))
    | reassociate t ref =>
        have hversions := hguard (Bool.not_eq_true _ ▸ hfault)
        apply hs.changeView
        · exact fun _ => rfl
        · exact fun _ _ => hversions
    | transition t lifecycleState ready =>
        apply hs.changeView
        · exact fun _ => rfl
        · intro current hcurrent view hview hv
          apply hs.versioned t view hview current (List.mem_of_mem_head? hcurrent) hv

/-- The discipline of the associations. -/
def association (ι : Type) [DecidableEq ι] :
    Discipline (Machine.journaled (databaseRouter ι)) where
  guard := keepsVersions
  inv s := Associated s.base
  evolve s s' := ∀ t, ∀ view ∈ s.base.views t, view ∈ s'.base.views t
  Own := RouterView
  own k s := seenBy k s.journal
  evolve_refl _ _ _ h := h
  evolve_trans h h' t view hview := h' t view (h t view hview)
  drop_inv _ _ h := h
  drop_evolve _ _ _ _ _ h := h
  drop_own _ _ _ _ _ := rfl

end Journal

end DatabaseRouter
