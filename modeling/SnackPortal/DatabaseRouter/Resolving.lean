import SnackPortal.Program.ReadThrough
import SnackPortal.DatabaseRouter.Models
import SnackPortal.DatabaseRouter.Ports

/-!
# Resolving while tenants are invalidated

Any number of resolutions and invalidations of routing views, each a sequence of calls on the
cache with the calls of the others in between.  A view that a slow read brings is cached even
where the tenant was invalidated in the meantime, and its time to live starts when it is cached:
a later resolution is then served a view from before the invalidation, and longer than the time
to live after the read (`resolved_stale`).  Where neither happens every resolution is fresh
(`resolved_fresh`).
-/

namespace DatabaseRouter

open ReadThrough Discipline Program

/-- The routing-view cache: views by tenant, each invalidated by its tenant id. -/
def viewCache (ttl : Int) (maxEntries : Nat) : Setup String String String RouterError where
  maxEntries := maxEntries
  ttl := ttl
  key t := t
  scope t := some t
  affects t k := t == k
  exhausted := .port

/-- A program of the resolver. -/
abbrev ViewProgram :=
  Program (cacheSignature String String String TenantRoutingView) RouterError

namespace RoutingResolver

variable (ttl : Int) (maxEntries : Nat)

/-- The view of a tenant: the cached one, or the one read and then cached. -/
def view (tenantId : String) : ViewProgram (Setup.Served String TenantRoutingView) := do
  match ← (viewCache ttl maxEntries).get tenantId with
  | some (e, now) => pure ⟨e.loaded, some (e, now)⟩
  | none =>
      match ← (Setup.read tenantId).rescue fun _ =>
        Program.raise (.denied (unavailable "control_plane_unavailable")) with
      | none => Program.raise (.denied (notFound "not_found"))
      | some loaded => do
          (viewCache ttl maxEntries).put true loaded
          pure ⟨loaded, none⟩

/-- `resolve`, with the number of invalidations of the tenant that had returned when it began. -/
def resolve (supportedSchemaVersions : List String) (tenantId : String) :
    ViewProgram (Nat × Setup.Served String TenantRoutingView) := do
  let begun ← Setup.call (.begin tenantId)
  let served ← view ttl maxEntries tenantId
  match denialForState served.loaded.value.lifecycleState served.loaded.value.ready with
  | some d => Program.raise (.denied d)
  | none =>
      if served.loaded.value.expectedSchemaVersion ∉ supportedSchemaVersions then
        Program.raise (.denied (notReady "schema_out_of_range"))
      else
        pure (begun, served)

/-- `invalidate`, to its return. -/
def invalidate (tenantId : String) : ViewProgram Unit := do
  Setup.call (.remove tenantId)
  Setup.call (.invalidated tenantId)

end RoutingResolver

/-- The two calls of the resolver. -/
inductive ResolverRequest where
  | resolve (tenantId : String)
  | invalidate (tenantId : String)

/-- What a resolution returned: its tenant, the invalidations that had returned when it began,
and the view. -/
structure Resolved where
  tenantId : String
  begun : Nat
  served : Setup.Served String TenantRoutingView

/-- The program of a call; a resolution ends with its view. -/
def ResolverRequest.program (ttl : Int) (maxEntries : Nat)
    (supportedSchemaVersions : List String) : ResolverRequest → ViewProgram (Option Resolved)
  | .resolve t => do
      let (begun, served) ← RoutingResolver.resolve ttl maxEntries supportedSchemaVersions t
      pure (some ⟨t, begun, served⟩)
  | .invalidate t => do
      RoutingResolver.invalidate t
      pure none

section Freshness

variable {ι : Type} (ttl : Int) (maxEntries : Nat)

/-- The machine of the resolver. -/
abbrev resolver (ι : Type) : Machine (cacheSignature String String String TenantRoutingView)
    RouterError ι :=
  (viewCache ttl maxEntries).cache ι TenantRoutingView

/-- A view is cached at the time its read completed and only while no invalidation of the tenant
has returned since the read started; and an invalidation returns only where nothing is cached
for the tenant. -/
def cachesPromptly : (resolver ttl maxEntries ι).Guard := fun s _ op _ =>
  match op with
  | .store e => s.generation e.loaded.query ≤ e.loaded.started
      ∧ e.storedAt ≤ e.loaded.completed
  | .invalidated t => s.data.lookup t = none
  | _ => True

/-- The view expires within the time to live after its read. -/
def expiresInTime (e : Entry String TenantRoutingView) : Prop :=
  e.expiresAt ≤ e.loaded.completed + ttl

theorem cachesPromptly_admits :
  (viewCache ttl maxEntries).Admits ι (expiresInTime ttl) (cachesPromptly ttl maxEntries)
  where
  store s i e c hg hexpires := by
    refine ⟨hg.1, ?_⟩
    change e.expiresAt ≤ _
    rw [hexpires]
    exact Int.add_le_add_right hg.2 ttl
  invalidated s i t c hg k e he hkey hscope := by
    obtain rfl : e.loaded.query = k := hkey
    obtain rfl := Option.some.inj hscope
    change s.data.lookup e.loaded.query = none at hg
    rw [hg] at he
    cases he
  lookup s i q c e _ _ hkey := hkey

variable {i : ι}

/-- A view is as fresh as a read that starts when its resolution begins. -/
def IsFresh (resolved : Resolved) : Prop :=
  resolved.served.loaded.query = resolved.tenantId
    ∧ resolved.begun ≤ resolved.served.loaded.started
    ∧ ∀ p ∈ resolved.served.found, p.2 ≤ resolved.served.loaded.completed + ttl

theorem view_serves (t : String) (b : Nat) :
  ((viewCache ttl maxEntries).freshness ι (expiresInTime ttl)
      (cachesPromptly ttl maxEntries)).Triple i ((viewCache ttl maxEntries).Begun t b)
    (RoutingResolver.view ttl maxEntries t)
    (Returns fun served _ => Setup.Serves (expiresInTime ttl) t b served)
  := by
  have hG := cachesPromptly_admits (ι := ι) ttl maxEntries
  apply Triple.seq (Setup.get_serves hG t b)
  rintro (_ | ⟨e, now⟩)
  · apply Triple.seq (Q := fun read _ => ∀ loaded ∈ read,
      Setup.Serves (expiresInTime ttl) t b ⟨loaded, none⟩)
    · apply Triple.rescue
      · apply (Setup.read_serves hG t b).conseq (fun _ _ h => h.1)
        exact fun _ _ _ h => h
      · exact fun _ _ _ _ h => h
      · intro _
        apply Triple.throw
    · rintro (_ | loaded)
      · apply Triple.throw
      · intro s hs hp
        apply Triple.seq (Setup.put_lawful hG true loaded) _ s hs trivial
        intro _
        apply Triple.ok Stable.true
        exact fun _ _ _ => hp loaded rfl
  · apply Triple.ok
    · exact fun s s' hs h => ⟨Setup.Begun.stable t b s s' hs h.1, h.2⟩
    · exact fun s _ h => h.2 _ rfl

theorem program_fresh (supportedSchemaVersions : List String) (request : ResolverRequest) :
  ((viewCache ttl maxEntries).freshness ι (expiresInTime ttl)
      (cachesPromptly ttl maxEntries)).Triple i (fun _ => True)
    (request.program ttl maxEntries supportedSchemaVersions)
    (Returns fun returned _ => ∀ resolved ∈ returned, IsFresh ttl resolved)
  := by
  have hG := cachesPromptly_admits (ι := ι) ttl maxEntries
  cases request with
  | resolve t =>
      apply Triple.seq (Q := fun p _ => Setup.Serves (expiresInTime ttl) t p.1 p.2)
      · apply Triple.seq (Setup.begin_begun hG t)
        intro begun
        apply Triple.seq (view_serves ttl maxEntries t begun)
        intro served
        split
        · apply Triple.throw
        · split
          · apply Triple.throw
          · apply Triple.ok
            · exact fun _ _ _ h => h
            · exact fun _ _ h => h
      · rintro ⟨begun, served⟩
        apply Triple.ok
        · exact fun _ _ _ h => h
        · rintro s _ ⟨hquery, hstarted, hfound⟩ resolved ⟨⟩
          refine ⟨hquery, hstarted, ?_⟩
          intro p hp
          obtain ⟨htimely, hloaded, hle⟩ := hfound p hp
          rw [← hloaded]
          exact Int.le_trans hle htimely
  | invalidate t =>
      apply Triple.seq (Q := fun _ _ => True)
      · apply Triple.seq (Setup.call_keeps hG (.remove t) rfl Stable.true fun _ _ _ => trivial)
        intro _
        apply Setup.call_keeps hG (.invalidated t) rfl Stable.true fun _ _ _ => trivial
      · intro _
        apply Triple.ok Stable.true
        exact fun _ _ _ => nofun

/-- No view is cached and no invalidation has returned. -/
def emptyViews : (resolver ttl maxEntries ι).State := ⟨∅, fun _ => 0⟩

/-- However many resolutions and invalidations run at once, with any clock and any answers of the
control plane: where views are cached promptly, every view that a resolution returned was read
after the invalidations of its tenant that had returned when it began, and where it was found in
the cache its read was at most the time to live ago. -/
theorem resolved_fresh [DecidableEq ι] (supportedSchemaVersions : List String)
    (requests : ι → Option ResolverRequest)
    {cfg : (resolver ttl maxEntries ι).Config (Option Resolved)}
    (h : Machine.Reaches (cachesPromptly ttl maxEntries)
      ⟨emptyViews ttl maxEntries,
        fun i => (requests i).map (·.program ttl maxEntries supportedSchemaVersions)⟩ cfg)
    {resolved : Resolved} (hreturned : cfg.returned i = some (some resolved)) :
  IsFresh ttl resolved
  := by
  let D := (viewCache ttl maxEntries).freshness ι (expiresInTime ttl)
    (cachesPromptly ttl maxEntries)
  have hempty : D.inv (emptyViews ttl maxEntries) := by
    intro t e he
    cases he
  have hending := Safe.ending (D := D) (Q := fun _ => Returns fun returned _ =>
    ∀ resolved ∈ returned, IsFresh ttl resolved) h hempty
  apply hending _ (Machine.Config.returned_eq_some.mp hreturned) resolved rfl
  intro j x hx
  obtain ⟨request, _, rfl⟩ := Option.map_eq_some_iff.mp hx
  exact program_fresh ttl maxEntries supportedSchemaVersions request _ hempty trivial

end Freshness

/-! ### Runs of three calls -/

/-- A resolution, an invalidation of its tenant and a second resolution. -/
def threeRequests : Fin 3 → Option ResolverRequest :=
  fun i => some (if i = 1 then .invalidate "t" else .resolve "t")

/-- A ready tenant's view. -/
def readyView : TenantRoutingView where
  tenantId := "t"
  lifecycleState := "Ready"
  ready := true
  databaseAssociationRef := ⟨"store/t", "1"⟩
  expectedSchemaVersion := "1"

/-- A call of a thread at a time; every read brings the ready view. -/
def viewMove (i : Fin 3) (now : Int) : Move (Fin 3) (CacheChoice RouterError TenantRoutingView) :=
  .call i ⟨now, .ok (some readyView), none⟩

/-- The start of a run of the three calls, with a time to live of 15. -/
def threeStart : (resolver 15 4096 (Fin 3)).Config (Option Resolved) :=
  ⟨emptyViews 15 4096, fun i => (threeRequests i).map (·.program 15 4096 ["1"])⟩

instance cachesPromptlyDecidable (ttl : Int) (maxEntries : Nat)
    (s : (resolver ttl maxEntries (Fin 3)).State) (i : Fin 3)
    (op : CacheOp String String String TenantRoutingView)
    (c : CacheChoice RouterError TenantRoutingView) :
    Decidable (cachesPromptly ttl maxEntries s i op c) :=
  match op with
  | .store e => inferInstanceAs (Decidable (s.generation e.loaded.query ≤ e.loaded.started
      ∧ e.storedAt ≤ e.loaded.completed))
  | .invalidated t => inferInstanceAs (Decidable (s.data.lookup t = none))
  | .begin _ | .lookup _ | .clock | .size | .contains _ | .oldest | .remove _ | .start _
  | .load _ _ | .keysOf _ => .isTrue trivial

/-- When the second resolution began, when the read of its view started and completed, and when
the view was found. -/
def secondView (cfg : (resolver 15 4096 (Fin 3)).Config (Option Resolved)) :
    Option (Nat × Nat × Int × Option Int) :=
  (cfg.returned 2).bind fun returned => returned.map fun resolved =>
    (resolved.begun, resolved.served.loaded.started, resolved.served.loaded.completed,
      resolved.served.found.map (·.2))

theorem secondView_eq_some {cfg : (resolver 15 4096 (Fin 3)).Config (Option Resolved)}
    {p : Nat × Nat × Int × Option Int} (h : secondView cfg = some p) :
  ∃ resolved, cfg.returned 2 = some (some resolved) ∧ resolved.begun = p.1
    ∧ resolved.served.loaded.started = p.2.1 ∧ resolved.served.loaded.completed = p.2.2.1
    ∧ resolved.served.found.map (·.2) = p.2.2.2
  := by
  obtain ⟨returned, hreturned, hp⟩ := Option.bind_eq_some_iff.mp h
  obtain ⟨resolved, rfl, rfl⟩ := Option.map_eq_some_iff.mp hp
  exact ⟨resolved, hreturned, rfl, rfl, rfl, rfl⟩

/-- The invalidation runs, the first resolution reads and caches, the second one finds. -/
def promptMoves : List (Move (Fin 3) (CacheChoice RouterError TenantRoutingView)) :=
  [viewMove 1 0, viewMove 1 0, viewMove 0 0, viewMove 0 0, viewMove 0 0, viewMove 0 0,
    viewMove 0 0, viewMove 0 0, viewMove 0 0, viewMove 2 10, viewMove 2 10, viewMove 2 10]

theorem resolved_fresh_sample :
  ∃ cfg, Machine.Reaches (cachesPromptly 15 4096) threeStart cfg
    ∧ ∃ resolved, cfg.returned 2 = some (some resolved) ∧ resolved.served.found.map (·.2) = some 10
      ∧ IsFresh 15 resolved
  := by
  have hrun : (threeStart.run (cachesPromptly 15 4096) promptMoves).map secondView
      = some (some (1, 1, 0, some 10)) := by
    decide +kernel
  obtain ⟨cfg, hreaches, hview⟩ := Machine.Reaches.of_map_run hrun
  obtain ⟨resolved, hreturned, _, _, _, hfound⟩ := secondView_eq_some hview
  use cfg, hreaches, resolved, hreturned, hfound
  apply resolved_fresh 15 4096 ["1"] threeRequests hreaches hreturned

/-- The first resolution reads, the invalidation runs to its return, the first resolution caches
what it has read, much later, and the second one begins and finds it. -/
def staleMoves : List (Move (Fin 3) (CacheChoice RouterError TenantRoutingView)) :=
  [viewMove 0 0, viewMove 0 0, viewMove 0 0, viewMove 0 0, viewMove 1 1, viewMove 1 1,
    viewMove 0 100, viewMove 0 100, viewMove 0 100, viewMove 2 101, viewMove 2 101,
    viewMove 2 101]

/-- A resolution that began after an invalidation had returned is served a view whose read had
started before, and 101 after that read completed, where the time to live is 15. -/
theorem resolved_stale :
  ∃ cfg, Machine.Reaches (Machine.anyCall _) threeStart cfg
    ∧ ∃ resolved, cfg.returned 2 = some (some resolved)
      ∧ resolved.served.loaded.started < resolved.begun
      ∧ ∃ p ∈ resolved.served.found, resolved.served.loaded.completed + 15 < p.2
  := by
  have hrun : (threeStart.run (Machine.anyCall _) staleMoves).map secondView
      = some (some (1, 0, 0, some 101)) := by
    decide +kernel
  obtain ⟨cfg, hreaches, hview⟩ := Machine.Reaches.of_map_run hrun
  obtain ⟨resolved, hreturned, hbegun, hstarted, hcompleted, hfound⟩ := secondView_eq_some hview
  use cfg, hreaches, resolved, hreturned
  obtain ⟨p, hp, hnow⟩ := Option.map_eq_some_iff.mp hfound
  rw [hbegun, hstarted, hcompleted]
  refine ⟨by decide, p, hp, ?_⟩
  rw [hnow]
  decide

end DatabaseRouter
