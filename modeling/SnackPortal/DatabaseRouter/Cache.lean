import SnackPortal.Data.Dictionary
import SnackPortal.DatabaseRouter.Models

/-!
# The routing-view cache

Routing views by tenant, each until it expires; the size is bounded, and the view inserted
first goes when a new tenant does not fit.
-/

namespace DatabaseRouter

/-- The cached views with their expiry; the entries inserted first are listed last. -/
structure RoutingViewCache where
  ttl : Int
  maxEntries : Nat
  data : AList (fun _ : String => Int × TenantRoutingView)

namespace RoutingViewCache

variable (cache : RoutingViewCache)

/-- `get`, which removes the view it finds expired. -/
def get (now : Int) (tenantId : String) : Option TenantRoutingView × RoutingViewCache :=
  match cache.data.lookup tenantId with
  | none => (none, cache)
  | some (expiresAt, view) =>
      if now > expiresAt then
        (none, { cache with data := cache.data.erase tenantId })
      else
        (some view, cache)

/-- The entries without the one inserted first. -/
def dropOldest (data : AList fun _ : String => Int × TenantRoutingView) :
    AList fun _ : String => Int × TenantRoutingView :=
  match data.entries.getLast? with
  | none => data
  | some entry => data.erase entry.1

/-- `put`. -/
def put (now : Int) (tenantId : String) (view : TenantRoutingView) : RoutingViewCache :=
  let entry := (now + cache.ttl, view)
  if tenantId ∈ cache.data then
    { cache with data := cache.data.replace tenantId entry }
  else
    let data := if cache.maxEntries ≤ cache.data.entries.length then dropOldest cache.data
      else cache.data
    { cache with data := data.insert tenantId entry }

/-- `invalidate`. -/
def invalidate (tenantId : String) : RoutingViewCache :=
  { cache with data := cache.data.erase tenantId }

/-- Every cached view satisfies `p` for its tenant. -/
def AllCached (p : String → TenantRoutingView → Prop) : Prop :=
  ∀ t expiresAt view, cache.data.lookup t = some (expiresAt, view) → p t view

section AllCached

variable {cache} {p : String → TenantRoutingView → Prop}

theorem AllCached.mono {q : String → TenantRoutingView → Prop} (h : cache.AllCached p)
    (hpq : ∀ t view, p t view → q t view) :
  cache.AllCached q
  := fun t expiresAt view hview => hpq t view (h t expiresAt view hview)

theorem lookup_of_dropOldest {data : AList fun _ : String => Int × TenantRoutingView}
    {t : String} {entry : Int × TenantRoutingView} (h : (dropOldest data).lookup t = some entry) :
  data.lookup t = some entry
  := by
  rw [dropOldest] at h
  split at h
  · apply h
  · apply Dictionary.lookup_of_erase h

theorem AllCached.get (h : cache.AllCached p) (now : Int) (tenantId : String) :
  (cache.get now tenantId).2.AllCached p
    ∧ ∀ view, (cache.get now tenantId).1 = some view → p tenantId view
  := by
  rw [RoutingViewCache.get]
  split
  · constructor
    · apply h
    · rintro view ⟨⟩
  · rename_i expiresAt view hlookup
    split
    · constructor
      · intro t expiresAt view hview
        apply h t expiresAt view (Dictionary.lookup_of_erase hview)
      · rintro view ⟨⟩
    · constructor
      · apply h
      · rintro _ ⟨⟩
        apply h tenantId expiresAt view hlookup

theorem AllCached.put (h : cache.AllCached p) {now : Int} {tenantId : String}
    {view : TenantRoutingView} (hview : p tenantId view) :
  (cache.put now tenantId view).AllCached p
  := by
  intro t expiresAt view' hview'
  rw [RoutingViewCache.put] at hview'
  simp only at hview'
  split at hview'
  · have hmem : (⟨t, expiresAt, view'⟩ : Sigma fun _ : String => Int × TenantRoutingView) ∈
        List.kreplace tenantId (now + cache.ttl, view) cache.data.entries :=
      AList.mem_lookup_iff.mp hview'
    rcases Dictionary.mem_kreplace hmem with he | he
    · cases he
      apply hview
    · apply h t expiresAt view' (AList.mem_lookup_iff.mpr he)
  · by_cases ht : t = tenantId
    · subst ht
      rw [AList.lookup_insert] at hview'
      cases hview'
      apply hview
    · rw [AList.lookup_insert_ne ht] at hview'
      split at hview'
      · apply h t expiresAt view' (lookup_of_dropOldest hview')
      · apply h t expiresAt view' hview'

theorem AllCached.invalidate (h : cache.AllCached p) (tenantId : String) :
  (cache.invalidate tenantId).AllCached p
  := by
  intro t expiresAt view hview
  apply h t expiresAt view (Dictionary.lookup_of_erase hview)

end AllCached

end RoutingViewCache

end DatabaseRouter
