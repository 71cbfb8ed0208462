import SnackPortal.Data.UrlPath
import SnackPortal.SnackPortal2.Lookups

/-!
# Exact lookups

What a lookup over HTTP answers is about the key asked for exactly when the operation that its
URL reaches is (`lookups_exact`).  Over the paths of URLs as they are written, this is so for
every key that stands for itself in a path (`tenantExact_of_plain`), and not for one that goes
on with a query or a fragment (`not_tenantExact_of_suffix`).
-/

namespace SnackPortal2

/-- The target is of the tenant: its own reference, and the connection string and schema of
the association that the registry holds for it. -/
def BoundTo (store : ControlStore) (secrets : String → String → Option String)
    (tenantRef boundRef expectedSchemaVersion dsn : String) : Prop :=
  boundRef = tenantRef ∧ ∃ descriptor, store.getTenant tenantRef = some descriptor
    ∧ descriptor.lifecycleState = .active
    ∧ descriptor.expectedSchemaVersion = expectedSchemaVersion
    ∧ secrets descriptor.databaseAssociationRef.storeRef descriptor.databaseAssociationRef.version
      = some dsn

section Exact

variable (dispatch : String → Option ControlPlaneCall) (baseUrl : String)

/-- The resolver over the registry of the control plane. -/
def resolveTenant (store : ControlStore) (secrets : String → String → Option String) :
    Option String → Except AppError ResolvedTarget :=
  TenantResolver.resolve (lookup dispatch baseUrl store) secrets

/-- The database router, where it is reached. -/
def router (store : ControlStore) (secrets : String → String → Option String)
    (serviceFor : String → Option String) (credential expiresAt : String) (reached : Bool)
    (tenantRef : String) : Option (Except AppError TenantConnectionGrant) :=
  if reached then
    some (bindGrant (resolveTenant dispatch baseUrl store secrets) serviceFor credential
      expiresAt tenantRef)
  else
    none

/-- A member by the answer is one by the stored pair. -/
def MembershipExact (principalRef : String) : Prop :=
  ∀ store : ControlStore, store.Recorded → ∀ tenantRef,
    isMember dispatch baseUrl store principalRef tenantRef = true →
    ∃ role, store.memberships.lookup (principalRef, tenantRef) = some role

/-- The record, the binding and the grant of a tenant are its own. -/
structure TenantExact (tenantRef : String) : Prop where
  lookup : ∀ store : ControlStore, store.Recorded → ∀ entry,
    lookup dispatch baseUrl store tenantRef = some entry →
    ∃ descriptor, store.getTenant tenantRef = some descriptor ∧ descriptor.entry = entry
  resolve : ∀ store : ControlStore, store.Recorded → ∀ secrets target,
    resolveTenant dispatch baseUrl store secrets (some tenantRef) = .ok target →
    BoundTo store secrets tenantRef target.tenantRef target.expectedSchemaVersion target.dsn
  grant : ∀ store : ControlStore, store.Recorded →
    ∀ secrets serviceFor credential expiresAt reached grant,
    grantFor (router dispatch baseUrl store secrets serviceFor credential expiresAt reached)
      (some tenantRef) = .ok grant →
    BoundTo store secrets tenantRef grant.tenantRef grant.expectedSchemaVersion grant.dsn

/-- The source that is read is the one of the directory and the reference. -/
def SourceExact (directory : DirectoryKind) (sourceRef : String) : Prop :=
  ∀ store : ControlStore, store.Recorded → ∀ source,
    readSource dispatch baseUrl store directory sourceRef = some source →
    source.recordRef = sourceRef
      ∧ ∃ record, store.getDirectoryRecord directory sourceRef = some record
        ∧ record.source = source

end Exact

section Exact

variable {dispatch : String → Option ControlPlaneCall} {baseUrl : String}

/-! ## Memberships -/

/-- A store with one membership, of the principal in the tenant of its name. -/
theorem recorded_membership {key : String} (h : Bounded 128 key) :
  ControlStore.Recorded (ControlStore.putMembership {} key key .tenantAgent)
  := by
  apply ControlStore.Recorded.membership key key .tenantAgent .empty
  rw [registerMembership, if_pos ⟨h, h⟩]
  rfl

theorem membershipExact_iff {principalRef : String} :
  MembershipExact dispatch baseUrl principalRef
    ↔ ∀ key, dispatch (baseUrl ++ "/internal/memberships/" ++ principalRef)
        = some (.listMemberships key) → Bounded 128 key → key = principalRef
  := by
  constructor
  · intro h key hreach hbounded
    have hstored : (ControlStore.putMembership {} key key .tenantAgent).memberships.lookup
        (key, key) = some .tenantAgent := by
      rw [ControlStore.putMembership, AList.lookup_insert]
    have hmember := isMember_iff.mpr ⟨key, hreach, hbounded, _, hstored⟩
    obtain ⟨role, hrole⟩ := h _ (recorded_membership hbounded) key hmember
    by_contra hne
    rw [ControlStore.putMembership,
      AList.lookup_insert_ne (fun hkey => hne (Prod.mk.inj hkey).1.symm)] at hrole
    cases hrole
  · intro h store _ tenantRef hmember
    obtain ⟨key, hreach, hbounded, role, hrole⟩ := isMember_iff.mp hmember
    obtain rfl := h key hreach hbounded
    use role

/-! ## Tenants -/

/-- The resolver binds what the lookup finds, where it is active and its secret is there. -/
theorem resolve_ok {lookup : String → Option TenantRegistryEntry}
    {secrets : String → String → Option String} {tenantRef : String} {target : ResolvedTarget}
    (h : TenantResolver.resolve lookup secrets (some tenantRef) = .ok target) :
  ∃ entry, lookup tenantRef = some entry ∧ entry.lifecycleState = .active
    ∧ secrets entry.associationStoreRef entry.associationVersion = some target.dsn
    ∧ target.tenantRef = entry.tenantRef
    ∧ target.expectedSchemaVersion = entry.expectedSchemaVersion
  := by
  rw [TenantResolver.resolve] at h
  split_ifs at h with hempty
  cases hlookup : lookup tenantRef with
  | none =>
      rw [hlookup] at h
      cases h
  | some entry =>
      rw [hlookup] at h
      dsimp only at h
      split_ifs at h with hactive
      cases hdsn : secrets entry.associationStoreRef entry.associationVersion with
      | none =>
          rw [hdsn] at h
          cases h
      | some dsn =>
          rw [hdsn] at h
          dsimp only at h
          split_ifs at h with hblank
          cases h
          exact ⟨entry, rfl, not_not.mp hactive, hdsn, rfl, rfl⟩

/-- A grant carries the target that the resolver binds for its tenant. -/
theorem grantFor_ok {store : ControlStore} {secrets : String → String → Option String}
    {serviceFor : String → Option String} {credential expiresAt : String} {reached : Bool}
    {tenantRef : String} {grant : TenantConnectionGrant}
    (h : grantFor (router dispatch baseUrl store secrets serviceFor credential expiresAt reached)
      (some tenantRef) = .ok grant) :
  ∃ target, resolveTenant dispatch baseUrl store secrets (some tenantRef) = .ok target
    ∧ grant.tenantRef = target.tenantRef ∧ grant.dsn = target.dsn
    ∧ grant.expectedSchemaVersion = target.expectedSchemaVersion
  := by
  rw [grantFor] at h
  split_ifs at h with hempty
  rw [router] at h
  cases reached with
  | false => cases h
  | true =>
      rw [if_pos rfl] at h
      cases hgrant : bindGrant (resolveTenant dispatch baseUrl store secrets) serviceFor
          credential expiresAt tenantRef with
      | error denial =>
          rw [hgrant] at h
          cases h
      | ok grant' =>
          rw [hgrant] at h
          cases h
          rw [bindGrant] at hgrant
          by_cases hbounded : Bounded 128 tenantRef
          · by_cases hservice : serviceFor credential = none
            · rw [if_neg (not_not.mpr hbounded), if_pos hservice] at hgrant
              cases hgrant
            · rw [if_neg (not_not.mpr hbounded), if_neg hservice] at hgrant
              cases hresolve : resolveTenant dispatch baseUrl store secrets (some tenantRef) with
              | error denial =>
                  rw [hresolve] at hgrant
                  cases hgrant
              | ok target =>
                  rw [hresolve] at hgrant
                  cases hgrant
                  exact ⟨target, rfl, rfl, rfl, rfl⟩
          · rw [if_pos hbounded] at hgrant
            cases hgrant

/-- A registration that every reference is admitted with. -/
def registrationOf (tenantRef : String) : TenantRegistration where
  tenantRef
  organizationRef := "org"
  lifecycleState := .active
  expectedSchemaVersion := "1"
  databaseAssociationRef := ⟨"sp2/association", "1"⟩

/-- A store with one tenant. -/
theorem recorded_tenant {key : String} (h : Bounded 128 key) :
  ∃ store : ControlStore, store.Recorded ∧ (∃ descriptor, store.getTenant key = some descriptor)
    ∧ ∀ key', key' ≠ key → store.getTenant key' = none
  := by
  have horganization : Bounded 128 "org" := by decide
  have hschema : Bounded 64 "1" := by decide
  have hvalid : (registrationOf key).Valid := ⟨h, horganization, hschema⟩
  have hstore : looksLikeAConnectionString "sp2/association" = false := by decide +kernel
  have hdsn : looksLikeAConnectionString (registrationOf key).databaseAssociationRef.storeRef
      = false := hstore
  have hregister : registerTenant {} (registrationOf key)
      = .ok (ControlStore.putTenant {} (registrationOf key).descriptor) := by
    rw [registerTenant, if_neg (not_not.mpr hvalid), hdsn]
    rfl
  use ControlStore.putTenant {} (registrationOf key).descriptor,
    .tenant (registrationOf key) .empty hregister
  constructor
  · use (registrationOf key).descriptor
    apply AList.lookup_insert
  · intro key' hne
    apply AList.lookup_insert_ne hne

theorem tenantExact_iff {tenantRef : String} :
  TenantExact dispatch baseUrl tenantRef
    ↔ ∀ key, dispatch (baseUrl ++ "/internal/tenants/" ++ tenantRef)
        = some (.readTenant key) → Bounded 128 key → key = tenantRef
  := by
  constructor
  · intro h key hreach hbounded
    obtain ⟨store, hrecorded, ⟨descriptor, hdescriptor⟩, hother⟩ := recorded_tenant hbounded
    have hlookup := lookup_eq_some.mpr ⟨key, hreach, hbounded, descriptor, hdescriptor, rfl⟩
    obtain ⟨descriptor', hdescriptor', -⟩ := h.lookup store hrecorded _ hlookup
    by_contra hne
    rw [hother tenantRef (Ne.symm hne)] at hdescriptor'
    cases hdescriptor'
  · intro h
    have hlookup : ∀ store : ControlStore, ∀ entry,
        lookup dispatch baseUrl store tenantRef = some entry →
        ∃ descriptor, store.getTenant tenantRef = some descriptor
          ∧ descriptor.entry = entry := by
      intro store entry hentry
      obtain ⟨key, hreach, hbounded, hstored⟩ := lookup_eq_some.mp hentry
      obtain rfl := h key hreach hbounded
      apply hstored
    have hresolve : ∀ store : ControlStore, store.Recorded → ∀ secrets target,
        resolveTenant dispatch baseUrl store secrets (some tenantRef) = .ok target →
        BoundTo store secrets tenantRef target.tenantRef target.expectedSchemaVersion
          target.dsn := by
      intro store hrecorded secrets target htarget
      obtain ⟨entry, hentry, hactive, hdsn, href, hschema⟩ := resolve_ok htarget
      obtain ⟨descriptor, hdescriptor, rfl⟩ := hlookup store entry hentry
      constructor
      · rw [href]
        apply hrecorded.keyed.tenants _ _ hdescriptor
      · exact ⟨descriptor, hdescriptor, hactive, hschema.symm, hdsn⟩
    constructor
    · intro store _
      apply hlookup store
    · apply hresolve
    · intro store hrecorded secrets serviceFor credential expiresAt reached grant hgrant
      obtain ⟨target, htarget, href, hdsn, hschema⟩ := grantFor_ok hgrant
      rw [href, hdsn, hschema]
      apply hresolve store hrecorded secrets target htarget

/-! ## Sources -/

theorem sourceExact_iff {directory : DirectoryKind} {sourceRef : String} :
  SourceExact dispatch baseUrl directory sourceRef
    ↔ ∀ kind key, dispatch (baseUrl ++ "/internal/directories/" ++ directory.value
        ++ "/records/" ++ sourceRef) = some (.readDirectoryRecord kind key) →
      Bounded 256 key → kind = directory ∧ key = sourceRef
  := by
  constructor
  · intro h kind key hreach hbounded
    have hstored : (ControlStore.putDirectoryRecord {} kind ⟨key, "", []⟩).getDirectoryRecord
        kind key = some ⟨key, "", []⟩ := by
      apply AList.lookup_insert
    have hrecorded := ControlStore.Recorded.directory kind ⟨key, "", []⟩ .empty
    have hread := readSource_eq_some.mpr ⟨kind, key, hreach, hbounded, _, hstored, rfl⟩
    obtain ⟨-, record, hrecord, -⟩ := h _ hrecorded _ hread
    by_contra hne
    have hother : (directory, sourceRef) ≠ (kind, key) := by
      intro hkey
      apply hne ⟨(Prod.mk.inj hkey).1.symm, (Prod.mk.inj hkey).2.symm⟩
    rw [ControlStore.getDirectoryRecord, ControlStore.putDirectoryRecord,
      AList.lookup_insert_ne hother] at hrecord
    cases hrecord
  · intro h store hrecorded source hread
    obtain ⟨kind, key, hreach, hbounded, record, hrecord, rfl⟩ := readSource_eq_some.mp hread
    obtain ⟨rfl, rfl⟩ := h kind key hreach hbounded
    constructor
    · apply hrecorded.keyed.directory _ _ _ hrecord
    · use record

/-- The lookups answer about exactly the key asked for when no other admitted key is the one
that their URL reaches. -/
theorem lookups_exact :
  ∀ (dispatch : String → Option ControlPlaneCall) (baseUrl : String),
    (∀ principalRef, MembershipExact dispatch baseUrl principalRef
        ↔ ∀ key, dispatch (baseUrl ++ "/internal/memberships/" ++ principalRef)
          = some (.listMemberships key) → Bounded 128 key → key = principalRef)
      ∧ (∀ tenantRef, TenantExact dispatch baseUrl tenantRef
        ↔ ∀ key, dispatch (baseUrl ++ "/internal/tenants/" ++ tenantRef)
          = some (.readTenant key) → Bounded 128 key → key = tenantRef)
      ∧ ∀ directory sourceRef, SourceExact dispatch baseUrl directory sourceRef
        ↔ ∀ kind key, dispatch (baseUrl ++ "/internal/directories/" ++ directory.value
            ++ "/records/" ++ sourceRef) = some (.readDirectoryRecord kind key) →
          Bounded 256 key → kind = directory ∧ key = sourceRef
  := by
  intro dispatch baseUrl
  apply And.intro (fun principalRef => membershipExact_iff)
  apply And.intro (fun tenantRef => tenantExact_iff)
  apply fun directory sourceRef => sourceExact_iff

end Exact

/-! ## Paths as they are written -/

/-- The routes of the control plane for `GET`; a path parameter is a segment with something in
it. -/
def route : List String → Option ControlPlaneCall
  | ["", "internal", "tenants", tenantRef] =>
      if tenantRef = "" then none else some (.readTenant tenantRef)
  | ["", "internal", "tenants", tenantRef, "readiness"] =>
      if tenantRef = "" then none else some (.readReadiness tenantRef)
  | ["", "internal", "memberships", principalRef] =>
      if principalRef = "" then none else some (.listMemberships principalRef)
  | ["", "internal", "directories", directory, "records", recordRef] =>
      if recordRef = "" then none
      else if directory = DirectoryKind.globalStartup.value then
        some (.readDirectoryRecord .globalStartup recordRef)
      else if directory = DirectoryKind.globalInvestor.value then
        some (.readDirectoryRecord .globalInvestor recordRef)
      else none
  | _ => none

/-- What a URL under the base reaches by the segments of its path. -/
def pathDispatch (baseUrl url : String) : Option ControlPlaneCall :=
  if Text.startsWith url baseUrl then
    route ((UrlPath.segments (Text.drop url baseUrl.length).toList).map String.ofList)
  else
    none

/-- A reference that stands for itself in a path. -/
def PlainRef (ref : String) : Prop :=
  ref ≠ "" ∧ UrlPath.Plain ref.toList

theorem pathDispatch_join {baseUrl : String} {path : List String} {rest : String}
    (hne : path ≠ []) (h : ∀ segment ∈ path, UrlPath.Plain segment.toList)
    (hrest : UrlPath.Suffix rest.toList) :
  pathDispatch baseUrl (baseUrl ++ (String.intercalate "/" path ++ rest)) = route path
  := by
  have hstart : Text.startsWith (baseUrl ++ (String.intercalate "/" path ++ rest)) baseUrl
      = true := by
    rw [Text.startsWith_iff]
    exact ⟨_, rfl⟩
  have hchars : (String.intercalate "/" path ++ rest).toList
      = ['/'].intercalate (path.map String.toList) ++ rest.toList := by
    rw [String.toList_append, String.toList_intercalate]
    rfl
  rw [pathDispatch, if_pos hstart, Text.drop_append, hchars, UrlPath.segments_join]
  · simp
  · simpa using hne
  · simpa using h
  · apply hrest

/-- A request for a reference reaches what its path is routed to, whatever query or fragment
follows the reference. -/
theorem pathDispatch_ref {baseUrl start ref rest : String} {path : List String}
    (hpath : (start ++ ref).toList = (String.intercalate "/" path).toList) (hne : path ≠ [])
    (hplain : ∀ segment ∈ path, UrlPath.Plain segment.toList)
    (hrest : UrlPath.Suffix rest.toList) :
  pathDispatch baseUrl (baseUrl ++ start ++ (ref ++ rest)) = route path
  := by
  have hurl : baseUrl ++ start ++ (ref ++ rest)
      = baseUrl ++ (String.intercalate "/" path ++ rest) := by
    rw [← String.toList_injective hpath]
    simp only [String.append_assoc]
  rw [hurl, pathDispatch_join hne hplain hrest]

theorem pathDispatch_tenant {baseUrl ref rest : String} (h : PlainRef ref)
    (hrest : UrlPath.Suffix rest.toList) :
  pathDispatch baseUrl (baseUrl ++ "/internal/tenants/" ++ (ref ++ rest))
    = some (.readTenant ref)
  := by
  have hpath : ("/internal/tenants/" ++ ref).toList
      = (String.intercalate "/" ["", "internal", "tenants", ref]).toList := by
    simp
  have hplain : ∀ segment ∈ ["", "internal", "tenants", ref],
      UrlPath.Plain segment.toList := by
    simpa [h.2] using by decide
  rw [pathDispatch_ref hpath (List.cons_ne_nil _ _) hplain hrest, route, if_neg h.1]

theorem pathDispatch_membership {baseUrl ref rest : String} (h : PlainRef ref)
    (hrest : UrlPath.Suffix rest.toList) :
  pathDispatch baseUrl (baseUrl ++ "/internal/memberships/" ++ (ref ++ rest))
    = some (.listMemberships ref)
  := by
  have hpath : ("/internal/memberships/" ++ ref).toList
      = (String.intercalate "/" ["", "internal", "memberships", ref]).toList := by
    simp
  have hplain : ∀ segment ∈ ["", "internal", "memberships", ref],
      UrlPath.Plain segment.toList := by
    simpa [h.2] using by decide
  rw [pathDispatch_ref hpath (List.cons_ne_nil _ _) hplain hrest, route, if_neg h.1]

theorem pathDispatch_source {baseUrl ref rest : String} {directory : DirectoryKind}
    (h : PlainRef ref) (hrest : UrlPath.Suffix rest.toList) :
  pathDispatch baseUrl (baseUrl ++ "/internal/directories/" ++ directory.value ++ "/records/"
      ++ (ref ++ rest))
    = some (.readDirectoryRecord directory ref)
  := by
  have hpath : ("/internal/directories/" ++ directory.value ++ "/records/" ++ ref).toList
      = (String.intercalate "/"
        ["", "internal", "directories", directory.value, "records", ref]).toList := by
    simp
  have hplain : ∀ segment ∈ ["", "internal", "directories", directory.value, "records", ref],
      UrlPath.Plain segment.toList := by
    cases directory with
    | globalStartup => simpa [h.2] using by decide
    | globalInvestor => simpa [h.2] using by decide
  have hurl : baseUrl ++ "/internal/directories/" ++ directory.value ++ "/records/"
        ++ (ref ++ rest)
      = baseUrl ++ ("/internal/directories/" ++ directory.value ++ "/records/")
        ++ (ref ++ rest) := by
    simp only [String.append_assoc]
  rw [hurl, pathDispatch_ref hpath (List.cons_ne_nil _ _) hplain hrest, route, if_neg h.1]
  cases directory with
  | globalStartup => rfl
  | globalInvestor => rfl

/-- A request for a reference alone has no query and no fragment. -/
theorem suffix_empty :
  UrlPath.Suffix ("" : String).toList
  := Or.inl rfl

/-- References that stand for themselves are looked up exactly: the tenant's record, binding
and grant, the principal's memberships, and the source of the directory. -/
theorem lookups_exact_of_plain (baseUrl : String) {ref : String} (h : PlainRef ref) :
  TenantExact (pathDispatch baseUrl) baseUrl ref
    ∧ MembershipExact (pathDispatch baseUrl) baseUrl ref
    ∧ ∀ directory, SourceExact (pathDispatch baseUrl) baseUrl directory ref
  := by
  refine ⟨tenantExact_iff.mpr ?_, membershipExact_iff.mpr ?_,
    fun directory => sourceExact_iff.mpr ?_⟩
  · intro key hreach _
    rw [← String.append_empty (s := ref), pathDispatch_tenant h suffix_empty] at hreach
    cases hreach
    rfl
  · intro key hreach _
    rw [← String.append_empty (s := ref), pathDispatch_membership h suffix_empty] at hreach
    cases hreach
    rfl
  · intro kind key hreach _
    rw [← String.append_empty (s := ref), pathDispatch_source h suffix_empty] at hreach
    cases hreach
    exact ⟨rfl, rfl⟩

/-- The reference of a tenant with a query or a fragment is answered with the tenant. -/
theorem not_tenantExact_of_suffix {baseUrl tenantRef rest : String} (h : PlainRef tenantRef)
    (hbounded : Bounded 128 tenantRef) (hrest : UrlPath.Suffix rest.toList) (hne : rest ≠ "") :
  ¬ TenantExact (pathDispatch baseUrl) baseUrl (tenantRef ++ rest)
  := by
  rw [tenantExact_iff]
  intro hexact
  have hsame := hexact tenantRef (pathDispatch_tenant h hrest) hbounded
  apply hne
  rw [← String.append_right_inj tenantRef, String.append_empty]
  apply hsame.symm

/-- References with a query, a fragment, dot segments or an escape are answered with the
record, the memberships or the source of another reference. -/
theorem lookups_inexact :
  ¬ TenantExact (pathDispatch "http://control-plane:8003") "http://control-plane:8003" "acme?x"
    ∧ ¬ TenantExact (pathDispatch "http://control-plane:8003") "http://control-plane:8003"
      "other/../acme"
    ∧ ¬ TenantExact (pathDispatch "http://control-plane:8003") "http://control-plane:8003"
      "acm%65"
    ∧ ¬ MembershipExact (pathDispatch "http://control-plane:8003") "http://control-plane:8003"
      "user-1#x"
    ∧ ¬ SourceExact (pathDispatch "http://control-plane:8003") "http://control-plane:8003"
      .globalStartup "../../GlobalInvestorDirectory/records/inv-1"
  := by
  rw [tenantExact_iff, tenantExact_iff, tenantExact_iff, membershipExact_iff, sourceExact_iff]
  refine ⟨?_, ?_, ?_, ?_, ?_⟩
  · intro h
    have hsame := h "acme" (by decide +kernel) (by decide)
    revert hsame
    decide
  · intro h
    have hsame := h "acme" (by decide +kernel) (by decide)
    revert hsame
    decide
  · intro h
    have hsame := h "acme" (by decide +kernel) (by decide)
    revert hsame
    decide
  · intro h
    have hsame := h "user-1" (by decide +kernel) (by decide)
    revert hsame
    decide
  · intro h
    have hsame := h .globalInvestor "inv-1" (by decide +kernel) (by decide)
    revert hsame
    decide

end SnackPortal2
