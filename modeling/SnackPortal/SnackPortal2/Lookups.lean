import SnackPortal.SnackPortal2.ControlPlane
import SnackPortal.StartupImport.Models

/-!
# Internal lookups

The services look a key up at the control plane by a URL that ends in the key.  How a URL is
sent, routed and decoded is not theirs: `dispatch` gives the operation that a `GET` of a URL
reaches, with its path parameters, if it reaches one.  The answer is about the key asked for
exactly when the operation is: no lookup compares the key of the answer with its own.
-/

namespace SnackPortal2

open StartupImport (GlobalSourceRecord)

/-- The operations of the control plane that are reached by `GET`. -/
inductive ControlPlaneCall where
  | readTenant (tenantRef : String)
  | readReadiness (tenantRef : String)
  | listMemberships (principalRef : String)
  | readDirectoryRecord (directory : DirectoryKind) (recordRef : String)
deriving DecidableEq, Repr

/-- The bodies that they answer with. -/
inductive ControlPlaneBody where
  | tenant (descriptor : TenantDescriptor)
  | readiness (tenantRef : String) (lifecycleState : TenantLifecycleState) (serviceable : Bool)
  | memberships (principalRef : String) (memberships : List MembershipEntry)
  | record (record : DirectoryRecord)
deriving DecidableEq, Repr

def ControlStore.answer (store : ControlStore) :
    ControlPlaneCall → Except AppError ControlPlaneBody
  | .readTenant tenantRef => (readTenant store tenantRef).map .tenant
  | .readReadiness tenantRef => (readReadiness store tenantRef).map
      fun (tenantRef, lifecycleState, serviceable) =>
        .readiness tenantRef lifecycleState serviceable
  | .listMemberships principalRef => (SnackPortal2.listMemberships store principalRef).map
      fun (principalRef, memberships) => .memberships principalRef memberships
  | .readDirectoryRecord directory recordRef =>
      (readDirectoryRecord store directory recordRef).map .record

/-- What the registry says about a tenant. -/
structure TenantRegistryEntry where
  tenantRef : String
  lifecycleState : TenantLifecycleState
  expectedSchemaVersion : String
  associationStoreRef : String
  associationVersion : String
deriving DecidableEq, Repr, Inhabited

/-- One bound database. -/
structure ResolvedTarget where
  tenantRef : String
  targetRef : String
  expectedSchemaVersion : String
  dsn : String
deriving DecidableEq, Repr, Inhabited

/-- The permission to open one tenant database. -/
structure TenantConnectionGrant where
  tenantRef : String
  targetRef : String
  expectedSchemaVersion : String
  dsn : String
  expiresAt : String
deriving DecidableEq, Repr, Inhabited

def TenantDescriptor.entry (descriptor : TenantDescriptor) : TenantRegistryEntry where
  tenantRef := descriptor.tenantRef
  lifecycleState := descriptor.lifecycleState
  expectedSchemaVersion := descriptor.expectedSchemaVersion
  associationStoreRef := descriptor.databaseAssociationRef.storeRef
  associationVersion := descriptor.databaseAssociationRef.version

def DirectoryRecord.source (record : DirectoryRecord) : GlobalSourceRecord where
  recordRef := record.recordRef
  displayName := record.displayName
  attributes := record.attributes

/-- `TenantResolver.resolve`: one database, or a denial. -/
def TenantResolver.resolve (lookup : String → Option TenantRegistryEntry)
    (secrets : String → String → Option String) (tenantRef : Option String) :
    Except AppError ResolvedTarget :=
  match tenantRef with
  | none => throw consistentTenantDenial
  | some tenantRef =>
      if tenantRef = "" then
        throw consistentTenantDenial
      else
        match lookup tenantRef with
        | none => throw consistentTenantDenial
        | some entry =>
            if entry.lifecycleState ≠ .active then
              throw tenantNotReady
            else
              match secrets entry.associationStoreRef entry.associationVersion with
              | none => throw tenantUnavailable
              | some dsn =>
                  if dsn = "" then
                    throw tenantUnavailable
                  else
                    return {
                      tenantRef := entry.tenantRef
                      targetRef := "ref:tenant/" ++ entry.tenantRef ++ "/database"
                      expectedSchemaVersion := entry.expectedSchemaVersion
                      dsn }

/-- `POST /internal/routing/bind`: a grant for the database that the resolver binds, to a
service of the allowlist. -/
def bindGrant (resolve : Option String → Except AppError ResolvedTarget)
    (serviceFor : String → Option String) (credential expiresAt tenantRef : String) :
    Except AppError TenantConnectionGrant := do
  if ¬ Bounded 128 tenantRef then
    throw invalidRequest
  if serviceFor credential = none then
    throw accessDenied
  let target ← resolve (some tenantRef)
  return {
    tenantRef := target.tenantRef
    targetRef := target.targetRef
    expectedSchemaVersion := target.expectedSchemaVersion
    dsn := target.dsn
    expiresAt }

/-- `RouterGrantProvider.grant_for`: what the router answers, where it is reached. -/
def grantFor (router : String → Option (Except AppError TenantConnectionGrant))
    (tenantRef : Option String) : Except AppError TenantConnectionGrant :=
  match tenantRef with
  | none => throw tenantUnavailable
  | some tenantRef =>
      if tenantRef = "" then
        throw tenantUnavailable
      else
        match router tenantRef with
        | none => throw tenantUnavailable
        | some (.error denial) => throw denial
        | some (.ok grant) => return grant

section Http

variable (dispatch : String → Option ControlPlaneCall) (baseUrl : String)
  (store : ControlStore)

/-- The body of a `GET` that is answered with success. -/
def httpGet (url : String) : Option ControlPlaneBody :=
  (dispatch url).bind fun call => (store.answer call).toOption

/-- `HttpControlPlaneMemberships.is_member`. -/
def isMember (principalRef tenantRef : String) : Bool :=
  match httpGet dispatch store (baseUrl ++ "/internal/memberships/" ++ principalRef) with
  | some (.memberships _ memberships) =>
      memberships.any fun entry => entry.tenantRef == tenantRef
  | _ => false

/-- `HttpControlPlaneRegistry.lookup`. -/
def lookup (tenantRef : String) : Option TenantRegistryEntry :=
  match httpGet dispatch store (baseUrl ++ "/internal/tenants/" ++ tenantRef) with
  | some (.tenant descriptor) => some descriptor.entry
  | _ => none

/-- `HttpGlobalDirectory.read`, of the directory. -/
def readSource (directory : DirectoryKind) (sourceRef : String) : Option GlobalSourceRecord :=
  match httpGet dispatch store
    (baseUrl ++ "/internal/directories/" ++ directory.value ++ "/records/" ++ sourceRef) with
  | some (.record record) => some record.source
  | _ => none

end Http

/-! ## Answers -/

theorem map_eq_ok {α β : Type} {f : α → β} {result : Except AppError α} {b : β} :
  result.map f = .ok b ↔ ∃ a, result = .ok a ∧ f a = b
  := by
  cases result with
  | error denial => simp [Except.map]
  | ok a => simp [Except.map]

section Answers

variable {store : ControlStore} {call : ControlPlaneCall}

theorem answer_tenant {descriptor : TenantDescriptor} :
  store.answer call = .ok (.tenant descriptor)
    ↔ ∃ key, call = .readTenant key ∧ Bounded 128 key
      ∧ store.getTenant key = some descriptor
  := by
  cases call with
  | readTenant key => simp [ControlStore.answer, map_eq_ok, readTenant_ok_iff]
  | readReadiness key => simp [ControlStore.answer, map_eq_ok]
  | listMemberships key => simp [ControlStore.answer, map_eq_ok]
  | readDirectoryRecord directory key => simp [ControlStore.answer, map_eq_ok]

theorem answer_memberships {principalRef : String} {memberships : List MembershipEntry} :
  store.answer call = .ok (.memberships principalRef memberships)
    ↔ call = .listMemberships principalRef ∧ Bounded 128 principalRef
      ∧ store.listMemberships principalRef = memberships
  := by
  cases call with
  | readTenant key => simp [ControlStore.answer, map_eq_ok]
  | readReadiness key => simp [ControlStore.answer, map_eq_ok]
  | listMemberships key =>
      rw [ControlStore.answer, map_eq_ok]
      simp only [listMemberships_ok_iff, ControlPlaneCall.listMemberships.injEq]
      constructor
      · rintro ⟨response, ⟨hbounded, rfl⟩, h⟩
        cases h
        exact ⟨rfl, hbounded, rfl⟩
      · rintro ⟨rfl, hbounded, rfl⟩
        exact ⟨_, ⟨hbounded, rfl⟩, rfl⟩
  | readDirectoryRecord directory key => simp [ControlStore.answer, map_eq_ok]

theorem answer_record {record : DirectoryRecord} :
  store.answer call = .ok (.record record)
    ↔ ∃ directory key, call = .readDirectoryRecord directory key ∧ Bounded 256 key
      ∧ store.getDirectoryRecord directory key = some record
  := by
  cases call with
  | readTenant key => simp [ControlStore.answer, map_eq_ok]
  | readReadiness key => simp [ControlStore.answer, map_eq_ok]
  | listMemberships key => simp [ControlStore.answer, map_eq_ok]
  | readDirectoryRecord directory key =>
      rw [ControlStore.answer, map_eq_ok]
      simp only [readDirectoryRecord_ok_iff, ControlPlaneBody.record.injEq, exists_eq_right,
        ControlPlaneCall.readDirectoryRecord.injEq]
      constructor
      · intro h
        use directory, key, ⟨rfl, rfl⟩
      · rintro ⟨directory', key', ⟨rfl, rfl⟩, h⟩
        apply h

end Answers

section Lookups

variable {dispatch : String → Option ControlPlaneCall} {baseUrl : String}
  {store : ControlStore}

theorem httpGet_eq_some {url : String} {body : ControlPlaneBody} :
  httpGet dispatch store url = some body
    ↔ ∃ call, dispatch url = some call ∧ store.answer call = .ok body
  := by
  rw [httpGet, Option.bind_eq_some_iff]
  apply exists_congr
  intro call
  apply and_congr_right'
  cases store.answer call with
  | error denial => simp [Except.toOption]
  | ok body' => simp [Except.toOption]

/-- A lookup finds a tenant exactly when its request reaches the operation for a stored one. -/
theorem lookup_eq_some {tenantRef : String} {entry : TenantRegistryEntry} :
  lookup dispatch baseUrl store tenantRef = some entry
    ↔ ∃ key, dispatch (baseUrl ++ "/internal/tenants/" ++ tenantRef) = some (.readTenant key)
      ∧ Bounded 128 key ∧ ∃ descriptor, store.getTenant key = some descriptor
        ∧ descriptor.entry = entry
  := by
  have hbody : lookup dispatch baseUrl store tenantRef = some entry
      ↔ ∃ descriptor, httpGet dispatch store (baseUrl ++ "/internal/tenants/" ++ tenantRef)
          = some (.tenant descriptor) ∧ descriptor.entry = entry := by
    rw [lookup]
    split
    · simp_all
    · simp_all
  rw [hbody]
  simp only [httpGet_eq_some, answer_tenant]
  constructor
  · rintro ⟨descriptor, ⟨call, hcall, key, rfl, hbounded, hstored⟩, hentry⟩
    exact ⟨key, hcall, hbounded, descriptor, hstored, hentry⟩
  · rintro ⟨key, hcall, hbounded, descriptor, hstored, hentry⟩
    exact ⟨descriptor, ⟨_, hcall, key, rfl, hbounded, hstored⟩, hentry⟩

/-- A source is read exactly when its request reaches the operation for a stored record. -/
theorem readSource_eq_some {directory : DirectoryKind} {sourceRef : String}
    {source : GlobalSourceRecord} :
  readSource dispatch baseUrl store directory sourceRef = some source
    ↔ ∃ kind key, dispatch (baseUrl ++ "/internal/directories/" ++ directory.value
        ++ "/records/" ++ sourceRef) = some (.readDirectoryRecord kind key)
      ∧ Bounded 256 key ∧ ∃ record, store.getDirectoryRecord kind key = some record
        ∧ record.source = source
  := by
  have hbody : readSource dispatch baseUrl store directory sourceRef = some source
      ↔ ∃ record, httpGet dispatch store (baseUrl ++ "/internal/directories/"
          ++ directory.value ++ "/records/" ++ sourceRef) = some (.record record)
        ∧ record.source = source := by
    rw [readSource]
    split
    · simp_all
    · simp_all
  rw [hbody]
  simp only [httpGet_eq_some, answer_record]
  constructor
  · rintro ⟨record, ⟨call, hcall, kind, key, rfl, hbounded, hstored⟩, hsource⟩
    exact ⟨kind, key, hcall, hbounded, record, hstored, hsource⟩
  · rintro ⟨kind, key, hcall, hbounded, record, hstored, hsource⟩
    exact ⟨record, ⟨_, hcall, kind, key, rfl, hbounded, hstored⟩, hsource⟩

/-- A principal is a member exactly when the request reaches the memberships of one that is. -/
theorem isMember_iff {principalRef tenantRef : String} :
  isMember dispatch baseUrl store principalRef tenantRef = true
    ↔ ∃ key, dispatch (baseUrl ++ "/internal/memberships/" ++ principalRef)
        = some (.listMemberships key)
      ∧ Bounded 128 key ∧ ∃ role, store.memberships.lookup (key, tenantRef) = some role
  := by
  have hbody : isMember dispatch baseUrl store principalRef tenantRef = true
      ↔ ∃ key memberships, httpGet dispatch store (baseUrl ++ "/internal/memberships/"
          ++ principalRef) = some (.memberships key memberships)
        ∧ ∃ entry ∈ memberships, entry.tenantRef = tenantRef := by
    rw [isMember]
    split
    · simp_all
    · simp_all
  rw [hbody]
  simp only [httpGet_eq_some, answer_memberships]
  constructor
  · rintro ⟨key, memberships, ⟨call, hcall, rfl, hbounded, rfl⟩, entry, hentry, rfl⟩
    exact ⟨key, hcall, hbounded, entry.role, ControlStore.mem_listMemberships.mp hentry⟩
  · rintro ⟨key, hcall, hbounded, role, hstored⟩
    exact ⟨key, _, ⟨_, hcall, rfl, hbounded, rfl⟩, ⟨tenantRef, role⟩,
      ControlStore.mem_listMemberships.mpr hstored, rfl⟩

end Lookups

end SnackPortal2
