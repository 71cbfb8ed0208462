import SnackPortal.Data.Text
import SnackPortal.SnackPortal2.Types

/-!
# Control plane service

The registry, the memberships and the global directories, in memory, and the operations that
the service answers.  References in a path or a body have at least one character and at most
128, those of directory records at most 256.
-/

namespace SnackPortal2

/-- The global directories. -/
inductive DirectoryKind where
  | globalStartup
  | globalInvestor
deriving DecidableEq, Repr, Inhabited

def DirectoryKind.value : DirectoryKind → String
  | .globalStartup => "GlobalStartupDirectory"
  | .globalInvestor => "GlobalInvestorDirectory"

/-- A pointer into a secret store. -/
structure SecretReference where
  storeRef : String
  version : String
deriving DecidableEq, Repr, Inhabited

structure TenantDescriptor where
  tenantRef : String
  organizationRef : String
  lifecycleState : TenantLifecycleState
  expectedSchemaVersion : String
  databaseAssociationRef : SecretReference
deriving DecidableEq, Repr, Inhabited

structure MembershipEntry where
  tenantRef : String
  role : PlatformRole
deriving DecidableEq, Repr, Inhabited

structure DirectoryRecord where
  recordRef : String
  displayName : String
  attributes : List (String × String)
deriving DecidableEq, Repr, Inhabited

/-- The Control store. -/
structure ControlStore where
  tenants : AList (fun _ : String => TenantDescriptor) := ∅
  memberships : AList (fun _ : String × String => PlatformRole) := ∅
  directory : AList (fun _ : DirectoryKind × String => DirectoryRecord) := ∅

namespace ControlStore

def getTenant (store : ControlStore) (tenantRef : String) : Option TenantDescriptor :=
  store.tenants.lookup tenantRef

def putTenant (store : ControlStore) (descriptor : TenantDescriptor) : ControlStore :=
  { store with tenants := store.tenants.insert descriptor.tenantRef descriptor }

/-- The memberships of a principal, by their tenants. -/
def listMemberships (store : ControlStore) (principalRef : String) : List MembershipEntry :=
  (store.memberships.entries.filterMap fun ⟨(principal, tenant), role⟩ =>
    if principal = principalRef then some ⟨tenant, role⟩ else none).mergeSort
      fun entry entry' => entry.tenantRef ≤ entry'.tenantRef

def putMembership (store : ControlStore) (principalRef tenantRef : String)
    (role : PlatformRole) : ControlStore :=
  { store with memberships := store.memberships.insert (principalRef, tenantRef) role }

def getDirectoryRecord (store : ControlStore) (directory : DirectoryKind)
    (recordRef : String) : Option DirectoryRecord :=
  store.directory.lookup (directory, recordRef)

def putDirectoryRecord (store : ControlStore) (directory : DirectoryKind)
    (record : DirectoryRecord) : ControlStore :=
  { store with directory := store.directory.insert (directory, record.recordRef) record }

/-- Every record is stored under its own reference, and every descriptor under its own. -/
structure Keyed (store : ControlStore) : Prop where
  tenants : ∀ key descriptor, store.tenants.lookup key = some descriptor →
    descriptor.tenantRef = key
  directory : ∀ kind key record, store.directory.lookup (kind, key) = some record →
    record.recordRef = key

theorem keyed_empty :
  Keyed {}
  := by
  constructor
  · intro key descriptor h
    cases h
  · intro kind key record h
    cases h

theorem Keyed.putTenant {store : ControlStore} (h : Keyed store)
    (descriptor : TenantDescriptor) :
  Keyed (store.putTenant descriptor)
  := by
  constructor
  · intro key descriptor' hlookup
    rw [ControlStore.putTenant] at hlookup
    rcases eq_or_ne key descriptor.tenantRef with rfl | hne
    · rw [AList.lookup_insert, Option.some.injEq] at hlookup
      rw [hlookup]
    · rw [AList.lookup_insert_ne hne] at hlookup
      apply h.tenants _ _ hlookup
  · apply h.directory

theorem Keyed.putMembership {store : ControlStore} (h : Keyed store)
    (principalRef tenantRef : String) (role : PlatformRole) :
  Keyed (store.putMembership principalRef tenantRef role)
  := ⟨h.tenants, h.directory⟩

theorem Keyed.putDirectoryRecord {store : ControlStore} (h : Keyed store)
    (kind : DirectoryKind) (record : DirectoryRecord) :
  Keyed (store.putDirectoryRecord kind record)
  := by
  constructor
  · apply h.tenants
  · intro kind' key record' hlookup
    rw [ControlStore.putDirectoryRecord] at hlookup
    rcases eq_or_ne (kind', key) (kind, record.recordRef) with hkey | hne
    · rw [hkey, AList.lookup_insert, Option.some.injEq] at hlookup
      rw [← hlookup, (Prod.mk.inj hkey).2]
    · rw [AList.lookup_insert_ne hne] at hlookup
      apply h.directory _ _ _ hlookup

/-- A membership is listed for a principal exactly when the pair is stored. -/
theorem mem_listMemberships {store : ControlStore} {principalRef : String}
    {entry : MembershipEntry} :
  entry ∈ store.listMemberships principalRef
    ↔ store.memberships.lookup (principalRef, entry.tenantRef) = some entry.role
  := by
  rw [listMemberships, List.mem_mergeSort, List.mem_filterMap, ← Option.mem_def,
    AList.mem_lookup_iff]
  constructor
  · intro ⟨⟨⟨principal, tenant⟩, role⟩, hmem, hentry⟩
    simp only [Option.ite_none_right_eq_some, Option.some.injEq] at hentry
    obtain ⟨rfl, rfl⟩ := hentry
    apply hmem
  · intro hmem
    use ⟨(principalRef, entry.tenantRef), entry.role⟩
    simpa using hmem

end ControlStore

/-! ## The operations -/

/-- Length bounds on a reference. -/
def Bounded (limit : Nat) (ref : String) : Prop :=
  1 ≤ ref.length ∧ ref.length ≤ limit

instance (limit : Nat) (ref : String) : Decidable (Bounded limit ref) :=
  inferInstanceAs (Decidable (1 ≤ ref.length ∧ ref.length ≤ limit))

structure TenantRegistration where
  tenantRef : String
  organizationRef : String
  lifecycleState : TenantLifecycleState
  expectedSchemaVersion : String
  databaseAssociationRef : SecretReference
deriving DecidableEq, Repr, Inhabited

/-- The descriptor that is registered. -/
def TenantRegistration.descriptor (registration : TenantRegistration) : TenantDescriptor where
  tenantRef := registration.tenantRef
  organizationRef := registration.organizationRef
  lifecycleState := registration.lifecycleState
  expectedSchemaVersion := registration.expectedSchemaVersion
  databaseAssociationRef := registration.databaseAssociationRef

/-- The registration passes the model of its body. -/
def TenantRegistration.Valid (registration : TenantRegistration) : Prop :=
  Bounded 128 registration.tenantRef ∧ Bounded 128 registration.organizationRef
    ∧ Bounded 64 registration.expectedSchemaVersion

instance (registration : TenantRegistration) : Decidable registration.Valid :=
  inferInstanceAs (Decidable (_ ∧ _ ∧ _))

def dsnMarkers : List String :=
  ["://", "password=", "host=", "dbname=", "user="]

/-- A supposed reference is credential- or connection-shaped. -/
def looksLikeAConnectionString (value : String) : Bool :=
  let folded := Text.casefold value
  dsnMarkers.any fun marker => Text.contains folded marker

/-- `PUT /internal/tenants`. -/
def registerTenant (store : ControlStore) (registration : TenantRegistration) :
    Except AppError ControlStore :=
  if ¬ registration.Valid then
    throw invalidRequest
  else if looksLikeAConnectionString registration.databaseAssociationRef.storeRef then
    throw invalidRequest
  else
    return store.putTenant registration.descriptor

/-- `PUT /internal/memberships`. -/
def registerMembership (store : ControlStore) (principalRef tenantRef : String)
    (role : PlatformRole) : Except AppError ControlStore :=
  if Bounded 128 principalRef ∧ Bounded 128 tenantRef then
    return store.putMembership principalRef tenantRef role
  else
    throw invalidRequest

/-- `GET /internal/tenants/{tenant_ref}`. -/
def readTenant (store : ControlStore) (tenantRef : String) :
    Except AppError TenantDescriptor :=
  if Bounded 128 tenantRef then
    match store.getTenant tenantRef with
    | none => throw consistentTenantDenial
    | some descriptor => return descriptor
  else
    throw invalidRequest

/-- `GET /internal/tenants/{tenant_ref}/readiness`: the state, and whether it is served. -/
def readReadiness (store : ControlStore) (tenantRef : String) :
    Except AppError (String × TenantLifecycleState × Bool) :=
  if Bounded 128 tenantRef then
    match store.getTenant tenantRef with
    | none => throw consistentTenantDenial
    | some descriptor =>
        return (descriptor.tenantRef, descriptor.lifecycleState,
          descriptor.lifecycleState == .active)
  else
    throw invalidRequest

/-- `GET /internal/memberships/{principal_ref}`. -/
def listMemberships (store : ControlStore) (principalRef : String) :
    Except AppError (String × List MembershipEntry) :=
  if Bounded 128 principalRef then
    return (principalRef, store.listMemberships principalRef)
  else
    throw invalidRequest

/-- `GET /internal/directories/{directory}/records/{record_ref}`. -/
def readDirectoryRecord (store : ControlStore) (directory : DirectoryKind)
    (recordRef : String) : Except AppError DirectoryRecord :=
  if Bounded 256 recordRef then
    match store.getDirectoryRecord directory recordRef with
    | none => throw consistentTenantDenial
    | some record => return record
  else
    throw invalidRequest

theorem throw_ne_ok {α : Type} {denial : AppError} {a : α} :
  (throw denial : Except AppError α) ≠ .ok a
  := by
  intro h
  cases h

theorem ok_inj {α : Type} {a b : α} :
  (return a : Except AppError α) = .ok b ↔ a = b
  := by
  constructor
  · intro h
    cases h
    rfl
  · rintro rfl
    rfl

theorem readTenant_ok_iff {store : ControlStore} {tenantRef : String}
    {descriptor : TenantDescriptor} :
  readTenant store tenantRef = .ok descriptor
    ↔ Bounded 128 tenantRef ∧ store.getTenant tenantRef = some descriptor
  := by
  rw [readTenant]
  by_cases hbounded : Bounded 128 tenantRef
  · rw [if_pos hbounded, and_iff_right hbounded]
    cases store.getTenant tenantRef with
    | none => apply iff_of_false throw_ne_ok (Option.some_ne_none _).symm
    | some descriptor' =>
        rw [Option.some.injEq]
        apply ok_inj
  · rw [if_neg hbounded]
    apply iff_of_false throw_ne_ok (fun h => hbounded h.1)

theorem readDirectoryRecord_ok_iff {store : ControlStore} {directory : DirectoryKind}
    {recordRef : String} {record : DirectoryRecord} :
  readDirectoryRecord store directory recordRef = .ok record
    ↔ Bounded 256 recordRef ∧ store.getDirectoryRecord directory recordRef = some record
  := by
  rw [readDirectoryRecord]
  by_cases hbounded : Bounded 256 recordRef
  · rw [if_pos hbounded, and_iff_right hbounded]
    cases store.getDirectoryRecord directory recordRef with
    | none => apply iff_of_false throw_ne_ok (Option.some_ne_none _).symm
    | some record' =>
        rw [Option.some.injEq]
        apply ok_inj
  · rw [if_neg hbounded]
    apply iff_of_false throw_ne_ok (fun h => hbounded h.1)

theorem listMemberships_ok_iff {store : ControlStore} {principalRef : String}
    {response : String × List MembershipEntry} :
  listMemberships store principalRef = .ok response
    ↔ Bounded 128 principalRef ∧ (principalRef, store.listMemberships principalRef) = response
  := by
  rw [listMemberships]
  by_cases hbounded : Bounded 128 principalRef
  · rw [if_pos hbounded, and_iff_right hbounded]
    apply ok_inj
  · rw [if_neg hbounded]
    apply iff_of_false throw_ne_ok (fun h => hbounded h.1)

/-- Stores that the registrations and the directory writes make. -/
inductive ControlStore.Recorded : ControlStore → Prop
  | empty : Recorded {}
  | tenant {store store'} (registration : TenantRegistration) :
      Recorded store → registerTenant store registration = .ok store' → Recorded store'
  | membership {store store'} (principalRef tenantRef : String) (role : PlatformRole) :
      Recorded store → registerMembership store principalRef tenantRef role = .ok store' →
      Recorded store'
  | directory {store} (kind : DirectoryKind) (record : DirectoryRecord) :
      Recorded store → Recorded (store.putDirectoryRecord kind record)

theorem registerTenant_ok {store store' : ControlStore} {registration : TenantRegistration}
    (h : registerTenant store registration = .ok store') :
  registration.Valid
    ∧ looksLikeAConnectionString registration.databaseAssociationRef.storeRef = false
    ∧ store' = store.putTenant registration.descriptor
  := by
  rw [registerTenant] at h
  split_ifs at h with hvalid hdsn
  apply And.intro hvalid (And.intro (eq_false_of_ne_true hdsn) _)
  cases h
  rfl

theorem registerMembership_ok {store store' : ControlStore} {principalRef tenantRef : String}
    {role : PlatformRole} (h : registerMembership store principalRef tenantRef role = .ok store') :
  store' = store.putMembership principalRef tenantRef role
  := by
  rw [registerMembership] at h
  split_ifs at h with hbounded
  cases h
  rfl

theorem ControlStore.Recorded.keyed {store : ControlStore} (h : Recorded store) :
  store.Keyed
  := by
  induction h with
  | empty => apply keyed_empty
  | tenant registration _ hregister ih =>
      obtain ⟨-, -, rfl⟩ := registerTenant_ok hregister
      apply ih.putTenant
  | membership principalRef tenantRef role _ hregister ih =>
      obtain rfl := registerMembership_ok hregister
      apply ih.putMembership
  | directory kind record _ ih => apply ih.putDirectoryRecord

end SnackPortal2
