import SnackPortal.Data.Grouping
import SnackPortal.Data.Text
import Mathlib.Data.List.AList
import Mathlib.Data.List.Induction
import Mathlib.Data.String.Basic

/-!
# The membership reads over the two control stores

The in-memory store appends every membership it is given, the durable one keeps one role for a
principal in a tenant, the last one.  The read service answers a role by the first record it is
given and lists for every tenant the least role.  So the two stores answer alike where, for the
principal, the role put last is the least one for every tenant and the first one for the tenant
asked about, and only there (`reads_agree_iff`).

The stores of the second portal, which are keyed by principal and tenant throughout, are those of
`SnackPortal2.ControlStore`.
-/

namespace ControlPlane

/-- The roles. -/
inductive Role where
  | control
  | masterAgent
  | tenantAdmin
  | tenantAgent
  | startupUser
  | investorUser
deriving DecidableEq, Repr

def Role.value : Role → String
  | .control => "CONTROL"
  | .masterAgent => "MASTER_AGENT"
  | .tenantAdmin => "TENANT_ADMIN"
  | .tenantAgent => "TENANT_AGENT"
  | .startupUser => "STARTUP_USER"
  | .investorUser => "INVESTOR_USER"

/-- The role of a principal in a tenant. -/
structure MembershipRecord where
  principalRef : String
  tenantId : String
  role : Role
deriving DecidableEq, Repr

/-- The database does not take a text. -/
inductive StoreError where
  | dataError
deriving DecidableEq, Repr

/-- The records of a principal, of a tenant, or of one in the other. -/
def MembershipRecord.isListed (principalRef tenantId : Option String) (m : MembershipRecord) :
    Bool :=
  principalRef.all (m.principalRef = ·) && tenantId.all (m.tenantId = ·)

/-- `list_memberships` of a store. -/
abbrev ListMemberships :=
  Option String → Option String → Except StoreError (List MembershipRecord)

namespace InMemoryControlStore

/-- The records in the order in which they were put. -/
def putMembership (memberships : List MembershipRecord) (record : MembershipRecord) :
    List MembershipRecord :=
  memberships ++ [record]

def listMemberships (memberships : List MembershipRecord) : ListMemberships :=
  fun principalRef tenantId =>
    .ok (memberships.filter (·.isListed principalRef tenantId))

end InMemoryControlStore

namespace PostgresControlStore

/-- `control_memberships`, by its primary key. -/
abbrev Memberships := AList fun _ : String × String => Role

/-- The upsert; the statement fails on a text that is none, and the transaction is rolled
back. -/
def putMembership (table : Memberships) (record : MembershipRecord) :
    Except StoreError Unit × Memberships :=
  if Text.storable record.principalRef && Text.storable record.tenantId then
    (.ok (), table.insert (record.principalRef, record.tenantId) record.role)
  else
    (.error .dataError, table)

/-- The rows of the table, as records. -/
def rows (table : Memberships) : List MembershipRecord :=
  table.entries.map fun row => ⟨row.1.1, row.1.2, row.2⟩

/-- The select: the rows that are asked for, in any order; it fails on a text that is none. -/
def Lists (table : Memberships) (list : ListMemberships) : Prop :=
  ∀ principalRef tenantId,
    if principalRef.all Text.storable && tenantId.all Text.storable then
      ∃ records, list principalRef tenantId = .ok records
        ∧ records.Perm ((rows table).filter (·.isListed principalRef tenantId))
    else
      list principalRef tenantId = .error .dataError

end PostgresControlStore

namespace ControlPlaneReadService

variable (list : ListMemberships)

def isMember (principalRef tenantId : String) : Except StoreError Bool := do
  let members ← list (some principalRef) (some tenantId)
  pure (decide (0 < members.length))

/-- The role of the first record. -/
def getRole (principalRef tenantId : String) : Except StoreError (Option String) := do
  let members ← list (some principalRef) (some tenantId)
  pure (members.head?.map (·.role.value))

/-- The records sorted by tenant and role, and the first one of every tenant. -/
def membershipsForPrincipal (principalRef : String) :
    Except StoreError (List (String × String)) := do
  let records ← list (some principalRef) none
  pure (Grouping.least (·.tenantId) (·.role.value) records)

end ControlPlaneReadService

/-! ### The stores after a sequence of puts -/

variable (puts : List MembershipRecord)

/-- The in-memory store after the puts. -/
def inMemoryAfter : List MembershipRecord :=
  puts.foldl InMemoryControlStore.putMembership []

/-- The table after the puts, of which some may have failed. -/
def postgresAfter : PostgresControlStore.Memberships :=
  puts.foldl (fun table record => (PostgresControlStore.putMembership table record).2) ∅

/-- The roles put for a principal in a tenant. -/
def rolesOf (principalRef tenantId : String) : List Role :=
  (puts.filter (·.isListed (some principalRef) (some tenantId))).map (·.role)

theorem MembershipRecord.isListed_iff {m : MembershipRecord} {p t : Option String} :
  m.isListed p t = true ↔ (∀ r ∈ p, m.principalRef = r) ∧ ∀ r ∈ t, m.tenantId = r
  := by
  rw [isListed, Bool.and_eq_true]
  cases p <;> cases t <;> simp

theorem inMemoryAfter_eq :
  inMemoryAfter puts = puts
  := by
  induction puts using List.reverseRecOn with
  | nil => rfl
  | append_singleton puts m ih =>
      rw [inMemoryAfter, List.foldl_concat, ← inMemoryAfter, ih]
      rfl

theorem postgresAfter_concat (m : MembershipRecord) :
  postgresAfter (puts ++ [m])
    = (PostgresControlStore.putMembership (postgresAfter puts) m).2
  := by
  rw [postgresAfter, List.foldl_concat, ← postgresAfter]

theorem rolesOf_concat (m : MembershipRecord) (p t : String) :
  rolesOf (puts ++ [m]) p t
    = rolesOf puts p t ++ if m.principalRef = p ∧ m.tenantId = t then [m.role] else []
  := by
  have hlisted : m.isListed (some p) (some t) = true ↔ m.principalRef = p ∧ m.tenantId = t := by
    rw [MembershipRecord.isListed_iff]
    simp
  rw [rolesOf, List.filter_append, List.map_append, ← rolesOf]
  by_cases h : m.principalRef = p ∧ m.tenantId = t
  · rw [if_pos h, List.filter_cons_of_pos (hlisted.mpr h)]
    rfl
  · rw [if_neg h, List.filter_cons_of_neg fun hm => h (hlisted.mp hm)]
    rfl

theorem mem_rolesOf {p t : String} {role : Role} :
  role ∈ rolesOf puts p t ↔ ⟨p, t, role⟩ ∈ puts
  := by
  rw [rolesOf, List.mem_map]
  constructor
  · rintro ⟨m, hm, rfl⟩
    obtain ⟨hput, hlisted⟩ := List.mem_filter.mp hm
    obtain ⟨hp, ht⟩ := MembershipRecord.isListed_iff.mp hlisted
    obtain rfl := hp p rfl
    obtain rfl := ht t rfl
    exact hput
  · intro hm
    refine ⟨⟨p, t, role⟩, List.mem_filter.mpr ⟨hm, ?_⟩, rfl⟩
    apply MembershipRecord.isListed_iff.mpr
    constructor
    · rintro _ ⟨⟩
      rfl
    · rintro _ ⟨⟩
      rfl

/-- The table holds the role put last, of texts. -/
theorem lookup_postgresAfter (p t : String) :
  (postgresAfter puts).lookup (p, t)
    = if Text.storable p && Text.storable t then
        (rolesOf puts p t).getLast?
      else none
  := by
  induction puts using List.reverseRecOn with
  | nil => split <;> rfl
  | append_singleton puts m ih =>
      rw [postgresAfter_concat, rolesOf_concat, PostgresControlStore.putMembership]
      by_cases hm : m.principalRef = p ∧ m.tenantId = t
      · rw [if_pos hm]
        obtain ⟨rfl, rfl⟩ := hm
        by_cases htext : (Text.storable m.principalRef
            && Text.storable m.tenantId) = true
        · rw [if_pos htext, if_pos htext, AList.lookup_insert, List.getLast?_concat]
        · rw [if_neg htext, if_neg htext]
          rw [ih, if_neg htext]
      · rw [if_neg hm, List.append_nil, ← ih]
        split
        · apply AList.lookup_insert_ne
          intro hkey
          obtain ⟨hp, ht⟩ := Prod.mk.inj hkey
          exact hm ⟨hp.symm, ht.symm⟩
        · rfl

namespace PostgresControlStore

variable {table : Memberships}

theorem mem_rows {m : MembershipRecord} :
  m ∈ rows table ↔ table.lookup (m.principalRef, m.tenantId) = some m.role
  := by
  rw [← Option.mem_def, AList.mem_lookup_iff, rows, List.mem_map]
  constructor
  · rintro ⟨⟨⟨p, t⟩, role⟩, hrow, rfl⟩
    exact hrow
  · intro hrow
    exact ⟨_, hrow, rfl⟩

/-- What a select answers that does not fail. -/
theorem Lists.ok {list : ListMemberships} (h : Lists table list) {p t : Option String}
    (htext : (p.all Text.storable && t.all Text.storable) = true) :
  ∃ records, list p t = .ok records
    ∧ ∀ m, m ∈ records ↔ table.lookup (m.principalRef, m.tenantId) = some m.role
      ∧ m.isListed p t = true
  := by
  have hlist := h p t
  rw [if_pos htext] at hlist
  obtain ⟨records, hok, hperm⟩ := hlist
  refine ⟨records, hok, ?_⟩
  intro m
  rw [hperm.mem_iff, List.mem_filter, mem_rows]

/-- The rows in the order of the table. -/
def select (table : Memberships) : ListMemberships := fun p t =>
  if p.all Text.storable && t.all Text.storable then
    .ok ((rows table).filter (·.isListed p t))
  else
    .error .dataError

theorem select_lists (table : Memberships) :
  Lists table (select table)
  := by
  intro p t
  rw [select]
  split
  · exact ⟨_, rfl, List.Perm.refl _⟩
  · rfl

end PostgresControlStore

/-! ### The reads -/

open PostgresControlStore ControlPlaneReadService

/-- The role that is answered for a principal in a tenant is the one role that is listed for the
tenant. -/
def ListsRole (list : ListMemberships) (principalRef tenantId : String) : Prop :=
  ∀ role memberships, getRole list principalRef tenantId = .ok role →
    membershipsForPrincipal list principalRef = .ok memberships →
    memberships.filter (·.1 = tenantId) = role.toList.map (tenantId, ·)

/-- After the puts the reads for a principal and a tenant agree on the two stores, and on each of
them with one another, in whatever order the database answers. -/
def ReadsAgree (principalRef tenantId : String) : Prop :=
  let inMemory := InMemoryControlStore.listMemberships (inMemoryAfter puts)
  ∀ postgres, Lists (postgresAfter puts) postgres →
    isMember postgres principalRef tenantId = isMember inMemory principalRef tenantId
      ∧ getRole postgres principalRef tenantId = getRole inMemory principalRef tenantId
      ∧ membershipsForPrincipal postgres principalRef
        = membershipsForPrincipal inMemory principalRef
      ∧ ListsRole postgres principalRef tenantId ∧ ListsRole inMemory principalRef tenantId

/-- The principal and its tenants are texts; for each of its tenants the role put last is the
least one that was put, and for the tenant it is also the first one. -/
structure PutsAgree (principalRef tenantId : String) : Prop where
  principal : Text.storable principalRef = true
  tenant : Text.storable tenantId = true
  tenants : ∀ m ∈ puts, m.principalRef = principalRef → Text.storable m.tenantId = true
  last : ∀ t, ∀ last ∈ (rolesOf puts principalRef t).getLast?,
    ∀ role ∈ rolesOf puts principalRef t, last.value ≤ role.value
  first : (rolesOf puts principalRef tenantId).head?
    = (rolesOf puts principalRef tenantId).getLast?

theorem Role.value_injective {role role' : Role} (h : role.value = role'.value) :
  role = role'
  := by
  cases role <;> cases role' <;> first | rfl | (revert h; decide)

/-- The roles that are listed: of every tenant the least one. -/
abbrev leastRoles (records : List MembershipRecord) : List (String × String) :=
  Grouping.least (·.tenantId) (·.role.value) records

/-- The role is the least one of a tenant. -/
abbrev IsLeastRole (records : List MembershipRecord) (tenantId role : String) : Prop :=
  Grouping.IsLeast (·.tenantId) (·.role.value) records tenantId role

section Reads

variable {puts} {p t : String} {postgres : ListMemberships}

/-- What the in-memory store lists of a principal. -/
theorem inMemory_isLeast {v : String} :
  IsLeastRole ((inMemoryAfter puts).filter (·.isListed (some p) none)) t v
    ↔ (∃ role ∈ rolesOf puts p t, role.value = v) ∧ ∀ role ∈ rolesOf puts p t, v ≤ role.value
  := by
  have hmem : ∀ m : MembershipRecord, m ∈ (inMemoryAfter puts).filter (·.isListed (some p) none)
      ↔ m ∈ puts ∧ m.principalRef = p := by
    intro m
    rw [inMemoryAfter_eq, List.mem_filter, MembershipRecord.isListed_iff]
    simp
  simp only [IsLeastRole, Grouping.IsLeast, hmem, mem_rolesOf]
  constructor
  · rintro ⟨⟨m, ⟨hm, rfl⟩, rfl, rfl⟩, hle⟩
    exact ⟨⟨m.role, hm, rfl⟩, fun role hrole => hle ⟨_, _, role⟩ ⟨hrole, rfl⟩ rfl⟩
  · rintro ⟨⟨role, hrole, rfl⟩, hle⟩
    refine ⟨⟨⟨p, t, role⟩, ⟨hrole, rfl⟩, rfl, rfl⟩, ?_⟩
    rintro m ⟨hm, rfl⟩ rfl
    exact hle m.role hm

/-- What the durable store lists of a principal. -/
theorem postgres_isLeast {records : List MembershipRecord} {v : String}
    (hrecords : ∀ m, m ∈ records
      ↔ (postgresAfter puts).lookup (m.principalRef, m.tenantId) = some m.role
        ∧ m.isListed (some p) none = true) :
  IsLeastRole records t v
    ↔ ∃ role ∈ (postgresAfter puts).lookup (p, t), role.value = v
  := by
  have hmem : ∀ m, m ∈ records
      ↔ (postgresAfter puts).lookup (m.principalRef, m.tenantId) = some m.role
        ∧ m.principalRef = p := by
    intro m
    rw [hrecords, MembershipRecord.isListed_iff]
    simp
  simp only [IsLeastRole, Grouping.IsLeast, hmem]
  constructor
  · rintro ⟨⟨m, ⟨hm, rfl⟩, rfl, rfl⟩, _⟩
    exact ⟨m.role, hm, rfl⟩
  · rintro ⟨role, hrole, rfl⟩
    refine ⟨⟨⟨p, t, role⟩, ⟨hrole, rfl⟩, rfl, rfl⟩, ?_⟩
    rintro m ⟨hm, rfl⟩ rfl
    rw [Option.mem_def.mp hrole] at hm
    rw [Option.some.inj hm]

/-- The first record the in-memory store lists for a principal in a tenant. -/
theorem inMemory_head :
  ((inMemoryAfter puts).filter (·.isListed (some p) (some t))).head?.map (·.role)
    = (rolesOf puts p t).head?
  := by
  rw [inMemoryAfter_eq, rolesOf, List.head?_map]

/-- The first record the durable store lists for a principal in a tenant. -/
theorem postgres_head {records : List MembershipRecord}
    (hrecords : ∀ m, m ∈ records
      ↔ (postgresAfter puts).lookup (m.principalRef, m.tenantId) = some m.role
        ∧ m.isListed (some p) (some t) = true) :
  records.head?.map (·.role) = (postgresAfter puts).lookup (p, t)
  := by
  cases records with
  | nil =>
      symm
      apply Option.eq_none_iff_forall_not_mem.mpr
      intro role hrole
      have hlisted : MembershipRecord.isListed (some p) (some t) ⟨p, t, role⟩ = true := by
        rw [MembershipRecord.isListed_iff]
        simp
      exact absurd ((hrecords ⟨p, t, role⟩).mpr ⟨hrole, hlisted⟩) List.not_mem_nil
  | cons m records =>
      obtain ⟨hlookup, hlisted⟩ := (hrecords m).mp List.mem_cons_self
      obtain ⟨hp, ht⟩ := MembershipRecord.isListed_iff.mp hlisted
      rw [hp p rfl, ht t rfl] at hlookup
      rw [hlookup]
      rfl

/-! ### What the reads answer -/

section Answers

variable {list : ListMemberships} {records : List MembershipRecord}

theorem isMember_eq (h : list (some p) (some t) = .ok records) :
  isMember list p t = .ok (records.head?.map (·.role)).isSome
  := by
  rw [isMember, h]
  cases records <;> rfl

theorem getRole_eq (h : list (some p) (some t) = .ok records) :
  getRole list p t = .ok ((records.head?.map (·.role)).map Role.value)
  := by
  rw [getRole, h, Option.map_map]
  rfl

theorem membershipsForPrincipal_eq (h : list (some p) none = .ok records) :
  membershipsForPrincipal list p = .ok (leastRoles records)
  := by
  rw [membershipsForPrincipal, h]
  rfl

end Answers

/-- The reads of the durable store, of texts. -/
theorem postgres_reads (h : Lists (postgresAfter puts) postgres) (hp : Text.storable p = true)
    (ht : Text.storable t = true) :
  isMember postgres p t = .ok (rolesOf puts p t).getLast?.isSome
    ∧ getRole postgres p t = .ok ((rolesOf puts p t).getLast?.map Role.value)
  := by
  have htext : ((some p).all Text.storable && (some t).all Text.storable) = true := by
    rw [Option.all_some, Option.all_some, hp, ht]
    rfl
  obtain ⟨records, hok, hrecords⟩ := h.ok htext
  have hlookup := lookup_postgresAfter puts p t
  rw [hp, ht, Bool.and_true, if_pos rfl] at hlookup
  rw [isMember_eq hok, getRole_eq hok, postgres_head hrecords, hlookup]
  exact ⟨rfl, rfl⟩

/-- The enumeration of the durable store, of a text. -/
theorem postgres_memberships (h : Lists (postgresAfter puts) postgres) (hp : Text.storable p = true) :
  ∃ records, membershipsForPrincipal postgres p
      = .ok (leastRoles records)
    ∧ ∀ t v, IsLeastRole records t v
      ↔ Text.storable t = true ∧ ∃ role ∈ (rolesOf puts p t).getLast?, role.value = v
  := by
  have htext : ((some p).all Text.storable && (none : Option String).all Text.storable) = true := by
    rw [Option.all_some, Option.all_none, hp]
    rfl
  obtain ⟨records, hok, hrecords⟩ := h.ok htext
  refine ⟨records, membershipsForPrincipal_eq hok, ?_⟩
  intro t v
  rw [postgres_isLeast hrecords, lookup_postgresAfter, hp, Bool.true_and]
  by_cases ht : Text.storable t = true
  · rw [if_pos ht]
    exact ⟨fun h => ⟨ht, h⟩, fun h => h.2⟩
  · rw [if_neg ht]
    exact ⟨nofun, fun h => absurd h.1 ht⟩

variable (puts p t) in
/-- The reads of the in-memory store. -/
theorem inMemory_reads :
  let inMemory := InMemoryControlStore.listMemberships (inMemoryAfter puts)
  isMember inMemory p t = .ok (rolesOf puts p t).head?.isSome
    ∧ getRole inMemory p t = .ok ((rolesOf puts p t).head?.map Role.value)
    ∧ membershipsForPrincipal inMemory p = .ok (leastRoles
        ((inMemoryAfter puts).filter (·.isListed (some p) none)))
  := by
  intro inMemory
  rw [isMember_eq rfl, getRole_eq rfl, inMemory_head]
  exact ⟨rfl, rfl, rfl⟩

end Reads

section Agreement

variable {puts} {p t : String}

theorem PutsAgree.of_reads (h : ReadsAgree puts p t) :
  PutsAgree puts p t
  := by
  have hlists := select_lists (postgresAfter puts)
  obtain ⟨hmember, hrole, hmemberships, _, _⟩ := h _ hlists
  obtain ⟨hmember', hrole', hmemberships'⟩ := inMemory_reads puts p t
  have htext : (Text.storable p && Text.storable t) = true := by
    by_contra htext
    have hlist : select (postgresAfter puts) (some p) (some t) = .error .dataError := by
      rw [select, Option.all_some, Option.all_some, if_neg htext]
    rw [hmember', isMember, hlist] at hmember
    cases hmember
  obtain ⟨hp, ht⟩ := Bool.and_eq_true_iff.mp htext
  obtain ⟨records, hrecords, hleast⟩ := postgres_memberships hlists hp
  rw [hrecords, hmemberships'] at hmemberships
  have hiff := Grouping.least_eq_iff.mp (Except.ok.inj hmemberships)
  have htenants : ∀ m ∈ puts, m.principalRef = p → Text.storable m.tenantId = true := by
    intro m hm hmp
    have hlisted : m ∈ (inMemoryAfter puts).filter (·.isListed (some p) none) := by
      rw [inMemoryAfter_eq, List.mem_filter, MembershipRecord.isListed_iff]
      refine ⟨hm, ?_, nofun⟩
      rintro _ ⟨⟩
      exact hmp
    obtain ⟨v, hv⟩ := Grouping.exists_isLeast (·.tenantId) (·.role.value) hlisted
    exact ((hleast _ _).mp ((hiff _ _).mpr hv)).1
  refine ⟨hp, ht, htenants, ?_, ?_⟩
  · intro t' last hlast
    have hput := (mem_rolesOf puts).mp (List.mem_of_getLast? hlast)
    have hpostgres := (hleast t' last.value).mpr ⟨htenants _ hput rfl, last, hlast, rfl⟩
    exact (inMemory_isLeast.mp ((hiff _ _).mp hpostgres)).2
  · rw [(postgres_reads hlists hp ht).2, hrole'] at hrole
    symm
    apply Option.map_injective (fun _ _ => Role.value_injective)
    exact Except.ok.inj hrole

theorem ReadsAgree.of_puts (h : PutsAgree puts p t) :
  ReadsAgree puts p t
  := by
  intro postgres hlists
  set inMemory := InMemoryControlStore.listMemberships (inMemoryAfter puts)
  obtain ⟨hmember, hrole⟩ := postgres_reads hlists h.principal h.tenant
  obtain ⟨records, hrecords, hleast⟩ := postgres_memberships hlists h.principal
  obtain ⟨hmember', hrole', hmemberships'⟩ := inMemory_reads puts p t
  have hmembers : isMember postgres p t = isMember inMemory p t := by
    rw [hmember, hmember', h.first]
  have hroles : getRole postgres p t = getRole inMemory p t := by
    rw [hrole, hrole', h.first]
  have hmemberships : membershipsForPrincipal postgres p = membershipsForPrincipal inMemory p := by
    rw [hrecords, hmemberships']
    congr 1
    apply Grouping.least_eq_iff.mpr
    intro t' v
    change IsLeastRole _ t' v ↔ IsLeastRole _ t' v
    rw [hleast, inMemory_isLeast]
    constructor
    · rintro ⟨_, last, hlast, rfl⟩
      exact ⟨⟨last, List.mem_of_getLast? hlast, rfl⟩, h.last t' last hlast⟩
    · rintro ⟨⟨role, hrole, rfl⟩, hle⟩
      refine ⟨h.tenants _ ((mem_rolesOf puts).mp hrole) rfl, ?_⟩
      have hlast := List.getLast?_eq_some_getLast (List.ne_nil_of_mem hrole)
      set last := (rolesOf puts p t').getLast (List.ne_nil_of_mem hrole)
      refine ⟨last, hlast, le_antisymm ?_ ?_⟩
      · exact h.last t' last hlast role hrole
      · exact hle last (List.mem_of_getLast? hlast)
  have hlistsRole : ListsRole postgres p t := by
    intro role memberships hanswer henumeration
    rw [hrole] at hanswer
    rw [hrecords] at henumeration
    obtain rfl := Except.ok.inj hanswer
    obtain rfl := Except.ok.inj henumeration
    apply Grouping.filter_least_eq
    intro v
    change _ ↔ IsLeastRole _ t v
    rw [hleast, Option.mem_map]
    exact ⟨fun hv => ⟨h.tenant, hv⟩, fun hv => hv.2⟩
  refine ⟨hmembers, hroles, hmemberships, hlistsRole, ?_⟩
  intro role memberships hanswer henumeration
  rw [← hroles] at hanswer
  rw [← hmemberships] at henumeration
  exact hlistsRole role memberships hanswer henumeration

end Agreement

/-- The reads for a principal and a tenant agree exactly where the puts do. -/
theorem reads_agree_iff (principalRef tenantId : String) :
  ReadsAgree puts principalRef tenantId ↔ PutsAgree puts principalRef tenantId
  := ⟨PutsAgree.of_reads, ReadsAgree.of_puts⟩

/-- A principal that was made an agent of a tenant and then its administrator is an agent for the
one store and an administrator for the other. -/
theorem reads_disagree :
  ¬ ∀ puts p t, ReadsAgree puts p t
  := by
  intro h
  have hagree := PutsAgree.of_reads
    (h [⟨"p", "t", .tenantAgent⟩, ⟨"p", "t", .tenantAdmin⟩] "p" "t")
  have hfirst : some Role.tenantAgent = some Role.tenantAdmin := hagree.first
  cases hfirst

end ControlPlane
