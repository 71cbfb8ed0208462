import Mathlib.Data.List.Nodup
import SnackPortal.DatabaseRouter.Pool

/-!
# Borrowing from the pools

Borrowers acquire connections of one manager and give each back once, by a release or a
discard, in any order, with any readings of the clock and any connections breaking.  Every
connection is then in one place: idle in the pool of its key, or with one borrower
(`Lending.pools_exclusive`).  The bound counts what the pools know of: a connection whose pool
was dropped while it was borrowed stays open until its borrower gives it back
(`Lending.pools_exceed`).
-/

namespace DatabaseRouter

open ControlPlane (SecretRef)

namespace ConnectionPoolManager

variable (m : ConnectionPoolManager)

/-! ### The connections of a key -/

/-- The idle connections of a key. -/
def idleOf (key : PoolKey) : List TenantConnection :=
  ((m.pools key).map fun pool => pool.idle.map (·.conn)).getD []

/-- The connections of a key in use. -/
def inUse (key : PoolKey) : List TenantConnection :=
  ((m.pools key).map (·.inUse)).getD []

/-- The pool of a key, which `acquire` makes where there is none. -/
def poolAt (key : PoolKey) : Pool :=
  (m.pools key).getD ⟨m.maxPerTenant, [], []⟩

theorem poolAt_idle (key : PoolKey) :
  (m.poolAt key).idle.map (·.conn) = m.idleOf key
  := by
  rw [poolAt, idleOf]
  cases m.pools key <;> rfl

theorem poolAt_inUse (key : PoolKey) :
  (m.poolAt key).inUse = m.inUse key
  := by
  rw [poolAt, inUse]
  cases m.pools key <;> rfl

theorem pools_setPool_self (key : PoolKey) (pool : Option Pool) :
  (m.setPool key pool).pools key = pool
  := Function.update_self ..

theorem pools_setPool_of_ne {key key' : PoolKey} (h : key' ≠ key) (pool : Option Pool) :
  (m.setPool key pool).pools key' = m.pools key'
  := Function.update_of_ne h ..

theorem idleOf_setPool_self (key : PoolKey) (pool : Option Pool) :
  (m.setPool key pool).idleOf key = (pool.map fun pool => pool.idle.map (·.conn)).getD []
  := by
  rw [idleOf, pools_setPool_self]

theorem idleOf_setPool_of_ne {key key' : PoolKey} (h : key' ≠ key) (pool : Option Pool) :
  (m.setPool key pool).idleOf key' = m.idleOf key'
  := by
  rw [idleOf, pools_setPool_of_ne m h, idleOf]

theorem inUse_setPool_self (key : PoolKey) (pool : Option Pool) :
  (m.setPool key pool).inUse key = (pool.map (·.inUse)).getD []
  := by
  rw [inUse, pools_setPool_self]

theorem inUse_setPool_of_ne {key key' : PoolKey} (h : key' ≠ key) (pool : Option Pool) :
  (m.setPool key pool).inUse key' = m.inUse key'
  := by
  rw [inUse, pools_setPool_of_ne m h, inUse]

theorem inUse_evictIdleLocked (now : Int) (key : PoolKey) :
  (m.evictIdleLocked now).inUse key = m.inUse key
  := by
  rw [inUse, inUse]
  simp only [evictIdleLocked]
  cases m.pools key with
  | none => rfl
  | some pool =>
      simp only [Option.bind_some, Pool.evictIdle]
      split
      · rename_i hempty
        obtain ⟨_, hinUse⟩ := Bool.and_eq_true_iff.mp hempty
        exact (List.isEmpty_iff.mp hinUse).symm
      · rfl

theorem idleOf_evictIdleLocked (now : Int) (key : PoolKey) :
  ((m.evictIdleLocked now).idleOf key).Sublist (m.idleOf key)
  := by
  rw [idleOf, idleOf]
  simp only [evictIdleLocked]
  cases m.pools key with
  | none => apply List.Sublist.refl
  | some pool =>
      simp only [Option.bind_some, Pool.evictIdle]
      split
      · apply List.nil_sublist
      · exact List.filter_sublist.map _

/-- What is taken was alive and lay above what is left. -/
theorem takeIdle_sublist {isAlive : TenantConnection → Bool} {idles rest : List Idle}
    {conn : TenantConnection} (h : takeIdle isAlive idles = some (conn, rest)) :
  isAlive conn = true ∧ (conn :: rest.map (·.conn)).Sublist (idles.map (·.conn))
  := by
  induction idles with
  | nil => cases h
  | cons idle idles ih =>
      rw [takeIdle] at h
      split at h
      · rename_i halive
        obtain ⟨rfl, rfl⟩ := Prod.mk.inj (Option.some.inj h)
        exact ⟨halive, List.Sublist.refl _⟩
      · obtain ⟨halive, hsub⟩ := ih h
        exact ⟨halive, hsub.cons _⟩

/-! ### What the operations do -/

/-- Every pool has the bound of the manager. -/
def Sized : Prop := ∀ key pool, m.pools key = some pool → pool.maxSize = m.maxPerTenant

variable {m} {m' : ConnectionPoolManager}

theorem Sized.evictIdleLocked (h : m.Sized) (now : Int) :
  (m.evictIdleLocked now).Sized
  := by
  intro key pool' hpool'
  obtain ⟨pool, hpool, hevict⟩ := Option.bind_eq_some_iff.mp hpool'
  rw [Pool.evictIdle] at hevict
  split at hevict
  · cases hevict
  · obtain rfl := Option.some.inj hevict
    apply h key pool hpool

theorem Sized.setPool (h : m.Sized) {key : PoolKey} {pool : Option Pool}
    (hpool : ∀ pool' ∈ pool, pool'.maxSize = m.maxPerTenant) :
  (m.setPool key pool).Sized
  := by
  intro key' pool' hpool'
  by_cases hkey : key' = key
  · subst hkey
    rw [pools_setPool_self] at hpool'
    apply hpool pool' hpool'
  · rw [pools_setPool_of_ne m hkey] at hpool'
    apply h key' pool' hpool'

theorem Sized.poolAt (h : m.Sized) (key : PoolKey) :
  (m.poolAt key).maxSize = m.maxPerTenant
  := by
  rw [ConnectionPoolManager.poolAt]
  cases hpool : m.pools key with
  | none => rfl
  | some pool => apply h key pool hpool

/-- The operation lends and takes back nothing; idle connections may close. -/
structure Kept (m m' : ConnectionPoolManager) : Prop where
  max : m'.maxPerTenant = m.maxPerTenant
  sized : m'.Sized
  idle : ∀ key, (m'.idleOf key).Sublist (m.idleOf key)
  inUse : ∀ key, m'.inUse key = m.inUse key

/-- The operation lends a connection of the key; idle connections may close. -/
structure Lent (m m' : ConnectionPoolManager) (key : PoolKey) (conn : TenantConnection) :
    Prop where
  max : m'.maxPerTenant = m.maxPerTenant
  sized : m'.Sized
  idle : ∀ key', key' ≠ key → (m'.idleOf key').Sublist (m.idleOf key')
  inUse_self : m'.inUse key = (m.inUse key).insert conn
  inUse_of_ne : ∀ key', key' ≠ key → m'.inUse key' = m.inUse key'

/-- Where a connection that is lent comes from: it was idle in the pool of the key and is
alive, or it was opened for the key while the pool had room. -/
inductive Source (m m' : ConnectionPoolManager) (key : PoolKey)
    (isAlive : TenantConnection → Bool) (opened : Except AcquireError TenantConnection)
    (conn : TenantConnection) : Prop where
  | reused (alive : isAlive conn = true)
      (taken : (conn :: m'.idleOf key).Sublist (m.idleOf key))
  | minted (opens : opened = .ok conn) (bound : conn.key = key) (emptied : m'.idleOf key = [])
      (room : (m.inUse key).length < m.maxPerTenant)

/-- The pools after an eviction, with another pool under one key. -/
theorem kept_setPool (h : m.Sized) (now : Int) {key : PoolKey} {pool : Option Pool}
    (hsize : ∀ pool' ∈ pool, pool'.maxSize = m.maxPerTenant)
    (hidle : (pool.map fun pool => pool.idle.map (·.conn)).getD [] = [])
    (hinUse : (pool.map (·.inUse)).getD [] = m.inUse key) :
  Kept m ((m.evictIdleLocked now).setPool key pool)
  := by
  constructor
  · rfl
  · apply (h.evictIdleLocked now).setPool hsize
  · intro key'
    by_cases hkey : key' = key
    · subst hkey
      rw [idleOf_setPool_self, hidle]
      apply List.nil_sublist
    · rw [idleOf_setPool_of_ne _ hkey]
      apply idleOf_evictIdleLocked
  · intro key'
    by_cases hkey : key' = key
    · subst hkey
      rw [inUse_setPool_self, hinUse]
    · rw [inUse_setPool_of_ne _ hkey, inUse_evictIdleLocked]

theorem lent_setPool (h : m.Sized) (now : Int) {key : PoolKey} {pool : Pool}
    {conn : TenantConnection} (hsize : pool.maxSize = m.maxPerTenant)
    (hinUse : pool.inUse = (m.inUse key).insert conn) :
  Lent m ((m.evictIdleLocked now).setPool key (some pool)) key conn
  := by
  constructor
  · rfl
  · apply (h.evictIdleLocked now).setPool
    intro pool' hpool'
    obtain rfl := Option.some.inj hpool'
    apply hsize
  · intro key' hkey
    rw [idleOf_setPool_of_ne _ hkey]
    apply idleOf_evictIdleLocked
  · rw [inUse_setPool_self]
    apply hinUse
  · intro key' hkey
    rw [inUse_setPool_of_ne _ hkey, inUse_evictIdleLocked]

/-- An acquisition lends one connection of the key, or it raises and lends nothing. -/
theorem acquire_cases (h : m.Sized) (now : Int) (isAlive : TenantConnection → Bool)
    (tenantId associationVersion : String) (opened : Except AcquireError TenantConnection) :
  (∃ conn, (m.acquire now isAlive tenantId associationVersion opened).1 = .ok conn
      ∧ Lent m (m.acquire now isAlive tenantId associationVersion opened).2
        (tenantId, associationVersion) conn
      ∧ Source m (m.acquire now isAlive tenantId associationVersion opened).2
        (tenantId, associationVersion) isAlive opened conn)
    ∨ ∃ e, (m.acquire now isAlive tenantId associationVersion opened).1 = .error e
      ∧ Kept m (m.acquire now isAlive tenantId associationVersion opened).2
  := by
  have hmax : ((m.evictIdleLocked now).poolAt (tenantId, associationVersion)).maxSize
      = m.maxPerTenant := (h.evictIdleLocked now).poolAt _
  have hidle := (m.evictIdleLocked now).poolAt_idle (tenantId, associationVersion)
  have hinUse := (m.evictIdleLocked now).poolAt_inUse (tenantId, associationVersion)
  rw [inUse_evictIdleLocked] at hinUse
  have hevicted := m.idleOf_evictIdleLocked now (tenantId, associationVersion)
  unfold ConnectionPoolManager.acquire
  simp only
  rw [show ((m.evictIdleLocked now).pools (tenantId, associationVersion)).getD
      ⟨(m.evictIdleLocked now).maxPerTenant, [], []⟩
    = (m.evictIdleLocked now).poolAt (tenantId, associationVersion) from rfl]
  generalize (m.evictIdleLocked now).poolAt (tenantId, associationVersion) = pool at *
  have hunopened : Kept m ((m.evictIdleLocked now).setPool (tenantId, associationVersion)
      (if pool.inUse.isEmpty then none else some { pool with idle := [] })) := by
    apply kept_setPool h
    · intro pool' hpool'
      split at hpool'
      · cases hpool'
      · obtain rfl := Option.some.inj hpool'
        apply hmax
    · split <;> rfl
    · split
      · rename_i hempty
        rw [← hinUse, List.isEmpty_iff.mp hempty]
        rfl
      · exact hinUse
  cases htake : takeIdle isAlive pool.idle with
  | some taken =>
      obtain ⟨conn, rest⟩ := taken
      obtain ⟨halive, hsub⟩ := takeIdle_sublist htake
      left
      simp only
      refine ⟨conn, rfl, lent_setPool h now ?_ ?_, .reused halive ?_⟩
      · apply hmax
      · rw [hinUse]
      · rw [idleOf_setPool_self]
        rw [hidle] at hsub
        apply hsub.trans hevicted
  | none =>
      simp only
      by_cases hfull : pool.maxSize ≤ pool.inUse.length
      · right
        rw [if_pos hfull]
        refine ⟨.poolExhausted, rfl, ?_⟩
        apply kept_setPool h
        · intro pool' hpool'
          obtain rfl := Option.some.inj hpool'
          apply hmax
        · rfl
        · apply hinUse
      · rw [if_neg hfull]
        cases opened with
        | error e =>
            right
            exact ⟨e, rfl, hunopened⟩
        | ok conn =>
            simp only
            by_cases hbound : conn.tenantId ≠ tenantId ∨ conn.associationVersion ≠ associationVersion
            · right
              rw [if_pos hbound]
              exact ⟨.poolExhausted, rfl, hunopened⟩
            · left
              rw [if_neg hbound]
              obtain ⟨htenant, hversion⟩ := not_or.mp hbound
              refine ⟨conn, rfl, lent_setPool h now ?_ ?_, .minted rfl ?_ ?_ ?_⟩
              · apply hmax
              · rw [hinUse]
              · exact Prod.ext (not_not.mp htenant) (not_not.mp hversion)
              · rw [idleOf_setPool_self]
                rfl
              · rw [← hinUse, ← hmax]
                exact not_le.mp hfull

/-- The operation takes a connection back: it is not in use any more, and it may have become
idle in the pool it was in use in. -/
structure Returned (m m' : ConnectionPoolManager) (conn : TenantConnection) : Prop where
  max : m'.maxPerTenant = m.maxPerTenant
  sized : m'.Sized
  idle : ∀ key, (m'.idleOf key).Sublist (m.idleOf key)
    ∨ conn ∈ m.inUse key ∧ (m'.idleOf key).Sublist (conn :: m.idleOf key)
  inUse : ∀ key, m'.inUse key = if key = conn.key then (m.inUse key).erase conn else m.inUse key

/-- A connection that is in use nowhere is closed, and nothing else happens. -/
theorem Returned.unknown (h : m.Sized) {conn : TenantConnection} (hconn : conn ∉ m.inUse conn.key) :
  Returned m m conn
  := by
  refine ⟨rfl, h, fun _ => .inl (List.Sublist.refl _), ?_⟩
  intro key
  split
  · rename_i hkey
    rw [hkey, List.erase_of_not_mem hconn]
  · rfl

/-- The pool of a connection that was in use, without it. -/
theorem Returned.setPool (h : m.Sized) {conn : TenantConnection} {pool : Pool}
    (hpool : m.pools conn.key = some pool) {idle : List Idle}
    (hidle : (idle.map (·.conn)).Sublist (m.idleOf conn.key)
      ∨ conn ∈ m.inUse conn.key ∧ (idle.map (·.conn)).Sublist (conn :: m.idleOf conn.key)) :
  Returned m (m.setPool conn.key
    (some { pool with idle := idle, inUse := pool.inUse.erase conn })) conn
  := by
  constructor
  · rfl
  · apply h.setPool
    intro pool' hpool'
    obtain rfl := Option.some.inj hpool'
    apply h conn.key pool hpool
  · intro key
    by_cases hkey : key = conn.key
    · subst hkey
      rw [idleOf_setPool_self]
      apply hidle
    · rw [idleOf_setPool_of_ne _ hkey]
      exact .inl (List.Sublist.refl _)
  · intro key
    by_cases hkey : key = conn.key
    · subst hkey
      rw [inUse_setPool_self, if_pos rfl, ConnectionPoolManager.inUse, hpool]
      rfl
    · rw [inUse_setPool_of_ne _ hkey, if_neg hkey]

theorem Returned.evictIdleLocked {conn : TenantConnection} (h : Returned m m' conn) (later : Int) :
  Returned m (m'.evictIdleLocked later) conn
  := by
  constructor
  · apply h.max
  · apply h.sized.evictIdleLocked
  · intro key
    have hevicted := m'.idleOf_evictIdleLocked later key
    rcases h.idle key with hidle | ⟨hconn, hidle⟩
    · exact .inl (hevicted.trans hidle)
    · exact .inr ⟨hconn, hevicted.trans hidle⟩
  · intro key
    rw [inUse_evictIdleLocked, h.inUse]

theorem release_returned (h : m.Sized) (now later : Int) (resets isAlive : Bool)
    (conn : TenantConnection) :
  Returned m (m.release now later resets isAlive conn) conn
  := by
  rw [release]
  split
  · rename_i hpool
    apply Returned.unknown h
    rw [inUse, hpool]
    apply List.not_mem_nil
  · rename_i pool hpool
    have hinUse : m.inUse conn.key = pool.inUse := by
      rw [inUse, hpool]
      rfl
    have hidle : m.idleOf conn.key = pool.idle.map (·.conn) := by
      rw [idleOf, hpool]
      rfl
    split
    · rename_i hnot
      apply Returned.unknown h
      rwa [hinUse]
    · rename_i hin
      simp only
      split
      · apply Returned.setPool h hpool
        left
        rw [hidle]
      · apply Returned.evictIdleLocked
        apply Returned.setPool h hpool
        right
        constructor
        · rw [hinUse]
          exact not_not.mp hin
        · rw [hidle]
          apply List.Sublist.refl

theorem discard_returned (h : m.Sized) (conn : TenantConnection) :
  Returned m (m.discard conn) conn
  := by
  rw [discard]
  split
  · rename_i hpool
    apply Returned.unknown h
    rw [inUse, hpool]
    apply List.not_mem_nil
  · rename_i pool hpool
    apply Returned.setPool h hpool
    left
    rw [idleOf, hpool]
    apply List.Sublist.refl

/-- The key is drained by an invalidation of the versions of a tenant but one. -/
def drains (tenantId keepVersion : String) (key : PoolKey) : Bool :=
  key.1 == tenantId && key.2 != keepVersion

theorem pools_invalidateVersion (tenantId keepVersion : String) (key : PoolKey) :
  (m.invalidateVersion tenantId keepVersion).pools key
    = if drains tenantId keepVersion key then none else m.pools key
  := by
  simp [invalidateVersion, drains]

theorem inUse_invalidateVersion (tenantId keepVersion : String) (key : PoolKey) :
  (m.invalidateVersion tenantId keepVersion).inUse key
    = if drains tenantId keepVersion key then [] else m.inUse key
  := by
  rw [inUse, pools_invalidateVersion]
  split <;> rfl

theorem idleOf_invalidateVersion (tenantId keepVersion : String) (key : PoolKey) :
  (m.invalidateVersion tenantId keepVersion).idleOf key
    = if drains tenantId keepVersion key then [] else m.idleOf key
  := by
  rw [idleOf, pools_invalidateVersion]
  split <;> rfl

theorem Sized.invalidateVersion (h : m.Sized) (tenantId keepVersion : String) :
  (m.invalidateVersion tenantId keepVersion).Sized
  := by
  intro key pool hpool
  rw [pools_invalidateVersion] at hpool
  split at hpool
  · cases hpool
  · apply h key pool hpool

end ConnectionPoolManager

/-! ### Borrowers -/

/-- A connection with its borrower; `drained` where its pool was dropped in the meantime. -/
structure Loan (β : Type) where
  borrower : β
  conn : TenantConnection
  drained : Bool

/-- The manager, what is lent, and the number of connections opened so far. -/
structure Lending (β : Type) where
  manager : ConnectionPoolManager
  loans : List (Loan β)
  minted : Nat

/-- One call of a borrower.  The factory opens a connection with some binding, or raises. -/
inductive PoolCall (β : Type) where
  | acquire (borrower : β) (tenantId associationVersion : String) (now : Int)
      (isAlive : TenantConnection → Bool) (opened : Option (String × String × SecretRef))
  | release (borrower : β) (conn : TenantConnection) (now later : Int) (resets isAlive : Bool)
  | discard (borrower : β) (conn : TenantConnection)
  | invalidateVersion (tenantId keepVersion : String)

namespace Lending

variable {β : Type} (s : Lending β)

/-- What opening ends with; every connection that is opened is a new one. -/
def opening : Option (String × String × SecretRef) → Except AcquireError TenantConnection
  | none => .error .openFailed
  | some (tenantId, associationVersion, ref) => .ok ⟨s.minted, tenantId, associationVersion, ref⟩

/-- The borrower holds the connection. -/
def Holds (borrower : β) (conn : TenantConnection) : Prop :=
  ∃ loan ∈ s.loans, loan.borrower = borrower ∧ loan.conn = conn

instance [DecidableEq β] (borrower : β) (conn : TenantConnection) :
    Decidable (s.Holds borrower conn) := by
  unfold Holds
  infer_instance

/-- The loans without that of a connection. -/
def without (conn : TenantConnection) : List (Loan β) :=
  s.loans.filter fun loan => loan.conn ≠ conn

/-- The state after a call, where the borrower may make it: a connection is given back by the
borrower that holds it. -/
def step [DecidableEq β] : PoolCall β → Option (Lending β)
  | .acquire borrower tenantId associationVersion now isAlive opened =>
      let acquired := s.manager.acquire now isAlive tenantId associationVersion (s.opening opened)
      some
        { manager := acquired.2
          loans := match acquired.1 with
            | .ok conn => ⟨borrower, conn, false⟩ :: s.loans
            | .error _ => s.loans
          minted := s.minted + 1 }
  | .release borrower conn now later resets isAlive =>
      if s.Holds borrower conn then
        some { s with
          manager := s.manager.release now later resets isAlive conn
          loans := s.without conn }
      else
        none
  | .discard borrower conn =>
      if s.Holds borrower conn then
        some { s with
          manager := s.manager.discard conn
          loans := s.without conn }
      else
        none
  | .invalidateVersion tenantId keepVersion =>
      some { s with
        manager := s.manager.invalidateVersion tenantId keepVersion
        loans := s.loans.map fun loan => { loan with
          drained := loan.drained
            || ConnectionPoolManager.drains tenantId keepVersion loan.conn.key } }

/-- The states reached from empty pools. -/
inductive Reached [DecidableEq β] (maxPerTenant : Nat) (idleTimeout : Int) :
    Lending β → Prop where
  | start : Reached maxPerTenant idleTimeout ⟨⟨maxPerTenant, idleTimeout, fun _ => none⟩, [], 0⟩
  | call {s s' : Lending β} (h : Reached maxPerTenant idleTimeout s) (c : PoolCall β)
      (hc : s.step c = some s') : Reached maxPerTenant idleTimeout s'

/-- The connections of a key that are lent, leaving out those whose pool was dropped. -/
def lent (key : PoolKey) : List (Loan β) :=
  s.loans.filter fun loan => loan.conn.key = key ∧ loan.drained = false

/-- Every connection is in one place, under its own key, and the pools are within their bound. -/
structure Sound : Prop where
  sized : s.manager.Sized
  keyed : ∀ key, ∀ conn ∈ s.manager.idleOf key, conn.key = key
  idle : ∀ key, (s.manager.idleOf key).Nodup
  inUse : ∀ key, (s.manager.inUse key).Nodup
  inUse_iff : ∀ key conn, conn ∈ s.manager.inUse key ↔ ∃ loan ∈ s.lent key, loan.conn = conn
  loans : (s.loans.map (·.conn)).Nodup
  apart : ∀ key, ∀ conn ∈ s.manager.idleOf key, ∀ loan ∈ s.loans, loan.conn ≠ conn
  old : ∀ key, ∀ conn ∈ s.manager.idleOf key, conn.serial < s.minted
  older : ∀ loan ∈ s.loans, loan.conn.serial < s.minted
  bounded : ∀ key, (s.manager.idleOf key).length + (s.manager.inUse key).length
    ≤ s.manager.maxPerTenant

section Invariant

variable {s}

theorem mem_lent {key : PoolKey} {loan : Loan β} :
  loan ∈ s.lent key ↔ loan ∈ s.loans ∧ loan.conn.key = key ∧ loan.drained = false
  := by
  rw [lent, List.mem_filter, decide_eq_true_iff]

theorem Sound.start (maxPerTenant : Nat) (idleTimeout : Int) :
  (⟨⟨maxPerTenant, idleTimeout, fun _ => none⟩, [], 0⟩ : Lending β).Sound
  where
  sized := nofun
  keyed _ _ := nofun
  idle _ := List.nodup_nil
  inUse _ := List.nodup_nil
  inUse_iff _ _ := ⟨nofun, fun ⟨_, hloan, _⟩ => nomatch hloan⟩
  loans := List.nodup_nil
  apart _ _ := nofun
  old _ _ := nofun
  older _ := nofun
  bounded _ := Nat.zero_le _

/-- A connection in use is lent. -/
theorem Sound.mem_loans (h : s.Sound) {key : PoolKey} {conn : TenantConnection}
    (hconn : conn ∈ s.manager.inUse key) :
  conn.key = key ∧ ∃ loan ∈ s.loans, loan.conn = conn
  := by
  obtain ⟨loan, hloan, rfl⟩ := (h.inUse_iff key conn).mp hconn
  obtain ⟨hmem, hkey, _⟩ := mem_lent.mp hloan
  exact ⟨hkey, loan, hmem, rfl⟩

/-- An acquisition that raises keeps every connection in its place. -/
theorem Sound.kept (h : s.Sound) {m' : ConnectionPoolManager}
    (hkept : ConnectionPoolManager.Kept s.manager m') {minted : Nat} (hminted : s.minted ≤ minted) :
  (⟨m', s.loans, minted⟩ : Lending β).Sound
  where
  sized := hkept.sized
  keyed key conn hconn := h.keyed key conn ((hkept.idle key).subset hconn)
  idle key := (h.idle key).sublist (hkept.idle key)
  inUse key := by
    rw [hkept.inUse]
    apply h.inUse
  inUse_iff key conn := by
    rw [hkept.inUse]
    apply h.inUse_iff
  loans := h.loans
  apart key conn hconn := h.apart key conn ((hkept.idle key).subset hconn)
  old key conn hconn := Nat.lt_of_lt_of_le (h.old key conn ((hkept.idle key).subset hconn)) hminted
  older loan hloan := Nat.lt_of_lt_of_le (h.older loan hloan) hminted
  bounded key := by
    rw [hkept.inUse, hkept.max]
    exact Nat.le_trans (Nat.add_le_add_right (hkept.idle key).length_le _) (h.bounded key)

/-- A connection that is lent leaves the idle ones and is with nobody else. -/
theorem Sound.lend (h : s.Sound) {m' : ConnectionPoolManager} {key : PoolKey}
    {conn : TenantConnection} (hlent : ConnectionPoolManager.Lent s.manager m' key conn)
    (hidle : (m'.idleOf key).Sublist (s.manager.idleOf key)) (hkey : conn.key = key)
    (hfree : ∀ loan ∈ s.loans, loan.conn ≠ conn) (haway : conn ∉ m'.idleOf key)
    (hroom : (m'.idleOf key).length + (s.manager.inUse key).length < s.manager.maxPerTenant)
    {minted : Nat} (hminted : s.minted ≤ minted) (hserial : conn.serial < minted) (borrower : β) :
  (⟨m', ⟨borrower, conn, false⟩ :: s.loans, minted⟩ : Lending β).Sound
  := by
  have hsub : ∀ key', (m'.idleOf key').Sublist (s.manager.idleOf key') := by
    intro key'
    by_cases hkey' : key' = key
    · rw [hkey']
      apply hidle
    · apply hlent.idle key' hkey'
  have hunused : conn ∉ s.manager.inUse key := by
    intro hconn
    obtain ⟨_, loan, hloan, hsame⟩ := h.mem_loans hconn
    exact hfree loan hloan hsame
  have hinUse : m'.inUse key = conn :: s.manager.inUse key := by
    rw [hlent.inUse_self, List.insert_of_not_mem hunused]
  constructor
  · apply hlent.sized
  · exact fun key' conn' hconn' => h.keyed key' conn' ((hsub key').subset hconn')
  · exact fun key' => (h.idle key').sublist (hsub key')
  · intro key'
    by_cases hkey' : key' = key
    · subst hkey'
      rw [hinUse]
      exact List.nodup_cons.mpr ⟨hunused, h.inUse _⟩
    · rw [hlent.inUse_of_ne key' hkey']
      apply h.inUse
  · intro key' conn'
    by_cases hkey' : key' = key
    · subst hkey'
      rw [hinUse, List.mem_cons, h.inUse_iff]
      constructor
      · rintro (rfl | ⟨loan, hloan, rfl⟩)
        · exact ⟨_, mem_lent.mpr ⟨List.mem_cons_self, hkey, rfl⟩, rfl⟩
        · obtain ⟨hmem, hcond⟩ := mem_lent.mp hloan
          exact ⟨loan, mem_lent.mpr ⟨List.mem_cons_of_mem _ hmem, hcond⟩, rfl⟩
      · rintro ⟨loan, hloan, rfl⟩
        obtain ⟨hmem, hcond⟩ := mem_lent.mp hloan
        rcases List.mem_cons.mp hmem with rfl | hmem
        · exact .inl rfl
        · exact .inr ⟨loan, mem_lent.mpr ⟨hmem, hcond⟩, rfl⟩
    · rw [hlent.inUse_of_ne key' hkey', h.inUse_iff]
      constructor
      · rintro ⟨loan, hloan, rfl⟩
        obtain ⟨hmem, hcond⟩ := mem_lent.mp hloan
        exact ⟨loan, mem_lent.mpr ⟨List.mem_cons_of_mem _ hmem, hcond⟩, rfl⟩
      · rintro ⟨loan, hloan, rfl⟩
        obtain ⟨hmem, hcond⟩ := mem_lent.mp hloan
        rcases List.mem_cons.mp hmem with rfl | hmem
        · exact absurd (hcond.1.symm.trans hkey) hkey'
        · exact ⟨loan, mem_lent.mpr ⟨hmem, hcond⟩, rfl⟩
  · rw [List.map_cons, List.nodup_cons]
    constructor
    · intro hconn
      obtain ⟨loan, hloan, hsame⟩ := List.mem_map.mp hconn
      exact hfree loan hloan hsame
    · apply h.loans
  · intro key' conn' hconn' loan hloan
    rcases List.mem_cons.mp hloan with rfl | hloan
    · intro hsame
      obtain rfl : conn = conn' := hsame
      obtain rfl := (h.keyed key' conn ((hsub key').subset hconn')).symm.trans hkey
      exact haway hconn'
    · apply h.apart key' conn' ((hsub key').subset hconn') loan hloan
  · intro key' conn' hconn'
    exact Nat.lt_of_lt_of_le (h.old key' conn' ((hsub key').subset hconn')) hminted
  · intro loan hloan
    rcases List.mem_cons.mp hloan with rfl | hloan
    · apply hserial
    · exact Nat.lt_of_lt_of_le (h.older loan hloan) hminted
  · intro key'
    rw [hlent.max]
    change (m'.idleOf key').length + (m'.inUse key').length ≤ _
    by_cases hkey' : key' = key
    · subst hkey'
      rw [hinUse, List.length_cons]
      omega
    · rw [hlent.inUse_of_ne key' hkey']
      exact Nat.le_trans (Nat.add_le_add_right (hsub key').length_le _) (h.bounded key')

theorem Sound.acquire [DecidableEq β] (h : s.Sound) (borrower : β)
    (tenantId associationVersion : String) (now : Int) (isAlive : TenantConnection → Bool)
    (opened : Option (String × String × SecretRef)) {s' : Lending β}
    (hs : s.step (.acquire borrower tenantId associationVersion now isAlive opened) = some s') :
  s'.Sound
  := by
  obtain rfl := Option.some.inj hs
  rcases ConnectionPoolManager.acquire_cases h.sized now isAlive tenantId associationVersion
    (s.opening opened) with ⟨conn, hconn, hlent, hsource⟩ | ⟨e, he, hkept⟩
  · simp only [hconn]
    cases hsource with
    | reused halive htaken =>
        have hidle := htaken.subset List.mem_cons_self
        have hnodup := (h.idle _).sublist htaken
        have hlength := htaken.length_le
        have hbound := h.bounded (tenantId, associationVersion)
        rw [List.length_cons] at hlength
        apply h.lend hlent ((List.sublist_cons_self _ _).trans htaken) (h.keyed _ conn hidle)
          (h.apart _ conn hidle) (List.nodup_cons.mp hnodup).1
        · omega
        · apply Nat.le_succ
        · exact Nat.lt_succ_of_lt (h.old _ conn hidle)
    | minted hopens hbound hemptied hroom =>
        have hserial : conn.serial = s.minted := by
          cases opened with
          | none => cases hopens
          | some binding =>
              obtain rfl := Except.ok.inj hopens
              rfl
        apply h.lend hlent
        · rw [hemptied]
          apply List.nil_sublist
        · apply hbound
        · intro loan hloan hsame
          have hold := h.older loan hloan
          rw [hsame, hserial] at hold
          exact Nat.lt_irrefl _ hold
        · rw [hemptied]
          apply List.not_mem_nil
        · rw [hemptied, List.length_nil, Nat.zero_add]
          apply hroom
        · apply Nat.le_succ
        · rw [hserial]
          apply Nat.lt_succ_self
  · simp only [he]
    apply h.kept hkept (Nat.le_succ _)

/-- A connection that is given back is lent no more, and it may have become idle. -/
theorem Sound.giveBack (h : s.Sound) {m' : ConnectionPoolManager} {conn : TenantConnection}
    (hreturned : ConnectionPoolManager.Returned s.manager m' conn)
    (hheld : ∃ loan ∈ s.loans, loan.conn = conn) :
  (⟨m', s.without conn, s.minted⟩ : Lending β).Sound
  := by
  have hwithout : ∀ loan, loan ∈ s.without conn ↔ loan ∈ s.loans ∧ loan.conn ≠ conn := by
    intro loan
    rw [without, List.mem_filter, decide_eq_true_iff]
  have hmem : ∀ key, ∀ conn' ∈ m'.idleOf key, conn' ∈ s.manager.idleOf key
      ∨ conn' = conn ∧ conn ∈ s.manager.inUse key := by
    intro key conn' hconn'
    rcases hreturned.idle key with hidle | ⟨hconn, hidle⟩
    · exact .inl (hidle.subset hconn')
    · rcases List.mem_cons.mp (hidle.subset hconn') with rfl | hconn'
      · exact .inr ⟨rfl, hconn⟩
      · exact .inl hconn'
  have hunidle : ∀ key, conn ∉ s.manager.idleOf key := by
    intro key hconn
    obtain ⟨loan, hloan, hsame⟩ := hheld
    exact h.apart key conn hconn loan hloan hsame
  constructor
  · apply hreturned.sized
  · intro key conn' hconn'
    rcases hmem key conn' hconn' with hidle | ⟨rfl, hconn⟩
    · apply h.keyed key conn' hidle
    · exact (h.mem_loans hconn).1
  · intro key
    rcases hreturned.idle key with hidle | ⟨_, hidle⟩
    · exact (h.idle key).sublist hidle
    · have hboth := List.nodup_cons.mpr ⟨hunidle key, h.idle key⟩
      exact hboth.sublist hidle
  · intro key
    rw [hreturned.inUse]
    split
    · exact (h.inUse key).erase conn
    · apply h.inUse
  · intro key conn'
    rw [hreturned.inUse]
    by_cases hkey : key = conn.key
    · subst hkey
      rw [if_pos rfl, (h.inUse _).mem_erase_iff, h.inUse_iff]
      constructor
      · rintro ⟨hne, loan, hloan, rfl⟩
        obtain ⟨hin, hcond⟩ := mem_lent.mp hloan
        exact ⟨loan, mem_lent.mpr ⟨(hwithout loan).mpr ⟨hin, hne⟩, hcond⟩, rfl⟩
      · rintro ⟨loan, hloan, rfl⟩
        obtain ⟨hin, hcond⟩ := mem_lent.mp hloan
        obtain ⟨hin, hne⟩ := (hwithout loan).mp hin
        exact ⟨hne, loan, mem_lent.mpr ⟨hin, hcond⟩, rfl⟩
    · rw [if_neg hkey, h.inUse_iff]
      constructor
      · rintro ⟨loan, hloan, rfl⟩
        obtain ⟨hin, hcond⟩ := mem_lent.mp hloan
        refine ⟨loan, mem_lent.mpr ⟨(hwithout loan).mpr ⟨hin, ?_⟩, hcond⟩, rfl⟩
        intro hsame
        apply hkey
        rw [← hcond.1, hsame]
      · rintro ⟨loan, hloan, rfl⟩
        obtain ⟨hin, hcond⟩ := mem_lent.mp hloan
        exact ⟨loan, mem_lent.mpr ⟨((hwithout loan).mp hin).1, hcond⟩, rfl⟩
  · exact h.loans.sublist (List.filter_sublist.map _)
  · intro key conn' hconn' loan hloan
    obtain ⟨hin, hne⟩ := (hwithout loan).mp hloan
    rcases hmem key conn' hconn' with hidle | ⟨rfl, _⟩
    · apply h.apart key conn' hidle loan hin
    · apply hne
  · intro key conn' hconn'
    rcases hmem key conn' hconn' with hidle | ⟨rfl, hconn⟩
    · apply h.old key conn' hidle
    · obtain ⟨_, loan, hloan, rfl⟩ := h.mem_loans hconn
      apply h.older loan hloan
  · intro loan hloan
    apply h.older loan ((hwithout loan).mp hloan).1
  · intro key
    rw [hreturned.max, hreturned.inUse]
    change (m'.idleOf key).length + _ ≤ _
    have hbound := h.bounded key
    rcases hreturned.idle key with hidle | ⟨hconn, hidle⟩
    · apply Nat.le_trans _ hbound
      apply Nat.add_le_add hidle.length_le
      split
      · apply List.length_erase_le
      · apply Nat.le_refl
    · have hkey := (h.mem_loans hconn).1
      have hlength := hidle.length_le
      have hpos := List.length_pos_of_mem hconn
      rw [if_pos hkey.symm, List.length_erase_of_mem hconn]
      rw [List.length_cons] at hlength
      omega

/-- An invalidation closes what is idle in the pools it drops, and leaves what is lent from them
open. -/
theorem Sound.invalidateVersion [DecidableEq β] (h : s.Sound) (tenantId keepVersion : String)
    {s' : Lending β} (hs : s.step (.invalidateVersion tenantId keepVersion) = some s') :
  s'.Sound
  := by
  obtain rfl := Option.some.inj hs
  have hidle : ∀ key, ((s.manager.invalidateVersion tenantId keepVersion).idleOf key).Sublist
      (s.manager.idleOf key) := by
    intro key
    rw [ConnectionPoolManager.idleOf_invalidateVersion]
    split
    · apply List.nil_sublist
    · apply List.Sublist.refl
  constructor
  · apply h.sized.invalidateVersion
  · exact fun key conn hconn => h.keyed key conn ((hidle key).subset hconn)
  · exact fun key => (h.idle key).sublist (hidle key)
  · intro key
    simp only [ConnectionPoolManager.inUse_invalidateVersion]
    split
    · apply List.nodup_nil
    · apply h.inUse
  · intro key conn
    simp only [ConnectionPoolManager.inUse_invalidateVersion]
    cases hdrains : ConnectionPoolManager.drains tenantId keepVersion key with
    | true =>
        apply iff_of_false List.not_mem_nil
        rintro ⟨loan, hloan, _⟩
        obtain ⟨hin, hkey, hdrained⟩ := mem_lent.mp hloan
        obtain ⟨loan', _, rfl⟩ := List.mem_map.mp hin
        simp only at hkey hdrained
        rw [hkey, hdrains, Bool.or_true] at hdrained
        cases hdrained
    | false =>
        simp only [Bool.false_eq_true, if_false]
        rw [h.inUse_iff]
        constructor
        · rintro ⟨loan, hloan, rfl⟩
          obtain ⟨hin, hkey, hdrained⟩ := mem_lent.mp hloan
          refine ⟨_, mem_lent.mpr ⟨List.mem_map_of_mem hin, hkey, ?_⟩, rfl⟩
          simp only
          rw [hkey, hdrains, hdrained]
          rfl
        · rintro ⟨loan, hloan, rfl⟩
          obtain ⟨hin, hkey, hdrained⟩ := mem_lent.mp hloan
          obtain ⟨loan', hin', rfl⟩ := List.mem_map.mp hin
          exact ⟨loan', mem_lent.mpr ⟨hin', hkey, (Bool.or_eq_false_iff.mp hdrained).1⟩, rfl⟩
  · rw [List.map_map]
    apply h.loans
  · intro key conn hconn loan hloan
    obtain ⟨loan', hin, rfl⟩ := List.mem_map.mp hloan
    apply h.apart key conn ((hidle key).subset hconn) loan' hin
  · exact fun key conn hconn => h.old key conn ((hidle key).subset hconn)
  · intro loan hloan
    obtain ⟨loan', hin, rfl⟩ := List.mem_map.mp hloan
    apply h.older loan' hin
  · intro key
    apply Nat.le_trans _ (h.bounded key)
    apply Nat.add_le_add (hidle key).length_le
    simp only [ConnectionPoolManager.inUse_invalidateVersion]
    split
    · apply Nat.zero_le
    · apply Nat.le_refl

/-- Every call keeps every connection in one place. -/
theorem Sound.step [DecidableEq β] (h : s.Sound) {c : PoolCall β} {s' : Lending β}
    (hs : s.step c = some s') :
  s'.Sound
  := by
  cases c with
  | acquire borrower tenantId associationVersion now isAlive opened =>
      apply h.acquire borrower tenantId associationVersion now isAlive opened hs
  | release borrower conn now later resets isAlive =>
      simp only [Lending.step] at hs
      split at hs
      · rename_i hheld
        obtain ⟨loan, hloan, _, hconn⟩ := hheld
        obtain rfl := Option.some.inj hs
        apply h.giveBack _ ⟨loan, hloan, hconn⟩
        apply ConnectionPoolManager.release_returned h.sized
      · cases hs
  | discard borrower conn =>
      simp only [Lending.step] at hs
      split at hs
      · rename_i hheld
        obtain ⟨loan, hloan, _, hconn⟩ := hheld
        obtain rfl := Option.some.inj hs
        apply h.giveBack _ ⟨loan, hloan, hconn⟩
        apply ConnectionPoolManager.discard_returned h.sized
      · cases hs
  | invalidateVersion tenantId keepVersion =>
      apply h.invalidateVersion tenantId keepVersion hs

theorem Reached.sound [DecidableEq β] {maxPerTenant : Nat} {idleTimeout : Int}
    (h : Reached maxPerTenant idleTimeout s) :
  s.Sound
  := by
  induction h with
  | start => apply Sound.start
  | call _ c hc ih => apply ih.step hc

/-- The bound of the manager never changes. -/
theorem Reached.max [DecidableEq β] {maxPerTenant : Nat} {idleTimeout : Int}
    (h : Reached maxPerTenant idleTimeout s) :
  s.manager.maxPerTenant = maxPerTenant
  := by
  induction h with
  | start => rfl
  | @call s s' h c hc ih =>
      have hsized := h.sound.sized
      cases c with
      | acquire borrower tenantId associationVersion now isAlive opened =>
          obtain rfl := Option.some.inj hc
          rcases ConnectionPoolManager.acquire_cases hsized now isAlive tenantId
            associationVersion (s.opening opened) with ⟨_, _, hlent, _⟩ | ⟨_, _, hkept⟩
          · exact hlent.max.trans ih
          · exact hkept.max.trans ih
      | release borrower conn now later resets isAlive =>
          simp only [Lending.step] at hc
          split at hc
          · obtain rfl := Option.some.inj hc
            exact (ConnectionPoolManager.release_returned hsized now later resets isAlive
              conn).max.trans ih
          · cases hc
      | discard borrower conn =>
          simp only [Lending.step] at hc
          split at hc
          · obtain rfl := Option.some.inj hc
            exact (ConnectionPoolManager.discard_returned hsized conn).max.trans ih
          · cases hc
      | invalidateVersion tenantId keepVersion =>
          obtain rfl := Option.some.inj hc
          exact ih

/-- What is lent of a key is what its pool has in use. -/
theorem Sound.lent_length (h : s.Sound) (key : PoolKey) :
  (s.lent key).length = (s.manager.inUse key).length
  := by
  have hnodup : ((s.lent key).map (·.conn)).Nodup :=
    h.loans.sublist (List.filter_sublist.map _)
  have hperm : ((s.lent key).map (·.conn)).Perm (s.manager.inUse key) := by
    apply (List.perm_ext_iff_of_nodup hnodup (h.inUse key)).mpr
    intro conn
    rw [h.inUse_iff, List.mem_map]
  rw [← hperm.length_eq, List.length_map]

end Invariant

/-- Every connection is idle in the pool of its own key or with one borrower, and in one place
only. -/
structure Exclusive : Prop where
  idle : ∀ key, ∀ conn ∈ s.manager.idleOf key, conn.key = key
    ∧ (∀ key', conn ∉ s.manager.inUse key') ∧ ∀ loan ∈ s.loans, loan.conn ≠ conn
  once : ∀ key, (s.manager.idleOf key).Nodup
  inUse : ∀ key, ∀ conn ∈ s.manager.inUse key, conn.key = key
  lent : (s.loans.map (·.conn)).Nodup

/-- An acquisition hands out a connection of the key it is asked for, and one that was idle only
where it is alive. -/
def HandsOutAlive : Prop :=
  ∀ tenantId associationVersion now isAlive opened conn,
    (s.manager.acquire now isAlive tenantId associationVersion (s.opening opened)).1 = .ok conn →
    conn.key = (tenantId, associationVersion)
      ∧ ∀ key, conn ∈ s.manager.idleOf key → isAlive conn = true

theorem Sound.exclusive {s : Lending β} (h : s.Sound) :
  s.Exclusive
  := by
  refine ⟨?_, h.idle, fun key conn hconn => (h.mem_loans hconn).1, h.loans⟩
  intro key conn hconn
  refine ⟨h.keyed key conn hconn, ?_, h.apart key conn hconn⟩
  intro key' hinUse
  obtain ⟨_, loan, hloan, hsame⟩ := h.mem_loans hinUse
  exact h.apart key conn hconn loan hloan hsame

/-- In every state that borrowers reach, every connection is in one place, idle connections are
handed out alive and under their own key, and the connections of a key that are idle or lent,
leaving out those lent when their pool was dropped, are within the bound. -/
theorem pools_exclusive [DecidableEq β] {maxPerTenant : Nat} {idleTimeout : Int} {s : Lending β}
    (h : Reached maxPerTenant idleTimeout s) :
  s.Exclusive ∧ s.HandsOutAlive
    ∧ ∀ key, (s.manager.idleOf key).length + (s.lent key).length ≤ maxPerTenant
  := by
  have hsound := h.sound
  refine ⟨hsound.exclusive, ?_, ?_⟩
  · intro tenantId associationVersion now isAlive opened conn hconn
    rcases ConnectionPoolManager.acquire_cases hsound.sized now isAlive tenantId
      associationVersion (s.opening opened) with ⟨conn', hconn', _, hsource⟩ | ⟨e, he, _⟩
    · obtain rfl := Except.ok.inj (hconn.symm.trans hconn')
      cases hsource with
      | reused halive htaken =>
          exact ⟨hsound.keyed _ conn (htaken.subset List.mem_cons_self), fun _ _ => halive⟩
      | minted hopens hbound hemptied hroom =>
          refine ⟨hbound, ?_⟩
          intro key hidle
          have hold := hsound.old key conn hidle
          cases opened with
          | none => cases hopens
          | some binding =>
              obtain rfl := Except.ok.inj hopens
              exact absurd hold (Nat.lt_irrefl _)
    · cases hconn.symm.trans he
  · intro key
    rw [hsound.lent_length, ← h.max]
    apply hsound.bounded

/-! ### Runs of one manager -/

/-- An acquisition of the sample run: the first tenant, whose connections open and stay alive. -/
def sampleAcquire (borrower : Nat) : PoolCall Nat :=
  .acquire borrower "t" "1" 0 (fun _ => true) (some ("t", "1", ⟨"tenant/t/dsn", "1"⟩))

/-- The state after a list of calls. -/
def run [DecidableEq β] (s : Lending β) : List (PoolCall β) → Option (Lending β)
  | [] => some s
  | c :: cs => (s.step c).bind fun s' => s'.run cs

theorem Reached.of_run [DecidableEq β] {maxPerTenant : Nat} {idleTimeout : Int} :
  ∀ {cs : List (PoolCall β)} {s s' : Lending β}, Reached maxPerTenant idleTimeout s →
    s.run cs = some s' → Reached maxPerTenant idleTimeout s'
  | [], s, s', h, hrun => by
      obtain rfl := Option.some.inj hrun
      apply h
  | c :: cs, s, s', h, hrun => by
      obtain ⟨next, hnext, hrest⟩ := Option.bind_eq_some_iff.mp hrun
      apply (h.call c hnext).of_run hrest

/-- Two connections of one key are open at once where the pool of the first was dropped while it
was lent, though the bound is one. -/
theorem pools_exceed :
  ∃ s : Lending Nat, Reached 1 60 s
    ∧ 1 < (s.manager.idleOf ("t", "1")).length
      + (s.loans.filter fun loan => loan.conn.key = ("t", "1")).length
  := by
  have hrun : ∃ s, (⟨⟨1, 60, fun _ => none⟩, [], 0⟩ : Lending Nat).run
      [sampleAcquire 0, .invalidateVersion "t" "2", sampleAcquire 1] = some s
      ∧ 1 < (s.manager.idleOf ("t", "1")).length
        + (s.loans.filter fun loan => loan.conn.key = ("t", "1")).length :=
    ⟨_, rfl, by decide⟩
  obtain ⟨s, hs, hopen⟩ := hrun
  exact ⟨s, Reached.start.of_run hs, hopen⟩

/-- The pools after a connection was lent, given back and lent again. -/
theorem pools_exclusive_sample :
  ∃ s : Lending Nat, (s.Exclusive ∧ s.HandsOutAlive
      ∧ ∀ key, (s.manager.idleOf key).length + (s.lent key).length ≤ 1)
    ∧ s.loans.length = 1
  := by
  have hrun : ∃ s, (⟨⟨1, 60, fun _ => none⟩, [], 0⟩ : Lending Nat).run
      [sampleAcquire 0, .release 0 ⟨0, "t", "1", ⟨"tenant/t/dsn", "1"⟩⟩ 1 1 true true,
        sampleAcquire 1] = some s ∧ s.loans.length = 1 :=
    ⟨_, rfl, rfl⟩
  obtain ⟨s, hs, hloans⟩ := hrun
  exact ⟨s, pools_exclusive (Reached.start.of_run hs), hloans⟩

end Lending

end DatabaseRouter
