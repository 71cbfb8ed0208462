import Mathlib.Logic.Function.Basic
import SnackPortal.DatabaseRouter.Models

/-!
# The connection pools

Pools of connections keyed by tenant and association version, with a bound on the connections
in use and eviction of those idle for too long.  Eviction is part of the operations: no
operation runs in the background.
-/

namespace DatabaseRouter

/-- An idle connection and when it was last used. -/
structure Idle where
  conn : TenantConnection
  lastUsed : Int
deriving DecidableEq, Repr, Inhabited

/-- The pool of one key; the idle connections are listed latest first. -/
structure Pool where
  maxSize : Nat
  idle : List Idle
  inUse : List TenantConnection
deriving DecidableEq, Repr, Inhabited

/-- The connection is held by the pool. -/
def Pool.Holds (pool : Pool) (conn : TenantConnection) : Prop :=
  conn ∈ pool.inUse ∨ ∃ idle ∈ pool.idle, idle.conn = conn

/-- Tenant and association version. -/
abbrev PoolKey := String × String

/-- The key of the pool a connection belongs to. -/
def TenantConnection.key (conn : TenantConnection) : PoolKey :=
  (conn.tenantId, conn.associationVersion)

/-- The pools of one capacity lane. -/
structure ConnectionPoolManager where
  maxPerTenant : Nat
  idleTimeout : Int
  pools : PoolKey → Option Pool

/-- Why an acquisition fails: the pool is exhausted or the minted connection has the wrong
binding, or opening raised. -/
inductive AcquireError where
  | poolExhausted
  | openFailed
deriving DecidableEq, Repr, Inhabited

/-- The idle connections not idle for too long; `none` where nothing is left. -/
def Pool.evictIdle (pool : Pool) (now idleTimeout : Int) : Option Pool :=
  let keep := pool.idle.filter fun idle => ¬ (now - idle.lastUsed > idleTimeout)
  if keep.isEmpty && pool.inUse.isEmpty then none else some { pool with idle := keep }

/-- The latest idle connection that is alive, and the ones idle before it; the dead ones above
it are closed. -/
def takeIdle (isAlive : TenantConnection → Bool) :
    List Idle → Option (TenantConnection × List Idle)
  | [] => none
  | idle :: rest => if isAlive idle.conn then some (idle.conn, rest) else takeIdle isAlive rest

namespace ConnectionPoolManager

variable (m : ConnectionPoolManager)

/-- `_evict_idle_locked`. -/
def evictIdleLocked (now : Int) : ConnectionPoolManager :=
  { m with pools := fun key => (m.pools key).bind fun pool => pool.evictIdle now m.idleTimeout }

/-- The manager with another pool under the key, or none. -/
def setPool (key : PoolKey) (pool : Option Pool) : ConnectionPoolManager :=
  { m with pools := Function.update m.pools key pool }

/-- `acquire`, where `opened` is what `open_fn` would end with. -/
def acquire (now : Int) (isAlive : TenantConnection → Bool)
    (tenantId associationVersion : String) (opened : Except AcquireError TenantConnection) :
    Except AcquireError TenantConnection × ConnectionPoolManager :=
  let key := (tenantId, associationVersion)
  let m := m.evictIdleLocked now
  let pool := (m.pools key).getD ⟨m.maxPerTenant, [], []⟩
  match takeIdle isAlive pool.idle with
  | some (conn, rest) =>
      (.ok conn, m.setPool key (some { pool with idle := rest, inUse := pool.inUse.insert conn }))
  | none =>
      let pool := { pool with idle := [] }
      -- a failed opening leaves no empty pool behind
      let unopened := m.setPool key (if pool.inUse.isEmpty then none else some pool)
      if pool.maxSize ≤ pool.inUse.length then
        (.error .poolExhausted, m.setPool key (some pool))
      else
        match opened with
        | .error e => (.error e, unopened)
        | .ok conn =>
            if conn.tenantId ≠ tenantId ∨ conn.associationVersion ≠ associationVersion then
              (.error .poolExhausted, unopened)
            else
              (.ok conn, m.setPool key (some { pool with inUse := pool.inUse.insert conn }))

/-- `release`: `resets` where the roll-back and the reset raise nothing. -/
def release (now later : Int) (resets isAlive : Bool) (conn : TenantConnection) :
    ConnectionPoolManager :=
  match m.pools conn.key with
  | none => m
  | some pool =>
      if conn ∉ pool.inUse then
        m
      else
        let pool := { pool with inUse := pool.inUse.erase conn }
        if !resets || !isAlive then
          m.setPool conn.key (some pool)
        else
          (m.setPool conn.key (some { pool with idle := ⟨conn, now⟩ :: pool.idle })).evictIdleLocked
            later

/-- `discard`. -/
def discard (conn : TenantConnection) : ConnectionPoolManager :=
  match m.pools conn.key with
  | none => m
  | some pool => m.setPool conn.key (some { pool with inUse := pool.inUse.erase conn })

/-- `invalidate_version`. -/
def invalidateVersion (tenantId keepVersion : String) : ConnectionPoolManager :=
  { m with pools := fun key => if key.1 = tenantId ∧ key.2 ≠ keepVersion then none else m.pools key }

end ConnectionPoolManager

/-! ### What the pools hold -/

/-- Every connection in a pool satisfies `p` for the key of the pool. -/
def ConnectionPoolManager.AllHeld (m : ConnectionPoolManager)
    (p : PoolKey → TenantConnection → Prop) : Prop :=
  ∀ key pool, m.pools key = some pool → ∀ conn, pool.Holds conn → p key conn

section AllHeld

variable {m : ConnectionPoolManager} {p : PoolKey → TenantConnection → Prop}

theorem ConnectionPoolManager.AllHeld.mono {q : PoolKey → TenantConnection → Prop}
    (h : m.AllHeld p) (hpq : ∀ key conn, p key conn → q key conn) :
  m.AllHeld q
  := fun key pool hpool conn hconn => hpq key conn (h key pool hpool conn hconn)

/-- Eviction adds no connection. -/
theorem Pool.Holds.of_evictIdle {pool pool' : Pool} {now idleTimeout : Int}
    (hpool : pool.evictIdle now idleTimeout = some pool') {conn : TenantConnection}
    (h : pool'.Holds conn) :
  pool.Holds conn
  := by
  rw [evictIdle] at hpool
  split at hpool
  · cases hpool
  · obtain rfl := Option.some.inj hpool
    rcases h with h | ⟨idle, hidle, rfl⟩
    · left
      apply h
    · right
      exact ⟨idle, List.mem_of_mem_filter hidle, rfl⟩

theorem ConnectionPoolManager.AllHeld.evictIdleLocked (h : m.AllHeld p) (now : Int) :
  (m.evictIdleLocked now).AllHeld p
  := by
  intro key pool' hpool' conn hconn
  obtain ⟨pool, hpool, hevict⟩ := Option.bind_eq_some_iff.mp hpool'
  apply h key pool hpool conn (Pool.Holds.of_evictIdle hevict hconn)

theorem ConnectionPoolManager.AllHeld.setPool (h : m.AllHeld p) {key : PoolKey}
    {pool : Option Pool} (hpool : ∀ pool' ∈ pool, ∀ conn, pool'.Holds conn → p key conn) :
  (m.setPool key pool).AllHeld p
  := by
  intro key' pool' hpool' conn hconn
  by_cases hkey : key' = key
  · subst hkey
    have hset : pool = some pool' := by
      rw [← hpool']
      exact (Function.update_self key' pool m.pools).symm
    apply hpool pool' hset conn hconn
  · have hset : m.pools key' = some pool' := by
      rw [← hpool']
      exact (Function.update_of_ne hkey pool m.pools).symm
    apply h key' pool' hset conn hconn

/-- What is taken was idle, and so were the rest. -/
theorem takeIdle_mem {isAlive : TenantConnection → Bool} {idles rest : List Idle}
    {conn : TenantConnection} (h : takeIdle isAlive idles = some (conn, rest)) :
  (∃ idle ∈ idles, idle.conn = conn) ∧ ∀ idle ∈ rest, idle ∈ idles
  := by
  induction idles with
  | nil => cases h
  | cons idle idles ih =>
      rw [takeIdle] at h
      split at h
      · obtain ⟨rfl, rfl⟩ := Prod.mk.inj (Option.some.inj h)
        constructor
        · exact ⟨idle, List.mem_cons_self, rfl⟩
        · exact fun _ => List.mem_cons_of_mem idle
      · obtain ⟨⟨idle', hidle', hconn⟩, hrest⟩ := ih h
        constructor
        · exact ⟨idle', List.mem_cons_of_mem idle hidle', hconn⟩
        · exact fun i hi => List.mem_cons_of_mem idle (hrest i hi)

/-- An acquisition hands out a connection that was in the pool of the key, or the one opened,
bound to the key; and what the pools then hold was held or is the one handed out. -/
theorem ConnectionPoolManager.AllHeld.acquire (h : m.AllHeld p) (now : Int)
    (isAlive : TenantConnection → Bool) (tenantId associationVersion : String)
    (opened : Except AcquireError TenantConnection)
    (hopened : ∀ conn, opened = .ok conn → conn.tenantId = tenantId →
      conn.associationVersion = associationVersion → p (tenantId, associationVersion) conn) :
  (m.acquire now isAlive tenantId associationVersion opened).2.AllHeld p
    ∧ ∀ conn, (m.acquire now isAlive tenantId associationVersion opened).1 = .ok conn →
      p (tenantId, associationVersion) conn
  := by
  have hevicted := h.evictIdleLocked now
  have hpool : ∀ conn, (((m.evictIdleLocked now).pools (tenantId, associationVersion)).getD
      ⟨(m.evictIdleLocked now).maxPerTenant, [], []⟩).Holds conn →
      p (tenantId, associationVersion) conn := by
    intro conn hconn
    cases hlookup : (m.evictIdleLocked now).pools (tenantId, associationVersion) with
    | none =>
        rw [hlookup] at hconn
        rcases hconn with hconn | ⟨idle, hidle, -⟩
        · cases hconn
        · cases hidle
    | some pool =>
        rw [hlookup] at hconn
        apply hevicted _ pool hlookup conn hconn
  rw [ConnectionPoolManager.acquire]
  generalize (((m.evictIdleLocked now).pools (tenantId, associationVersion)).getD
      ⟨(m.evictIdleLocked now).maxPerTenant, [], []⟩) = pool at hpool
  have hinUse : ∀ conn, Pool.Holds { pool with idle := [] } conn →
      p (tenantId, associationVersion) conn := by
    rintro conn (hconn | ⟨idle, hidle, -⟩)
    · apply hpool conn (.inl hconn)
    · cases hidle
  have hunopened : ∀ pool' ∈ (if pool.inUse.isEmpty then none else
      some ({ pool with idle := [] } : Pool)), ∀ conn, pool'.Holds conn →
        p (tenantId, associationVersion) conn := by
    intro pool' hpool'
    split at hpool'
    · cases hpool'
    · obtain rfl := Option.some.inj hpool'
      apply hinUse
  simp only
  split
  · rename_i conn rest htake
    obtain ⟨hidle, hrest⟩ := takeIdle_mem htake
    have hconn := hpool conn (.inr hidle)
    constructor
    · apply hevicted.setPool
      rintro _ ⟨⟩ conn' (hconn' | ⟨idle, hidle', rfl⟩)
      · rcases List.mem_insert_iff.mp hconn' with rfl | hconn'
        · apply hconn
        · apply hpool conn' (.inl hconn')
      · apply hpool _ (.inr ⟨idle, hrest idle hidle', rfl⟩)
    · rintro _ ⟨⟩
      apply hconn
  · split
    · constructor
      · apply hevicted.setPool
        rintro _ ⟨⟩
        apply hinUse
      · rintro _ ⟨⟩
    · split
      · constructor
        · apply hevicted.setPool hunopened
        · rintro _ ⟨⟩
      · rename_i conn
        split
        · constructor
          · apply hevicted.setPool hunopened
          · rintro _ ⟨⟩
        · rename_i hbound
          obtain ⟨htenant, hversion⟩ := not_or.mp hbound
          have hconn := hopened conn rfl (not_not.mp htenant) (not_not.mp hversion)
          constructor
          · apply hevicted.setPool
            rintro _ ⟨⟩ conn' (hconn' | ⟨idle, hidle, -⟩)
            · rcases List.mem_insert_iff.mp hconn' with rfl | hconn'
              · apply hconn
              · apply hpool conn' (.inl hconn')
            · cases hidle
          · rintro _ ⟨⟩
            apply hconn

theorem ConnectionPoolManager.AllHeld.discard (h : m.AllHeld p) (conn : TenantConnection) :
  (m.discard conn).AllHeld p
  := by
  rw [ConnectionPoolManager.discard]
  split
  · apply h
  · rename_i pool hpool
    apply h.setPool
    rintro _ ⟨⟩ conn' (hconn' | hconn')
    · apply h conn.key pool hpool conn' (.inl (List.mem_of_mem_erase hconn'))
    · apply h conn.key pool hpool conn' (.inr hconn')

theorem ConnectionPoolManager.AllHeld.release (h : m.AllHeld p) {now later : Int}
    {resets isAlive : Bool} (conn : TenantConnection) :
  (m.release now later resets isAlive conn).AllHeld p
  := by
  rw [ConnectionPoolManager.release]
  split
  · apply h
  · rename_i pool hpool
    split
    · apply h
    · rename_i hin
      have hrest : ∀ conn', Pool.Holds { pool with inUse := pool.inUse.erase conn } conn' →
          p conn.key conn' := by
        rintro conn' (hconn' | hconn')
        · apply h conn.key pool hpool conn' (.inl (List.mem_of_mem_erase hconn'))
        · apply h conn.key pool hpool conn' (.inr hconn')
      simp only
      split
      · apply h.setPool
        rintro _ ⟨⟩
        apply hrest
      · apply ConnectionPoolManager.AllHeld.evictIdleLocked
        apply h.setPool
        rintro _ ⟨⟩ conn' (hconn' | ⟨idle, hidle, rfl⟩)
        · apply hrest conn' (.inl hconn')
        · rcases List.mem_cons.mp hidle with rfl | hidle
          · apply h conn.key pool hpool conn (.inl (not_not.mp hin))
          · apply hrest _ (.inr ⟨idle, hidle, rfl⟩)

theorem ConnectionPoolManager.AllHeld.invalidateVersion (h : m.AllHeld p)
    (tenantId keepVersion : String) :
  (m.invalidateVersion tenantId keepVersion).AllHeld p
  := by
  intro key pool hpool
  simp only [ConnectionPoolManager.invalidateVersion] at hpool
  split at hpool
  · cases hpool
  · apply h key pool hpool

end AllHeld

end DatabaseRouter
