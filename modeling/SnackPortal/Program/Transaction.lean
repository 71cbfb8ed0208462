import Mathlib.Logic.Function.Basic
import Mathlib.Data.List.Basic

/-!
# Transactions at read committed

A database that many sessions work on.  A session sees the committed state under its own
pending changes.  A change locks keys (the rows it writes, and the values its unique columns
take) until its transaction ends, and waits while another session holds one of them; so does
an explicit lock.  A commit applies the pending changes to the state that is then committed,
and the order of the commits is kept.
-/

/-- How the changes of a database act, and which keys each of them locks. -/
structure Schema (D W K : Type) where
  apply : W → D → D
  keys : W → List K

namespace Schema

variable {D W K : Type} (schema : Schema D W K)

/-- The changes, applied in order. -/
def applyAll (ws : List W) (d : D) : D :=
  ws.foldl (fun d w => schema.apply w d) d

@[simp] theorem applyAll_nil (d : D) :
  schema.applyAll [] d = d
  := rfl

@[simp] theorem applyAll_cons (w : W) (ws : List W) (d : D) :
  schema.applyAll (w :: ws) d = schema.applyAll ws (schema.apply w d)
  := rfl

@[simp] theorem applyAll_append (ws ws' : List W) (d : D) :
  schema.applyAll (ws ++ ws') d = schema.applyAll ws' (schema.applyAll ws d)
  := List.foldl_append

end Schema

/-- The committed state with the sessions on it: their pending changes, which of them are in a
failed transaction, who holds which keys, and the commits so far, the latest first. -/
structure Database (D W K ι : Type) where
  committed : D
  pending : ι → List W
  aborted : ι → Bool
  holders : List (K × ι)
  commits : List (ι × List W)

namespace Database

variable {D W K ι : Type}

/-- A state on which nothing is under way. -/
def quiet (d : D) : Database D W K ι where
  committed := d
  pending _ := []
  aborted _ := false
  holders := []
  commits := []

/-- The changes that took effect so far, in order. -/
def changes (db : Database D W K ι) : List W :=
  (db.commits.map Prod.snd).reverse.flatten

variable (schema : Schema D W K) (db : Database D W K ι)

/-- What the session sees. -/
def view (i : ι) : D :=
  schema.applyAll (db.pending i) db.committed

/-- No session but `i` holds the key. -/
def Free (i : ι) (k : K) : Prop :=
  ∀ h ∈ db.holders, h.1 = k → h.2 = i

variable [DecidableEq ι] [DecidableEq K]

instance (i : ι) (k : K) : Decidable (db.Free i k) :=
  inferInstanceAs (Decidable (∀ h ∈ db.holders, h.1 = k → h.2 = i))

/-- The session takes the key, where no other session holds it. -/
def lock (i : ι) (k : K) : Option (Database D W K ι) :=
  if db.Free i k then some { db with holders := (k, i) :: db.holders } else none

/-- The session makes a change, where no other session holds one of its keys. -/
def write (i : ι) (w : W) : Option (Database D W K ι) :=
  if ∀ k ∈ schema.keys w, db.Free i k then
    some { db with
      pending := Function.update db.pending i (db.pending i ++ [w])
      holders := (schema.keys w).map (fun k => (k, i)) ++ db.holders }
  else
    none

omit [DecidableEq K] in
/-- The transaction of the session ends without effect. -/
def rollback (i : ι) : Database D W K ι where
  committed := db.committed
  pending := Function.update db.pending i []
  aborted := Function.update db.aborted i false
  holders := db.holders.filter fun h => h.2 ≠ i
  commits := db.commits

omit [DecidableEq K] in
/-- A statement of the session fails: its transaction ends without effect, and the session
remains in the failed transaction. -/
def abort (i : ι) : Database D W K ι :=
  { db.rollback i with aborted := Function.update db.aborted i true }

omit [DecidableEq K] in
/-- The transaction of the session takes effect. -/
def commit (i : ι) : Database D W K ι :=
  { db.rollback i with
    committed := db.view schema i
    commits := (i, db.pending i) :: db.commits }

omit [DecidableEq K] in
/-- A commit adds the pending changes to those that took effect. -/
theorem changes_commit (i : ι) :
  (db.commit schema i).changes = db.changes ++ db.pending i
  := by
  rw [changes, commit, changes]
  simp

/-! ### The locks -/

omit [DecidableEq ι] [DecidableEq K]

/-- No key is held twice, and every pending change holds its keys. -/
structure Consistent : Prop where
  exclusive : ∀ k i j, (k, i) ∈ db.holders → (k, j) ∈ db.holders → i = j
  locked : ∀ i, ∀ w ∈ db.pending i, ∀ k ∈ schema.keys w, (k, i) ∈ db.holders

variable {schema db}

theorem Consistent.quiet {d : D} :
  (quiet d : Database D W K ι).Consistent schema
  := by
  constructor
  · intro k i j h
    cases h
  · intro i w h
    cases h

/-- While a session holds a key, no other session has a pending change on it. -/
theorem Consistent.alone (h : db.Consistent schema) {i j : ι} {k : K}
    (hk : (k, i) ∈ db.holders) (hij : j ≠ i) :
  ∀ w ∈ db.pending j, k ∉ schema.keys w
  := by
  intro w hw hkw
  have hj := h.locked j w hw k hkw
  apply hij
  apply h.exclusive k j i hj hk

/-- Keys taken by a session that no other session holds. -/
theorem Consistent.take (h : db.Consistent schema) {i : ι} (ks : List K)
    (hfree : ∀ k ∈ ks, db.Free i k) :
  ∀ k j j', (k, j) ∈ ks.map (fun k => (k, i)) ++ db.holders →
    (k, j') ∈ ks.map (fun k => (k, i)) ++ db.holders → j = j'
  := by
  have howner : ∀ k j, (k, j) ∈ ks.map (fun k => (k, i)) ++ db.holders →
      k ∈ ks ∧ j = i ∨ (k, j) ∈ db.holders := by
    intro k j hj
    rcases List.mem_append.mp hj with hj | hj
    · obtain ⟨k', hk', heq⟩ := List.mem_map.mp hj
      cases heq
      exact .inl ⟨hk', rfl⟩
    · exact .inr hj
  intro k j j' hj hj'
  rcases howner k j hj with ⟨hk, rfl⟩ | hold
  · rcases howner k j' hj' with ⟨-, rfl⟩ | hold'
    · rfl
    · exact (hfree k hk _ hold' rfl).symm
  · rcases howner k j' hj' with ⟨hk, rfl⟩ | hold'
    · exact hfree k hk _ hold rfl
    · apply h.exclusive k j j' hold hold'

variable [DecidableEq ι] [DecidableEq K]

/-- What taking a key does. -/
theorem lock_eq_some {db' : Database D W K ι} {i : ι} {k : K}
    (h : db.lock i k = some db') :
  db.Free i k ∧ db' = { db with holders := (k, i) :: db.holders }
  := by
  rw [lock] at h
  split at h
  · rename_i hfree
    exact ⟨hfree, (Option.some.inj h).symm⟩
  · cases h

/-- What making a change does. -/
theorem write_eq_some {db' : Database D W K ι} {i : ι} {w : W}
    (h : db.write schema i w = some db') :
  (∀ k ∈ schema.keys w, db.Free i k)
    ∧ db' = { db with
        pending := Function.update db.pending i (db.pending i ++ [w])
        holders := (schema.keys w).map (fun k => (k, i)) ++ db.holders }
  := by
  rw [write] at h
  split at h
  · rename_i hfree
    exact ⟨hfree, (Option.some.inj h).symm⟩
  · cases h

theorem Consistent.lock (h : db.Consistent schema) {db' : Database D W K ι} {i : ι} {k : K}
    (hl : db.lock i k = some db') :
  db'.Consistent schema
  := by
  obtain ⟨hfree, rfl⟩ := lock_eq_some hl
  constructor
  · apply h.take [k]
    intro k' hk'
    obtain rfl := List.mem_singleton.mp hk'
    apply hfree
  · intro j w hw k' hk'
    apply List.mem_cons_of_mem
    apply h.locked j w hw k' hk'

theorem Consistent.write (h : db.Consistent schema) {db' : Database D W K ι} {i : ι} {w : W}
    (hw : db.write schema i w = some db') :
  db'.Consistent schema
  := by
  obtain ⟨hfree, rfl⟩ := write_eq_some hw
  constructor
  · apply h.take _ hfree
  · intro j w' hw' k hk
    dsimp only at hw'
    by_cases hji : j = i
    · subst hji
      rw [Function.update_self] at hw'
      rcases List.mem_append.mp hw' with hold | hnew
      · apply List.mem_append_right
        apply h.locked j w' hold k hk
      · obtain rfl := List.mem_singleton.mp hnew
        apply List.mem_append_left
        apply List.mem_map_of_mem hk
    · rw [Function.update_of_ne hji] at hw'
      apply List.mem_append_right
      apply h.locked j w' hw' k hk

omit [DecidableEq K] in
/-- The locks do not depend on the committed state. -/
theorem Consistent.of_rollback {db' : Database D W K ι} {i : ι} (h : db.Consistent schema)
    (hpending : db'.pending = (db.rollback i).pending)
    (hholders : db'.holders = (db.rollback i).holders) :
  db'.Consistent schema
  := by
  have hmem : ∀ k j, (k, j) ∈ db'.holders ↔ (k, j) ∈ db.holders ∧ j ≠ i := by
    intro k j
    rw [hholders, rollback]
    simp
  constructor
  · intro k j j' hj hj'
    apply h.exclusive k j j' ((hmem k j).mp hj).1 ((hmem k j').mp hj').1
  · intro j w hw k hk
    rw [hpending] at hw
    dsimp only [rollback] at hw
    by_cases hji : j = i
    · subst hji
      rw [Function.update_self] at hw
      cases hw
    · rw [Function.update_of_ne hji] at hw
      rw [hmem]
      exact ⟨h.locked j w hw k hk, hji⟩

omit [DecidableEq K] in
theorem Consistent.rollback (h : db.Consistent schema) (i : ι) :
  (db.rollback i).Consistent schema
  := h.of_rollback rfl rfl

omit [DecidableEq K] in
theorem Consistent.abort (h : db.Consistent schema) (i : ι) :
  (db.abort i).Consistent schema
  := h.of_rollback (i := i) rfl rfl

omit [DecidableEq K] in
theorem Consistent.commit (h : db.Consistent schema) (i : ι) :
  (db.commit schema i).Consistent schema
  := h.of_rollback (i := i) rfl rfl

end Database
