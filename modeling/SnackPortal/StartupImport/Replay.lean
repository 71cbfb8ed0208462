import SnackPortal.Program.Discipline
import SnackPortal.StartupImport.Settlement

/-!
# Imports that meet

Requests to import startups into one tenant, any number of them at once and any of them failing
at any call.  A session has changes under way only while it holds the lock of the importer, so
what it read under the lock is still true when it commits.  Hence a source goes from no rows of
an import to all rows of one import, by one commit, and stays there; a request that succeeds
returns the record of that import, as a replay unless the commit was its own
(`import_settled`).
-/

namespace StartupImport

open Lineage (Hmac LineageRow)
open TenantDatabase

variable {ι : Type} [DecidableEq ι]

/-- The database of a tenant. -/
abbrev TenantDb (ι : Type) := Database Tables Change Key ι

/-! ### Who wrote a copy -/

/-- The change inserts the copy of the source. -/
def copies (src : String) : Change → Bool
  | .putRecord key _ => key = copyKey src
  | _ => false

/-- The sessions whose commits inserted the copy of the source, the latest first. -/
def writers (src : String) (commits : List (ι × List Change)) : List ι :=
  (commits.filter fun c => c.2.any (copies src)).map Prod.fst

section Writers

omit [DecidableEq ι]

variable {src : String} {i : ι} {ws : List Change} {commits : List (ι × List Change)}

theorem writers_cons_of_none (h : ws.any (copies src) = false) :
  writers src ((i, ws) :: commits) = writers src commits
  := by
  rw [writers, List.filter_cons_of_neg]
  · rfl
  · rw [h]
    exact Bool.false_ne_true

theorem writers_cons_of_any (h : ws.any (copies src) = true) :
  writers src ((i, ws) :: commits) = i :: writers src commits
  := by
  rw [writers, List.filter_cons_of_pos (by exact h)]
  rfl

/-- A session all of whose commits were empty wrote nothing. -/
theorem not_mem_writers (h : ∀ c ∈ commits, c.1 = i → c.2 = []) :
  i ∉ writers src commits
  := by
  intro hi
  obtain ⟨c, hc, hci⟩ := List.mem_map.mp hi
  obtain ⟨hmem, hany⟩ := List.mem_filter.mp hc
  rw [h c hmem hci] at hany
  cases hany

end Writers

/-! ### The discipline -/

section Importing

variable (digest : String → String) (tenantRef : String) (sources : ι → String)

/-- The rows of a source with the commits that wrote its copy: none, or at most one where the
rows are there. -/
def Recorded (src : String) (d : Tables) (commits : List (ι × List Change)) : Prop :=
  Absent digest tenantRef src d ∧ writers src commits = []
    ∨ (∃ record, Present digest tenantRef src record d) ∧ (writers src commits).length ≤ 1

/-- The locks are in order, changes are under way only behind the lock of the importer, and
every source is recorded. -/
structure Orderly (db : TenantDb ι) : Prop where
  locks : db.Consistent tenantSchema
  guarded : ∀ i, db.pending i ≠ [] → (.importLock, i) ∈ db.holders
  recorded : ∀ j, Recorded digest tenantRef (sources j) db.committed db.commits

/-- An import that is recorded stays so, with its writer. -/
def Kept (db db' : TenantDb ι) : Prop :=
  ∀ j record, Present digest tenantRef (sources j) record db.committed →
    Present digest tenantRef (sources j) record db'.committed
      ∧ writers (sources j) db'.commits = writers (sources j) db.commits

/-- What belongs to a session: its pending changes, its commits, and the committed tables while
it holds the lock of the importer. -/
def owned (i : ι) (db : TenantDb ι) : List Change × List (ι × List Change) × Option Tables :=
  (db.pending i, db.commits.filter fun c => c.1 = i,
    if (.importLock, i) ∈ db.holders then some db.committed else none)

variable {digest tenantRef sources}

omit [DecidableEq ι] in
/-- A state that differs in the locks and the pending changes only. -/
theorem Orderly.of_committed {db db' : TenantDb ι}
    (h : Orderly digest tenantRef sources db) (hlocks : db'.Consistent tenantSchema)
    (hguarded : ∀ i, db'.pending i ≠ [] → (.importLock, i) ∈ db'.holders)
    (hcommitted : db'.committed = db.committed) (hcommits : db'.commits = db.commits) :
  Orderly digest tenantRef sources db'
  := by
  constructor
  · apply hlocks
  · apply hguarded
  · rw [hcommitted, hcommits]
    apply h.recorded

omit [DecidableEq ι] in
/-- While a session holds the lock of the importer, no other session has changes under way. -/
theorem Orderly.alone {db : TenantDb ι} (h : Orderly digest tenantRef sources db) {i j : ι}
    (hlock : (.importLock, i) ∈ db.holders) (hij : j ≠ i) :
  db.pending j = []
  := by
  by_contra hj
  apply hij
  apply h.locks.exclusive _ j i (h.guarded j hj) hlock

theorem owned_of_committed {db db' : TenantDb ι} {i : ι}
    (hpending : db'.pending i = db.pending i)
    (hlock : (.importLock, i) ∈ db'.holders ↔ (.importLock, i) ∈ db.holders)
    (hcommitted : db'.committed = db.committed) (hcommits : db'.commits = db.commits) :
  owned i db' = owned i db
  := by
  simp only [owned, hpending, hlock, hcommitted, hcommits]

/-- A call that does not commit, and makes a change only behind the lock of the importer. -/
theorem Orderly.effect {db db' : TenantDb ι} (h : Orderly digest tenantRef sources db) {i : ι}
    {op : TenantOp} (heffect : Effect i op db db') (hop : op ≠ .commit)
    (hmakes : ∀ w, op.Makes w → (.importLock, i) ∈ db.holders) :
  Orderly digest tenantRef sources db'
  := by
  obtain ⟨hcommitted, hcommits⟩ : db'.committed = db.committed ∧ db'.commits = db.commits := by
    rcases heffect.committed with hsame | ⟨hcommit, -⟩
    · apply hsame
    · exact absurd hcommit hop
  apply h.of_committed (heffect.consistent h.locks) _ hcommitted hcommits
  intro j hj
  by_cases hji : j = i
  · subst hji
    apply heffect.holders_self hj
    rcases heffect.pending_self with hsame | hnone | ⟨w, hw, -⟩
    · apply h.guarded
      rw [← hsame]
      apply hj
    · exact absurd hnone hj
    · apply hmakes w hw
  · rw [heffect.pending_of_ne hji] at hj
    rw [heffect.holders_of_ne hji]
    apply h.guarded j hj

variable (digest tenantRef sources)

/-- What the requests of a tenant may rely on. -/
def importing (key : String) : Discipline (tenantDatabase key ι) where
  guard := Machine.anyCall _
  inv s := Orderly digest tenantRef sources s.db
  evolve s s' := Kept digest tenantRef sources s.db s'.db
  Own := List Change × List (ι × List Change) × Option Tables
  own i s := owned i s.db
  evolve_refl _ _ _ h := ⟨h, rfl⟩
  evolve_trans h h' j record hpresent := by
    obtain ⟨hpresent', hwriters⟩ := h j record hpresent
    obtain ⟨hpresent'', hwriters'⟩ := h' j record hpresent'
    exact ⟨hpresent'', hwriters'.trans hwriters⟩
  drop_inv i s h := by
    apply h.effect (show Effect i .rollback s.db _ from .rollback) (by simp)
    intro w hw
    cases hw
  drop_evolve _ _ _ _ _ h := ⟨h, rfl⟩
  drop_own i j s _ hji := by
    have heffect : Effect i .rollback s.db (s.db.rollback i) := .rollback
    apply owned_of_committed
    · apply heffect.pending_of_ne hji
    · apply heffect.holders_of_ne hji
    · rfl
    · rfl

variable {digest tenantRef sources} {key : String}

/-- What does not commit keeps the discipline, where changes are made behind the lock. -/
theorem importing_effect {i : ι} {op : TenantOp} (hop : op ≠ .commit) {s s' : TenantState ι}
    (hinv : Orderly digest tenantRef sources s.db)
    (hmakes : ∀ w, op.Makes w → (.importLock, i) ∈ s.db.holders)
    (heffect : Effect i op s.db s'.db) :
  (importing digest tenantRef sources key).Steps i s s'
  := by
  obtain ⟨hcommitted, hcommits⟩ : s'.db.committed = s.db.committed
      ∧ s'.db.commits = s.db.commits := by
    rcases heffect.committed with hsame | ⟨hcommit, -⟩
    · apply hsame
    · exact absurd hcommit hop
  constructor
  · apply hinv.effect heffect hop hmakes
  · intro j record hpresent
    rw [hcommitted, hcommits]
    exact ⟨hpresent, rfl⟩
  · intro j hji
    apply owned_of_committed
    · apply heffect.pending_of_ne hji
    · apply heffect.holders_of_ne hji
    · apply hcommitted
    · apply hcommits

/-- Every call but a commit keeps the discipline, where changes are made behind the lock. -/
theorem importing_call {i : ι} {op : TenantOp} (hop : op ≠ .commit) {c : TenantChoice}
    {r : Except ServiceError op.Ans} {s s' : TenantState ι}
    (hinv : Orderly digest tenantRef sources s.db)
    (hmakes : ∀ w, op.Makes w → (.importLock, i) ∈ s.db.holders)
    (h : (tenantDatabase key ι).answer i op c s = some (r, s')) :
  (importing digest tenantRef sources key).Steps i s s'
  := importing_effect hop hinv hmakes (effect_of_answer h)

/-- A commit keeps the discipline, where every source stays recorded. -/
theorem importing_commit {i : ι} {s s' : TenantState ι}
    (hinv : Orderly digest tenantRef sources s.db)
    (hs : s'.db = s.db.commit tenantSchema i)
    (hrecorded : ∀ j, Recorded digest tenantRef (sources j) (s.db.view tenantSchema i)
      ((i, s.db.pending i) :: s.db.commits))
    (hkept : Kept digest tenantRef sources s.db (s.db.commit tenantSchema i)) :
  (importing digest tenantRef sources key).Steps i s s'
  := by
  have heffect : Effect i .commit s.db (s.db.commit tenantSchema i) := .commit rfl
  constructor
  · show Orderly digest tenantRef sources s'.db
    rw [hs]
    constructor
    · apply heffect.consistent hinv.locks
    · intro j hj
      by_cases hji : j = i
      · subst hji
        exact absurd (Function.update_self _ _ _) hj
      · rw [heffect.pending_of_ne hji] at hj
        rw [heffect.holders_of_ne hji]
        apply hinv.guarded j hj
    · apply hrecorded
  · show Kept digest tenantRef sources s.db s'.db
    rw [hs]
    apply hkept
  · intro j hji
    show owned j s'.db = owned j s.db
    rw [hs]
    have hcommits : (s.db.commit tenantSchema i).commits.filter (fun c => c.1 = j)
        = s.db.commits.filter fun c => c.1 = j := by
      rw [Database.commit, List.filter_cons_of_neg (by simpa using hji.symm)]
    simp only [owned, heffect.pending_of_ne hji, heffect.holders_of_ne hji, hcommits]
    split
    · rename_i hlock
      have hnone := hinv.alone hlock hji.symm
      simp only [Database.commit, Database.view, hnone, Schema.applyAll_nil]
    · rfl

/-! ### What a request knows -/

/-- The session has no changes under way, and has committed none. -/
structure Idle (i : ι) (db : TenantDb ι) : Prop where
  pending : db.pending i = []
  fresh : ∀ c ∈ db.commits, c.1 = i → c.2 = []

variable (digest tenantRef) in
/-- The session has the changes under way, behind the lock of the importer, and the source is
not imported. -/
structure Writing (src : String) (i : ι) (ws : List Change) (db : TenantDb ι) : Prop where
  pending : db.pending i = ws
  fresh : ∀ c ∈ db.commits, c.1 = i → c.2 = []
  lock : (.importLock, i) ∈ db.holders
  absent : Absent digest tenantRef src db.committed

variable (digest tenantRef) in
/-- What a request has found: where it is a record, its import is committed. -/
def Probed (src : String) (i : ι) (found : Option ImportRecord) (db : TenantDb ι) : Prop :=
  Idle i db ∧ ∀ record ∈ found, Present digest tenantRef src record db.committed

variable (digest tenantRef) in
/-- What a request returns: the record of a committed import, whose commit was its own unless
it is a replay. -/
def Imported (src : String) (i : ι) (result : ImportRecord × Bool) (db : TenantDb ι) : Prop :=
  Present digest tenantRef src result.1 db.committed
    ∧ (result.2 = false ↔ writers src db.commits = [i])

/-- What a session owns stays as it is while the others run. -/
theorem owned_of_sees {i : ι} {s s' : TenantState ι}
    (h : (importing digest tenantRef sources key).Sees i s s') :
  s'.db.pending i = s.db.pending i
    ∧ s'.db.commits.filter (fun c => c.1 = i) = s.db.commits.filter (fun c => c.1 = i)
    ∧ ((.importLock, i) ∈ s.db.holders →
      (.importLock, i) ∈ s'.db.holders ∧ s'.db.committed = s.db.committed)
  := by
  have howned : owned i s'.db = owned i s.db := h.own
  obtain ⟨hpending, hrest⟩ := Prod.mk.inj howned
  obtain ⟨hcommits, hlock⟩ := Prod.mk.inj hrest
  refine ⟨hpending, hcommits, ?_⟩
  intro hheld
  rw [if_pos hheld] at hlock
  split at hlock
  · rename_i hheld'
    exact ⟨hheld', Option.some.inj hlock⟩
  · cases hlock

/-- The commits of a session are those it had. -/
theorem fresh_of_filter {i : ι} {db db' : TenantDb ι}
    (h : db'.commits.filter (fun c => c.1 = i) = db.commits.filter (fun c => c.1 = i))
    (hfresh : ∀ c ∈ db.commits, c.1 = i → c.2 = []) :
  ∀ c ∈ db'.commits, c.1 = i → c.2 = []
  := by
  intro c hc hci
  have hmem : c ∈ db'.commits.filter (fun c => c.1 = i) :=
    List.mem_filter.mpr ⟨hc, decide_eq_true hci⟩
  rw [h] at hmem
  apply hfresh c (List.mem_filter.mp hmem).1 hci

theorem Idle.stable {i : ι} :
  (importing digest tenantRef sources key).Stable i fun s => Idle i s.db
  := by
  intro s s' hsees h
  obtain ⟨hpending, hcommits, -⟩ := owned_of_sees hsees
  constructor
  · rw [hpending, h.pending]
  · apply fresh_of_filter hcommits h.fresh

theorem Writing.stable {i : ι} {src : String} {ws : List Change} :
  (importing digest tenantRef sources key).Stable i fun s =>
    Writing digest tenantRef src i ws s.db
  := by
  intro s s' hsees h
  obtain ⟨hpending, hcommits, hlock⟩ := owned_of_sees hsees
  obtain ⟨hheld, hcommitted⟩ := hlock h.lock
  constructor
  · rw [hpending, h.pending]
  · apply fresh_of_filter hcommits h.fresh
  · apply hheld
  · rw [hcommitted]
    apply h.absent

theorem Probed.stable {i : ι} {found : Option ImportRecord} :
  (importing digest tenantRef sources key).Stable i fun s =>
    Probed digest tenantRef (sources i) i found s.db
  := by
  intro s s' hsees ⟨hidle, hfound⟩
  use Idle.stable s s' hsees hidle
  intro record hrecord
  apply (hsees.evolve i record (hfound record hrecord)).1

theorem Imported.stable {i : ι} {result : ImportRecord × Bool} :
  (importing digest tenantRef sources key).Stable i fun s =>
    Imported digest tenantRef (sources i) i result s.db
  := by
  intro s s' hsees ⟨hpresent, hwriter⟩
  obtain ⟨hpresent', hwriters⟩ := hsees.evolve i result.1 hpresent
  use hpresent'
  rw [hwriters]
  apply hwriter

end Importing

end StartupImport
