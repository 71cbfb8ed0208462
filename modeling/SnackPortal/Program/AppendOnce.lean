import Mathlib.Data.List.Nodup
import SnackPortal.Program.Transaction

/-!
# Logs that hold every key once

A log of rows under keys, to which a row is appended where the log does not hold its key yet.
On a database of many sessions the append is a statement and a commit, with other sessions in
between; the unique key makes the two act like the one step of `append`.
-/

namespace AppendOnce

variable {ρ κ : Type} [DecidableEq κ] (key : ρ → κ)

/-- The row that the log holds under the key. -/
def held (k : κ) (log : List ρ) : Option ρ :=
  log.find? fun row => key row = k

/-- The log after the row was appended, where it does not hold the key of the row. -/
def append (row : ρ) (log : List ρ) : List ρ :=
  match held key (key row) log with
  | some _ => log
  | none => log ++ [row]

/-- The log holds every key once. -/
def Distinct (log : List ρ) : Prop :=
  (log.map key).Nodup

instance (log : List ρ) : Decidable (Distinct key log) :=
  inferInstanceAs (Decidable (log.map key).Nodup)

variable {key} {row : ρ} {k : κ} {log : List ρ}

theorem key_of_held (h : held key k log = some row) :
  key row = k
  := of_decide_eq_true (List.find?_some (p := fun row => key row = k) h)

theorem mem_of_held (h : held key k log = some row) :
  row ∈ log
  := List.mem_of_find?_eq_some h

theorem held_eq_none :
  held key k log = none ↔ ∀ row ∈ log, key row ≠ k
  := by
  rw [held, List.find?_eq_none]
  simp

/-- What a log holds, every longer one holds. -/
theorem held_append (rows : List ρ) (h : held key k log = some row) :
  held key k (log ++ rows) = some row
  := by
  rw [held, List.find?_append]
  change (held key k log).or _ = _
  rw [h]
  rfl

/-- The keys of the new rows apart, a longer log holds what it held. -/
theorem held_append_none {rows : List ρ} (h : held key k log = none)
    (hrows : ∀ row ∈ rows, key row ≠ k) :
  held key k (log ++ rows) = none
  := by
  apply held_eq_none.mpr
  intro row hrow
  rcases List.mem_append.mp hrow with hold | hnew
  · apply held_eq_none.mp h row hold
  · apply hrows row hnew

theorem append_of_none (h : held key (key row) log = none) :
  append key row log = log ++ [row]
  := by
  rw [append, h]

theorem append_of_some {row' : ρ} (h : held key (key row) log = some row') :
  append key row log = log
  := by
  rw [append, h]

/-- An append leaves the rows of the log, and adds its own at most. -/
theorem append_cases (key : ρ → κ) (row : ρ) (log : List ρ) :
  append key row log = log
    ∨ held key (key row) log = none ∧ append key row log = log ++ [row]
  := by
  cases h : held key (key row) log with
  | none => exact .inr ⟨rfl, append_of_none h⟩
  | some row' => exact .inl (append_of_some h)

theorem prefix_append (key : ρ → κ) (row : ρ) (log : List ρ) :
  log <+: append key row log
  := by
  rcases append_cases key row log with h | ⟨-, h⟩
  · use []
    rw [h, List.append_nil]
  · use [row]
    rw [h]

theorem Distinct.append (h : Distinct key log) (row : ρ) :
  Distinct key (append key row log)
  := by
  rcases append_cases key row log with heq | ⟨hnone, heq⟩
  · rwa [heq]
  · rw [heq, Distinct, List.map_append]
    apply List.Nodup.append h (List.nodup_singleton _)
    intro k hk hk'
    obtain ⟨row', hrow', rfl⟩ := List.mem_map.mp hk
    obtain heq := List.mem_singleton.mp hk'
    exact absurd heq (held_eq_none.mp hnone row' hrow')

/-- A log holds what it held before an append. -/
theorem held_of_prefix {log' : List ρ} (h : held key k log = some row) (hlonger : log <+: log') :
  held key k log' = some row
  := by
  obtain ⟨rows, rfl⟩ := hlonger
  apply held_append rows h

/-- What a log does not hold, no shorter one holds. -/
theorem held_none_of_prefix {log' : List ρ} (h : held key k log' = none) (hlonger : log <+: log') :
  held key k log = none
  := by
  apply held_eq_none.mpr
  intro row hrow
  apply held_eq_none.mp h row (hlonger.subset hrow)

/-! ## On a database -/

variable (key)

/-- The rows of a log are appended, and lock their keys. -/
def schema : Schema (List ρ) ρ κ :=
  ⟨fun row log => log ++ [row], fun row => [key row]⟩

omit [DecidableEq κ] in
theorem applyAll_schema (rows log : List ρ) :
  (schema key).applyAll rows log = log ++ rows
  := by
  induction rows generalizing log with
  | nil => simp
  | cons row rows ih =>
      rw [Schema.applyAll_cons, ih]
      simp [schema]

variable {ι : Type} [DecidableEq ι]

/-- The statement: the row is put under its key unless the session sees the key; it waits while
another session holds the key.  The answer tells whether the row was put. -/
def insert (db : Database (List ρ) ρ κ ι) (i : ι) (row : ρ) :
    Option (Bool × Database (List ρ) ρ κ ι) :=
  match held key (key row) (db.view (schema key) i) with
  | some _ => some (false, db)
  | none => (db.write (schema key) i row).map fun db' => (true, db')

/-- The rows under way have keys that are not committed. -/
structure Fresh (db : Database (List ρ) ρ κ ι) : Prop where
  consistent : db.Consistent (schema key)
  fresh : ∀ i, ∀ row ∈ db.pending i, held key (key row) db.committed = none

variable {key} {db db' : Database (List ρ) ρ κ ι}

omit [DecidableEq ι] [DecidableEq κ] in
theorem view_schema (i : ι) :
  db.view (schema key) i = db.committed ++ db.pending i
  := applyAll_schema key _ _

omit [DecidableEq ι] in
theorem Fresh.quiet (log : List ρ) :
  Fresh key (Database.quiet log : Database (List ρ) ρ κ ι)
  := by
  constructor
  · apply Database.Consistent.quiet
  · intro i row hrow
    cases hrow

/-- What the statement does in a session without rows under way. -/
theorem insert_eq_some {i : ι} {b : Bool} (hidle : db.pending i = [])
    (h : insert key db i row = some (b, db')) :
  b = false ∧ db' = db ∧ (∃ row', held key (key row) db.committed = some row')
    ∨ b = true ∧ held key (key row) db.committed = none
      ∧ db.write (schema key) i row = some db'
  := by
  have hview : db.view (schema key) i = db.committed := by
    rw [view_schema, hidle, List.append_nil]
  rw [insert, hview] at h
  split at h
  · rename_i row' hheld
    obtain ⟨rfl, rfl⟩ := Prod.mk.inj (Option.some.inj h)
    exact .inl ⟨rfl, rfl, row', hheld⟩
  · rename_i hheld
    obtain ⟨written, hwritten, heq⟩ := Option.map_eq_some_iff.mp h
    obtain ⟨rfl, rfl⟩ := Prod.mk.inj heq
    exact .inr ⟨rfl, hheld, hwritten⟩

/-- A statement leaves the committed log, and the rows of the other sessions. -/
theorem write_frame {i : ι} (h : db.write (schema key) i row = some db') :
  db'.committed = db.committed ∧ db'.aborted = db.aborted
    ∧ db'.pending = Function.update db.pending i (db.pending i ++ [row])
  := by
  obtain ⟨-, rfl⟩ := Database.write_eq_some h
  exact ⟨rfl, rfl, rfl⟩

theorem Fresh.write {i : ι} (hfresh : Fresh key db)
    (hnone : held key (key row) db.committed = none)
    (h : db.write (schema key) i row = some db') :
  Fresh key db'
  := by
  obtain ⟨hcommitted, -, hpending⟩ := write_frame h
  constructor
  · apply hfresh.consistent.write h
  · intro j row' hrow'
    rw [hcommitted]
    rw [hpending] at hrow'
    by_cases hji : j = i
    · subst hji
      rw [Function.update_self] at hrow'
      rcases List.mem_append.mp hrow' with hold | hnew
      · apply hfresh.fresh j row' hold
      · obtain rfl := List.mem_singleton.mp hnew
        apply hnone
    · rw [Function.update_of_ne hji] at hrow'
      apply hfresh.fresh j row' hrow'

omit [DecidableEq κ] in
/-- The rows of a session that ended its transaction are gone, and those of the others are as
they were. -/
theorem mem_pending_rollback {i j : ι} (h : row ∈ (db.rollback i).pending j) :
  j ≠ i ∧ row ∈ db.pending j
  := by
  dsimp only [Database.rollback] at h
  by_cases hji : j = i
  · subst hji
    rw [Function.update_self] at h
    cases h
  · rw [Function.update_of_ne hji] at h
    exact ⟨hji, h⟩

theorem Fresh.rollback (hfresh : Fresh key db) (i : ι) :
  Fresh key (db.rollback i)
  := by
  constructor
  · apply hfresh.consistent.rollback
  · intro j row hrow
    apply hfresh.fresh j row (mem_pending_rollback hrow).2

theorem Fresh.abort (hfresh : Fresh key db) (i : ι) :
  Fresh key (db.abort i)
  := ⟨hfresh.consistent.abort i, (hfresh.rollback i).fresh⟩

/-- A commit adds the rows of its session, and no other session has their keys under way. -/
theorem Fresh.commit (hfresh : Fresh key db) (i : ι) :
  Fresh key (db.commit (schema key) i)
  := by
  constructor
  · apply hfresh.consistent.commit
  · intro j row hrow
    obtain ⟨hji, hpending⟩ := mem_pending_rollback hrow
    change held key (key row) (db.view (schema key) i) = none
    rw [view_schema]
    apply held_append_none (hfresh.fresh j row hpending)
    intro row' hrow' hkey
    apply hji
    apply hfresh.consistent.exclusive (key row) j i
    · apply hfresh.consistent.locked j row hpending
      apply List.mem_singleton_self
    · apply hfresh.consistent.locked i row' hrow'
      rw [← hkey]
      apply List.mem_singleton_self

end AppendOnce
