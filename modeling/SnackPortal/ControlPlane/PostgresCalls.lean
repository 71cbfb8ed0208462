import SnackPortal.ControlPlane.PostgresTrail

/-!
# The calls of a unit of work

What each call of the control store does on its connection while others are at work, as a rule.
Between the calls of a service nothing is under way, but behind a compare-and-swap, where its
update waits for the audit record.
-/

namespace ControlPlane

namespace PostgresControlStore

open Machine Discipline
open StoreOp (perform)

variable {ι : Type} [DecidableEq ι] {d₀ : ControlTables} {n : Nat} {i : ι}

/-- Registrations write over no row that a transition has written. -/
def upsertsFresh : (controlDatabase ι).Guard := fun s i op c =>
  match op with
  | .upsertTenant record => c.fault = false →
      ∀ row ∈ (s.view i).tenants.lookup record.tenantId, row.version = 0
  | _ => True

instance (s : StoreState ι) (i : ι) (op : StoreOp) (c : StoreChoice) :
    Decidable (upsertsFresh s i op c) :=
  match op with
  | .upsertTenant record => inferInstanceAs (Decidable (c.fault = false →
      ∀ row ∈ (s.view i).tenants.lookup record.tenantId, row.version = 0))
  | .selectTenant _ | .updateTenant _ _ | .insertAudit _ | .selectAudit | .commit | .rollback
  | .close | .outside _ => .isTrue trivial

/-- The discipline of the connections. -/
def recording (d₀ : ControlTables) (n : Nat) : Discipline (controlDatabase ι) where
  guard := upsertsFresh
  inv := Traced d₀ n
  evolve s s' := Evolves s.db.committed s'.db.committed
  Own := List ControlChange
  own i s := s.db.pending i
  evolve_refl s := Evolves.refl s.db.committed
  evolve_trans := Evolves.trans
  drop_inv i _ h := h.rollback i
  drop_evolve _ s _ := Evolves.refl s.db.committed
  drop_own _ _ _ _ hj := Function.update_of_ne hj _ _

/-- The connection has the changes under way. -/
def Holds (i : ι) (ws : List ControlChange) (s : StoreState ι) : Prop :=
  s.db.pending i = ws

theorem Holds.stable {ws : List ControlChange} :
  (recording d₀ n).Stable i (Holds i ws)
  := by
  intro s s' hsees h
  exact hsees.own.trans h

/-- The connection has nothing under way, as it is behind a call that failed. -/
def Idle (i : ι) (_ : ControlError) (s : StoreState ι) : Prop :=
  Holds i [] s

theorem Idle.stable (e : ControlError) :
  (recording d₀ n).Stable i (Idle i e)
  := Holds.stable

/-- The connection has read the record: it is no younger than the committed row, and in its
state where it has its version. -/
def HasRead (record : TenantRecord) (s : StoreState ι) : Prop :=
  ∃ row ∈ s.db.committed.tenants.lookup record.tenantId, record.version ≤ row.version
    ∧ (row.version = record.version → row.lifecycleState = record.lifecycleState)

theorem HasRead.evolves {record : TenantRecord} {s s' : StoreState ι}
    (h : (recording d₀ n).evolve s s') (hread : HasRead record s) :
  HasRead record s'
  := by
  obtain ⟨row, hrow, hle, heq⟩ := hread
  obtain ⟨row', hrow', hle', heq'⟩ := h _ row hrow
  refine ⟨row', hrow', le_trans hle hle', ?_⟩
  intro hversion
  have hmiddle : row.version = record.version := by omega
  rw [heq' (by omega), heq hmiddle]

theorem HasRead.stable {record : TenantRecord} :
  (recording d₀ n).Stable i (HasRead record)
  := fun _ _ hsees h => h.evolves hsees.evolve

omit [DecidableEq ι] in
/-- A connection that idles sees the committed tables. -/
theorem Holds.view {s : StoreState ι} (h : Holds i [] s) :
  s.view i = s.db.committed
  := by
  rw [StoreState.view, Database.view, h]
  rfl

section Steps

variable {s s' : StoreState ι}

theorem steps_refl (h : Traced d₀ n s) :
  (recording d₀ n).Steps i s s
  := Steps.refl h

theorem steps_rollback (h : Traced d₀ n s) :
  (recording d₀ n).Steps i s (s.rollback i)
  := ⟨h.rollback i, Evolves.refl _, fun _ hj => Function.update_of_ne hj _ _⟩

theorem steps_abort (h : Traced d₀ n s) :
  (recording d₀ n).Steps i s (s.abort i)
  := ⟨h.abort i, Evolves.refl _, fun _ hj => Function.update_of_ne hj _ _⟩

theorem steps_commit (h : Traced d₀ n s) (hwhole : Whole (s.db.pending i)) :
  (recording d₀ n).Steps i s (s.commit i)
  := by
  obtain ⟨hinv, hevolves⟩ := h.commit hwhole
  exact ⟨hinv, hevolves, fun _ hj => Function.update_of_ne hj _ _⟩

/-- A statement that makes a change leaves it under way. -/
theorem steps_write {α : Type} {next : Nat} {w : ControlChange} {a : α}
    {r : Except ControlError α} (h : Traced d₀ n s) (hnext : s.nextId ≤ next)
    (hw : { s with nextId := next }.write i w a = some (r, s'))
    (hunderway : Underway n s.db.committed next (s.db.pending i ++ [w])) :
  r = .ok a ∧ (recording d₀ n).Steps i s s' ∧ Holds i (s.db.pending i ++ [w]) s'
    ∧ s'.db.committed = s.db.committed
  := by
  obtain ⟨db, hdb, heq⟩ := Option.map_eq_some_iff.mp hw
  obtain ⟨hr, hs⟩ := Prod.mk.inj heq
  have hconsistent := h.consistent.write hdb
  obtain ⟨-, hwritten⟩ := Database.write_eq_some hdb
  have hdb' : s'.db = db := by rw [← hs]
  have hnext' : s'.nextId = next := by rw [← hs]
  have hcommitted : s'.db.committed = s.db.committed := by rw [hdb', hwritten]
  have hpending : Holds i (s.db.pending i ++ [w]) s' := by
    rw [Holds, hdb', hwritten]
    apply Function.update_self
  have hothers : ∀ j, j ≠ i → s'.db.pending j = s.db.pending j := by
    intro j hj
    rw [hdb', hwritten]
    apply Function.update_of_ne hj
  have hinv : Traced d₀ n s' := by
    apply h.pend hcommitted (hnext'.symm ▸ hnext) (hdb'.symm ▸ hconsistent) hothers
    rw [hpending, hnext']
    apply hunderway
  have hevolves : Evolves s.db.committed s'.db.committed := by
    rw [hcommitted]
    apply Evolves.refl
  exact ⟨hr.symm, ⟨hinv, hevolves, hothers⟩, hpending, hcommitted⟩

end Steps

/-! ### Statements -/

/-- A statement, by what it answers and leaves where it does not fail; where it fails nothing is
under way any more. -/
theorem statement_triple (op : StoreOp) (hop : op.isStatement = true)
    {P : StoreState ι → Prop} {Q : op.Ans → StoreState ι → Prop}
    (hP : (recording d₀ n).Stable i P) (hQ : ∀ a, (recording d₀ n).Stable i (Q a))
    (h : ∀ s c r s', Traced d₀ n s → P s → c.fault = false → upsertsFresh s i op c →
      s.answer i c op = some (r, s') →
      (recording d₀ n).Steps i s s' ∧ ∃ a, r = .ok a ∧ Q a s') :
  (recording d₀ n).Triple i P (perform op) (Ending Q (Idle i))
  := by
  have hfail : ∀ (s : StoreState ι) applied, s.fail i applied op = s.abort i := by
    intro s applied
    cases op with
    | selectTenant _ | upsertTenant _ | updateTenant _ _ | insertAudit _ | selectAudit => rfl
    | _ => cases hop
  have hfallible : op.fallible = true := by
    cases op with
    | selectTenant _ | upsertTenant _ | updateTenant _ _ | insertAudit _ | selectAudit => rfl
    | _ => cases hop
  have hidle : ∀ s : StoreState ι, Holds i [] (s.abort i) := by
    intro s
    apply Function.update_self
  apply Triple.perform hP
  · rintro (e | a)
    · apply Idle.stable e
    · apply hQ
  · intro s c r s' hinv hp hguard ha
    simp only at ha
    split at ha
    · obtain ⟨hr, hs⟩ := Prod.mk.inj (Option.some.inj ha)
      rw [hfail] at hs
      subst hs hr
      exact ⟨steps_abort hinv, hidle s⟩
    · rename_i hfault
      split at ha
      · obtain ⟨hr, hs⟩ := Prod.mk.inj (Option.some.inj ha)
        subst hs hr
        exact ⟨steps_abort hinv, hidle s⟩
      · have hworks : c.fault = false := by
          rw [hfallible] at hfault
          simpa using hfault
        obtain ⟨hsteps, a, rfl, hq⟩ := h s c r s' hinv hp hworks hguard ha
        exact ⟨hsteps, hq⟩

/-- A read of a row. -/
theorem selectTenant_triple (t : String) :
  (recording d₀ n).Triple i (Holds i []) (perform (.selectTenant t))
    (Ending (fun a s => (∀ record, a = some record → record.tenantId = t ∧ HasRead record s)
      ∧ Holds i [] s) (Idle i))
  := by
  apply statement_triple (.selectTenant t) rfl Holds.stable
  · intro a s s' hsees ⟨hread, hheld⟩
    refine ⟨?_, Holds.stable s s' hsees hheld⟩
    intro record hrecord
    obtain ⟨ht, hread⟩ := hread record hrecord
    exact ⟨ht, HasRead.stable s s' hsees hread⟩
  · intro s c r s' hinv hheld _ _ ha
    obtain ⟨rfl, rfl⟩ := Prod.mk.inj (Option.some.inj ha)
    refine ⟨steps_refl hinv, _, rfl, ?_, hheld⟩
    intro record hrecord
    rw [hheld.view] at hrecord
    have ht := hinv.keyed t record hrecord
    subst ht
    exact ⟨rfl, record, hrecord, le_refl _, fun _ => rfl⟩

/-- A read of the trail. -/
theorem selectAudit_triple :
  (recording d₀ n).Triple i (Holds i []) (perform .selectAudit)
    (Ending (fun _ => Holds i []) (Idle i))
  := by
  apply statement_triple .selectAudit rfl Holds.stable fun _ => Holds.stable
  intro s c r s' hinv hheld _ _ ha
  obtain ⟨rfl, rfl⟩ := Prod.mk.inj (Option.some.inj ha)
  exact ⟨steps_refl hinv, _, rfl, hheld⟩

/-- The insert of a registration. -/
theorem upsertTenant_triple {record : TenantRecord} (hversion : record.version = 0)
    (hstate : record.lifecycleState = .registered) :
  (recording d₀ n).Triple i (Holds i []) (perform (.upsertTenant record))
    (Ending (fun _ => Holds i [.upsertTenant record]) (Idle i))
  := by
  apply statement_triple (.upsertTenant record) rfl Holds.stable fun _ => Holds.stable
  intro s c r s' hinv hheld hworks hguard ha
  have hfresh := hguard hworks
  rw [hheld.view] at hfresh
  have hpending : s.db.pending i = [] := hheld
  have hunderway : Underway n s.db.committed s.nextId
      (s.db.pending i ++ [.upsertTenant record]) := by
    rw [hpending]
    exact Underway.registration hversion hstate hfresh
  obtain ⟨rfl, hsteps, hholds, -⟩ := steps_write (i := i) hinv (le_refl _) ha hunderway
  rw [hpending] at hholds
  exact ⟨hsteps, (), rfl, hholds⟩

/-- The update of a compare-and-swap, over the version that was read. -/
theorem updateTenant_triple {updated : TenantRecord} {v : Nat} :
  (recording d₀ n).Triple i (Holds i []) (perform (.updateTenant updated v))
    (Ending (fun matched => Holds i (if matched then [.updateTenant updated v] else []))
      (Idle i))
  := by
  apply statement_triple (.updateTenant updated v) rfl Holds.stable fun _ => Holds.stable
  intro s c r s' hinv hheld _ _ ha
  have hpending : s.db.pending i = [] := hheld
  simp only [StoreState.answer, StoreState.update] at ha
  rw [hheld.view] at ha
  split at ha
  · obtain ⟨rfl, rfl⟩ := Prod.mk.inj (Option.some.inj ha)
    exact ⟨steps_refl hinv, false, rfl, hheld⟩
  · rename_i current hcurrent
    split at ha
    · rename_i hversion
      subst hversion
      have hunderway : Underway n s.db.committed s.nextId
          (s.db.pending i ++ [.updateTenant updated current.version]) := by
        rw [hpending]
        exact Underway.swapped hcurrent
      obtain ⟨rfl, hsteps, hholds, -⟩ := steps_write (i := i) hinv (le_refl _) ha hunderway
      rw [hpending] at hholds
      exact ⟨hsteps, true, rfl, hholds⟩
    · obtain ⟨rfl, rfl⟩ := Prod.mk.inj (Option.some.inj ha)
      exact ⟨steps_refl hinv, false, rfl, hheld⟩

/-- The insert of an event. -/
theorem insertEvent_triple {record : ControlAuditRecord} (hfrom : record.fromState = none) :
  (recording d₀ n).Triple i (Holds i []) (perform (.insertAudit record))
    (Ending (fun _ s => ∃ id, Holds i [.insertAudit id record] s) (Idle i))
  := by
  apply statement_triple (.insertAudit record) rfl Holds.stable
  · intro _ s s' hsees ⟨id, hheld⟩
    exact ⟨id, Holds.stable s s' hsees hheld⟩
  · intro s c r s' hinv hheld _ _ ha
    have hpending : s.db.pending i = [] := hheld
    have hunderway : Underway n s.db.committed (s.nextId + 1)
        (s.db.pending i ++ [.insertAudit s.nextId record]) := by
      rw [hpending]
      exact Underway.event hfrom hinv.next (Nat.lt_succ_self _)
    obtain ⟨rfl, hsteps, hholds, -⟩ := steps_write (i := i) hinv (Nat.le_succ _) ha hunderway
    rw [hpending] at hholds
    exact ⟨hsteps, (), rfl, _, hholds⟩

/-- The insert of the audit record of a transition whose update is under way. -/
theorem insertTransition_triple {read updated : TenantRecord} {record : ControlAuditRecord}
    (ht : updated.tenantId = read.tenantId) (htenant : record.tenantId = some updated.tenantId)
    (hfrom : record.fromState = some read.lifecycleState.value)
    (hto : record.toState = some updated.lifecycleState.value) :
  (recording d₀ n).Triple i
    (fun s => Holds i [.updateTenant updated read.version] s ∧ HasRead read s)
    (perform (.insertAudit record))
    (Ending (fun _ s => ∃ id,
      Holds i [.updateTenant updated read.version, .insertAudit id record] s) (Idle i))
  := by
  apply statement_triple (.insertAudit record) rfl
  · intro s s' hsees ⟨hheld, hread⟩
    exact ⟨Holds.stable s s' hsees hheld, HasRead.stable s s' hsees hread⟩
  · intro _ s s' hsees ⟨id, hheld⟩
    exact ⟨id, Holds.stable s s' hsees hheld⟩
  · intro s c r s' hinv ⟨hheld, row, hrow, _, hsame⟩ _ _ ha
    have hpending : s.db.pending i = [.updateTenant updated read.version] := hheld
    have hswapped := hinv.underway i
    rw [hpending] at hswapped
    have hcurrent : ∃ current, s.db.committed.tenants.lookup updated.tenantId = some current
        ∧ current.version = read.version := by
      generalize hv : read.version = v at hswapped
      cases hswapped with
      | swapped hcurrent => exact ⟨_, hcurrent, rfl⟩
    obtain ⟨current, hcurrent, hversion⟩ := hcurrent
    rw [← ht] at hrow
    obtain rfl := Option.some.inj (hcurrent.symm.trans hrow)
    have hunderway : Underway n s.db.committed (s.nextId + 1)
        (s.db.pending i ++ [.insertAudit s.nextId record]) := by
      rw [hpending, ← hversion]
      apply Underway.transition hcurrent htenant _ hto hinv.next (Nat.lt_succ_self _)
      · intro a ha _
        apply hinv.numbered a ha
      · rw [hsame hversion]
        apply hfrom
    obtain ⟨rfl, hsteps, hholds, -⟩ := steps_write (i := i) hinv (Nat.le_succ _) ha hunderway
    rw [hpending] at hholds
    exact ⟨hsteps, (), rfl, _, hholds⟩

/-! ### The ends of transactions, and the ports beside the store -/

/-- A commit of what is whole, which may take effect though it fails. -/
theorem commit_triple {ws : List ControlChange} (hwhole : Whole ws) {R : StoreState ι → Prop}
    (hR : (recording d₀ n).Stable i R)
    (h : ∀ s, Traced d₀ n s → Holds i ws s → R (s.commit i)) :
  (recording d₀ n).Triple i (Holds i ws) (perform .commit)
    (Ending (fun _ s => Holds i [] s ∧ R s) (Idle i))
  := by
  have hidle : ∀ s : StoreState ι, Holds i [] (s.commit i) ∧ Holds i [] (s.rollback i) := by
    intro s
    constructor
    · apply Function.update_self
    · apply Function.update_self
  apply Triple.perform Holds.stable
  · rintro (e | a)
    · apply Idle.stable e
    · intro s s' hsees ⟨hheld, hr⟩
      exact ⟨Holds.stable s s' hsees hheld, hR s s' hsees hr⟩
  · intro s c r s' hinv hheld _ ha
    have hsteps : (recording d₀ n).Steps i s (s.commit i) := by
      apply steps_commit hinv
      rw [hheld]
      apply hwhole
    simp only at ha
    split at ha
    · obtain ⟨hr, hs⟩ := Prod.mk.inj (Option.some.inj ha)
      subst hr hs
      rw [StoreState.fail]
      split
      · exact ⟨hsteps, (hidle s).1⟩
      · exact ⟨steps_rollback hinv, (hidle s).2⟩
    · split at ha
      · rename_i haborted
        cases haborted.2
      · obtain ⟨rfl, rfl⟩ := Prod.mk.inj (Option.some.inj ha)
        exact ⟨hsteps, (hidle s).1, h s hinv hheld⟩

/-- A rollback or a close, whatever is under way. -/
theorem ending_triple {op : StoreOp} (hop : op = .rollback ∨ op = .close)
    {Q : op.Ans → StoreState ι → Prop} (hQ : ∀ a s, Holds i [] s → Q a s)
    (hQ' : ∀ a, (recording d₀ n).Stable i (Q a)) :
  (recording d₀ n).Triple i (fun _ => True) (perform op) (Ending Q (Idle i))
  := by
  have hidle : ∀ s : StoreState ι, Holds i [] (s.rollback i) := by
    intro s
    apply Function.update_self
  apply Triple.perform Stable.true
  · rintro (e | a)
    · apply Idle.stable e
    · apply hQ'
  · intro s c r s' hinv _ _ ha
    have hanswer : s' = s.rollback i ∧ ∀ e, r = .error e → Idle i e s' := by
      simp only at ha
      rcases hop with rfl | rfl <;>
      · split at ha
        · obtain ⟨hr, hs⟩ := Prod.mk.inj (Option.some.inj ha)
          subst hs
          exact ⟨rfl, fun _ _ => hidle s⟩
        · split at ha
          · rename_i haborted
            cases haborted.2
          · obtain ⟨hr, hs⟩ := Prod.mk.inj (Option.some.inj ha)
            subst hs
            exact ⟨rfl, fun _ _ => hidle s⟩
    obtain ⟨rfl, herror⟩ := hanswer
    use steps_rollback hinv
    cases r with
    | error e => exact herror e rfl
    | ok a => exact hQ a _ (hidle s)

/-- A port beside the store leaves the connection as it is. -/
theorem outside_steps {op : ControlOp} {c : StoreChoice} {r : Except ControlError op.Ans}
    {s s' : StoreState ι} (hinv : Traced d₀ n s)
    (ha : (controlDatabase ι).answer i (.outside op) c s = some (r, s')) :
  (recording d₀ n).Steps i s s' ∧ s'.db = s.db
  := by
  have hdb : s'.db = s.db ∧ s'.nextId = s.nextId := by
    simp only at ha
    split at ha
    · obtain ⟨-, hs⟩ := Prod.mk.inj (Option.some.inj ha)
      subst hs
      exact ⟨rfl, rfl⟩
    · split at ha
      · rename_i haborted
        cases haborted.2
      · obtain ⟨-, hs⟩ := Prod.mk.inj (Option.some.inj ha)
        rw [← hs]
        exact ⟨rfl, rfl⟩
  obtain ⟨hdb, hnext⟩ := hdb
  have hinv' : Traced d₀ n s' := by
    apply hinv.pend (i := i)
    · rw [hdb]
    · rw [hnext]
    · rw [hdb]
      apply hinv.consistent
    · intro j _
      rw [hdb]
    · rw [hdb, hnext]
      apply hinv.underway i
  have hevolves : Evolves s.db.committed s'.db.committed := by
    rw [hdb]
    apply Evolves.refl
  refine ⟨⟨hinv', hevolves, ?_⟩, hdb⟩
  intro j _
  exact congrArg (fun db => Database.pending db j) hdb

theorem outside_triple (op : ControlOp) :
  (recording d₀ n).Triple i (Holds i []) (perform (.outside op))
    (Ending (fun _ => Holds i []) (Idle i))
  := by
  apply Triple.perform Holds.stable
  · rintro (e | a)
    · apply Idle.stable e
    · apply Holds.stable
  · intro s c r s' hinv hheld _ ha
    obtain ⟨hsteps, hdb⟩ := outside_steps hinv ha
    have hheld' : Holds i [] s' := by
      rw [Holds, hdb]
      apply hheld
    use hsteps
    cases r with
    | error e => apply hheld'
    | ok a => apply hheld'

/-- The clock does not fail. -/
theorem now_triple {ws : List ControlChange} :
  (recording d₀ n).Triple i (Holds i ws) (perform (.outside .now))
    (Ending (fun _ => Holds i ws) (Idle i))
  := by
  apply Triple.perform Holds.stable
  · rintro (e | a)
    · apply Idle.stable e
    · apply Holds.stable
  · intro s c r s' hinv hheld _ ha
    obtain ⟨hsteps, hdb⟩ := outside_steps hinv ha
    have hheld' : Holds i ws s' := by
      rw [Holds, hdb]
      apply hheld
    use hsteps
    cases r with
    | ok a => apply hheld'
    | error e =>
        simp only at ha
        split at ha
        · rename_i hfault
          cases hfault.2
        · split at ha
          · rename_i haborted
            cases haborted.2
          · obtain ⟨hr, -⟩ := Prod.mk.inj (Option.some.inj ha)
            cases hr

/-! ### The methods of the store -/

theorem rollbackQuietly_triple {E : ControlError → StoreState ι → Prop} :
  (recording d₀ n).Triple i (fun _ => True) rollbackQuietly
    (Ending (fun _ => Holds i []) E)
  := by
  apply Triple.recover (ending_triple (.inl rfl) (fun _ _ h => h) fun _ => Holds.stable)
  · exact fun _ => Holds.stable
  · intro e
    apply Triple.yield (Idle.stable e)
    exact fun _ _ h => h

/-- A statement and its commit; where either fails nothing is under way any more. -/
theorem committing_triple {statement : StoreOp} {P R : StoreState ι → Prop}
    (shape : List ControlChange → Prop)
    (hstatement : (recording d₀ n).Triple i P (perform statement)
      (Ending (fun _ s => ∃ ws, shape ws ∧ Holds i ws s) (Idle i)))
    (hwhole : ∀ ws, shape ws → Whole ws) (hR : (recording d₀ n).Stable i R)
    (h : ∀ ws, shape ws → ∀ s, Traced d₀ n s → Holds i ws s → R (s.commit i)) :
  (recording d₀ n).Triple i P (committing statement)
    (Ending (fun _ s => Holds i [] s ∧ R s) (Idle i))
  := by
  have hstable : ∀ _ : Unit, (recording d₀ n).Stable i fun s : StoreState ι =>
      Holds i [] s ∧ R s := by
    intro _ s s' hsees ⟨hheld, hr⟩
    exact ⟨Holds.stable s s' hsees hheld, hR s s' hsees hr⟩
  apply Triple.recover (E := Idle i)
  · apply Triple.follow hstatement Idle.stable
    intro _
    apply Triple.exists
    intro ws
    apply Triple.given
    intro hshape
    exact commit_triple (hwhole ws hshape) hR (h ws hshape)
  · apply hstable
  · intro e
    apply Triple.follow (Triple.adapt rollbackQuietly_triple (fun _ _ _ => trivial)
      (fun _ _ _ h => h) fun _ _ _ h => h) Idle.stable
    intro _
    apply Triple.fail Holds.stable
    exact fun _ _ hheld => hheld

/-- `put_tenant` of a registration. -/
theorem putTenant_triple {record : TenantRecord} (hversion : record.version = 0)
    (hstate : record.lifecycleState = .registered) :
  (recording d₀ n).Triple i (Holds i []) (putTenant record)
    (Ending (fun _ => Holds i []) (Idle i))
  := by
  have hput : (recording d₀ n).Triple i (Holds i []) (putTenant record)
      (Ending (fun _ s => Holds i [] s ∧ True) (Idle i)) := by
    apply committing_triple (fun ws => ws = [.upsertTenant record])
    · apply Triple.adapt (upsertTenant_triple hversion hstate)
      · exact fun _ _ h => h
      · exact fun _ _ _ h => ⟨_, rfl, h⟩
      · exact fun _ _ _ h => h
    · rintro ws rfl updated v h
      cases h
    · apply Stable.true
    · exact fun _ _ _ _ _ => trivial
  exact Triple.adapt hput (fun _ _ h => h) (fun _ _ _ h => h.1) fun _ _ _ h => h

/-- `append_audit` of an event. -/
theorem appendEvent_triple {record : ControlAuditRecord} (hfrom : record.fromState = none) :
  (recording d₀ n).Triple i (Holds i []) (appendAudit record)
    (Ending (fun _ => Holds i []) (Idle i))
  := by
  have happend : (recording d₀ n).Triple i (Holds i []) (appendAudit record)
      (Ending (fun _ s => Holds i [] s ∧ True) (Idle i)) := by
    apply committing_triple (fun ws => ∃ id, ws = [.insertAudit id record])
    · apply Triple.adapt (insertEvent_triple hfrom)
      · exact fun _ _ h => h
      · rintro _ s _ ⟨id, hheld⟩
        exact ⟨_, ⟨id, rfl⟩, hheld⟩
      · exact fun _ _ _ h => h
    · rintro ws ⟨id, rfl⟩ updated v h
      cases h
    · apply Stable.true
    · exact fun _ _ _ _ _ => trivial
  exact Triple.adapt happend (fun _ _ h => h) (fun _ _ _ h => h.1) fun _ _ _ h => h

/-- `compare_and_swap_tenant` leaves the update under way, or fails with nothing under way. -/
theorem compareAndSwapTenant_triple {updated : TenantRecord} {v : Nat} :
  (recording d₀ n).Triple i (Holds i []) (compareAndSwapTenant updated v)
    (Ending (fun persisted s => persisted = { updated with version := v + 1 }
      ∧ Holds i [.updateTenant updated v] s) (Idle i))
  := by
  apply Triple.follow updateTenant_triple Idle.stable
  intro found
  cases found with
  | true =>
      rw [if_pos rfl, if_pos rfl]
      apply Triple.yield Holds.stable
      exact fun _ _ hheld => ⟨rfl, hheld⟩
  | false =>
      rw [if_neg Bool.false_ne_true, if_neg Bool.false_ne_true]
      apply Triple.follow (Triple.adapt (ending_triple (.inl rfl) (fun _ _ h => h)
        fun _ => Holds.stable) (fun _ _ _ => trivial) (fun _ _ _ h => h) fun _ _ _ h => h)
        Idle.stable
      intro _
      apply Triple.fail Holds.stable
      exact fun _ _ hheld => hheld

/-- `append_audit` of the transition that is under way: what was written has been read. -/
theorem appendTransition_triple {read updated : TenantRecord} {record : ControlAuditRecord}
    (ht : updated.tenantId = read.tenantId) (htenant : record.tenantId = some updated.tenantId)
    (hfrom : record.fromState = some read.lifecycleState.value)
    (hto : record.toState = some updated.lifecycleState.value) :
  (recording d₀ n).Triple i
    (fun s => Holds i [.updateTenant updated read.version] s ∧ HasRead read s)
    (appendAudit record)
    (Ending (fun _ s => Holds i [] s ∧ HasRead { updated with version := read.version + 1 } s)
      (Idle i))
  := by
  apply committing_triple
    (fun ws => ∃ id, ws = [.updateTenant updated read.version, .insertAudit id record])
  · apply Triple.adapt (insertTransition_triple ht htenant hfrom hto)
    · exact fun _ _ h => h
    · rintro _ s _ ⟨id, hheld⟩
      exact ⟨_, ⟨id, rfl⟩, hheld⟩
    · exact fun _ _ _ h => h
  · rintro ws ⟨id, rfl⟩ _ _ h
    cases h
  · apply HasRead.stable
  · rintro ws ⟨id, rfl⟩ s hinv hheld
    have hunderway := hinv.underway i
    rw [hheld] at hunderway
    have hcurrent : ∃ current, s.db.committed.tenants.lookup updated.tenantId = some current
        ∧ current.version = read.version := by
      generalize hv : read.version = v at hunderway
      cases hunderway with
      | transition hcurrent => exact ⟨_, hcurrent, rfl⟩
    obtain ⟨current, hcurrent, hversion⟩ := hcurrent
    have hcommitted : (s.commit i).db.committed.tenants
        = s.db.committed.tenants.insert updated.tenantId
          (ControlChange.updated updated current) := by
      have happlied : (s.commit i).db.committed
          = controlSchema.applyAll (s.db.pending i) s.db.committed := rfl
      have hrow : (ControlChange.updateTenant updated read.version).apply s.db.committed
          = { s.db.committed with
              tenants := s.db.committed.tenants.insert updated.tenantId
                (ControlChange.updated updated current) } := by
        rw [ControlChange.apply, hcurrent]
      rw [happlied, hheld, Schema.applyAll_cons, Schema.applyAll_cons, Schema.applyAll_nil]
      have hstep : controlSchema.apply (.updateTenant updated read.version) s.db.committed
          = _ := hrow
      rw [hstep]
      rfl
    refine ⟨ControlChange.updated updated current, ?_, ?_, fun _ => rfl⟩
    · rw [hcommitted]
      apply AList.lookup_insert
    · have hnew : (ControlChange.updated updated current).version = current.version + 1 := rfl
      rw [hnew, hversion]

end PostgresControlStore

end ControlPlane
