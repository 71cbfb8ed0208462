import SnackPortal.ControlPlane.Operations
import SnackPortal.ControlPlane.PostgresCalls

/-!
# Units of work

Every operation of the registry, the gate, the orchestrator and the recovery service, run as a unit
of work on a connection of its own: between its calls nothing is under way, but from a
compare-and-swap to the audit record behind it.  So what its connection commits is whole, whatever
fails, and the trail accounts for every version of every tenant.
-/

namespace ControlPlane

namespace PostgresControlStore

open Machine Discipline

section Keeps

variable {ι : Type} [DecidableEq ι] {d₀ : ControlTables} {n : Nat} {i : ι} {α β : Type}
  {P : StoreState ι → Prop} {Q : α → StoreState ι → Prop} {R : β → StoreState ι → Prop}

/-- The program starts and ends with nothing under way, whatever fails. -/
def Keeps (d₀ : ControlTables) (n : Nat) (i : ι) (P : StoreState ι → Prop) (x : ControlProgram α)
    (Q : α → StoreState ι → Prop) : Prop :=
  (recording d₀ n).Triple i (fun s => Holds i [] s ∧ P s) (x.handle serve)
    (Ending (fun a s => Holds i [] s ∧ Q a s) (Idle i))

namespace Keeps

theorem adapt {P' : StoreState ι → Prop} {Q' : α → StoreState ι → Prop} {x : ControlProgram α}
    (h : Keeps d₀ n i P x Q) (hP : ∀ s, P' s → P s) (hQ : ∀ a s, Q a s → Q' a s) :
  Keeps d₀ n i P' x Q'
  := by
  apply Triple.adapt h
  · exact fun s _ hp => ⟨hp.1, hP s hp.2⟩
  · exact fun a s _ hq => ⟨hq.1, hQ a s hq.2⟩
  · exact fun _ _ _ he => he

theorem seq {x : ControlProgram α} {f : α → ControlProgram β} (h : Keeps d₀ n i P x Q)
    (hf : ∀ a, Keeps d₀ n i (Q a) (f a) R) :
  Keeps d₀ n i P (x >>= f) R
  := by
  rw [Keeps, Program.handle_bind]
  apply Triple.follow h Idle.stable hf

theorem pure {a : α} (hP : (recording d₀ n).Stable i P) (h : ∀ s, P s → Q a s) :
  Keeps d₀ n i P (Pure.pure a) Q
  := by
  rw [Keeps, Program.handle_pure]
  apply Triple.yield
  · intro s s' hsees ⟨hheld, hp⟩
    exact ⟨Holds.stable s s' hsees hheld, hP s s' hsees hp⟩
  · exact fun s _ hp => ⟨hp.1, h s hp.2⟩

theorem raise {e : ControlError} :
  Keeps d₀ n i P (Program.raise e : ControlProgram α) Q
  := by
  rw [Keeps, Program.handle_raise]
  exact fun s _ hp s' hsees => Holds.stable s s' hsees hp.1

theorem rescue {x : ControlProgram α} {h : ControlError → ControlProgram α}
    (hx : Keeps d₀ n i P x Q) (hQ : ∀ a, (recording d₀ n).Stable i (Q a))
    (hh : ∀ e, Keeps d₀ n i (fun _ => True) (h e) Q) :
  Keeps d₀ n i P (x.rescue h) Q
  := by
  rw [Keeps, Program.handle_rescue]
  apply Triple.recover hx
  · intro a s s' hsees ⟨hheld, hq⟩
    exact ⟨Holds.stable s s' hsees hheld, hQ a s s' hsees hq⟩
  · intro e
    apply Triple.adapt (hh e)
    · exact fun _ _ hidle => ⟨hidle, trivial⟩
    · exact fun _ _ _ hq => hq
    · exact fun _ _ _ he => he

/-- A fact about no state in the precondition. -/
theorem given {φ : Prop} {x : ControlProgram α} (h : φ → Keeps d₀ n i P x Q) :
  Keeps d₀ n i (fun s => φ ∧ P s) x Q
  := fun s hs hp => h hp.2.1 s hs ⟨hp.1, hp.2.2⟩

/-- What was read stays read. -/
theorem reading {x : ControlProgram α} (h : Keeps d₀ n i (fun _ => True) x fun _ _ => True)
    (record : TenantRecord) :
  Keeps d₀ n i (HasRead record) x fun _ => HasRead record
  := by
  apply Triple.adapt (Triple.retain (R := HasRead record) (fun _ _ => HasRead.evolves) h)
  · exact fun _ _ hp => ⟨⟨hp.1, trivial⟩, hp.2⟩
  · exact fun _ _ _ hq => ⟨hq.1.1, hq.2⟩
  · exact fun _ _ _ he => he

/-- A program that keeps nothing but the discipline, behind any other. -/
theorem anywhere {x : ControlProgram α} (h : Keeps d₀ n i (fun _ => True) x Q) :
  Keeps d₀ n i P x Q
  := h.adapt (fun _ _ => trivial) fun _ _ hq => hq

end Keeps

/-- The program keeps the discipline with nothing under way between its calls. -/
def Quiet (d₀ : ControlTables) (n : Nat) (i : ι) (x : ControlProgram α) : Prop :=
  Keeps d₀ n i (fun _ => True) x fun _ _ => True

/-- A call that asks a port. -/
theorem quiet_ask (op : ControlOp) (hop : asks op = true) :
  Quiet d₀ n i (Program.perform (S := controlSignature) op)
  := by
  have hserved : (recording d₀ n).Triple i (Holds i []) (serve op)
      (Ending (fun _ => Holds i []) (Idle i)) := by
    cases op with
    | getTenant t =>
        apply Triple.adapt (selectTenant_triple t)
        · exact fun _ _ h => h
        · exact fun _ _ _ h => h.2
        · exact fun _ _ _ h => h
    | listAudit => apply selectAudit_triple
    | putTenant _ | compareAndSwapTenant _ _ | appendAudit _ => cases hop
    | now => apply outside_triple .now
    | token => apply outside_triple .token
    | recordEvidence t e => apply outside_triple (.recordEvidence t e)
    | evidenceExcluding t => apply outside_triple (.evidenceExcluding t)
    | removeEvidence t => apply outside_triple (.removeEvidence t)
    | probe ref => apply outside_triple (.probe ref)
    | gather ref token namespace_ => apply outside_triple (.gather ref token namespace_)
    | invalidateTenant t correlationId => apply outside_triple (.invalidateTenant t correlationId)
    | provision t target => apply outside_triple (.provision t target)
    | applySchema t target ref => apply outside_triple (.applySchema t target ref)
    | controlDatabaseName => apply outside_triple .controlDatabaseName
    | databaseExists target => apply outside_triple (.databaseExists target)
    | inspectDatabase target => apply outside_triple (.inspectDatabase target)
    | deprovision target => apply outside_triple (.deprovision target)
  rw [Quiet, Keeps, Program.handle_perform]
  apply Triple.adapt hserved
  · exact fun _ _ hp => hp.1
  · exact fun _ _ _ hheld => ⟨hheld, trivial⟩
  · exact fun _ _ _ he => he

/-- A record that was just read. -/
theorem getTenant_keeps (t : String) :
  Keeps d₀ n i (fun _ => True) (getTenant t)
    fun a s => ∀ record, a = some record → record.tenantId = t ∧ HasRead record s
  := by
  rw [Keeps, getTenant, Program.handle_perform]
  apply Triple.adapt (selectTenant_triple t)
  · exact fun _ _ hp => hp.1
  · exact fun _ _ _ hq => ⟨hq.2, hq.1⟩
  · exact fun _ _ _ he => he

/-- A write of an audit record that leaves no state. -/
theorem quiet_recordAudit {actor : String} {tenantId : Option String} {action : String}
    {toState : Option String} {correlationId : String} :
  Quiet d₀ n i (recordAudit actor tenantId action none toState correlationId)
  := by
  apply Keeps.seq (quiet_ask .now rfl)
  intro timestamp
  rw [Keeps, ControlPlane.appendAudit, Program.handle_perform]
  apply Triple.adapt (appendEvent_triple rfl)
  · exact fun _ _ hp => hp.1
  · exact fun _ _ _ hheld => ⟨hheld, trivial⟩
  · exact fun _ _ _ he => he

theorem quiet_recordEvent {tenantId action actor correlationId : String} :
  Quiet d₀ n i (recordEvent tenantId action actor correlationId)
  := quiet_recordAudit

/-- The program makes the compare-and-swap over the record that was read, and leaves its update
under way. -/
def Swaps (d₀ : ControlTables) (n : Nat) (i : ι) (read updated : TenantRecord)
    (x : ControlProgram TenantRecord) : Prop :=
  (recording d₀ n).Triple i (fun s => Holds i [] s ∧ HasRead read s) (x.handle serve)
    (Ending (fun persisted s => persisted = { updated with version := read.version + 1 }
      ∧ (Holds i [.updateTenant updated read.version] s ∧ HasRead read s)) (Idle i))

theorem compareAndSwapTenant_swaps {read updated : TenantRecord} :
  Swaps d₀ n i read updated (ControlPlane.compareAndSwapTenant updated read.version)
  := by
  rw [Swaps, ControlPlane.compareAndSwapTenant, Program.handle_perform]
  apply Triple.adapt (Triple.retain (R := HasRead read) (fun _ _ => HasRead.evolves)
    compareAndSwapTenant_triple)
  · exact fun _ _ hp => hp
  · exact fun _ _ _ hq => ⟨hq.1.1, hq.1.2, hq.2⟩
  · exact fun _ _ _ he => he

/-- A compare-and-swap with the audit record of its transition behind it: both are committed, or
neither. -/
theorem Swaps.keeps {read updated : TenantRecord} {x : ControlProgram TenantRecord}
    (hx : Swaps d₀ n i read updated x) (ht : updated.tenantId = read.tenantId)
    {action actor correlationId : String} {k : TenantRecord → ControlProgram β}
    (hk : ∀ persisted, Keeps d₀ n i (fun s => persisted = { updated with version := read.version + 1 }
      ∧ HasRead persisted s) (k persisted) R) :
  Keeps d₀ n i (HasRead read)
    (x >>= fun persisted =>
      recordAudit actor (some updated.tenantId) action (some read.lifecycleState.value)
        (some updated.lifecycleState.value) correlationId >>= fun _ => k persisted) R
  := by
  have hnow : (recording d₀ n).Triple i
      (fun s => Holds i [.updateTenant updated read.version] s ∧ HasRead read s)
      (serve .now)
      (Ending (fun _ s => Holds i [.updateTenant updated read.version] s ∧ HasRead read s)
        (Idle i)) :=
    Triple.retain (fun _ _ => HasRead.evolves) now_triple
  have hrecord : (recording d₀ n).Triple i
      (fun s => Holds i [.updateTenant updated read.version] s ∧ HasRead read s)
      ((recordAudit actor (some updated.tenantId) action (some read.lifecycleState.value)
        (some updated.lifecycleState.value) correlationId).handle serve)
      (Ending (fun _ s => Holds i [] s ∧ HasRead { updated with version := read.version + 1 } s)
        (Idle i)) := by
    rw [recordAudit, Program.handle_bind, nowIso, Program.handle_perform]
    apply Triple.follow hnow Idle.stable
    intro timestamp
    rw [ControlPlane.appendAudit, Program.handle_perform]
    exact appendTransition_triple ht rfl rfl rfl
  rw [Keeps, Program.handle_bind]
  apply Triple.follow hx Idle.stable
  intro persisted
  apply Triple.given
  intro hpersisted
  rw [Program.handle_bind]
  apply Triple.follow hrecord Idle.stable
  intro _
  apply Triple.adapt (hk persisted)
  · rintro s _ ⟨hheld, hread⟩
    rw [hpersisted]
    exact ⟨hheld, rfl, hread⟩
  · exact fun _ _ _ hq => hq
  · exact fun _ _ _ he => he

end Keeps

/-! ### The operations of the registry -/

section Registry

variable {ι : Type} [DecidableEq ι] {d₀ : ControlTables} {n : Nat} {i : ι}

/-- A transition of the registry. -/
theorem registry_transition_quiet {tenantId : String} {toState : TenantLifecycleState}
    {allowedFrom : List TenantLifecycleState} {action actor correlationId : String} :
  Quiet d₀ n i
    (TenantRegistry.transition tenantId toState allowedFrom action actor correlationId)
  := by
  rw [TenantRegistry.transition]
  split
  · apply Keeps.raise
  · apply Keeps.seq (getTenant_keeps tenantId)
    rintro (_ | record)
    · apply Keeps.raise
    · apply Keeps.adapt (P := fun s => record.tenantId = tenantId ∧ HasRead record s)
        (Q := fun _ _ => True)
      · apply Keeps.given
        rintro rfl
        simp only
        split
        · exact Keeps.pure HasRead.stable fun _ _ => trivial
        · split
          · apply Keeps.raise
          · apply Keeps.seq ((quiet_ask .now rfl).reading record)
            intro ts
            let updated := { record with lifecycleState := toState, updatedAt := ts }
            have hswaps : Swaps d₀ n i record updated _ := compareAndSwapTenant_swaps
            apply hswaps.keeps rfl
            intro persisted
            apply Keeps.given
            intro _
            exact Keeps.pure HasRead.stable fun _ _ => trivial
      · exact fun s hs => hs record rfl
      · exact fun _ _ hq => hq

/-- Registration writes a record of version zero, in its first state. -/
theorem registerTenant_quiet {tenantId : String} {r : TenantRegistry.Registration}
    {actor correlationId : String} :
  Quiet d₀ n i (TenantRegistry.registerTenant tenantId r actor correlationId)
  := by
  have hput : ∀ record : TenantRecord, record.version = 0 →
      record.lifecycleState = .registered → Quiet d₀ n i (ControlPlane.putTenant record) := by
    intro record hversion hstate
    rw [Quiet, Keeps, ControlPlane.putTenant, Program.handle_perform]
    apply Triple.adapt (putTenant_triple hversion hstate)
    · exact fun _ _ hp => hp.1
    · exact fun _ _ _ hheld => ⟨hheld, trivial⟩
    · exact fun _ _ _ he => he
  have hpure : ∀ record : TenantRecord,
      Quiet d₀ n i (Pure.pure record : ControlProgram TenantRecord) :=
    fun _ => Keeps.pure Stable.true fun _ _ => trivial
  rw [TenantRegistry.registerTenant]
  split
  · apply Keeps.raise
  · split
    · apply Keeps.raise
    · apply Keeps.seq (quiet_ask (.getTenant tenantId) rfl)
      rintro (_ | existing)
      · apply Keeps.seq (quiet_ask .now rfl)
        intro ts
        apply Keeps.seq quiet_recordAudit
        intro _
        apply Keeps.seq (hput _ rfl rfl)
        intro _
        apply hpure
      · apply hpure

end Registry

/-! ### The operations of the gate -/

section Gate

open ProvisioningVerificationService

variable {ι : Type} [DecidableEq ι] {d₀ : ControlTables} {n : Nat} {i : ι}

/-- What is required is the record of the tenant, as it was read. -/
theorem require_reads (tenantId : String) :
  Keeps d₀ n i (fun _ => True) (require tenantId)
    fun record s => record.tenantId = tenantId ∧ HasRead record s
  := by
  apply Keeps.seq (getTenant_keeps tenantId)
  rintro (_ | record)
  · apply Keeps.raise
  · apply Keeps.pure
    · intro s s' hsees hread record' hrecord
      obtain ⟨ht, hread⟩ := hread record' hrecord
      exact ⟨ht, HasRead.stable s s' hsees hread⟩
    · exact fun s hread => hread record rfl

theorem require_keeps (tenantId : String) :
  Keeps d₀ n i (fun _ => True) (require tenantId) HasRead
  := (require_reads tenantId).adapt (fun _ h => h) fun _ _ hread => hread.2

/-- A transition of the gate, over a record that was read. -/
theorem gate_transition_keeps {record : TenantRecord} {toState : TenantLifecycleState}
    {action actor correlationId : String} :
  Keeps d₀ n i (HasRead record)
    (ProvisioningVerificationService.transition record toState action actor correlationId) HasRead
  := by
  apply Keeps.seq ((quiet_ask .now rfl).reading record)
  intro ts
  let updated := { record with lifecycleState := toState, updatedAt := ts }
  have hswaps : Swaps d₀ n i record updated _ := compareAndSwapTenant_swaps
  apply hswaps.keeps rfl
  intro persisted
  apply Keeps.given
  intro _
  exact Keeps.pure HasRead.stable fun _ hread => hread

theorem failingClosed_keeps {α : Type} {P : StoreState ι → Prop} {Q : α → StoreState ι → Prop}
    {x : ControlProgram α} (hx : Keeps d₀ n i P x Q)
    (hQ : ∀ a, (recording d₀ n).Stable i (Q a)) :
  Keeps d₀ n i P (failingClosed x) Q
  := by
  apply Keeps.rescue hx hQ
  intro e
  cases e <;> apply Keeps.raise

theorem quiet_pure {α : Type} {P : StoreState ι → Prop} {a : α}
    (hP : (recording d₀ n).Stable i P) :
  Keeps d₀ n i P (Pure.pure a : ControlProgram α) fun _ _ => True
  := Keeps.pure hP fun _ _ => trivial

theorem invalidate_quiet {tenantId actor correlationId : String} :
  Quiet d₀ n i (invalidate tenantId actor correlationId)
  := by
  apply Keeps.seq (quiet_ask (.invalidateTenant tenantId correlationId) rfl)
  intro _
  apply quiet_recordEvent

/-- The gate gives up on a tenant. -/
theorem fail_keeps {record : TenantRecord} {result : DistinctnessResult}
    {reason eventAction actor correlationId : String} {anomaly : Bool} :
  Keeps d₀ n i (HasRead record)
    (fail record result reason eventAction actor correlationId anomaly) fun _ _ => True
  := by
  have htransition : ∀ toState, Keeps d₀ n i (HasRead record)
      (ProvisioningVerificationService.transition record toState eventAction actor
        correlationId) fun _ _ => True :=
    fun _ => gate_transition_keeps.adapt (fun _ hp => hp) fun _ _ _ => trivial
  have hgiven : Keeps d₀ n i (HasRead record)
      (if anomaly then do
        let _ ← ProvisioningVerificationService.transition record .quarantined eventAction actor
          correlationId
        recordEvent record.tenantId Events.tenantQuarantined actor correlationId
        recordEvent record.tenantId Events.isolationAnomaly actor correlationId
      else do
        let _ ← ProvisioningVerificationService.transition record .failed eventAction actor
          correlationId
        Pure.pure ()) fun _ _ => True := by
    split
    · apply Keeps.seq (htransition _)
      intro _
      apply Keeps.seq quiet_recordEvent
      intro _
      apply quiet_recordEvent
    · apply Keeps.seq (htransition _)
      intro _
      apply quiet_pure Stable.true
  apply Keeps.seq ((quiet_ask (.removeEvidence record.tenantId) rfl).reading record)
  intro _
  apply Keeps.seq (failingClosed_keeps hgiven fun _ => Stable.true)
  intro _
  apply quiet_pure Stable.true

variable (gate : ProvisioningVerificationService)

/-- The checks of `verify` and its commit, over the record it entered with. -/
theorem verifyFrom_keeps {record : TenantRecord} {tenantId actor correlationId : String} :
  Keeps d₀ n i (HasRead record) (gate.verifyFrom record tenantId actor correlationId)
    fun _ _ => True
  := by
  apply Keeps.seq ((quiet_ask (.probe record.databaseAssociationRef) rfl).reading record)
  intro probe
  split
  · apply fail_keeps
  split
  · apply fail_keeps
  split
  · apply fail_keeps
  apply Keeps.seq ((quiet_ask .token rfl).reading record)
  intro token
  apply Keeps.seq ((quiet_ask (.gather _ _ _) rfl).reading record)
  intro evidence
  apply Keeps.seq ((quiet_ask (.evidenceExcluding tenantId) rfl).reading record)
  intro inventory
  simp only
  split
  · rename_i evidence _
    refine Keeps.seq (Keeps.reading ?_ record) ?_
    · apply Keeps.rescue
      · apply Keeps.seq (quiet_ask (.recordEvidence tenantId evidence) rfl)
        intro _
        apply quiet_pure Stable.true
      · exact fun _ => Stable.true
      · intro e
        cases e with
        | collision => apply quiet_pure Stable.true
        | _ => apply Keeps.raise
    intro recorded
    split
    · apply fail_keeps
    · apply Keeps.seq (failingClosed_keeps gate_transition_keeps fun _ => HasRead.stable)
      intro persisted
      apply Keeps.seq (quiet_recordEvent.anywhere)
      intro _
      apply quiet_pure Stable.true
  · apply Keeps.seq ((quiet_ask (.removeEvidence tenantId) rfl).reading record)
    intro _
    split
    · apply Keeps.seq fail_keeps
      intro _
      apply quiet_pure Stable.true
    · split
      · apply Keeps.seq fail_keeps
        intro _
        apply quiet_pure Stable.true
      · apply Keeps.seq fail_keeps
        intro _
        apply quiet_pure Stable.true

/-- The record that the entry into `Verifying` hands on has been read. -/
def EntryRead (entered : Option TenantRecord) (s : StoreState ι) : Prop :=
  ∀ record, entered = some record → HasRead record s

theorem EntryRead.stable (entered : Option TenantRecord) :
  (recording d₀ n).Stable i (EntryRead entered)
  := by
  intro s s' hsees h record hrecord
  apply HasRead.stable s s' hsees (h record hrecord)

theorem enterVerifying_keeps {record : TenantRecord} {tenantId actor correlationId : String} :
  Keeps d₀ n i (HasRead record) (enterVerifying record tenantId actor correlationId) EntryRead
  := by
  have hentered : ∀ r : TenantRecord,
      Keeps d₀ n i (HasRead r) (Pure.pure (some r) : ControlProgram _) EntryRead := by
    intro r
    apply Keeps.pure HasRead.stable
    rintro s hread _ ⟨⟩
    apply hread
  apply Keeps.rescue
  · apply Keeps.seq gate_transition_keeps hentered
  · apply EntryRead.stable
  · intro e
    cases e with
    | concurrency =>
        apply Keeps.seq (require_keeps tenantId)
        intro fresh
        split
        · apply Keeps.pure HasRead.stable
          rintro _ _ _ ⟨⟩
        · split
          · apply Keeps.seq (failingClosed_keeps gate_transition_keeps fun _ => HasRead.stable)
              hentered
          · apply Keeps.raise
    | _ => apply Keeps.raise

theorem verify_quiet {tenantId actor correlationId : String} :
  Quiet d₀ n i (gate.verify tenantId actor correlationId)
  := by
  apply Keeps.seq (require_keeps tenantId)
  intro record
  split
  · apply Keeps.raise
  · apply Keeps.seq enterVerifying_keeps
    rintro (_ | record)
    · exact quiet_pure (EntryRead.stable none)
    · exact (verifyFrom_keeps gate).adapt (fun s hread => hread record rfl) fun _ _ hq => hq

theorem reassociate_quiet {tenantId : String} {newAssociationRef : SecretRef}
    {actor correlationId : String} :
  Quiet d₀ n i (gate.reassociate tenantId newAssociationRef actor correlationId)
  := by
  apply Keeps.seq (require_reads tenantId)
  intro record
  apply Keeps.given
  rintro rfl
  split
  · apply Keeps.raise
  · apply Keeps.seq ((quiet_ask .now rfl).reading record)
    intro ts
    let updated := { record with
      databaseAssociationRef := newAssociationRef
      lifecycleState := .verifying
      updatedAt := ts }
    have hswaps : Swaps d₀ n i record updated
        (failingClosed (ControlPlane.compareAndSwapTenant updated record.version)) := by
      rw [Swaps, failingClosed, Program.handle_rescue]
      apply Triple.recover compareAndSwapTenant_swaps
      · intro a s s' hsees ⟨ha, hheld, hread⟩
        exact ⟨ha, Holds.stable s s' hsees hheld, HasRead.stable s s' hsees hread⟩
      · intro e
        cases e <;> exact Triple.fail Holds.stable fun _ _ hheld => hheld
    apply hswaps.keeps rfl
    intro persisted
    apply Keeps.anywhere
    apply Keeps.seq quiet_recordEvent
    intro _
    apply Keeps.seq quiet_recordEvent
    intro _
    apply Keeps.seq invalidate_quiet
    intro _
    apply verify_quiet

theorem disableRouting_quiet {tenantId actor correlationId : String} :
  Quiet d₀ n i (disableRouting tenantId actor correlationId)
  := by
  apply Keeps.seq (quiet_ask (.removeEvidence tenantId) rfl)
  intro _
  apply Keeps.seq quiet_recordEvent
  intro _
  apply invalidate_quiet

end Gate

/-! ### Compositions -/

/-- The programs composed of calls that ask a port, events, and the operations that write the
registry table. -/
inductive Composed (gate : ProvisioningVerificationService) : {α : Type} → ControlProgram α → Prop
  | pure {α : Type} (a : α) : Composed gate (Pure.pure a : ControlProgram α)
  | raise {α : Type} (e : ControlError) : Composed gate (Program.raise e : ControlProgram α)
  | bind {α β : Type} {x : ControlProgram α} {f : α → ControlProgram β} (hx : Composed gate x)
      (hf : ∀ a, Composed gate (f a)) : Composed gate (x >>= f)
  | rescue {α : Type} {x : ControlProgram α} {h : ControlError → ControlProgram α}
      (hx : Composed gate x) (hh : ∀ e, Composed gate (h e)) : Composed gate (x.rescue h)
  | ask (op : ControlOp) (hop : asks op = true) :
      Composed gate (Program.perform (S := controlSignature) op)
  | event (tenantId action actor correlationId : String) :
      Composed gate (recordEvent tenantId action actor correlationId)
  | registerTenant (tenantId : String) (r : TenantRegistry.Registration)
      (actor correlationId : String) :
      Composed gate (TenantRegistry.registerTenant tenantId r actor correlationId)
  | transition (tenantId : String) (toState : TenantLifecycleState)
      (allowedFrom : List TenantLifecycleState) (action actor correlationId : String) :
      Composed gate
        (TenantRegistry.transition tenantId toState allowedFrom action actor correlationId)
  | verify (tenantId actor correlationId : String) :
      Composed gate (gate.verify tenantId actor correlationId)
  | reassociate (tenantId : String) (newAssociationRef : SecretRef)
      (actor correlationId : String) :
      Composed gate (gate.reassociate tenantId newAssociationRef actor correlationId)
  | disableRouting (tenantId actor correlationId : String) :
      Composed gate
        (ProvisioningVerificationService.disableRouting tenantId actor correlationId)

namespace Composed

open OnboardingOrchestrator

variable {gate : ProvisioningVerificationService}

theorem discard {α : Type} {x : ControlProgram α} (hx : Composed gate x) :
  Composed gate x.discard
  := bind hx fun _ => pure _

theorem succeeds {α : Type} {x : ControlProgram α} (hx : Composed gate x) :
  Composed gate (OnboardingOrchestrator.succeeds x)
  := rescue (bind hx fun _ => pure _) fun _ => pure _

theorem provisionApplyVerify (tenantId target : String) (associationRef : SecretRef)
    (actor correlationId : String) :
  Composed gate (OnboardingOrchestrator.provisionApplyVerify gate tenantId target associationRef
    actor correlationId)
  := by
  apply bind (event _ _ _ _)
  intro _
  apply bind (succeeds (ask (.provision tenantId target) rfl))
  intro provisioned
  split
  · apply bind (event _ _ _ _)
    intro _
    apply pure
  · apply bind (event _ _ _ _)
    intro _
    apply bind (event _ _ _ _)
    intro _
    apply bind (succeeds (ask (.applySchema tenantId target associationRef) rfl))
    intro applied
    split
    · apply bind (event _ _ _ _)
      intro _
      apply pure
    · apply bind (event _ _ _ _)
      intro _
      apply bind (event _ _ _ _)
      intro _
      apply bind (event _ _ _ _)
      intro _
      apply verify

theorem asRecovery (tenantId actor correlationId : String)
    {x : ControlProgram DistinctnessOutcome} (hx : Composed gate x) :
  Composed gate (OnboardingOrchestrator.asRecovery tenantId actor correlationId x)
  := by
  apply bind
  · apply rescue hx
    intro e
    apply bind (event _ _ _ _)
    intro _
    apply raise
  · intro outcome
    apply bind (event _ _ _ _)
    intro _
    apply pure

theorem onboard (tenantId organizationRef federationConfigRef expectedSchemaVersion actor
    correlationId : String) :
  Composed gate (OnboardingOrchestrator.onboard gate tenantId organizationRef federationConfigRef
    expectedSchemaVersion actor correlationId)
  := by
  have hfresh : ∀ (r : TenantRegistry.Registration) (target : String) (ref : SecretRef),
      Composed gate (do
        let _ ← TenantRegistry.registerTenant tenantId r actor correlationId
        let _ ← TenantRegistry.markProvisioning tenantId actor correlationId
        OnboardingOrchestrator.provisionApplyVerify gate tenantId target ref actor
          correlationId) := by
    intro r target ref
    apply bind (registerTenant _ _ _ _)
    intro _
    apply bind (transition _ _ _ _ _ _)
    intro _
    apply provisionApplyVerify
  apply bind (ask (.getTenant tenantId) rfl)
  rintro (_ | existing)
  · apply hfresh
  · simp only
    split
    · apply hfresh
    · apply pure
    · apply bind (event _ _ _ _)
      intro _
      apply asRecovery
      apply provisionApplyVerify
    · apply pure

theorem recover (tenantId actor correlationId : String) :
  Composed gate (OnboardingOrchestrator.recover gate tenantId actor correlationId)
  := by
  apply bind (ask (.getTenant tenantId) rfl)
  rintro (_ | record)
  · apply raise
  · simp only
    split
    · apply raise
    · apply bind (event _ _ _ _)
      intro _
      apply bind (ask .listAudit rfl)
      intro trail
      split
      · apply bind (transition _ _ _ _ _ _)
        intro _
        apply bind (event _ _ _ _)
        intro _
        apply bind (event _ _ _ _)
        intro _
        apply pure
      · apply asRecovery
        apply verify

/-- A program that compensates is composed in this way. -/
theorem compensates {α : Type} {x : ControlProgram α} (hx : Compensates x) :
  Composed gate x
  := by
  induction hx with
  | pure a => apply pure
  | raise e => apply raise
  | bind _ _ ih ih' => apply bind ih ih'
  | rescue _ _ ih ih' => apply rescue ih ih'
  | ask op hop => apply ask op hop
  | event _ _ _ _ => apply event
  | quarantine _ _ _ => apply transition

/-- Every operation is composed in this way. -/
theorem program (q : Request) :
  Composed gate (q.program gate)
  := by
  rw [Request.program]
  cases q.operation with
  | registerTenant t r => exact (registerTenant _ _ _ _).discard
  | markProvisioning t => exact (transition _ _ _ _ _ _).discard
  | suspendTenant t => exact (transition _ _ _ _ _ _).discard
  | decommissionTenant t => exact (transition _ _ _ _ _ _).discard
  | quarantineTenant t => exact (transition _ _ _ _ _ _).discard
  | verify t => exact (verify _ _ _).discard
  | reassociate t ref => exact (reassociate _ _ _ _).discard
  | disableRouting t => exact disableRouting _ _ _
  | onboard t org fed schema => exact (onboard _ _ _ _ _ _).discard
  | recover t => exact (recover _ _ _).discard
  | deprovisionTenantDatabase service t =>
      exact (compensates (.deprovisionTenantDatabase service _ _ _)).discard

variable {ι : Type} [DecidableEq ι] {d₀ : ControlTables} {n : Nat} {i : ι}

/-- A composed program keeps the discipline of the connections. -/
theorem quiet {α : Type} {x : ControlProgram α} (hx : Composed gate x) :
  Quiet d₀ n i x
  := by
  induction hx with
  | pure a => exact quiet_pure Stable.true
  | raise e => exact Keeps.raise
  | bind _ _ ih ih' => exact Keeps.seq ih ih'
  | rescue _ _ ih ih' => exact Keeps.rescue ih (fun _ => Stable.true) ih'
  | ask op hop => exact quiet_ask op hop
  | event _ _ _ _ => exact quiet_recordEvent
  | registerTenant _ _ _ _ => exact registerTenant_quiet
  | transition _ _ _ _ _ _ => exact registry_transition_quiet
  | verify _ _ _ => exact verify_quiet gate
  | reassociate _ _ _ _ => exact reassociate_quiet gate
  | disableRouting _ _ _ => exact disableRouting_quiet

end Composed

/-! ### Runs -/

section Runs

variable {ι : Type} [DecidableEq ι] {d₀ : ControlTables} {n : Nat}

/-- A unit of work takes up a connection with nothing under way. -/
theorem unitOfWork_triple {i : ι} {α : Type} {x : ControlProgram α} (hx : Quiet d₀ n i x) :
  (recording d₀ n).Triple i (Holds i []) (unitOfWork x) (Returns fun _ _ => True)
  := by
  have hrelease : (recording d₀ n).Lawful i release := by
    have hclose : (recording d₀ n).Lawful i (StoreOp.perform .close) := by
      apply (ending_triple (.inr rfl) (fun _ _ h => h) fun _ => Holds.stable).mono
      · exact fun _ _ hp => hp
      · rintro (e | a) _ _ _
        · trivial
        · trivial
    apply Lawful.seq
    · apply (rollbackQuietly_triple (E := fun _ _ => True)).mono
      · exact fun _ _ hp => hp
      · rintro (e | a) _ _ _
        · trivial
        · trivial
    · intro _
      apply Lawful.rescue hclose
      intro _
      apply Lawful.pure
  apply Triple.finally_ _ hrelease
  apply hx.mono
  · exact fun _ _ hheld => ⟨hheld, trivial⟩
  · rintro (e | a) _ _ _
    · trivial
    · trivial

/-- The requests as the threads of the control plane, each on a connection of its own. -/
def serving (s : StoreState ι) (gate : ProvisioningVerificationService) (requests : ι → Request) :
    (controlDatabase ι).Config Unit :=
  ⟨s, fun i => some (unitOfWork ((requests i).program gate))⟩

omit [DecidableEq ι] in
theorem Traced.start {s₀ : StoreState ι} (hstart : s₀.db = Database.quiet d₀)
    (hkeyed : ∀ t, ∀ row ∈ d₀.tenants.lookup t, row.tenantId = t)
    (hinitial : ∀ t, ∀ row ∈ d₀.tenants.lookup t, row.version = 0 →
      row.lifecycleState = .registered)
    (hnumbered : ∀ a ∈ d₀.audit, a.1 < s₀.nextId) :
  Traced d₀ s₀.nextId s₀
  := by
  have hcommitted : s₀.db.committed = d₀ := by rw [hstart]; rfl
  have hsince : since s₀.nextId s₀.db.committed = [] := by
    rw [hcommitted]
    apply List.filter_eq_nil_iff.mpr
    intro a ha
    simpa using hnumbered a ha
  constructor
  · rw [hstart]
    apply Database.Consistent.quiet
  · rw [hcommitted]
    apply hkeyed
  · rw [hcommitted]
    apply hinitial
  · rw [hsince]
    intro a ha
    cases ha
  · apply le_refl
  · intro t
    rw [hsince]
    apply List.Pairwise.nil
  · intro t
    rw [hsince, hcommitted]
    cases hrow : d₀.tenants.lookup t with
    | none => exact ⟨hrow, rfl⟩
    | some row =>
        have horigin : origin d₀ t = (row.lifecycleState, row.version) := by
          rw [origin, hrow]
        rw [Accounted, horigin]
        exact ⟨rfl, LeadsTo.start⟩
  · intro i
    have hpending : s₀.db.pending i = [] := by rw [hstart]; rfl
    rw [hpending]
    apply Underway.nothing

/-- Whatever operations run at once on the durable control store, each as a unit of work, and
wherever their calls fail, their commits fail with or without effect, or their threads end: as
long as no registration writes over a row that a transition has written, the version of a tenant
is the one it started with and as many as the trail tells of its transitions since, and these
lead, each from where the one before it led, from the state it started in to the one it is in. -/
theorem transitions_recorded {s₀ : StoreState ι} {gate : ProvisioningVerificationService}
    {requests : ι → Request} {cfg : (controlDatabase ι).Config Unit}
    (hstart : s₀.db = Database.quiet d₀)
    (hkeyed : ∀ t, ∀ row ∈ d₀.tenants.lookup t, row.tenantId = t)
    (hinitial : ∀ t, ∀ row ∈ d₀.tenants.lookup t, row.version = 0 →
      row.lifecycleState = .registered)
    (hnumbered : ∀ a ∈ d₀.audit, a.1 < s₀.nextId)
    (hreach : Reaches upsertsFresh (serving s₀ gate requests) cfg) (t : String) :
  Accounted d₀ t
    ((trailSince s₀.nextId cfg.state.db.committed).filterMap (transitionOf t))
    (cfg.state.db.committed.tenants.lookup t)
  := by
  have hinv : Traced d₀ s₀.nextId s₀ := Traced.start hstart hkeyed hinitial hnumbered
  have hsafe : ∀ i x, (serving s₀ gate requests).threads i = some x →
      (recording d₀ s₀.nextId).Safe i (Returns fun _ _ => True) x s₀ := by
    intro i x hx
    obtain rfl := Option.some.inj hx
    apply unitOfWork_triple (Composed.program (requests i)).quiet s₀ hinv
    rw [Holds, hstart]
    rfl
  have hreaches : Reaches (recording d₀ s₀.nextId).guard (serving s₀ gate requests) cfg := hreach
  obtain ⟨htraced, -⟩ := Safe.reaches hreaches hinv hsafe
  rw [filterMap_trailSince (htraced.ascending t)]
  apply htraced.accounted t

end Runs

/-! ### A race -/

/-- A tenant that was registered. -/
def sampleRegistered : TenantRecord where
  tenantId := "a"
  organizationRef := "org"
  lifecycleState := .registered
  expectedSchemaVersion := "1"
  databaseAssociationRef := ⟨tenantDsnRef "a", "1"⟩
  federationConfigRef := "fed"
  createdAt := "2026-01-01"
  updatedAt := "2026-01-01"
  version := 0

def sampleTables : ControlTables := ⟨AList.insert "a" sampleRegistered ∅, []⟩

/-- The tenant is provisioned and decommissioned at once. -/
def sampleRequests (i : Bool) : Request :=
  ⟨if i then .decommissionTenant "a" else .markProvisioning "a", "admin", "c-1"⟩

def sampleContending : (controlDatabase Bool).Config Unit :=
  serving ⟨.quiet sampleTables, 1, ∅⟩ default sampleRequests

/-- Both have read the row when the first writes it, and the second finds another version. -/
def sampleContention : List (Move Bool StoreChoice) :=
  let calls (i : Bool) (k : Nat) : List (Move Bool StoreChoice) := .replicate k (.call i default)
  calls false 2 ++ calls true 2 ++ calls false 6 ++ calls true 4

theorem transitions_recorded_sample :
  ∃ cfg, Reaches upsertsFresh sampleContending cfg
    ∧ (cfg.state.db.committed.tenants.lookup "a").map (fun row => (row.version, row.lifecycleState))
      = some (1, .provisioning)
    ∧ Accounted sampleTables "a"
        ((trailSince 1 cfg.state.db.committed).filterMap (transitionOf "a"))
        (cfg.state.db.committed.tenants.lookup "a")
  := by
  have hrun : ((sampleContending.run upsertsFresh sampleContention).map fun cfg =>
      (cfg.state.db.committed.tenants.lookup "a").map fun row => (row.version, row.lifecycleState))
      = some (some (1, .provisioning)) := by
    decide +kernel
  obtain ⟨cfg, hreach, hrow⟩ := Reaches.of_map_run hrun
  refine ⟨cfg, hreach, hrow, ?_⟩
  apply transitions_recorded rfl _ _ _ hreach "a"
  · intro t row hrow
    by_cases ht : t = "a"
    · subst ht
      obtain rfl := Option.some.inj ((AList.lookup_insert _).symm.trans hrow)
      rfl
    · cases (AList.lookup_insert_ne ht).symm.trans hrow
  · intro t row hrow _
    by_cases ht : t = "a"
    · subst ht
      obtain rfl := Option.some.inj ((AList.lookup_insert _).symm.trans hrow)
      rfl
    · cases (AList.lookup_insert_ne ht).symm.trans hrow
  · intro a ha
    cases ha

end PostgresControlStore

end ControlPlane
