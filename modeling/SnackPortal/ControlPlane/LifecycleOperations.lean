import SnackPortal.ControlPlane.Lifecycle

/-!
# The operations keep the lifecycle discipline

One lemma for each operation of the registry and the gate that writes the registry table: run
as a thread, it keeps the lifecycle discipline.  A gate operation carries the record it holds, in
`Verifying`, from each of its writes to the next.
-/

namespace ControlPlane

section Operations

open Discipline

variable {ι : Type} {i : ι}

theorem lifecycle_recordAudit (actor : String) (tenantId : Option String) (action : String)
    (fromState toState : Option String) (correlationId : String) :
  (lifecycle ι).Lawful i (recordAudit actor tenantId action fromState toState correlationId)
  := Lawful.of_calls (recordAudit_calls trivial fun _ _ => trivial) lifecycle_call

theorem lifecycle_recordEvent (tenantId action actor correlationId : String) :
  (lifecycle ι).Lawful i (recordEvent tenantId action actor correlationId)
  := lifecycle_recordAudit _ _ _ _ _ _

/-! ### The operations of the registry -/

theorem registry_transition_lawful {tenantId : String} {toState : TenantLifecycleState}
    {allowedFrom : List TenantLifecycleState} {action actor correlationId : String}
    (he : ∀ s ∈ allowedFrom, Edge s toState) :
  (lifecycle ι).Lawful i (TenantRegistry.transition tenantId toState allowedFrom action actor
    correlationId)
  := by
  rw [TenantRegistry.transition]
  split
  · apply Lawful.raise
  · apply Triple.seq (getTenant_known tenantId)
    rintro (_ | record)
    · apply Triple.throw
    · apply Triple.mono (P := fun s => record.tenantId = tenantId ∧ Known record s)
      · apply Triple.given
        intro _
        simp only
        split
        · apply Lawful.pure.triple
        · split
          · apply Triple.throw
          · rename_i hallowed
            have hedge : Edge record.lifecycleState toState :=
              he _ (not_not.mp hallowed)
            apply Triple.seq (Known.call .now trivial)
            intro ts
            have hswap := compareAndSwapTenant_known (ι := ι) (i := i) record
              { record with lifecycleState := toState, updatedAt := ts } rfl hedge
            apply Triple.seq hswap
            intro persisted
            apply Triple.seq (lifecycle_recordAudit _ _ _ _ _ _).triple
            intro _
            apply Lawful.pure
      · intro s _ h
        apply h record rfl
      · exact fun _ _ _ h => h

/-- Registration writes only where it has found no record. -/
theorem registerTenant_lawful (tenantId : String) (r : TenantRegistry.Registration)
    (actor correlationId : String) :
  (lifecycle ι).Lawful i (TenantRegistry.registerTenant tenantId r actor correlationId)
  := by
  rw [TenantRegistry.registerTenant]
  split
  · apply Lawful.raise
  · split
    · apply Lawful.raise
    · apply Lawful.seq (lifecycle_call (.getTenant tenantId) trivial)
      rintro (_ | existing)
      · apply Lawful.seq (lifecycle_call .now trivial)
        intro ts
        apply Lawful.seq (lifecycle_recordAudit _ _ _ _ _ _)
        intro _
        apply Lawful.seq (putTenant_lawful rfl rfl)
        intro _
        apply Lawful.pure
      · apply Lawful.pure

theorem markProvisioning_lawful (tenantId actor correlationId : String) :
  (lifecycle ι).Lawful i (TenantRegistry.markProvisioning tenantId actor correlationId)
  := by
  apply registry_transition_lawful
  intro s hs
  obtain rfl := List.mem_singleton.mp hs
  apply Edge.markProvisioning

theorem suspendTenant_lawful (tenantId actor correlationId : String) :
  (lifecycle ι).Lawful i (TenantRegistry.suspendTenant tenantId actor correlationId)
  := by
  apply registry_transition_lawful
  intro s hs
  obtain rfl := List.mem_singleton.mp hs
  apply Edge.suspend

theorem decommissionTenant_lawful (tenantId actor correlationId : String) :
  (lifecycle ι).Lawful i (TenantRegistry.decommissionTenant tenantId actor correlationId)
  := registry_transition_lawful fun _ => Edge.decommission

theorem quarantineTenant_lawful (tenantId actor correlationId : String) :
  (lifecycle ι).Lawful i (TenantRegistry.quarantineTenant tenantId actor correlationId)
  := registry_transition_lawful fun _ => Edge.quarantine

/-! ### The operations of the gate -/

open ProvisioningVerificationService

theorem require_known (tenantId : String) :
  (lifecycle ι).Triple i (fun _ => True) (require tenantId) (Returns Known)
  := by
  apply Triple.seq (getTenant_known tenantId)
  rintro (_ | rec)
  · apply Triple.throw
  · apply Triple.ok
    · intro s s' hs h r hr
      obtain ⟨ht, hk⟩ := h r hr
      exact ⟨ht, Known.stable r s s' hs hk⟩
    · intro s _ h
      obtain ⟨_, hk⟩ := h rec rfl
      apply hk

/-- A transition of the gate along an edge returns a known record in the new state. -/
theorem gate_transition_known {rec : TenantRecord} {toState : TenantLifecycleState}
    {action actor correlationId : String} (he : Edge rec.lifecycleState toState) :
  (lifecycle ι).Triple i (Known rec)
    (ProvisioningVerificationService.transition rec toState action actor correlationId)
    (Returns fun a s => a.lifecycleState = toState ∧ Known a s)
  := by
  apply Triple.seq (Known.call .now trivial)
  intro ts
  have hswap := compareAndSwapTenant_known (ι := ι) (i := i) rec
    { rec with lifecycleState := toState, updatedAt := ts } rfl he
  apply Triple.seq hswap
  intro persisted
  apply Triple.given
  intro hpersisted
  apply Triple.seq (Known.keeps (recordAudit_calls trivial fun _ _ => trivial))
  intro _
  apply Triple.ok (Known.stable persisted)
  rintro s _ hk
  constructor
  · rw [hpersisted]
  · apply hk

theorem failingClosed_triple {α : Type} {P : ControlState → Prop}
    {Q : α → ControlState → Prop} {x : ControlProgram α}
    (hx : (lifecycle ι).Triple i P x (Returns Q)) (hQ : ∀ a, (lifecycle ι).Stable i (Q a)) :
  (lifecycle ι).Triple i P (failingClosed x) (Returns Q)
  := by
  apply Triple.rescue hx hQ
  intro e
  cases e <;> apply Triple.throw

theorem invalidate_lawful (tenantId actor correlationId : String) :
  (lifecycle ι).Lawful i (invalidate tenantId actor correlationId)
  := by
  apply Lawful.seq (lifecycle_call (.invalidateTenant tenantId correlationId) trivial)
  intro _
  apply lifecycle_recordEvent

/-- The gate gives up on a tenant only from `Verifying`. -/
theorem fail_lawful {rec : TenantRecord} (hv : rec.lifecycleState = .verifying)
    (result : DistinctnessResult) (reason eventAction actor correlationId : String)
    (anomaly : Bool) :
  (lifecycle ι).Triple i (Known rec)
    (fail rec result reason eventAction actor correlationId anomaly) (Returns fun _ _ => True)
  := by
  have hquarantined : Edge rec.lifecycleState .quarantined := hv ▸ Edge.anomaly
  have hfailed : Edge rec.lifecycleState .failed := hv ▸ Edge.failed
  apply Triple.seq (Known.call (.removeEvidence rec.tenantId) trivial)
  intro _
  apply Triple.seq (Q := fun _ _ => True)
  · apply failingClosed_triple
    · split
      · apply Triple.seq (gate_transition_known hquarantined)
        intro _
        apply Lawful.triple
        apply Lawful.seq (lifecycle_recordEvent _ _ _ _)
        intro _
        apply lifecycle_recordEvent
      · apply Triple.seq (gate_transition_known hfailed)
        intro _
        apply Lawful.pure.triple
    · intro _
      apply Stable.true
  · intro _
    apply Lawful.pure

variable (gate : ProvisioningVerificationService)

/-- The checks of `verify` and its commit start from a known record in `Verifying`. -/
theorem verifyFrom_lawful {rec : TenantRecord} (hv : rec.lifecycleState = .verifying)
    (tenantId actor correlationId : String) :
  (lifecycle ι).Triple i (Known rec) (gate.verifyFrom rec tenantId actor correlationId)
    (Returns fun _ _ => True)
  := by
  have hready : Edge rec.lifecycleState .ready := hv ▸ Edge.verified
  apply Triple.seq (Known.call (.probe rec.databaseAssociationRef) trivial)
  intro probe
  split
  · apply fail_lawful hv
  split
  · apply fail_lawful hv
  split
  · apply fail_lawful hv
  apply Triple.seq (Known.call .token trivial)
  intro token
  apply Triple.seq (Known.call (.gather _ _ _) trivial)
  intro evidence
  apply Triple.seq (Known.call (.evidenceExcluding tenantId) trivial)
  intro inventory
  simp only
  split
  · rename_i evidence _
    apply Triple.seq (Q := fun _ => Known rec)
    · apply Known.keeps
      apply Program.Calls.rescue
      · apply Program.Calls.bind
        · apply Program.Calls.perform (S := controlSignature)
          trivial
        · intro _
          apply Program.Calls.pure
      · intro e
        cases e <;> trivial
    · intro recorded
      split
      · apply fail_lawful hv
      · apply Triple.seq (Q := fun _ _ => True)
        · apply failingClosed_triple _ fun _ => Stable.true
          apply (gate_transition_known hready).conseq
          · exact fun _ _ h => h
          · exact fun _ _ _ _ => trivial
        · intro _
          apply Lawful.seq (lifecycle_recordEvent _ _ _ _)
          intro _
          apply Lawful.pure
  · apply Triple.seq (Known.call (.removeEvidence tenantId) trivial)
    intro _
    split
    · apply Triple.seq (fail_lawful hv _ _ _ _ _ _) fun _ => Lawful.pure
    · split
      · apply Triple.seq (fail_lawful hv _ _ _ _ _ _) fun _ => Lawful.pure
      · apply Triple.seq (fail_lawful hv _ _ _ _ _ _) fun _ => Lawful.pure

/-- What the entry into `Verifying` hands on. -/
def Entered (entered : Option TenantRecord) (s : ControlState) : Prop :=
  ∀ rec, entered = some rec → rec.lifecycleState = .verifying ∧ Known rec s

theorem Entered.stable (entered : Option TenantRecord) :
  (lifecycle ι).Stable i (Entered entered)
  := by
  intro s s' hs h rec hrec
  obtain ⟨hv, hk⟩ := h rec hrec
  exact ⟨hv, Known.stable rec s s' hs hk⟩

/-- Both attempts at the entry start outside the isolation hold. -/
theorem enterVerifying_lawful {rec : TenantRecord}
    (hrec : rec.lifecycleState ∉
      [TenantLifecycleState.decommissioned, .suspended, .quarantined])
    (tenantId actor correlationId : String) :
  (lifecycle ι).Triple i (Known rec) (enterVerifying rec tenantId actor correlationId)
    (Returns Entered)
  := by
  have hedge : Edge rec.lifecycleState .verifying := by
    apply Edge.enterVerifying
    · rintro h
      simp [h] at hrec
    · rintro h
      simp [h] at hrec
  have hentered : ∀ r : TenantRecord, (lifecycle ι).Triple i
      (fun s => r.lifecycleState = .verifying ∧ Known r s)
      (Pure.pure (some r) : ControlProgram _) (Returns Entered) := by
    intro r
    apply Triple.given
    intro hv
    apply Triple.ok (Known.stable r)
    rintro s _ hk _ ⟨⟩
    exact ⟨hv, hk⟩
  apply Triple.rescue
  · apply Triple.seq (gate_transition_known hedge) hentered
  · apply Entered.stable
  · intro e
    cases e with
    | concurrency =>
        apply Triple.seq (require_known tenantId)
        intro fresh
        split
        · apply Triple.ok (Known.stable fresh)
          rintro _ _ _ _ ⟨⟩
        · split
          · rename_i hfresh
            have hedge' : Edge fresh.lifecycleState .verifying := by
              apply Edge.enterVerifying
              · rintro h
                simp [h] at hfresh
              · rintro h
                simp [h] at hfresh
            apply Triple.seq _ hentered
            apply failingClosed_triple (gate_transition_known hedge')
            rintro a s s' hs ⟨hv, hk⟩
            exact ⟨hv, Known.stable a s s' hs hk⟩
          · apply Triple.throw
    | _ => apply Triple.throw

theorem verify_lawful (tenantId actor correlationId : String) :
  (lifecycle ι).Lawful i (gate.verify tenantId actor correlationId)
  := by
  apply Triple.seq (require_known tenantId)
  intro rec
  split
  · apply Triple.throw
  · rename_i hrec
    apply Triple.seq (enterVerifying_lawful hrec tenantId actor correlationId)
    rintro (_ | rec)
    · apply Lawful.pure.triple
    · apply Triple.mono (P := fun s => rec.lifecycleState = .verifying ∧ Known rec s)
      · apply Triple.given
        intro hv
        apply verifyFrom_lawful gate hv
      · intro s _ h
        apply h rec rfl
      · exact fun _ _ _ h => h

theorem reassociate_lawful (tenantId : String) (newAssociationRef : SecretRef)
    (actor correlationId : String) :
  (lifecycle ι).Lawful i (gate.reassociate tenantId newAssociationRef actor correlationId)
  := by
  apply Triple.seq (require_known tenantId)
  intro rec
  split
  · apply Triple.throw
  · rename_i hrec
    have hedge : Edge rec.lifecycleState .verifying := by
      apply Edge.enterVerifying
      · rintro h
        simp [h] at hrec
      · rintro h
        simp [h] at hrec
    apply Triple.seq (Known.call .now trivial)
    intro ts
    have hswap := compareAndSwapTenant_known (ι := ι) (i := i) rec
      { rec with
        databaseAssociationRef := newAssociationRef
        lifecycleState := .verifying
        updatedAt := ts } rfl hedge
    apply Triple.seq (Q := fun _ _ => True)
    · apply failingClosed_triple _ fun _ => Stable.true
      apply hswap.conseq
      · exact fun _ _ h => h
      · exact fun _ _ _ _ => trivial
    · intro _
      apply Lawful.seq (lifecycle_recordAudit _ _ _ _ _ _)
      intro _
      apply Lawful.seq (lifecycle_recordEvent _ _ _ _)
      intro _
      apply Lawful.seq (lifecycle_recordEvent _ _ _ _)
      intro _
      apply Lawful.seq (invalidate_lawful _ _ _)
      intro _
      apply verify_lawful

/-- Every operation keeps the discipline. -/
theorem lifecycle_parts :
  LawfulParts (lifecycle ι) gate i
  := by
  constructor
  · apply lifecycle_call
  · apply registerTenant_lawful
  · apply markProvisioning_lawful
  · apply suspendTenant_lawful
  · apply decommissionTenant_lawful
  · apply quarantineTenant_lawful
  · apply verify_lawful
  · apply reassociate_lawful

end Operations

/-! ### Runs -/

/-- In a run of any operations whose registrations write over no record that a transition has
written, the registry table stays coherent and evolves along lifecycle edges. -/
theorem lifecycle_reaches {ι : Type} [DecidableEq ι] (gate : ProvisioningVerificationService)
    {requests : ι → Request} {s : ControlState} (hs : s.Coherent)
    {cfg : (controlPlane ι).Config Unit}
    (h : Machine.Reaches registersFresh (s.serving gate requests) cfg) :
  cfg.state.Coherent ∧ s.Evolves cfg.state
    ∧ ∀ i x, cfg.threads i = some x →
        (lifecycle ι).Safe i (Discipline.Returns fun _ _ => True) x cfg.state
  := by
  apply Discipline.Safe.reaches (D := lifecycle ι) h hs
  rintro i x hx
  obtain rfl := Option.some.inj hx
  apply (lifecycle_parts gate).program_lawful (requests i) s hs trivial

end ControlPlane
