import SnackPortal.ControlPlane.Reliance

/-!
# The operations keep the discipline of the ledger

`verify` commits `Ready` only with the record it last wrote, on the evidence it gathered and
recorded itself; no other operation writes `Ready`.
-/

namespace ControlPlane

section Operations

open Discipline ProvisioningVerificationService

variable {ι : Type} [DecidableEq ι] {i : ι}

/-- The call writes no record in `Ready`. -/
def writesNoReady : ControlOp → Prop
  | .putTenant r => r.lifecycleState ≠ .ready
  | .compareAndSwapTenant r _ => r.lifecycleState ≠ .ready
  | _ => True

/-- A call keeps the discipline and changes what its thread holds as `ThreadView.after` says. -/
theorem view_call {o : ControlOp} {P : ThreadView → Prop}
    (hput : ∀ record, o = .putTenant record → record.lifecycleState ≠ .ready)
    (hswap : ∀ updated v, o = .compareAndSwapTenant updated v →
      updated.lifecycleState = .ready → ∀ view, P view → ∃ rec e,
        view = ⟨some rec, some e, some (updated.tenantId, e)⟩ ∧ rec.version = v) :
  (reliance ι).Triple i (fun s => P (viewOf i s.journal))
    (Program.perform (S := controlSignature) o)
    fun r s => ∃ view, P view ∧ viewOf i s.journal = view.after o r
  := by
  apply Triple.perform (S := controlSignature) (view_stable P)
  · intro r
    apply view_stable fun view' => ∃ view, P view ∧ view' = view.after o r
  · intro s c r s' hs hp hguard ha
    obtain ⟨hbase, hj⟩ := Machine.journaled_answer ha
    have hs' : Reliable s' := by
      apply Reliable.answer hs hguard hbase hj _ hput
      intro updated v hop hready
      apply hswap updated v hop hready _ hp
    constructor
    · apply steps_of_reliable hj hs'
    · use viewOf i s.journal
      constructor
      · apply hp
      · rw [hj, viewOf_call_self]

/-- A call that writes no record in `Ready` keeps the discipline, whatever its thread holds. -/
theorem reliance_call (op : ControlOp) (hop : writesNoReady op) :
  (reliance ι).Lawful i (Program.perform (S := controlSignature) op)
  := by
  apply Triple.mono (view_call (o := op) (P := fun _ => True) _ _)
  · exact fun _ _ _ => trivial
  · rintro (e | a) s _ _ <;> trivial
  · rintro record rfl
    apply hop
  · rintro updated v rfl hready
    exact absurd hready hop

theorem reliance_calls {α : Type} {x : ControlProgram α} (hx : x.Calls writesNoReady) :
  (reliance ι).Lawful i x
  := Lawful.of_calls hx reliance_call

/-- The call leaves what its thread holds as it is, where it raises nothing. -/
def keepsView : ControlOp → Prop
  | .putTenant _ | .compareAndSwapTenant _ _ | .gather _ _ _ | .recordEvidence _ _ => False
  | _ => True

/-- A call that leaves what its thread holds. -/
theorem view_kept {P : ThreadView → Prop} (op : ControlOp) (hop : keepsView op) :
  (reliance ι).Triple i (fun s => P (viewOf i s.journal))
    (Program.perform (S := controlSignature) op)
    (Returns fun _ s => P (viewOf i s.journal))
  := by
  apply Triple.mono (view_call (o := op) (P := P) _ _)
  · exact fun _ _ h => h
  · rintro (e | a) s _ ⟨view, hp, hview⟩
    · trivial
    · have hafter : view.after op (.ok a) = view := by
        cases op <;> first | rfl | contradiction
      change P (viewOf i s.journal)
      rw [hview, hafter]
      apply hp
  · rintro record rfl
    contradiction
  · rintro updated v rfl
    contradiction

theorem view_recordAudit {P : ThreadView → Prop} (actor : String) (tenantId : Option String)
    (action : String) (fromState toState : Option String) (correlationId : String) :
  (reliance ι).Triple i (fun s => P (viewOf i s.journal))
    (recordAudit actor tenantId action fromState toState correlationId)
    (Returns fun _ s => P (viewOf i s.journal))
  := by
  apply Triple.seq (view_kept .now trivial)
  intro timestamp
  apply view_kept (.appendAudit _) trivial

/-- A compare-and-swap hands on the record it wrote, which its thread then holds. -/
theorem swap_held (updated : TenantRecord) {v : Nat} (hready : updated.lifecycleState ≠ .ready) :
  (reliance ι).Triple i (fun _ => True) (compareAndSwapTenant updated v)
    (Returns fun a s => a.tenantId = updated.tenantId ∧ (viewOf i s.journal).held = some a)
  := by
  apply Triple.perform (S := controlSignature) (o := .compareAndSwapTenant updated v) Stable.true
  · rintro (e | a)
    · apply Stable.true
    · apply view_stable fun view => a.tenantId = updated.tenantId ∧ view.held = some a
  · intro s c r s' hs _ hguard ha
    obtain ⟨hbase, hj⟩ := Machine.journaled_answer ha
    have hs' : Reliable s' := by
      apply Reliable.answer (o := .compareAndSwapTenant updated v) hs hguard hbase hj
      · rintro _ _ ⟨⟩ h
        exact absurd h hready
      · rintro _ ⟨⟩
    constructor
    · apply steps_of_reliable hj hs'
    · cases r with
      | error e => trivial
      | ok a =>
          have ha' : a = { updated with version := v + 1 } := by
            simp only [Option.some.injEq] at hbase
            split at hbase
            · cases (Prod.mk.inj hbase).1
            · rw [ControlState.answer] at hbase
              rcases s.base.compareAndSwap_cases updated v with ⟨_, -, -, hswap⟩ | hswap
              · rw [hswap] at hbase
                symm
                apply Except.ok.inj (Prod.mk.inj hbase).1
              · rw [hswap] at hbase
                cases (Prod.mk.inj hbase).1
          constructor
          · rw [ha']
          · rw [hj, viewOf_call_self]
            rfl

theorem reliance_recordAudit (actor : String) (tenantId : Option String) (action : String)
    (fromState toState : Option String) (correlationId : String) :
  (reliance ι).Lawful i (recordAudit actor tenantId action fromState toState correlationId)
  := reliance_calls (recordAudit_calls trivial fun _ _ => trivial)

theorem reliance_recordEvent (tenantId action actor correlationId : String) :
  (reliance ι).Lawful i (recordEvent tenantId action actor correlationId)
  := reliance_recordAudit _ _ _ _ _ _

/-! ### The registry -/

/-- The registry never writes `Ready`. -/
theorem reliance_transition (tenantId : String) (toState : TenantLifecycleState)
    (allowedFrom : List TenantLifecycleState) (action actor correlationId : String) :
  (reliance ι).Lawful i (TenantRegistry.transition tenantId toState allowedFrom action actor
    correlationId)
  := by
  rw [TenantRegistry.transition]
  split
  · apply Lawful.raise
  · rename_i hphase
    have hready : toState ≠ .ready := by
      rintro rfl
      apply hphase
      decide
    apply Lawful.seq (reliance_call (.getTenant tenantId) trivial)
    rintro (_ | record)
    · apply Lawful.raise
    · simp only
      split
      · apply Lawful.pure
      · split
        · apply Lawful.raise
        · apply Lawful.seq (reliance_call .now trivial)
          intro ts
          apply Lawful.seq (reliance_call (.compareAndSwapTenant _ _) (by apply hready))
          intro persisted
          apply Lawful.seq (reliance_recordAudit _ _ _ _ _ _)
          intro _
          apply Lawful.pure

theorem reliance_registerTenant (tenantId : String) (r : TenantRegistry.Registration)
    (actor correlationId : String) :
  (reliance ι).Lawful i (TenantRegistry.registerTenant tenantId r actor correlationId)
  := by
  have hregistered : TenantLifecycleState.registered ≠ .ready := by decide
  rw [TenantRegistry.registerTenant]
  split
  · apply Lawful.raise
  · split
    · apply Lawful.raise
    · apply Lawful.seq (reliance_call (.getTenant tenantId) trivial)
      rintro (_ | existing)
      · apply Lawful.seq (reliance_call .now trivial)
        intro ts
        apply Lawful.seq (reliance_recordAudit _ _ _ _ _ _)
        intro _
        apply Lawful.seq (reliance_call (.putTenant _) (by apply hregistered))
        intro _
        apply Lawful.pure
      · apply Lawful.pure

/-! ### The gate -/

theorem getTenant_id (tenantId : String) :
  (reliance ι).Triple i (fun _ => True) (getTenant tenantId)
    (Returns fun a _ => ∀ rec, a = some rec → rec.tenantId = tenantId)
  := by
  apply Triple.perform (S := controlSignature) (o := .getTenant tenantId) Stable.true
  · rintro (e | a)
    · apply Stable.true
    · exact fun _ _ _ h => h
  · intro s c r s' hs _ hguard ha
    obtain ⟨hbase, hj⟩ := Machine.journaled_answer ha
    have hs' : Reliable s' := by
      apply Reliable.answer (o := .getTenant tenantId) hs hguard hbase hj
      · rintro _ _ ⟨⟩
      · rintro _ ⟨⟩
    constructor
    · apply steps_of_reliable hj hs'
    · simp only [Option.some.injEq] at hbase
      split at hbase
      · obtain rfl := (Prod.mk.inj hbase).1
        trivial
      · obtain rfl := (Prod.mk.inj hbase).1
        intro rec hrec
        apply hs.keyed tenantId rec hrec

theorem require_id (tenantId : String) :
  (reliance ι).Triple i (fun _ => True) (require tenantId)
    (Returns fun rec _ => rec.tenantId = tenantId)
  := by
  apply Triple.seq (getTenant_id tenantId)
  rintro (_ | rec)
  · apply Triple.throw
  · apply Triple.ok
    · exact fun _ _ _ h => h
    · intro s _ h
      apply h rec rfl

theorem failingClosed_lawful {α : Type} {P : ControlHistory ι → Prop}
    {x : ControlProgram α} (hx : (reliance ι).Triple i P x (Returns fun _ _ => True)) :
  (reliance ι).Triple i P (failingClosed x) (Returns fun _ _ => True)
  := by
  apply Triple.rescue hx (fun _ => Stable.true)
  intro e
  cases e <;> apply Triple.throw

/-- What a thread has once the record `rec` of the tenant is in `Verifying`. -/
def Entering (i : ι) (tenantId : String) (rec : TenantRecord) (s : ControlHistory ι) : Prop :=
  rec.tenantId = tenantId ∧ (viewOf i s.journal).held = some rec

theorem Entering.stable (tenantId : String) (rec : TenantRecord) :
  (reliance ι).Stable i (Entering i tenantId rec)
  := view_stable fun view => rec.tenantId = tenantId ∧ view.held = some rec

/-- A transition of the gate out of `Ready` hands on the record its thread then holds. -/
theorem transition_held {rec : TenantRecord} {toState : TenantLifecycleState}
    (hready : toState ≠ .ready) (action actor correlationId : String) :
  (reliance ι).Triple i (fun _ => True)
    (ProvisioningVerificationService.transition rec toState action actor correlationId)
    (Returns fun a => Entering i rec.tenantId a)
  := by
  apply Triple.seq (reliance_call .now trivial)
  intro ts
  have hswap := swap_held (i := i) { rec with
    lifecycleState := toState
    updatedAt := ts } (v := rec.version) hready
  apply Triple.seq hswap
  intro persisted
  have haudit := view_recordAudit (i := i)
    (P := fun view => persisted.tenantId = rec.tenantId ∧ view.held = some persisted)
    actor (some rec.tenantId) action (some rec.lifecycleState.value) (some toState.value)
    correlationId
  apply Triple.seq haudit
  intro _
  apply Triple.ok (Entering.stable rec.tenantId persisted)
  exact fun _ _ h => h

/-- `Ready` is committed with the record held, on evidence gathered and recorded. -/
theorem transition_ready {rec : TenantRecord} {e : DistinctnessEvidence}
    (action actor correlationId : String) :
  (reliance ι).Triple i
    (fun s => viewOf i s.journal = ⟨some rec, some e, some (rec.tenantId, e)⟩)
    (ProvisioningVerificationService.transition rec .ready action actor correlationId)
    (Returns fun _ _ => True)
  := by
  have hnow := view_kept (i := i)
    (P := fun view => view = ⟨some rec, some e, some (rec.tenantId, e)⟩) .now trivial
  apply Triple.seq hnow
  intro ts
  apply Triple.seq (Q := fun _ _ => True)
  · apply Triple.mono (view_call (o := .compareAndSwapTenant _ _)
      (P := fun view => view = ⟨some rec, some e, some (rec.tenantId, e)⟩) _ _)
    · exact fun _ _ h => h
    · rintro (e | a) s _ _ <;> trivial
    · rintro _ ⟨⟩
    · rintro updated v hop _ view hview
      obtain ⟨rfl, rfl⟩ := ControlOp.compareAndSwapTenant.inj hop
      exact ⟨rec, e, hview, rfl⟩
  · intro persisted
    apply Lawful.seq (reliance_recordAudit _ _ _ _ _ _)
    intro _
    apply Lawful.pure

theorem reliance_fail (rec : TenantRecord) (result : DistinctnessResult)
    (reason eventAction actor correlationId : String) (anomaly : Bool) :
  (reliance ι).Lawful i (fail rec result reason eventAction actor correlationId anomaly)
  := by
  have hquarantined : TenantLifecycleState.quarantined ≠ .ready := by decide
  have hfailed : TenantLifecycleState.failed ≠ .ready := by decide
  apply Lawful.seq (reliance_call (.removeEvidence rec.tenantId) trivial)
  intro _
  apply Lawful.seq
  · apply failingClosed_lawful
    split
    · apply Triple.seq (transition_held hquarantined _ _ _)
      intro _
      apply Lawful.triple
      apply Lawful.seq (reliance_recordEvent _ _ _ _)
      intro _
      apply reliance_recordEvent
    · apply Triple.seq (transition_held hfailed _ _ _)
      intro _
      apply Lawful.pure.triple
  · intro _
    apply Lawful.pure

/-- The recording of the evidence gathered: where it succeeds its thread has recorded it. -/
theorem record_held {rec : TenantRecord} {e : DistinctnessEvidence} :
  (reliance ι).Triple i
    (fun s => (viewOf i s.journal).held = some rec ∧ (viewOf i s.journal).gathered = some e)
    (((recordEvidence rec.tenantId e).bind fun _ => pure true).rescue fun
      | .collision => pure false
      | e => Program.raise e)
    (Returns fun recorded s => recorded = true →
      viewOf i s.journal = ⟨some rec, some e, some (rec.tenantId, e)⟩)
  := by
  have hstable : ∀ recorded : Bool, (reliance ι).Stable i fun s => recorded = true →
      viewOf i s.journal = ⟨some rec, some e, some (rec.tenantId, e)⟩ :=
    fun recorded => view_stable fun view => recorded = true →
      view = ⟨some rec, some e, some (rec.tenantId, e)⟩
  apply Triple.rescue _ hstable
  · intro error
    cases error with
    | collision =>
        apply Triple.ok Stable.true
        rintro _ _ _ ⟨⟩
    | _ => apply Triple.throw
  · apply Triple.seq (Q := fun _ (s : ControlHistory ι) =>
      viewOf i s.journal = ⟨some rec, some e, some (rec.tenantId, e)⟩)
    · apply Triple.mono (view_call (o := .recordEvidence rec.tenantId e)
        (P := fun view => view.held = some rec ∧ view.gathered = some e) _ _)
      · exact fun _ _ h => h
      · rintro (error | a) s _ ⟨view, ⟨hheld, hgathered⟩, hview⟩
        · trivial
        · change viewOf i s.journal = _
          rw [hview, ← hheld, ← hgathered]
          rfl
      · rintro _ ⟨⟩
      · rintro _ _ ⟨⟩
    · intro _
      apply Triple.ok (view_stable fun view =>
        view = ⟨some rec, some e, some (rec.tenantId, e)⟩)
      rintro s _ h _
      apply h

variable (gate : ProvisioningVerificationService)

/-- The checks of `verify` and its commit, from a record in `Verifying` that the thread holds. -/
theorem reliance_verifyFrom (rec : TenantRecord) (actor correlationId : String) :
  (reliance ι).Triple i (fun s => (viewOf i s.journal).held = some rec)
    (gate.verifyFrom rec rec.tenantId actor correlationId) (Returns fun _ _ => True)
  := by
  have hkept : ∀ op, keepsView op → (reliance ι).Triple i
      (fun s => (viewOf i s.journal).held = some rec)
      (Program.perform (S := controlSignature) op)
      (Returns fun _ s => (viewOf i s.journal).held = some rec) :=
    view_kept (P := fun view => view.held = some rec)
  apply Triple.seq (hkept (.probe rec.databaseAssociationRef) trivial)
  intro probe
  split
  · apply (reliance_fail rec _ _ _ _ _ _).triple
  split
  · apply (reliance_fail rec _ _ _ _ _ _).triple
  split
  · apply (reliance_fail rec _ _ _ _ _ _).triple
  apply Triple.seq (hkept .token trivial)
  intro token
  apply Triple.seq (Q := fun (a : Option DistinctnessEvidence) (s : ControlHistory ι) =>
    (viewOf i s.journal).held = some rec ∧ (viewOf i s.journal).gathered = a)
  · apply Triple.mono (view_call (o := .gather _ _ _) (P := fun view => view.held = some rec)
      _ _)
    · exact fun _ _ h => h
    · rintro (error | a) s _ ⟨view, hheld, hview⟩
      · trivial
      · constructor
        · rw [hview]
          apply hheld
        · rw [hview]
          rfl
    · rintro _ ⟨⟩
    · rintro _ _ ⟨⟩
  intro evidence
  apply Triple.seq (view_kept (P := fun view => view.held = some rec ∧ view.gathered = evidence)
    (.evidenceExcluding rec.tenantId) trivial)
  intro inventory
  simp only
  split
  · rename_i e _
    apply Triple.seq record_held
    intro recorded
    split
    · apply (reliance_fail rec _ _ _ _ _ _).triple
    · rename_i hrecorded
      have hrecorded' : recorded = true := by
        revert hrecorded
        cases recorded <;> simp
      apply Triple.seq (Q := fun _ _ => True)
      · apply Triple.conseq (failingClosed_lawful (transition_ready _ _ _))
        · intro s _ h
          apply h hrecorded'
        · exact fun _ _ _ _ => trivial
      · intro _
        apply Lawful.seq (reliance_recordEvent _ _ _ _)
        intro _
        apply Lawful.pure
  · apply Lawful.triple
    apply Lawful.seq (reliance_call (.removeEvidence rec.tenantId) trivial)
    intro _
    split
    · apply Lawful.seq (reliance_fail rec _ _ _ _ _ _) fun _ => Lawful.pure
    · split
      · apply Lawful.seq (reliance_fail rec _ _ _ _ _ _) fun _ => Lawful.pure
      · apply Lawful.seq (reliance_fail rec _ _ _ _ _ _) fun _ => Lawful.pure

/-- What the entry into `Verifying` hands on is held. -/
theorem reliance_enterVerifying (rec : TenantRecord) (actor correlationId : String) :
  (reliance ι).Triple i (fun _ => True)
    (enterVerifying rec rec.tenantId actor correlationId)
    (Returns fun entered s => ∀ a, entered = some a → Entering i rec.tenantId a s)
  := by
  have hverifying : TenantLifecycleState.verifying ≠ .ready := by decide
  have hstable : ∀ entered : Option TenantRecord, (reliance ι).Stable i fun s =>
      ∀ a, entered = some a → Entering i rec.tenantId a s := by
    intro entered s s' hs h a ha
    apply Entering.stable rec.tenantId a s s' hs (h a ha)
  have hsome : ∀ a : TenantRecord, (reliance ι).Triple i (Entering i rec.tenantId a)
      (Pure.pure (some a) : ControlProgram _)
      (Returns fun entered s => ∀ a, entered = some a → Entering i rec.tenantId a s) := by
    intro a
    apply Triple.ok (Entering.stable rec.tenantId a)
    rintro s _ h _ ⟨⟩
    apply h
  apply Triple.rescue _ hstable
  · intro error
    cases error with
    | concurrency =>
        apply Triple.seq (require_id rec.tenantId)
        intro fresh
        split
        · apply Triple.ok
          · exact fun _ _ _ h => h
          · rintro _ _ _ _ ⟨⟩
        · split
          · apply Triple.mono (P := fun _ => fresh.tenantId = rec.tenantId ∧ True)
            · apply Triple.given
              intro hid
              apply Triple.seq _ hsome
              rw [← hid]
              apply Triple.rescue (transition_held hverifying _ _ _)
              · apply Entering.stable
              · intro error
                cases error <;> apply Triple.throw
            · exact fun _ _ h => ⟨h, trivial⟩
            · exact fun _ _ _ h => h
          · apply Triple.throw
    | _ => apply Triple.throw
  · apply Triple.seq (transition_held hverifying _ _ _) hsome

theorem reliance_verify (tenantId actor correlationId : String) :
  (reliance ι).Lawful i (gate.verify tenantId actor correlationId)
  := by
  apply Triple.seq (require_id tenantId)
  intro rec
  split
  · apply Triple.throw
  · apply Triple.mono (P := fun _ => rec.tenantId = tenantId ∧ True)
    · apply Triple.given
      rintro rfl
      apply Triple.seq (reliance_enterVerifying rec actor correlationId)
      rintro (_ | a)
      · apply Lawful.pure.triple
      · apply Triple.mono (P := fun (s : ControlHistory ι) => a.tenantId = rec.tenantId
          ∧ (viewOf i s.journal).held = some a)
        · apply Triple.given
          intro hid
          rw [← hid]
          apply reliance_verifyFrom
        · intro s _ h
          apply h a rfl
        · exact fun _ _ _ h => h
    · exact fun _ _ h => ⟨h, trivial⟩
    · exact fun _ _ _ h => h

theorem reliance_reassociate (tenantId : String) (newAssociationRef : SecretRef)
    (actor correlationId : String) :
  (reliance ι).Lawful i (gate.reassociate tenantId newAssociationRef actor correlationId)
  := by
  have hverifying : TenantLifecycleState.verifying ≠ .ready := by decide
  apply Lawful.seq ((require_id tenantId).conseq (fun _ _ h => h) fun _ _ _ _ => trivial)
  intro rec
  split
  · apply Lawful.raise
  · apply Lawful.seq (reliance_call .now trivial)
    intro ts
    apply Lawful.seq (failingClosed_lawful
      (reliance_call (.compareAndSwapTenant _ _) (by apply hverifying)))
    intro _
    apply Lawful.seq (reliance_recordAudit _ _ _ _ _ _)
    intro _
    apply Lawful.seq (reliance_recordEvent _ _ _ _)
    intro _
    apply Lawful.seq (reliance_recordEvent _ _ _ _)
    intro _
    apply Lawful.seq
    · apply Lawful.seq (reliance_call (.invalidateTenant tenantId correlationId) trivial)
      intro _
      apply reliance_recordEvent
    · intro _
      apply reliance_verify

/-- Every operation keeps the discipline. -/
theorem reliance_parts :
  LawfulParts (reliance ι) gate i
  := by
  constructor
  · intro op hop
    apply reliance_call op
    cases op <;> trivial
  · apply reliance_registerTenant
  · intro tenantId actor correlationId
    apply reliance_transition
  · intro tenantId actor correlationId
    apply reliance_transition
  · intro tenantId actor correlationId
    apply reliance_transition
  · intro tenantId actor correlationId
    apply reliance_transition
  · apply reliance_verify
  · apply reliance_reassociate

end Operations

end ControlPlane
