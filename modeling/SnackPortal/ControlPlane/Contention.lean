import SnackPortal.ControlPlane.WritesOperations
import SnackPortal.ControlPlane.Reliance

/-!
# Calls of `verify` that race

Where a call of `verify` stands, read off the history of its operation: it still reads the
record, it has written it and owes the audit record of that write, or it has entered `Verifying`
and checks.  While it reads it writes nothing but by its compare-and-swap, and while it checks
it writes only into the ledger and by a compare-and-swap over the record it has entered with.
-/

namespace ControlPlane

/-- Where a call of `verify` stands. -/
inductive Stage where
  | reading
  | written (rec : TenantRecord)
  | verifying (rec : TenantRecord)
  | settled
deriving DecidableEq

/-- Where the call stands after one more event. -/
def Stage.after (stage : Stage) : ControlEvent → Stage
  | ⟨.getTenant _, .ok (some _)⟩ => .reading
  | ⟨.compareAndSwapTenant _ _, .ok rec⟩ => .written rec
  | ⟨.appendAudit record, .ok _⟩ =>
      match stage with
      | .written rec =>
          if record.action = Events.distinctnessVerificationStarted then .verifying rec
          else .settled
      | stage => stage
  | ⟨_, .ok _⟩ => stage
  | ⟨_, .error _⟩ =>
      match stage with
      | .written _ => .settled
      | stage => stage

/-- After an exception no audit record is owed. -/
theorem Stage.after_error (stage : Stage) (op : ControlOp) (e : ControlError)
    (rec : TenantRecord) :
  stage.after ⟨op, .error e⟩ ≠ .written rec
  := by
  cases op <;> cases stage <;> rintro ⟨⟩

/-- Where the call of the history stands. -/
def stageOf : List ControlEvent → Stage
  | [] => .reading
  | e :: h => (stageOf h).after e

/-- The calls a verification, or the re-association that leads to it, makes at a stage. -/
def Stage.allows : Stage → ControlOp → Prop
  | _, .getTenant _ => True
  | .reading, .now | .reading, .compareAndSwapTenant _ _ => True
  | .reading, _ => False
  | .written _, .now | .written _, .appendAudit _ => True
  | .written _, _ => False
  | .verifying rec, .compareAndSwapTenant updated v =>
      updated.tenantId = rec.tenantId ∧ v = rec.version
  | .verifying rec, .recordEvidence t _ | .verifying rec, .removeEvidence t =>
      t = rec.tenantId
  | .verifying _, .appendAudit _ | .verifying _, .putTenant _ => False
  | .verifying _, _ => True
  | .settled, _ => True

/-- The stage of the history allows the call. -/
def Staged (h : List ControlEvent) (op : ControlOp) : Prop :=
  (stageOf h).allows op

/-- The calls of an audit record. -/
def audits : ControlOp → Prop
  | .now | .appendAudit _ => True
  | _ => False

section Operations

open Program ProvisioningVerificationService

variable {gate : ProvisioningVerificationService} {h : List ControlEvent}

/-- Every call of the program is one its stage allows. -/
abbrev Stages {α : Type} (Q : α → List ControlEvent → Prop) (x : ControlProgram α)
    (h : List ControlEvent) : Prop :=
  Keeps honest Staged Q x h

/-- Once the call has settled nothing is asked of it, as long as it reads no record. -/
theorem stages_settled {α : Type} {x : ControlProgram α}
    (hx : x.Calls audits)
    (hh : stageOf h = .settled) :
  Stages (fun _ h' => stageOf h' = .settled) x h
  := by
  induction x generalizing h with
  | ret r =>
      intro _
      cases r with
      | ok a => apply hh
      | error e => trivial
  | call op k ih =>
      constructor
      · intro _
        rw [Staged, hh]
        cases op <;> trivial
      · intro r
        apply ih r (hx.2 r)
        rw [stageOf, hh]
        have hop := hx.1
        cases op <;> first | contradiction | (cases r <;> rfl)

theorem settled_audit (actor : String) (tenantId : Option String) (action : String)
    (fromState toState : Option String) (correlationId : String)
    (hh : stageOf h = .settled) :
  Stages (fun _ h' => stageOf h' = .settled)
    (recordAudit actor tenantId action fromState toState correlationId) h
  := by
  apply stages_settled _ hh
  apply recordAudit_calls trivial
  exact fun _ _ => trivial

/-- The audit record of a write. -/
theorem written_audit {actor : String} {tenantId : Option String} {action : String}
    {fromState toState : Option String} {correlationId : String} (rec : TenantRecord)
    (hh : stageOf h = .written rec) :
  Stages (fun _ h' => stageOf h' =
      if action = Events.distinctnessVerificationStarted then .verifying rec else .settled)
    (recordAudit actor tenantId action fromState toState correlationId) h
  := by
  apply Keeps.ask (S := controlSignature) (o := .now)
  · intro _
    rw [Staged, hh]
    trivial
  · intro timestamp _
    have hnow : stageOf (⟨.now, .ok timestamp⟩ :: h) = .written rec := by
      rw [stageOf, hh]
      rfl
    apply Keeps.call (S := controlSignature) (o := .appendAudit _)
    · intro _
      rw [Staged, hnow]
      trivial
    · intro _ _
      rw [stageOf, hnow]
      rfl

/-- A transition of the gate, from a history after which it may swap. -/
theorem transition_stages {rec : TenantRecord} {toState : TenantLifecycleState}
    {action actor correlationId : String}
    (hnow : Staged h .now)
    (hswap : ∀ ts updated, updated.tenantId = rec.tenantId →
      Staged (⟨.now, .ok ts⟩ :: h) (.compareAndSwapTenant updated rec.version)) :
  Stages (fun a h' => a.tenantId = rec.tenantId ∧ stageOf h' =
      if action = Events.distinctnessVerificationStarted then .verifying a else .settled)
    (ProvisioningVerificationService.transition rec toState action actor correlationId) h
  := by
  apply Keeps.ask (S := controlSignature) (o := .now)
  · exact fun _ => hnow
  · intro ts _
    apply Keeps.ask (S := controlSignature) (o := .compareAndSwapTenant _ _)
    · exact fun _ => hswap ts _ rfl
    · intro persisted hpersisted
      have hid : persisted.tenantId = rec.tenantId := by
        rw [show persisted = _ from hpersisted]
      apply Keeps.seq (written_audit persisted rfl)
      intro _ h' _ hstage
      apply Keeps.pure
      exact fun _ => ⟨hid, hstage⟩

theorem failingClosed_stages {α : Type} {Q : α → List ControlEvent → Prop}
    {x : ControlProgram α} (hx : Stages Q x h) :
  Stages Q (failingClosed x) h
  := by
  apply Keeps.rescue hx
  intro e events _
  cases e <;> apply Keeps.raise

/-- A call that leaves the stage of a checking verification. -/
theorem Stages.check {α : Type} {o : ControlOp} {f : o.Ans → ControlProgram α}
    {Q : α → List ControlEvent → Prop} {rec : TenantRecord}
    (hh : stageOf h = .verifying rec) (ho : Staged h o)
    (hafter : ∀ a, (Stage.verifying rec).after ⟨o, .ok a⟩ = .verifying rec)
    (hf : ∀ a h', stageOf h' = .verifying rec → Stages Q (f a) h') :
  Stages Q (Program.perform (S := controlSignature) o >>= f) h
  := by
  apply Keeps.ask (S := controlSignature) (fun _ => ho)
  intro a _
  apply hf
  rw [stageOf, hh, hafter]

/-- The commit of a checking verification. -/
theorem commit_stages {rec : TenantRecord} {toState : TenantLifecycleState}
    {action actor correlationId : String} (hh : stageOf h = .verifying rec)
    (haction : action ≠ Events.distinctnessVerificationStarted) :
  Stages (fun _ h' => stageOf h' = .settled)
    (ProvisioningVerificationService.transition rec toState action actor correlationId) h
  := by
  apply (transition_stages _ _).weaken
  · rintro a h' _ ⟨-, hstage⟩
    rw [hstage, if_neg haction]
  · rw [Staged, hh]
    trivial
  · intro ts updated hid
    rw [Staged, stageOf, hh]
    exact ⟨hid, rfl⟩

theorem fail_stages {rec : TenantRecord} (hh : stageOf h = .verifying rec)
    {eventAction : String} (haction : eventAction ≠ Events.distinctnessVerificationStarted)
    (result : DistinctnessResult) (reason actor correlationId : String) (anomaly : Bool) :
  Stages (fun _ _ => True)
    (fail rec result reason eventAction actor correlationId anomaly) h
  := by
  apply Stages.check hh (by rw [Staged, hh]; rfl) (fun _ => rfl)
  intro _ h₁ h₁stage
  apply Keeps.seq (Q := fun _ h' => stageOf h' = .settled)
  · apply failingClosed_stages
    split
    · apply Keeps.seq (commit_stages h₁stage haction)
      intro _ h₂ _ h₂stage
      apply Keeps.seq (settled_audit _ _ _ _ _ _ h₂stage)
      intro _ h₃ _ h₃stage
      apply settled_audit _ _ _ _ _ _ h₃stage
    · apply Keeps.seq (commit_stages h₁stage haction)
      intro _ h₂ _ h₂stage
      apply Keeps.pure
      exact fun _ => h₂stage
  · intro _ _ _ _
    apply Keeps.pure
    exact fun _ => trivial

theorem verifyFrom_stages {rec : TenantRecord} (hh : stageOf h = .verifying rec)
    (actor correlationId : String) :
  Stages (fun _ _ => True) (gate.verifyFrom rec rec.tenantId actor correlationId) h
  := by
  have hincomplete :
      Events.verificationIncomplete ≠ Events.distinctnessVerificationStarted := by decide
  have hfailed :
      Events.distinctnessVerificationFailed ≠ Events.distinctnessVerificationStarted := by decide
  have hpassed :
      Events.distinctnessVerificationPassed ≠ Events.distinctnessVerificationStarted := by decide
  have hstays : ∀ {h' : List ControlEvent} (o : ControlOp), stageOf h' = .verifying rec →
      (match o with
        | .probe _ | .token | .gather _ _ _ | .evidenceExcluding _ => True
        | _ => False) → Staged h' o := by
    intro h' o hstage ho
    rw [Staged, hstage]
    cases o <;> trivial
  apply Stages.check hh (hstays (.probe _) hh trivial) (fun _ => rfl)
  intro probe h₁ h₁stage
  split
  · apply fail_stages h₁stage hincomplete
  split
  · apply fail_stages h₁stage hfailed
  split
  · apply fail_stages h₁stage hfailed
  apply Stages.check h₁stage (hstays .token h₁stage trivial) (fun _ => rfl)
  intro token h₂ h₂stage
  apply Stages.check h₂stage (hstays (.gather _ _ _) h₂stage trivial) (fun _ => rfl)
  intro evidence h₃ h₃stage
  apply Stages.check h₃stage (hstays (.evidenceExcluding _) h₃stage trivial) (fun _ => rfl)
  intro inventory h₄ h₄stage
  simp only
  split
  · apply Keeps.seq (Q := fun _ h' => stageOf h' = .verifying rec)
    · constructor
      · intro _
        rw [Staged, h₄stage]
        rfl
      · rintro (e | a)
        · cases e with
          | collision =>
              intro _
              change stageOf (_ :: h₄) = _
              rw [stageOf, h₄stage]
              rfl
          | _ => exact fun _ => trivial
        · intro _
          change stageOf (_ :: h₄) = _
          rw [stageOf, h₄stage]
          rfl
    · intro recorded h₅ _ h₅stage
      split
      · apply fail_stages h₅stage hfailed
      · apply Keeps.seq (failingClosed_stages (commit_stages h₅stage hpassed))
        intro _ h₆ _ h₆stage
        apply Keeps.seq (settled_audit _ _ _ _ _ _ h₆stage)
        intro _ _ _ _
        apply Keeps.pure
        exact fun _ => trivial
  · apply Stages.check h₄stage (by rw [Staged, h₄stage]; rfl) (fun _ => rfl)
    intro _ h₅ h₅stage
    split
    · apply Keeps.seq (fail_stages h₅stage hfailed _ _ _ _ _)
      intro _ _ _ _
      apply Keeps.pure
      exact fun _ => trivial
    · split
      · apply Keeps.seq (fail_stages h₅stage hincomplete _ _ _ _ _)
        intro _ _ _ _
        apply Keeps.pure
        exact fun _ => trivial
      · apply Keeps.seq (fail_stages h₅stage hfailed _ _ _ _ _)
        intro _ _ _ _
        apply Keeps.pure
        exact fun _ => trivial

theorem require_stages (tenantId : String) :
  Stages (fun rec h' => rec.tenantId = tenantId ∧ stageOf h' = .reading) (require tenantId) h
  := by
  apply Keeps.ask (S := controlSignature) (o := .getTenant tenantId)
  · intro _
    rw [Staged]
    cases stageOf h <;> trivial
  · rintro (_ | rec) hid
    · apply Keeps.raise
    · apply Keeps.pure
      exact fun _ => ⟨hid, rfl⟩

/-- The entry of a verification, from a history at whose end it reads. -/
theorem entry_stages {rec : TenantRecord} {tenantId : String} (hid : rec.tenantId = tenantId)
    (hh : stageOf h = .reading) (actor correlationId : String) :
  Stages (fun a h' => a.tenantId = tenantId ∧ stageOf h' = .verifying a)
    (ProvisioningVerificationService.transition rec .verifying
      Events.distinctnessVerificationStarted actor correlationId) h
  := by
  apply (transition_stages _ _).weaken
  · rintro a h' _ ⟨ha, hstage⟩
    exact ⟨ha.trans hid, hstage.trans (if_pos rfl)⟩
  · rw [Staged, hh]
    trivial
  · intro ts updated _
    rw [Staged, stageOf, hh]
    trivial

theorem enterVerifying_stages {rec : TenantRecord} (hh : stageOf h = .reading)
    (actor correlationId : String) :
  Stages (fun entered h' => ∀ a, entered = some a →
      a.tenantId = rec.tenantId ∧ stageOf h' = .verifying a)
    (enterVerifying rec rec.tenantId actor correlationId) h
  := by
  have hsome : ∀ (a : TenantRecord) (h' : List ControlEvent),
      a.tenantId = rec.tenantId ∧ stageOf h' = .verifying a →
      Stages (fun entered h' => ∀ a, entered = some a →
          a.tenantId = rec.tenantId ∧ stageOf h' = .verifying a)
        (Pure.pure (some a)) h' := by
    intro a h' ha
    apply Keeps.pure
    rintro _ _ ⟨⟩
    apply ha
  apply Keeps.rescue
  · apply Keeps.seq (entry_stages rfl hh _ _)
    exact fun a h' _ => hsome a h'
  · intro e events _
    cases e with
    | concurrency =>
        apply Keeps.seq (require_stages rec.tenantId)
        rintro fresh h' _ ⟨hid, hstage⟩
        split
        · apply Keeps.pure
          rintro _ _ ⟨⟩
        · split
          · apply Keeps.seq (failingClosed_stages (entry_stages hid hstage _ _))
            exact fun a h' _ => hsome a h'
          · apply Keeps.raise
    | _ => apply Keeps.raise

theorem verify_stages (tenantId actor correlationId : String) :
  Stages (fun _ _ => True) (gate.verify tenantId actor correlationId) h
  := by
  apply Keeps.seq (require_stages tenantId)
  rintro rec h₁ _ ⟨rfl, h₁stage⟩
  split
  · apply Keeps.raise
  · apply Keeps.seq (enterVerifying_stages h₁stage actor correlationId)
    rintro (_ | a) h₂ _ ha
    · apply Keeps.pure
      exact fun _ => trivial
    · obtain ⟨hid, h₂stage⟩ := ha a rfl
      simp only
      rw [← hid]
      apply verifyFrom_stages h₂stage

theorem reassociate_stages (tenantId : String) (newAssociationRef : SecretRef)
    (actor correlationId : String) :
  Stages (fun _ _ => True) (gate.reassociate tenantId newAssociationRef actor correlationId) h
  := by
  have hassociated : Events.databaseAssociated ≠ Events.distinctnessVerificationStarted := by
    decide
  apply Keeps.seq (require_stages tenantId)
  rintro rec h₁ _ ⟨rfl, h₁stage⟩
  split
  · apply Keeps.raise
  apply Keeps.ask (S := controlSignature) (o := .now)
  · intro _
    rw [Staged, h₁stage]
    trivial
  intro ts _
  apply Keeps.seq (Q := fun a h' => stageOf h' = .written a)
  · apply failingClosed_stages
    apply Keeps.call (S := controlSignature) (o := .compareAndSwapTenant _ _)
    · intro _
      rw [Staged, stageOf, h₁stage]
      trivial
    · exact fun _ _ => rfl
  intro persisted h₂ _ h₂stage
  apply Keeps.seq (written_audit persisted h₂stage)
  intro _ h₃ _ h₃stage
  rw [if_neg hassociated] at h₃stage
  apply Keeps.seq (settled_audit _ _ _ _ _ _ h₃stage)
  intro _ h₄ _ h₄stage
  apply Keeps.seq (settled_audit _ _ _ _ _ _ h₄stage)
  intro _ h₅ _ h₅stage
  apply Keeps.seq (Q := fun _ h' => stageOf h' = .settled)
  · apply Keeps.ask (S := controlSignature) (o := .invalidateTenant _ _)
    · intro _
      rw [Staged, h₅stage]
      trivial
    · intro _ _
      apply settled_audit
      rw [stageOf, h₅stage]
      rfl
  intro _ _ _ _
  apply verify_stages

end Operations

end ControlPlane
