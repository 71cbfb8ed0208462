import SnackPortal.Program.Discipline
import SnackPortal.ControlPlane.Recovery

/-!
# The operations

The operations as the requests of a thread.  A discipline that the calls outside the registry
table keep, and that the registry's own operations, `verify` and `reassociate` keep, is kept by
every operation: the orchestrator and the remaining operations only sequence these.
-/

namespace ControlPlane

/-- One call of an operation of the registry, the gate, the orchestrator or the recovery service,
which has its supported schema versions. -/
inductive Operation where
  | registerTenant (tenantId : String) (r : TenantRegistry.Registration)
  | markProvisioning (tenantId : String)
  | suspendTenant (tenantId : String)
  | decommissionTenant (tenantId : String)
  | quarantineTenant (tenantId : String)
  | verify (tenantId : String)
  | reassociate (tenantId : String) (newAssociationRef : SecretRef)
  | disableRouting (tenantId : String)
  | onboard (tenantId organizationRef federationConfigRef expectedSchemaVersion : String)
  | recover (tenantId : String)
  | deprovisionTenantDatabase (service : RecoveryCompensationService) (tenantId : String)

/-- A call with its attribution. -/
structure Request where
  operation : Operation
  actor : String
  correlationId : String

/-- The program a request runs; what it returns is not looked at here. -/
def Request.program (gate : ProvisioningVerificationService) (q : Request) :
    ControlProgram Unit :=
  match q.operation with
  | .registerTenant t r => (TenantRegistry.registerTenant t r q.actor q.correlationId).discard
  | .markProvisioning t => (TenantRegistry.markProvisioning t q.actor q.correlationId).discard
  | .suspendTenant t => (TenantRegistry.suspendTenant t q.actor q.correlationId).discard
  | .decommissionTenant t =>
      (TenantRegistry.decommissionTenant t q.actor q.correlationId).discard
  | .quarantineTenant t => (TenantRegistry.quarantineTenant t q.actor q.correlationId).discard
  | .verify t => (gate.verify t q.actor q.correlationId).discard
  | .reassociate t ref => (gate.reassociate t ref q.actor q.correlationId).discard
  | .disableRouting t =>
      ProvisioningVerificationService.disableRouting t q.actor q.correlationId
  | .onboard t org fed schema =>
      (OnboardingOrchestrator.onboard gate t org fed schema q.actor q.correlationId).discard
  | .recover t => (OnboardingOrchestrator.recover gate t q.actor q.correlationId).discard
  | .deprovisionTenantDatabase service t =>
      (service.deprovisionTenantDatabase t q.actor q.correlationId).discard

/-- The requests as the threads of the control plane, in the state `s`. -/
def ControlState.serving {ι : Type} (s : ControlState) (gate : ProvisioningVerificationService)
    (requests : ι → Request) : (controlPlane ι).Config Unit :=
  ⟨s, fun i => some ((requests i).program gate)⟩

/-! ### The parts of a deprovision request -/

/-- The calls on ports beside the store, and the reads of the store. -/
def asks : ControlOp → Bool
  | .putTenant _ | .compareAndSwapTenant _ _ | .appendAudit _ => false
  | _ => true

theorem keepsTenants_of_asks {op : ControlOp} (h : asks op = true) :
  keepsTenants op
  := by
  cases op with
  | putTenant r | compareAndSwapTenant r v => cases h
  | _ => trivial

/-- The program only sequences such calls, records of events and quarantines. -/
inductive Compensates : {α : Type} → ControlProgram α → Prop
  | pure {α : Type} (a : α) : Compensates (Pure.pure a : ControlProgram α)
  | raise {α : Type} (e : ControlError) : Compensates (Program.raise e : ControlProgram α)
  | bind {α β : Type} {x : ControlProgram α} {f : α → ControlProgram β} (hx : Compensates x)
      (hf : ∀ a, Compensates (f a)) : Compensates (x >>= f)
  | rescue {α : Type} {x : ControlProgram α} {h : ControlError → ControlProgram α}
      (hx : Compensates x) (hh : ∀ e, Compensates (h e)) : Compensates (x.rescue h)
  | ask (op : ControlOp) (hop : asks op = true) :
      Compensates (Program.perform (S := controlSignature) op)
  | event (tenantId action actor correlationId : String) :
      Compensates (recordEvent tenantId action actor correlationId)
  | quarantine (tenantId actor correlationId : String) :
      Compensates (TenantRegistry.quarantineTenant tenantId actor correlationId)

/-- So does the latched program, from either latch. -/
def Latched.Compensates {α : Type} (x : Latched α) : Prop :=
  ∀ latch, ControlPlane.Compensates (x latch)

namespace Latched.Compensates

variable {α β : Type}

/-- A lifted program ends in a result beside the latch, however it ends. -/
theorem lift_eq (x : ControlProgram α) (latch : Bool) :
  Latched.lift x latch
    = (x >>= fun a => Pure.pure (.ok a, latch)).rescue fun e => Pure.pure (.error e, latch)
  := by
  induction x with
  | ret r => cases r <;> rfl
  | call op k ih =>
      apply congrArg (Program.call op)
      funext r
      apply ih r

theorem lift {x : ControlProgram α} (hx : ControlPlane.Compensates x) :
  Latched.Compensates (Latched.lift x)
  := by
  intro latch
  rw [lift_eq]
  apply ControlPlane.Compensates.rescue
  · apply ControlPlane.Compensates.bind hx
    intro a
    apply ControlPlane.Compensates.pure
  · intro e
    apply ControlPlane.Compensates.pure

theorem attempt :
  Latched.Compensates Latched.attempt
  := fun _ => ControlPlane.Compensates.pure _

theorem pure (a : α) :
  Latched.Compensates (Pure.pure a : Latched α)
  := fun _ => ControlPlane.Compensates.pure _

theorem bind {x : Latched α} {f : α → Latched β} (hx : Latched.Compensates x)
    (hf : ∀ a, Latched.Compensates (f a)) :
  Latched.Compensates (x >>= f)
  := by
  intro latch
  apply ControlPlane.Compensates.bind (hx latch)
  rintro ⟨e | a, latch'⟩
  · apply ControlPlane.Compensates.pure
  · apply hf a latch'

end Latched.Compensates

namespace Compensates

open RecoveryCompensationService

theorem nonContentProof (tenantId target : String) (fingerprint : Option String) :
  Compensates (RecoveryCompensationService.nonContentProof tenantId target fingerprint)
  := by
  apply bind (ask (.getTenant tenantId) rfl)
  rintro (_ | record)
  · apply pure
  simp only
  split
  · apply pure
  split
  · apply pure
  apply bind (ask .controlDatabaseName rfl)
  rintro (_ | controlName)
  · apply pure
  simp only
  split
  · apply pure
  apply bind (ask (.evidenceExcluding tenantId) rfl)
  intro others
  split
  · apply pure
  cases fingerprint with
  | none => apply pure
  | some fingerprint =>
      apply bind (ask (.evidenceExcluding noTenant) rfl)
      intro all
      split
      · apply pure
      · split
        · apply pure
        · apply pure

theorem ownershipProof (tenantId target : String) :
  Compensates (RecoveryCompensationService.ownershipProof tenantId target)
  := by
  apply bind (nonContentProof tenantId target none)
  rintro (_ | reason)
  · apply bind (ask (.getTenant tenantId) rfl)
    rintro (_ | record)
    · apply pure
    · simp only
      split
      · apply pure
      · apply pure
  · apply pure

theorem holdAnomaly (tenantId reason actor correlationId : String) (quarantine : Bool) :
  Compensates
    (RecoveryCompensationService.holdAnomaly tenantId reason actor correlationId quarantine)
  := by
  rw [RecoveryCompensationService.holdAnomaly]
  split
  · apply bind (ask (.getTenant tenantId) rfl)
    rintro (_ | record)
    · apply pure
    · simp only
      split
      · apply bind (.quarantine tenantId actor correlationId)
        intro _
        apply event
      · apply pure
  · apply pure

theorem fail (tenantId target reason actor correlationId : String) (quarantine : Bool) :
  Latched.Compensates
    (RecoveryCompensationService.fail tenantId target reason actor correlationId quarantine)
  := by
  apply Latched.Compensates.bind (.lift (holdAnomaly _ _ _ _ _))
  intro _
  apply Latched.Compensates.bind .attempt
  intro _
  apply Latched.Compensates.bind (.lift (event _ _ _ _))
  intro _
  apply Latched.Compensates.pure

theorem complete (tenantId target reason actor correlationId : String) (dropped : Bool) :
  Latched.Compensates
    (RecoveryCompensationService.complete tenantId target reason actor correlationId dropped)
  := by
  apply Latched.Compensates.bind .attempt
  intro _
  apply Latched.Compensates.bind (.lift (event _ _ _ _))
  intro _
  apply Latched.Compensates.pure

theorem succeeds {α : Type} {x : ControlProgram α} (hx : Compensates x) :
  Compensates (OnboardingOrchestrator.succeeds x)
  := rescue (bind hx fun _ => pure _) fun _ => pure _

theorem provenDeprovision (service : RecoveryCompensationService)
    (tenantId target actor correlationId : String) :
  Latched.Compensates (service.provenDeprovision tenantId target actor correlationId)
  := by
  apply Latched.Compensates.bind (.lift (ownershipProof _ _))
  rintro (_ | reason)
  case some => apply fail
  apply Latched.Compensates.bind (.lift (ask (.databaseExists target) rfl))
  rintro (_ | _ | _)
  · apply fail
  · apply complete
  apply Latched.Compensates.bind (.lift (ask (.inspectDatabase target) rfl))
  rintro (_ | inspection)
  · apply fail
  apply Latched.Compensates.bind (.lift (ask (.evidenceExcluding noTenant) rfl))
  intro all
  split
  · apply fail
  split
  · apply fail
  apply Latched.Compensates.bind (.lift (nonContentProof _ _ _))
  rintro (_ | reason)
  case some => apply fail
  apply Latched.Compensates.bind (.lift (succeeds (ask (.deprovision target) rfl)))
  intro dropped
  split
  · apply fail
  · apply complete

theorem deprovisionTenantDatabase (service : RecoveryCompensationService)
    (tenantId actor correlationId : String) :
  Compensates (service.deprovisionTenantDatabase tenantId actor correlationId)
  := by
  apply bind (event _ _ _ _)
  intro _
  apply bind (provenDeprovision service _ _ _ _ false)
  rintro ⟨e | outcome, attempted⟩
  · simp only
    split
    · apply raise
    · apply bind
      · apply rescue (event _ _ _ _)
        intro _
        apply pure
      · intro _
        apply raise
  · apply pure

end Compensates

/-! ### The operations under a discipline -/

/-- The parts of the operations that a discipline has to be checked for. -/
structure LawfulParts {ι : Type} {M : Machine controlSignature ControlError ι}
    (D : Discipline M) (gate : ProvisioningVerificationService) (i : ι) : Prop where
  call : ∀ op, keepsTenants op → D.Lawful i (Program.perform (S := controlSignature) op)
  registerTenant : ∀ tenantId r actor correlationId,
    D.Lawful i (TenantRegistry.registerTenant tenantId r actor correlationId)
  markProvisioning : ∀ tenantId actor correlationId,
    D.Lawful i (TenantRegistry.markProvisioning tenantId actor correlationId)
  suspendTenant : ∀ tenantId actor correlationId,
    D.Lawful i (TenantRegistry.suspendTenant tenantId actor correlationId)
  decommissionTenant : ∀ tenantId actor correlationId,
    D.Lawful i (TenantRegistry.decommissionTenant tenantId actor correlationId)
  quarantineTenant : ∀ tenantId actor correlationId,
    D.Lawful i (TenantRegistry.quarantineTenant tenantId actor correlationId)
  verify : ∀ tenantId actor correlationId,
    D.Lawful i (gate.verify tenantId actor correlationId)
  reassociate : ∀ tenantId newAssociationRef actor correlationId,
    D.Lawful i (gate.reassociate tenantId newAssociationRef actor correlationId)

namespace LawfulParts

open Discipline OnboardingOrchestrator

variable {ι : Type} {i : ι} {M : Machine controlSignature ControlError ι} {D : Discipline M}
  {gate : ProvisioningVerificationService} (h : LawfulParts D gate i)

include h

theorem recordAudit_lawful (actor : String) (tenantId : Option String) (action : String)
    (fromState toState : Option String) (correlationId : String) :
  D.Lawful i (recordAudit actor tenantId action fromState toState correlationId)
  := Lawful.of_calls (recordAudit_calls trivial fun _ _ => trivial) h.call

theorem recordEvent_lawful (tenantId action actor correlationId : String) :
  D.Lawful i (recordEvent tenantId action actor correlationId)
  := h.recordAudit_lawful _ _ _ _ _ _

theorem disableRouting_lawful (tenantId actor correlationId : String) :
  D.Lawful i
    (ProvisioningVerificationService.disableRouting tenantId actor correlationId)
  := by
  apply Lawful.seq (h.call (.removeEvidence tenantId) trivial)
  intro _
  apply Lawful.seq (h.recordEvent_lawful _ _ _ _)
  intro _
  apply Lawful.seq (h.call (.invalidateTenant tenantId correlationId) trivial)
  intro _
  apply h.recordEvent_lawful

omit h in
/-- A step whose exception is its result. -/
theorem succeeds_lawful {α : Type} {x : ControlProgram α} (hx : D.Lawful i x) :
  D.Lawful i (succeeds x)
  := by
  apply Lawful.rescue
  · apply Lawful.seq hx
    intro _
    apply Lawful.pure
  · intro e
    apply Lawful.pure

theorem provisionApplyVerify_lawful (tenantId target : String) (associationRef : SecretRef)
    (actor correlationId : String) :
  D.Lawful i (provisionApplyVerify gate tenantId target associationRef actor correlationId)
  := by
  apply Lawful.seq (h.recordEvent_lawful _ _ _ _)
  intro _
  apply Lawful.seq (succeeds_lawful (h.call (.provision tenantId target) trivial))
  intro provisioned
  split
  · apply Lawful.seq (h.recordEvent_lawful _ _ _ _)
    intro _
    apply Lawful.pure
  · apply Lawful.seq (h.recordEvent_lawful _ _ _ _)
    intro _
    apply Lawful.seq (h.recordEvent_lawful _ _ _ _)
    intro _
    apply Lawful.seq (succeeds_lawful
      (h.call (.applySchema tenantId target associationRef) trivial))
    intro applied
    split
    · apply Lawful.seq (h.recordEvent_lawful _ _ _ _)
      intro _
      apply Lawful.pure
    · apply Lawful.seq (h.recordEvent_lawful _ _ _ _)
      intro _
      apply Lawful.seq (h.recordEvent_lawful _ _ _ _)
      intro _
      apply Lawful.seq (h.recordEvent_lawful _ _ _ _)
      intro _
      apply h.verify

theorem asRecovery_lawful (tenantId actor correlationId : String)
    {x : ControlProgram DistinctnessOutcome} (hx : D.Lawful i x) :
  D.Lawful i (asRecovery tenantId actor correlationId x)
  := by
  apply Lawful.seq
  · apply Lawful.rescue hx
    intro e
    apply Lawful.seq (h.recordEvent_lawful _ _ _ _)
    intro _
    apply Lawful.raise
  · intro outcome
    apply Lawful.seq (h.recordEvent_lawful _ _ _ _)
    intro _
    apply Lawful.pure

theorem resume_lawful (record : TenantRecord) (target actor correlationId : String) :
  D.Lawful i (resume gate record target actor correlationId)
  := by
  apply Lawful.seq (h.recordEvent_lawful _ _ _ _)
  intro _
  apply h.asRecovery_lawful
  apply h.provisionApplyVerify_lawful

theorem onboard_lawful (tenantId organizationRef federationConfigRef expectedSchemaVersion
    actor correlationId : String) :
  D.Lawful i (onboard gate tenantId organizationRef federationConfigRef expectedSchemaVersion
    actor correlationId)
  := by
  have hfresh : ∀ (r : TenantRegistry.Registration) (target : String) (ref : SecretRef),
      D.Lawful i (do
        let _ ← TenantRegistry.registerTenant tenantId r actor correlationId
        let _ ← TenantRegistry.markProvisioning tenantId actor correlationId
        provisionApplyVerify gate tenantId target ref actor correlationId) := by
    intro r target ref
    apply Lawful.seq (h.registerTenant _ _ _ _)
    intro _
    apply Lawful.seq (h.markProvisioning _ _ _)
    intro _
    apply h.provisionApplyVerify_lawful
  apply Lawful.seq (h.call (.getTenant tenantId) trivial)
  rintro (_ | existing)
  · apply hfresh
  · simp only
    split
    · apply hfresh
    · apply Lawful.pure
    · apply h.resume_lawful
    · apply Lawful.pure

theorem recover_lawful (tenantId actor correlationId : String) :
  D.Lawful i (recover gate tenantId actor correlationId)
  := by
  apply Lawful.seq (h.call (.getTenant tenantId) trivial)
  rintro (_ | record)
  · apply Lawful.raise
  · simp only
    split
    · apply Lawful.raise
    · apply Lawful.seq (h.recordEvent_lawful _ _ _ _)
      intro _
      apply Lawful.seq (h.call .listAudit trivial)
      intro trail
      split
      · apply Lawful.seq (h.quarantineTenant _ _ _)
        intro _
        apply Lawful.seq (h.recordEvent_lawful _ _ _ _)
        intro _
        apply Lawful.seq (h.recordEvent_lawful _ _ _ _)
        intro _
        apply Lawful.pure
      · apply h.asRecovery_lawful
        apply h.verify

/-- A program that compensates keeps the discipline. -/
theorem compensates_lawful {α : Type} {x : ControlProgram α} (hx : Compensates x) :
  D.Lawful i x
  := by
  induction hx with
  | pure a => apply Lawful.pure
  | raise e => apply Lawful.raise
  | bind _ _ ih ih' => apply Lawful.seq ih ih'
  | rescue _ _ ih ih' => apply Lawful.rescue ih ih'
  | ask op hop => apply h.call op (keepsTenants_of_asks hop)
  | event _ _ _ _ => apply h.recordEvent_lawful
  | quarantine _ _ _ => apply h.quarantineTenant

/-- Every operation keeps the discipline. -/
theorem program_lawful (q : Request) :
  D.Lawful i (q.program gate)
  := by
  rw [Request.program]
  cases q.operation with
  | registerTenant t r => apply (h.registerTenant _ _ _ _).discard
  | markProvisioning t => apply (h.markProvisioning _ _ _).discard
  | suspendTenant t => apply (h.suspendTenant _ _ _).discard
  | decommissionTenant t => apply (h.decommissionTenant _ _ _).discard
  | quarantineTenant t => apply (h.quarantineTenant _ _ _).discard
  | verify t => apply (h.verify _ _ _).discard
  | reassociate t ref => apply (h.reassociate _ _ _ _).discard
  | disableRouting t => apply h.disableRouting_lawful
  | onboard t org fed schema => apply (h.onboard_lawful _ _ _ _ _ _).discard
  | recover t => apply (h.recover_lawful _ _ _).discard
  | deprovisionTenantDatabase service t =>
      apply (h.compensates_lawful (.deprovisionTenantDatabase service _ _ _)).discard

end LawfulParts

end ControlPlane
