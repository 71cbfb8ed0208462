import SnackPortal.ControlPlane.AuditTrail

/-!
# The trail of a recovery

A resume always closes the recovery it started in the trail: what it runs in between is guarded.
`recover` closes it unless the audit trail cannot be read, or shows an isolation anomaly of the
tenant that then cannot be quarantined: those calls lie between the start and the guarded part
(`recovery_paired_iff`).
-/

namespace ControlPlane

open Program OnboardingOrchestrator

/-- The actions of a recovery in the trail. -/
def recoveryActions : List String :=
  [Events.onboardingRecoveryStarted, Events.onboardingRecoveryCompleted,
    Events.onboardingRecoveryFailed]

/-- The record starts a recovery. -/
def recoveryStarts (record : ControlAuditRecord) : Bool :=
  record.action == Events.onboardingRecoveryStarted

/-- The record ends a recovery. -/
def recoveryEnds (record : ControlAuditRecord) : Bool :=
  record.action == Events.onboardingRecoveryCompleted
    || record.action == Events.onboardingRecoveryFailed

/-- The records are about one tenant, in one call. -/
def sameAttribution (record record' : ControlAuditRecord) : Prop :=
  record.tenantId = record'.tenantId ∧ record.actor = record'.actor
    ∧ record.correlationId = record'.correlationId

/-- Every recovery started in the run is ended in it, by exactly one record. -/
def RecoveryPaired (events : List ControlEvent) : Prop :=
  Paired recoveryStarts recoveryEnds sameAttribution (trailOf events)

/-- The trail shows an isolation anomaly of the tenant. -/
def anomalyHistory (tenantId : String) (trail : List ControlAuditRecord) : Bool :=
  trail.any fun r => r.tenantId == some tenantId && r.action == Events.isolationAnomaly

/-- The answer does not let a tenant be quarantined: its record cannot be read, or is of a state
without a way into the hold, or cannot be written. -/
def obstructsQuarantine : ControlEvent → Prop
  | ⟨.getTenant _, .ok (some record)⟩ =>
      record.lifecycleState ∉ [TenantLifecycleState.quarantined, .provisioning, .failed]
  | ⟨.getTenant _, _⟩ => True
  | ⟨.compareAndSwapTenant _ _, .error _⟩ => True
  | _ => False

/-- The audit trail is read, and where it shows an isolation anomaly of the tenant, no later
answer obstructs the quarantine. -/
def Reclassifies (tenantId : String) : List ControlEvent → Prop
  | [] => True
  | ⟨.listAudit, .error _⟩ :: _ => False
  | ⟨.listAudit, .ok trail⟩ :: events =>
      anomalyHistory tenantId trail → ∀ e ∈ events, ¬ obstructsQuarantine e
  | _ :: events => Reclassifies tenantId events

/-! ### What the parts of a recovery append -/

section Spares

variable (gate : ProvisioningVerificationService) {tenantId actor correlationId : String}

theorem gateTransition_spares {rec : TenantRecord} {toState : TenantLifecycleState}
    {action : String} (h : action ∉ recoveryActions) :
  (ProvisioningVerificationService.transition rec toState action actor correlationId).Calls
    (spares recoveryActions)
  := by
  apply Calls.bind (perform_spares .now trivial)
  intro ts
  apply Calls.bind (perform_spares (.compareAndSwapTenant _ _) trivial)
  intro persisted
  apply Calls.bind (recordAudit_spares h)
  intro _
  apply Calls.pure

theorem failingClosed_spares {α : Type} {x : ControlProgram α}
    (hx : x.Calls (spares recoveryActions)) :
  (ProvisioningVerificationService.failingClosed x).Calls (spares recoveryActions)
  := by
  apply Calls.rescue hx
  intro e
  cases e <;> apply Calls.raise

theorem gateFail_spares {rec : TenantRecord} {result : DistinctnessResult}
    {reason eventAction : String} {anomaly : Bool} (h : eventAction ∉ recoveryActions) :
  (ProvisioningVerificationService.fail rec result reason eventAction actor correlationId
    anomaly).Calls (spares recoveryActions)
  := by
  apply Calls.bind (perform_spares (.removeEvidence _) trivial)
  intro _
  apply Calls.bind
  · apply failingClosed_spares
    cases anomaly with
    | false =>
        apply Calls.bind (gateTransition_spares h)
        intro _
        apply Calls.pure
    | true =>
        apply Calls.bind (gateTransition_spares h)
        intro _
        apply Calls.bind (recordEvent_spares (by decide))
        intro _
        apply recordEvent_spares (by decide)
  · intro _
    apply Calls.pure

theorem verifyFrom_spares (rec : TenantRecord) :
  (gate.verifyFrom rec tenantId actor correlationId).Calls (spares recoveryActions)
  := by
  apply Calls.bind (perform_spares (.probe _) trivial)
  intro probe
  simp only
  split
  · apply gateFail_spares (by decide)
  split
  · apply gateFail_spares (by decide)
  split
  · apply gateFail_spares (by decide)
  apply Calls.bind (perform_spares .token trivial)
  intro token
  apply Calls.bind (perform_spares (.gather _ _ _) trivial)
  intro evidence
  apply Calls.bind (perform_spares (.evidenceExcluding _) trivial)
  intro inventory
  split
  · apply Calls.bind
    · apply Calls.rescue
      · apply Calls.bind (perform_spares (.recordEvidence _ _) trivial)
        intro _
        apply Calls.pure
      · intro e
        cases e with
        | collision => apply Calls.pure
        | _ => apply Calls.raise
    · intro recorded
      split
      · apply gateFail_spares (by decide)
      · apply Calls.bind (failingClosed_spares (gateTransition_spares (by decide)))
        intro _
        apply Calls.bind (recordEvent_spares (by decide))
        intro _
        apply Calls.pure
  · apply Calls.bind (perform_spares (.removeEvidence _) trivial)
    intro _
    split
    · apply Calls.bind (gateFail_spares (by decide))
      intro _
      apply Calls.pure
    · split
      · apply Calls.bind (gateFail_spares (by decide))
        intro _
        apply Calls.pure
      · apply Calls.bind (gateFail_spares (by decide))
        intro _
        apply Calls.pure

theorem require_spares :
  (ProvisioningVerificationService.require tenantId).Calls (spares recoveryActions)
  := by
  apply Calls.bind (perform_spares (.getTenant _) trivial)
  rintro (_ | rec)
  · apply Calls.raise
  · apply Calls.pure

theorem enterVerifying_spares (rec : TenantRecord) :
  (ProvisioningVerificationService.enterVerifying rec tenantId actor correlationId).Calls
    (spares recoveryActions)
  := by
  apply Calls.rescue
  · apply Calls.bind (gateTransition_spares (by decide))
    intro _
    apply Calls.pure
  · intro e
    cases e with
    | concurrency =>
        apply Calls.bind require_spares
        intro fresh
        split
        · apply Calls.pure
        · split
          · apply Calls.bind (failingClosed_spares (gateTransition_spares (by decide)))
            intro _
            apply Calls.pure
          · apply Calls.raise
    | _ => apply Calls.raise

/-- The gate appends no record of a recovery. -/
theorem verify_spares :
  (gate.verify tenantId actor correlationId).Calls (spares recoveryActions)
  := by
  apply Calls.bind require_spares
  intro rec
  split
  · apply Calls.raise
  · apply Calls.bind (enterVerifying_spares rec)
    rintro (_ | rec)
    · apply Calls.pure
    · apply verifyFrom_spares

theorem succeeds_spares (op : ControlOp) (h : spares recoveryActions op) :
  (succeeds (Program.perform (S := controlSignature) op)).Calls (spares recoveryActions)
  := by
  apply Calls.rescue
  · apply Calls.bind (perform_spares op h)
    intro _
    apply Calls.pure
  · intro _
    apply Calls.pure

/-- The tail of an onboarding appends no record of a recovery. -/
theorem provisionApplyVerify_spares (target : String) (associationRef : SecretRef) :
  (provisionApplyVerify gate tenantId target associationRef actor correlationId).Calls
    (spares recoveryActions)
  := by
  apply Calls.bind (recordEvent_spares (by decide))
  intro _
  apply Calls.bind (succeeds_spares (.provision tenantId target) trivial)
  intro provisioned
  split
  · apply Calls.bind (recordEvent_spares (by decide))
    intro _
    apply Calls.pure
  apply Calls.bind (recordEvent_spares (by decide))
  intro _
  apply Calls.bind (recordEvent_spares (by decide))
  intro _
  apply Calls.bind (succeeds_spares (.applySchema tenantId target associationRef) trivial)
  intro applied
  split
  · apply Calls.bind (recordEvent_spares (by decide))
    intro _
    apply Calls.pure
  apply Calls.bind (recordEvent_spares (by decide))
  intro _
  apply Calls.bind (recordEvent_spares (by decide))
  intro _
  apply Calls.bind (recordEvent_spares (by decide))
  intro _
  apply verify_spares

end Spares

/-! ### Brackets -/

/-- None of the records is of a recovery. -/
def WithoutRecovery (trail : List ControlAuditRecord) : Prop :=
  ∀ record ∈ trail, record.action ∉ recoveryActions

theorem WithoutRecovery.nil :
  WithoutRecovery []
  := List.forall_mem_nil _

theorem WithoutRecovery.append {trail trail' : List ControlAuditRecord}
    (h : WithoutRecovery trail) (h' : WithoutRecovery trail') :
  WithoutRecovery (trail ++ trail')
  := List.forall_mem_append.mpr ⟨h, h'⟩

theorem WithoutRecovery.single {record : ControlAuditRecord}
    (h : record.action ∉ recoveryActions) :
  WithoutRecovery [record]
  := List.forall_mem_singleton.mpr h

theorem boundaries_without {trail : List ControlAuditRecord} (h : WithoutRecovery trail) :
  boundaries recoveryStarts recoveryEnds trail = []
  := by
  apply List.filter_eq_nil_iff.mpr
  intro record hrecord hboundary
  apply h record hrecord
  simp only [recoveryStarts, recoveryEnds, Bool.or_eq_true, beq_iff_eq] at hboundary
  simp only [recoveryActions, List.mem_cons, List.not_mem_nil, or_false]
  apply hboundary

/-- A trail without recoveries. -/
theorem paired_without {events : List ControlEvent} (h : WithoutRecovery (trailOf events)) :
  RecoveryPaired events
  := paired_of_none (boundaries_without h)

/-- A run of one lookup starts nothing. -/
theorem paired_of_lookup {tenantId : String} {a : Except ControlError (Option TenantRecord)} :
  RecoveryPaired [⟨.getTenant tenantId, a⟩]
  := paired_of_none rfl

section Brackets

variable {tenantId actor correlationId : String} {events : List ControlEvent}
  {middle : List ControlAuditRecord}

/-- The start of a recovery and the end of it, with nothing of a recovery in between. -/
theorem paired_of_bracket {ts ts' action : String} (hmiddle : WithoutRecovery middle)
    (haction : action = Events.onboardingRecoveryCompleted
      ∨ action = Events.onboardingRecoveryFailed)
    (htrail : trailOf events
      = eventRecord actor tenantId Events.onboardingRecoveryStarted ts correlationId
        :: (middle ++ [eventRecord actor tenantId action ts' correlationId])) :
  RecoveryPaired events
  := by
  rw [RecoveryPaired, htrail]
  apply paired_of_pair _ (eventRecord actor tenantId action ts' correlationId)
  · rw [← List.nil_append (_ :: _), boundaries_split (by rfl), boundaries_append,
      boundaries_without hmiddle]
    rcases haction with rfl | rfl <;> rfl
  · rcases haction with rfl | rfl <;> rfl
  · rcases haction with rfl | rfl <;> rfl
  · exact ⟨rfl, rfl, rfl⟩

/-- The start of a recovery that nothing ends. -/
theorem not_paired_of_start {ts : String} (hmiddle : WithoutRecovery middle)
    (htrail : trailOf events
      = eventRecord actor tenantId Events.onboardingRecoveryStarted ts correlationId
        :: middle) :
  ¬ RecoveryPaired events
  := by
  rw [RecoveryPaired, htrail]
  apply not_paired_of_single
  · rw [← List.nil_append (_ :: _), boundaries_split (by rfl), boundaries_without hmiddle]
    rfl
  · rfl

end Brackets

/-! ### The runs of a recovery -/

section Runs

variable (gate : ProvisioningVerificationService) {tenantId actor correlationId : String}
  {events : List ControlEvent}

/-- The run appends one record of a recovery, which ends it, as its last record. -/
def EndsRecovery (tenantId actor correlationId : String) (events : List ControlEvent) : Prop :=
  ∃ middle ts action, WithoutRecovery middle
    ∧ (action = Events.onboardingRecoveryCompleted ∨ action = Events.onboardingRecoveryFailed)
    ∧ trailOf events = middle ++ [eventRecord actor tenantId action ts correlationId]

/-- What runs between the start and the end of a recovery always ends it. -/
theorem asRecovery_runs {x : ControlProgram DistinctnessOutcome}
    (hx : x.Calls (spares recoveryActions)) {r : Except ControlError DistinctnessOutcome}
    (h : Runs (asRecovery tenantId actor correlationId x) events r) (hworks : SinkWorks events) :
  EndsRecovery tenantId actor correlationId events
  := by
  rcases runs_bind.mp h with ⟨before, after, outcome, rfl, hguarded, hend⟩ | ⟨e, rfl, hguarded⟩
  · obtain ⟨hbefore, hafter⟩ := sinkWorks_append.mp hworks
    obtain ⟨during, handling, e | a, rfl, hrun, hhandling⟩ := runs_andThen.mp hguarded
    · -- a handled exception is raised again, so it is no result
      obtain ⟨ts, rest, rfl, hraise, -⟩ := runs_recordEvent hhandling
        (sinkWorks_append.mp hbefore).2
      cases hraise.2
    · obtain ⟨rfl, -⟩ := hhandling
      obtain ⟨ts, rest, rfl, hpure, -⟩ := runs_recordEvent hend hafter
      obtain ⟨rfl, -⟩ := hpure
      use trailOf during, ts, if outcome.result = .verified
        then Events.onboardingRecoveryCompleted else Events.onboardingRecoveryFailed
      constructor
      · apply sparing hx hrun
      · constructor
        · split
          · exact .inl rfl
          · exact .inr rfl
        · simp
  · obtain ⟨during, handling, e' | a, rfl, hrun, hhandling⟩ := runs_andThen.mp hguarded
    · obtain ⟨ts, rest, rfl, hraise, -⟩ := runs_recordEvent hhandling
        (sinkWorks_append.mp hworks).2
      obtain ⟨rfl, -⟩ := hraise
      use trailOf during, ts, Events.onboardingRecoveryFailed
      constructor
      · apply sparing hx hrun
      · simp
    · cases hhandling.2

/-- `quarantine_tenant` returns exactly where no answer obstructs it. -/
theorem quarantineTenant_runs {r : Except ControlError TenantRecord}
    (h : Runs (TenantRegistry.quarantineTenant tenantId actor correlationId) events r)
    (hworks : SinkWorks events) :
  (∃ record, r = .ok record) ↔ ∀ e ∈ events, ¬ obstructsQuarantine e
  := by
  cases quarantineTenant_cases h hworks with
  | unread e => simp [obstructsQuarantine]
  | unknown e => simp [obstructsQuarantine]
  | held record hstate => simp [obstructsQuarantine, hstate]
  | illegal record e hstate => simpa [obstructsQuarantine] using hstate
  | unwritten record ts e hstate => simp [obstructsQuarantine]
  | written record persisted ts ts' hstate =>
      rcases List.mem_pair.mp hstate with hstate | hstate
      · simp [obstructsQuarantine, recording, hstate]
      · simp [obstructsQuarantine, recording, hstate]

/-- What `recover` runs after the start of the recovery. -/
def reclassify (tenantId actor correlationId : String) : ControlProgram DistinctnessOutcome := do
  let trail ← listAudit
  if anomalyHistory tenantId trail then do
    let _ ← TenantRegistry.quarantineTenant tenantId actor correlationId
    recordEvent tenantId Events.tenantQuarantined actor correlationId
    recordEvent tenantId Events.onboardingRecoveryFailed actor correlationId
    pure ⟨.isolationAnomaly, "anomaly_history"⟩
  else
    asRecovery tenantId actor correlationId (gate.verify tenantId actor correlationId)

/-- Where the tenant is reclassified the run ends the recovery, and where it is not, nothing
does. -/
theorem reclassify_runs {r : Except ControlError DistinctnessOutcome}
    (h : Runs (reclassify gate tenantId actor correlationId) events r)
    (hworks : SinkWorks events) :
  (Reclassifies tenantId events ∧ EndsRecovery tenantId actor correlationId events)
    ∨ (¬ Reclassifies tenantId events ∧ WithoutRecovery (trailOf events))
  := by
  rcases runs_perform_bind.mp h with ⟨trail, rest, rfl, hrest⟩ | ⟨e, rfl, rfl⟩
  · split at hrest
    · rename_i hanomaly
      rcases runs_bind.mp hrest with ⟨hold, after, record, rfl, hhold, hafter⟩ | ⟨e, rfl, hhold⟩
      · left
        obtain ⟨hworksHold, hworksAfter⟩ := sinkWorks_append.mp hworks.tail
        obtain ⟨ts, rest, rfl, hfailed, hworksAfter⟩ := runs_recordEvent hafter hworksAfter
        obtain ⟨ts', rest, rfl, hpure, -⟩ := runs_recordEvent hfailed hworksAfter
        obtain ⟨rfl, -⟩ := hpure
        constructor
        · intro _ e he
          rcases List.mem_append.mp he with he | he
          · apply (quarantineTenant_runs hhold hworksHold).mp ⟨record, rfl⟩ e he
          · simp only [recording, List.append_nil, List.cons_append, List.nil_append,
              List.mem_cons, List.not_mem_nil, or_false] at he
            rcases he with rfl | rfl | rfl | rfl <;> simp [obstructsQuarantine]
        · use trailOf hold
            ++ [eventRecord actor tenantId Events.tenantQuarantined ts correlationId],
            ts', Events.onboardingRecoveryFailed
          constructor
          · apply WithoutRecovery.append
            · apply sparing (transition_spares (by decide)) hhold
            · apply WithoutRecovery.single
              show Events.tenantQuarantined ∉ recoveryActions
              decide
          · simp [appended]
      · right
        constructor
        · intro hreclassifies
          have hreturns := (quarantineTenant_runs hhold hworks.tail).mpr (hreclassifies hanomaly)
          obtain ⟨record, hrecord⟩ := hreturns
          cases hrecord
        · apply sparing (transition_spares (by decide)) hhold
    · rename_i hanomaly
      left
      constructor
      · intro h
        contradiction
      · apply asRecovery_runs (verify_spares gate) hrest hworks.tail
  · right
    constructor
    · exact id
    · apply WithoutRecovery.nil

/-- A run of `recover` is refused before it appends anything, or starts a recovery and
reclassifies the tenant. -/
theorem recover_runs {r : Except ControlError DistinctnessOutcome}
    (h : Runs (recover gate tenantId actor correlationId) events r) (hworks : SinkWorks events) :
  (∃ a, events = [⟨.getTenant tenantId, a⟩])
    ∨ ∃ a ts rest, events = ⟨.getTenant tenantId, a⟩
        :: (recording (eventRecord actor tenantId Events.onboardingRecoveryStarted ts
          correlationId) ++ rest)
      ∧ Runs (reclassify gate tenantId actor correlationId) rest r ∧ SinkWorks rest
  := by
  rcases runs_perform_bind.mp h with ⟨record | record, rest, rfl, hrest⟩ | ⟨e, rfl, rfl⟩
  · obtain ⟨rfl, -⟩ := hrest
    left
    exact ⟨_, rfl⟩
  · simp only at hrest
    split at hrest
    · obtain ⟨rfl, -⟩ := hrest
      left
      exact ⟨_, rfl⟩
    · obtain ⟨ts, rest, rfl, hreclassify, hworks⟩ := runs_recordEvent hrest hworks.tail
      right
      exact ⟨_, ts, rest, rfl, hreclassify, hworks⟩
  · left
    exact ⟨_, rfl⟩

theorem recover_paired {r : Except ControlError DistinctnessOutcome}
    (h : Runs (recover gate tenantId actor correlationId) events r) (hworks : SinkWorks events)
    (hreclassifies : Reclassifies tenantId events) :
  RecoveryPaired events
  := by
  rcases recover_runs gate h hworks with ⟨a, rfl⟩ | ⟨a, ts, rest, rfl, hrest, hworksRest⟩
  · apply paired_of_lookup
  · rcases reclassify_runs gate hrest hworksRest with ⟨-, hends⟩ | ⟨hnot, -⟩
    · obtain ⟨middle, ts', action, hmiddle, haction, htrail⟩ := hends
      apply paired_of_bracket hmiddle haction
      rw [← htrail]
      rfl
    · exact absurd hreclassifies hnot

theorem reclassifies_of_paired {r : Except ControlError DistinctnessOutcome}
    (h : Runs (recover gate tenantId actor correlationId) events r) (hworks : SinkWorks events)
    (hpaired : RecoveryPaired events) :
  Reclassifies tenantId events
  := by
  rcases recover_runs gate h hworks with ⟨a, rfl⟩ | ⟨a, ts, rest, rfl, hrest, hworksRest⟩
  · trivial
  · rcases reclassify_runs gate hrest hworksRest with ⟨hreclassifies, -⟩ | ⟨-, hwithout⟩
    · apply hreclassifies
    · apply absurd hpaired
      apply not_paired_of_start hwithout
      rfl

/-- A resume ends the recovery it starts. -/
theorem resume_paired {record : TenantRecord} {target : String}
    {r : Except ControlError DistinctnessOutcome}
    (h : Runs (resume gate record target actor correlationId) events r)
    (hworks : SinkWorks events) :
  RecoveryPaired events
  := by
  obtain ⟨ts, rest, rfl, hrest, hworksRest⟩ := runs_recordEvent h hworks
  obtain ⟨middle, ts', action, hmiddle, haction, htrail⟩ :=
    asRecovery_runs (provisionApplyVerify_spares gate target _) hrest hworksRest
  apply paired_of_bracket hmiddle haction
  rw [← htrail]
  rfl

/-- A registration appends no record of a recovery. -/
theorem registerTenant_spares (registration : TenantRegistry.Registration) :
  (TenantRegistry.registerTenant tenantId registration actor correlationId).Calls
    (spares recoveryActions)
  := by
  rw [TenantRegistry.registerTenant]
  split
  · apply Calls.raise
  split
  · apply Calls.raise
  apply Calls.bind (perform_spares (.getTenant _) trivial)
  rintro (_ | existing)
  · apply Calls.bind (perform_spares .now trivial)
    intro ts
    apply Calls.bind (recordAudit_spares (by decide))
    intro _
    apply Calls.bind (perform_spares (.putTenant _) trivial)
    intro _
    apply Calls.pure
  · apply Calls.pure

theorem onboard_paired {organizationRef federationConfigRef expectedSchemaVersion : String}
    {r : Except ControlError DistinctnessOutcome}
    (h : Runs (onboard gate tenantId organizationRef federationConfigRef expectedSchemaVersion
      actor correlationId) events r)
    (hworks : SinkWorks events) :
  RecoveryPaired events
  := by
  have hfresh : ∀ {rest}, Runs (do
      let _ ← TenantRegistry.registerTenant tenantId
        ⟨organizationRef, expectedSchemaVersion, ⟨tenantDsnRef tenantId, "1"⟩,
          federationConfigRef⟩ actor correlationId
      let _ ← TenantRegistry.markProvisioning tenantId actor correlationId
      provisionApplyVerify gate tenantId (tenantDatabaseName tenantId)
        ⟨tenantDsnRef tenantId, "1"⟩ actor correlationId) rest r → RecoveryPaired rest := by
    intro rest hrest
    apply paired_without
    apply sparing _ hrest
    apply Calls.bind (registerTenant_spares _)
    intro _
    apply Calls.bind (transition_spares (by decide))
    intro _
    apply provisionApplyVerify_spares
  rcases runs_perform_bind.mp h with ⟨record | record, rest, rfl, hrest⟩ | ⟨e, rfl, rfl⟩
  · apply hfresh hrest
  · simp only at hrest
    split at hrest
    · apply hfresh hrest
    · obtain ⟨rfl, -⟩ := hrest
      apply paired_of_lookup
    · apply resume_paired gate hrest hworks.tail
    · obtain ⟨rfl, -⟩ := hrest
      apply paired_of_lookup
  · apply paired_of_lookup

/-- Where the sink works, `recover` ends the recovery it starts exactly where the tenant can be
reclassified, and `onboard` ends every recovery it starts. -/
theorem recovery_paired_iff (tenantId actor correlationId : String) :
  (∀ events r, Runs (recover gate tenantId actor correlationId) events r → SinkWorks events →
      (RecoveryPaired events ↔ Reclassifies tenantId events))
    ∧ ∀ organizationRef federationConfigRef expectedSchemaVersion events r,
      Runs (onboard gate tenantId organizationRef federationConfigRef expectedSchemaVersion
        actor correlationId) events r → SinkWorks events → RecoveryPaired events
  := by
  constructor
  · intro events r h hworks
    constructor
    · apply reclassifies_of_paired gate h hworks
    · apply recover_paired gate h hworks
  · intro organizationRef federationConfigRef expectedSchemaVersion events r h hworks
    apply onboard_paired gate h hworks

end Runs

/-! ### A tenant that cannot be quarantined -/

section Decommissioned

/-- The tenant in a state. -/
def tenantIn (state : TenantLifecycleState) : TenantRecord where
  tenantId := "a"
  organizationRef := "org"
  lifecycleState := state
  expectedSchemaVersion := "1"
  databaseAssociationRef := ⟨"tenant/a/dsn", "1"⟩
  federationConfigRef := "fed"
  createdAt := "t0"
  updatedAt := "t1"
  version := 3

/-- A failed tenant with an isolation anomaly in the trail is decommissioned by another call
between the two reads of its record. -/
def answersToRecover : List ControlEvent :=
  [⟨.getTenant "a", .ok (some (tenantIn .failed))⟩,
    ⟨.now, .ok "t2"⟩,
    ⟨.appendAudit (eventRecord "ops" "a" Events.onboardingRecoveryStarted "t2" "c"), .ok ()⟩,
    ⟨.listAudit, .ok [eventRecord "ops" "a" Events.isolationAnomaly "t1" "b"]⟩,
    ⟨.getTenant "a", .ok (some (tenantIn .decommissioned))⟩]

/-- A tenant that is ready is onboarded already. -/
def answersToOnboard : List ControlEvent :=
  [⟨.getTenant "a", .ok (some (tenantIn .ready))⟩]

theorem answersToRecover_run :
  Runs (recover default "a" "ops" "c") answersToRecover
      (.error (.registry "illegal lifecycle transition"))
    ∧ SinkWorks answersToRecover
  := by
  constructor
  · apply Runs.of_replay
    decide
  · simp [SinkWorks, answersToRecover, sinkAnswers]

/-- The theorem on these runs. -/
theorem recovery_paired_iff_decommissioned :
  (RecoveryPaired answersToRecover ↔ Reclassifies "a" answersToRecover)
    ∧ RecoveryPaired answersToOnboard
  := by
  constructor
  · apply (recovery_paired_iff default "a" "ops" "c").1 _ _ answersToRecover_run.1
      answersToRecover_run.2
  · apply (recovery_paired_iff default "a" "ops" "c").2 "org" "fed" "1" _
      (.ok ⟨.verified, "already_onboarded"⟩)
    · apply Runs.of_replay
      decide
    · simp [SinkWorks, answersToOnboard, sinkAnswers]

/-- The call raises, and its trail holds the start of a recovery and no end. -/
theorem recover_unpaired :
  Runs (recover default "a" "ops" "c") answersToRecover
      (.error (.registry "illegal lifecycle transition"))
    ∧ SinkWorks answersToRecover ∧ ¬ RecoveryPaired answersToRecover
  := by
  use answersToRecover_run.1, answersToRecover_run.2
  apply not_paired_of_start WithoutRecovery.nil
  rfl

end Decommissioned

end ControlPlane
