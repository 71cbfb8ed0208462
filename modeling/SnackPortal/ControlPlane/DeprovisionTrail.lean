import SnackPortal.ControlPlane.AuditTrail
import SnackPortal.ControlPlane.Deprovision

/-!
# The trail of a deprovision request

A request appends the start record and exactly one terminal record, whose verdict says whether
the database was dropped or found absent.  The marker of the isolation hold is appended for a
change of the stored state, except where another call puts the tenant into the hold between the
two last reads of its record: the quarantine then has nothing to do, and the marker is appended
all the same (`deprovision_reported_iff`).
-/

namespace ControlPlane

open Program RecoveryCompensationService

/-! ### The examination and its conclusion -/

/-- What the reads of a request come to. -/
inductive Examined where
  | refused (reason : String)
  | absent
  | droppable
deriving DecidableEq

/-- The reads of a request: everything before the drop. -/
def examine (service : RecoveryCompensationService) (tenantId target : String) :
    ControlProgram Examined := do
  match ← ownershipProof tenantId target with
  | some reason => pure (.refused reason)
  | none =>
  match ← databaseExists target with
  | none => pure (.refused reasonInspectionUnavailable)
  | some false => pure .absent
  | some true =>
  match ← inspectDatabase target with
  | none => pure (.refused reasonInspectionUnavailable)
  | some inspection => do
      let all ← evidenceExcluding noTenant
      if (all.lookup tenantId).any fun own => mismatches own target inspection.fingerprint then
        pure (.refused reasonFingerprintMismatch)
      else if classifyContent inspection service.supportedSchemaVersions = .nonEmpty then
        pure (.refused reasonContentNotEmpty)
      else
        match ← nonContentProof tenantId target (some inspection.fingerprint) with
        | some reason => pure (.refused reason)
        | none => pure .droppable

/-- What a request does after its reads. -/
def conclude (tenantId target actor correlationId : String) : Examined → Latched DeprovisionOutcome
  | .refused reason => fail tenantId target reason actor correlationId
  | .absent => complete tenantId target reasonAbsentNoop actor correlationId false
  | .droppable => do
      if !(← Latched.lift (OnboardingOrchestrator.succeeds (deprovisionDatabase target))) then
        fail tenantId target reasonDeprovisionFailed actor correlationId false
      else
        complete tenantId target reasonDeprovisioned actor correlationId true

theorem lift_pure_bind {α β : Type} (a : α) (f : α → Latched β) :
  Latched.lift (pure a) >>= f = f a
  := rfl

theorem lift_bind {α β γ : Type} (x : ControlProgram α) (f : α → ControlProgram β)
    (g : β → Latched γ) :
  Latched.lift (x >>= f) >>= g = Latched.lift x >>= fun a => Latched.lift (f a) >>= g
  := by
  funext latch
  induction x with
  | ret r => cases r <;> rfl
  | call op k ih =>
      apply congrArg (Program.call op)
      funext a
      apply ih a

/-- A request examines the database and concludes. -/
theorem provenDeprovision_eq (service : RecoveryCompensationService)
    (tenantId target actor correlationId : String) :
  service.provenDeprovision tenantId target actor correlationId
    = Latched.lift (examine service tenantId target)
      >>= conclude tenantId target actor correlationId
  := by
  rw [examine, lift_bind, provenDeprovision]
  congr 1
  funext proof
  cases proof with
  | some reason => rw [lift_pure_bind, conclude]
  | none =>
  simp only
  rw [lift_bind]
  congr 1
  funext existence
  rcases existence with _ | _ | _
  · rw [lift_pure_bind, conclude]
  · rw [lift_pure_bind, conclude]
  simp only
  rw [lift_bind]
  congr 1
  funext inspection
  cases inspection with
  | none => rw [lift_pure_bind, conclude]
  | some inspection =>
  simp only
  rw [lift_bind]
  congr 1
  funext all
  split
  · rw [lift_pure_bind, conclude]
  split
  · rw [lift_pure_bind, conclude]
  rw [lift_bind]
  congr 1
  funext proof
  cases proof with
  | some reason => rw [lift_pure_bind, conclude]
  | none => rw [lift_pure_bind, conclude]

/-! ### The runs of a request -/

section Runs

variable {tenantId target actor correlationId : String} {events : List ControlEvent}

/-- The run of a latched program that starts with one that does not look at the latch. -/
theorem runs_lift_bind {α β : Type} {x : ControlProgram α} {f : α → Latched β} {latch : Bool}
    {r : Except ControlError (Except ControlError β × Bool)}
    (h : Runs ((Latched.lift x >>= f) latch) events r) :
  (∃ before after a, events = before ++ after ∧ Runs x before (.ok a)
      ∧ Runs (f a latch) after r)
    ∨ ∃ e, r = .ok (.error e, latch) ∧ Runs x events (.error e)
  := by
  rcases runs_bind.mp h with ⟨before, after, ⟨ra, latch'⟩, rfl, hlift, hrest⟩ | ⟨e, rfl, hlift⟩
  · obtain ⟨during, _, rx, rfl, hx, rfl, hr⟩ := runs_andThen.mp hlift
    rw [List.append_nil] at *
    obtain ⟨rfl, rfl⟩ := Prod.mk.inj (Except.ok.inj hr)
    cases ra with
    | error e =>
        obtain ⟨rfl, rfl⟩ := hrest
        right
        use e, rfl
        rwa [List.append_nil]
    | ok a =>
        left
        exact ⟨during, after, a, rfl, hx, hrest⟩
  · obtain ⟨during, _, rx, rfl, hx, rfl, hr⟩ := runs_andThen.mp hlift
    cases hr

/-- The record of a terminal event of the request. -/
def terminalRecord (tenantId action actor correlationId ts : String) : List ControlEvent :=
  recording (eventRecord actor tenantId action ts correlationId)

variable (tenantId actor correlationId events) in
/-- A part of a request ends: it has run `calls` and then appended the terminal record, or it
has run `calls` and raised, with the latch not set and a failure to be recorded. -/
inductive Terminates (calls : List ControlEvent) (action : String) :
    Except ControlError (Except ControlError DeprovisionOutcome × Bool) → Prop
  | recorded (ts : String) (outcome : DeprovisionOutcome)
      (hevents : events = calls ++ terminalRecord tenantId action actor correlationId ts) :
      Terminates calls action (.ok (.ok outcome, true))
  | raised (e : ControlError) (hevents : events = calls)
      (haction : action = Events.tenantDeprovisionFailed) :
      Terminates calls action (.ok (.error e, false))

/-- What a request does after its reads, and the verdict it comes to. -/
inductive Concludes (tenantId target actor correlationId : String) :
    Except ControlError Examined → List ControlEvent → String → Prop
  | raised (e : ControlError) :
      Concludes tenantId target actor correlationId (.error e) [] Events.tenantDeprovisionFailed
  | refused (reason : String) (hold : List ControlEvent) (r : Except ControlError Unit)
      (hhold : Runs (holdAnomaly tenantId reason actor correlationId true) hold r) :
      Concludes tenantId target actor correlationId (.ok (.refused reason)) hold
        Events.tenantDeprovisionFailed
  | absent :
      Concludes tenantId target actor correlationId (.ok .absent) []
        Events.tenantDeprovisionCompleted
  | dropped :
      Concludes tenantId target actor correlationId (.ok .droppable)
        [⟨.deprovision target, .ok ()⟩] Events.tenantDeprovisionCompleted
  | undropped (e : ControlError) :
      Concludes tenantId target actor correlationId (.ok .droppable)
        [⟨.deprovision target, .error e⟩] Events.tenantDeprovisionFailed

/-- Where the sink works, a terminal record is appended, with the latch set. -/
theorem terminal_runs {action : String} {outcome : DeprovisionOutcome}
    {r : Except ControlError (Except ControlError DeprovisionOutcome × Bool)}
    (h : Runs ((Latched.attempt >>= fun _ =>
      Latched.lift (recordEvent tenantId action actor correlationId) >>= fun _ =>
        pure outcome) false) events r)
    (hworks : SinkWorks events) :
  ∃ ts, events = terminalRecord tenantId action actor correlationId ts
    ∧ r = .ok (.ok outcome, true)
  := by
  have hset : Runs ((Latched.lift (recordEvent tenantId action actor correlationId) >>= fun _ =>
      pure outcome) true) events r := h
  rcases runs_lift_bind hset with ⟨before, after, _, rfl, hrecord, rfl, rfl⟩ | ⟨e, rfl, hrecord⟩
  · rw [List.append_nil] at hworks ⊢
    obtain ⟨ts, rfl, -⟩ := recordEvent_runs hrecord hworks
    exact ⟨ts, rfl, rfl⟩
  · obtain ⟨ts, rfl, hr⟩ := recordEvent_runs hrecord hworks
    cases hr

/-- One call, answered or not. -/
theorem succeeds_runs {op : ControlOp} {r : Except ControlError Bool}
    (h : Runs (OnboardingOrchestrator.succeeds (Program.perform (S := controlSignature) op))
      events r) :
  (∃ a, events = [⟨op, .ok a⟩] ∧ r = .ok true) ∨ ∃ e, events = [⟨op, .error e⟩] ∧ r = .ok false
  := by
  obtain ⟨e | a, rest, rfl, rfl, rfl⟩ := h
  · right
    exact ⟨e, rfl, rfl⟩
  · left
    exact ⟨a, rfl, rfl⟩

theorem fail_runs {reason : String} {quarantine : Bool}
    {r : Except ControlError (Except ControlError DeprovisionOutcome × Bool)}
    (h : Runs (fail tenantId target reason actor correlationId quarantine false) events r)
    (hworks : SinkWorks events) :
  ∃ hold rh, Runs (holdAnomaly tenantId reason actor correlationId quarantine) hold rh
    ∧ Terminates tenantId actor correlationId events hold Events.tenantDeprovisionFailed r
  := by
  rcases runs_lift_bind h with ⟨hold, after, _, rfl, hhold, hafter⟩ | ⟨e, rfl, hhold⟩
  · obtain ⟨ts, rfl, rfl⟩ := terminal_runs hafter (sinkWorks_append.mp hworks).2
    exact ⟨hold, _, hhold, .recorded ts _ rfl⟩
  · exact ⟨events, .error e, hhold, .raised e rfl rfl⟩

theorem conclude_runs {examined : Examined}
    {r : Except ControlError (Except ControlError DeprovisionOutcome × Bool)}
    (h : Runs (conclude tenantId target actor correlationId examined false) events r)
    (hworks : SinkWorks events) :
  ∃ calls action, Concludes tenantId target actor correlationId (.ok examined) calls action
    ∧ Terminates tenantId actor correlationId events calls action r
  := by
  cases examined with
  | refused reason =>
      obtain ⟨hold, rh, hhold, hends⟩ := fail_runs h hworks
      exact ⟨hold, _, .refused reason hold rh hhold, hends⟩
  | absent =>
      obtain ⟨ts, rfl, rfl⟩ := terminal_runs h hworks
      exact ⟨[], _, .absent, .recorded ts _ rfl⟩
  | droppable =>
      rcases runs_lift_bind h with ⟨drop, after, succeeded, rfl, hdrop, hafter⟩ | ⟨e, rfl, hdrop⟩
      · have hworksAfter := (sinkWorks_append.mp hworks).2
        rcases succeeds_runs hdrop with ⟨_, rfl, hsucceeded⟩ | ⟨e, rfl, hsucceeded⟩
        · obtain rfl := Except.ok.inj hsucceeded
          obtain ⟨ts, rfl, rfl⟩ := terminal_runs hafter hworksAfter
          exact ⟨_, _, .dropped, .recorded ts _ rfl⟩
        · obtain rfl := Except.ok.inj hsucceeded
          obtain ⟨hold, rh, ⟨rfl, -⟩, hends⟩ := fail_runs hafter hworksAfter
          refine ⟨_, _, .undropped e, ?_⟩
          cases hends with
          | recorded ts outcome hevents => exact .recorded ts outcome (by rw [hevents]; rfl)
          | raised e hevents haction => exact .raised e (by rw [hevents]; rfl) haction
      · rcases succeeds_runs hdrop with ⟨_, -, hr⟩ | ⟨_, -, hr⟩
        · cases hr
        · cases hr

/-- An exception that no terminal record was attempted for is recorded as a failure. -/
theorem unattempted_runs {e : ControlError} {r : Except ControlError DeprovisionOutcome}
    (h : Runs (((recordEvent tenantId Events.tenantDeprovisionFailed actor correlationId).rescue
      fun _ => pure ()) >>= fun _ => Program.raise e) events r)
    (hworks : SinkWorks events) :
  ∃ ts, events
    = terminalRecord tenantId Events.tenantDeprovisionFailed actor correlationId ts
  := by
  obtain ⟨before, after, r', rfl, hguarded, hraise⟩ := runs_andThen.mp h
  obtain ⟨record, handling, r'', rfl, hrecord, hhandling⟩ := runs_andThen.mp hguarded
  obtain ⟨ts, rfl, rfl⟩ := recordEvent_runs hrecord
    (sinkWorks_append.mp (sinkWorks_append.mp hworks).1).1
  obtain ⟨rfl, rfl⟩ := hhandling
  obtain ⟨rfl, -⟩ := hraise
  use ts
  simp [terminalRecord]

/-- A request appends its start record, examines the database, concludes, and appends one
terminal record. -/
theorem deprovision_runs {service : RecoveryCompensationService}
    {r : Except ControlError DeprovisionOutcome}
    (h : Runs (service.deprovisionTenantDatabase tenantId actor correlationId) events r)
    (hworks : SinkWorks events) :
  ∃ ts examination examined calls action ts',
    Runs (examine service tenantId (tenantDatabaseName tenantId)) examination examined
      ∧ Concludes tenantId (tenantDatabaseName tenantId) actor correlationId examined calls action
      ∧ events = terminalRecord tenantId Events.tenantDeprovisionRequested actor correlationId ts
        ++ (examination ++ (calls ++ terminalRecord tenantId action actor correlationId ts'))
  := by
  obtain ⟨ts, rest, rfl, hrest, hworks⟩ := runs_recordEvent h hworks
  rcases runs_bind.mp hrest with ⟨before, after, ⟨outcome, attempted⟩, rfl, hproven, hafter⟩
    | ⟨e, rfl, hproven⟩
  · obtain ⟨hworksBefore, hworksAfter⟩ := sinkWorks_append.mp hworks
    rw [provenDeprovision_eq] at hproven
    rcases runs_lift_bind hproven with ⟨examination, conclusion, examined, rfl, hexamine, hconclude⟩
      | ⟨e, hr, hexamine⟩
    · obtain ⟨calls, action, hconcludes, hends⟩ :=
        conclude_runs hconclude (sinkWorks_append.mp hworksBefore).2
      cases hends with
      | recorded ts' outcome hevents =>
          obtain ⟨rfl, -⟩ := hafter
          refine ⟨ts, examination, _, calls, action, ts', hexamine, hconcludes, ?_⟩
          rw [hevents, List.append_nil]
          rfl
      | raised e hevents haction =>
          obtain ⟨ts', rfl⟩ := unattempted_runs hafter hworksAfter
          refine ⟨ts, examination, _, calls, action, ts', hexamine, hconcludes, ?_⟩
          rw [hevents, haction, List.append_assoc]
          rfl
    · obtain ⟨rfl, rfl⟩ := Prod.mk.inj (Except.ok.inj hr)
      obtain ⟨ts', rfl⟩ := unattempted_runs hafter hworksAfter
      exact ⟨ts, before, _, [], _, ts', hexamine, .raised e, rfl⟩
  · rw [provenDeprovision_eq] at hproven
    rcases runs_lift_bind hproven with ⟨_, conclusion, examined, rfl, -, hconclude⟩ | ⟨_, hr, -⟩
    · obtain ⟨_, _, -, hends⟩ := conclude_runs hconclude (sinkWorks_append.mp hworks).2
      cases hends
    · cases hr

end Runs

/-! ### The calls of the parts -/

/-- The calls of an examination are reads. -/
def examines : ControlOp → Prop
  | .getTenant _ | .controlDatabaseName | .evidenceExcluding _ | .databaseExists _
  | .inspectDatabase _ => True
  | _ => False

/-- The calls of a proof of ownership. -/
def provesOwnership : ControlOp → Prop
  | .getTenant _ | .controlDatabaseName | .evidenceExcluding _ => True
  | _ => False

/-- The calls of a hold: no record of the request itself is appended. -/
def holds : ControlOp → Prop
  | .getTenant _ | .now | .compareAndSwapTenant _ _ => True
  | .appendAudit record => record.action = "QuarantineTenant"
      ∨ record.action = Events.tenantQuarantined
  | _ => False

theorem ownershipProof_calls {p : ControlOp → Prop} (tenantId target : String)
    (hp : ∀ op, provesOwnership op → p op) :
  (ownershipProof tenantId target).Calls p
  := by
  apply Calls.bind
  · apply nonContentProof_calls
    · apply hp (.getTenant _) trivial
    · apply hp .controlDatabaseName trivial
    · exact fun t => hp (.evidenceExcluding t) trivial
  · rintro (_ | reason)
    · have hget := hp (.getTenant tenantId) trivial
      apply Calls.bind (Calls.perform (S := controlSignature) hget)
      rintro (_ | record)
      · apply Calls.pure
      · simp only
        split <;> apply Calls.pure
    · apply Calls.pure

theorem examines_of_proves {op : ControlOp} (h : provesOwnership op) :
  examines op
  := by
  cases op <;> trivial

theorem examine_calls (service : RecoveryCompensationService) (tenantId target : String) :
  (examine service tenantId target).Calls examines
  := by
  apply Calls.bind (ownershipProof_calls tenantId target fun _ => examines_of_proves)
  rintro (_ | reason)
  · apply Calls.bind (Calls.perform (S := controlSignature) trivial)
    rintro (_ | _ | _)
    · apply Calls.pure
    · apply Calls.pure
    · apply Calls.bind (Calls.perform (S := controlSignature) trivial)
      rintro (_ | inspection)
      · apply Calls.pure
      · apply Calls.bind (Calls.perform (S := controlSignature) trivial)
        intro all
        split
        · apply Calls.pure
        split
        · apply Calls.pure
        apply Calls.bind (nonContentProof_calls trivial trivial (fun _ => trivial) _ _)
        rintro (_ | reason) <;> apply Calls.pure
  · apply Calls.pure

theorem holdAnomaly_calls (tenantId reason actor correlationId : String) :
  (holdAnomaly tenantId reason actor correlationId true).Calls holds
  := by
  rw [holdAnomaly]
  split
  · apply Calls.bind (Calls.perform (S := controlSignature) trivial)
    rintro (_ | record)
    · apply Calls.pure
    · simp only
      split
      · apply Calls.bind
        · apply TenantRegistry.transition_calls trivial trivial (fun _ _ _ => trivial)
          exact fun _ haction => .inl haction
        · intro _
          apply recordAudit_calls trivial
          exact fun _ haction => .inr haction
      · apply Calls.pure
  · apply Calls.pure

/-- An examination appends no record, drops nothing and writes nothing. -/
theorem examines_silent {events : List ControlEvent} (h : ∀ e ∈ events, examines e.op) :
  trailOf events = []
  := by
  apply collected_eq_nil
  rintro ⟨op, a⟩ he
  have hop := h _ he
  cases op with
  | appendAudit _ => exact hop.elim
  | _ => rfl

theorem not_mem_of_proves {events : List ControlEvent}
    (h : ∀ e ∈ events, provesOwnership e.op) (target : String)
    (a : Except ControlError (Option Bool)) :
  ⟨.databaseExists target, a⟩ ∉ events
  := fun hmem => h _ hmem

/-- The examination finds the database absent exactly where the inspection port says so. -/
theorem examine_absent {service : RecoveryCompensationService} {tenantId target : String}
    {events : List ControlEvent} {r : Except ControlError Examined}
    (h : Runs (examine service tenantId target) events r) :
  ⟨.databaseExists target, .ok (some false)⟩ ∈ events ↔ r = .ok .absent
  := by
  have hown : ∀ {before : List ControlEvent} {r : Except ControlError (Option String)},
      Runs (ownershipProof tenantId target) before r →
        ∀ a, ⟨.databaseExists target, a⟩ ∉ before := by
    intro before r hbefore
    apply not_mem_of_proves
    apply Calls.of_runs (ownershipProof_calls tenantId target fun _ => id) hbefore
  have hlate : ∀ {before : List ControlEvent} {fingerprint : Option String}
      {r : Except ControlError (Option String)},
      Runs (nonContentProof tenantId target fingerprint) before r →
        ∀ a, ⟨.databaseExists target, a⟩ ∉ before := by
    intro before fingerprint r hbefore
    apply not_mem_of_proves
    have hcalls : (nonContentProof tenantId target fingerprint).Calls provesOwnership :=
      nonContentProof_calls trivial trivial (fun _ => trivial) target fingerprint
    apply hcalls.of_runs hbefore
  rcases runs_bind.mp h with ⟨before, after, proof, rfl, hproof, hexists⟩ | ⟨e, rfl, hproof⟩
  · rw [List.mem_append, or_iff_right (hown hproof _)]
    cases proof with
    | some reason =>
        obtain ⟨rfl, rfl⟩ := hexists
        simp
    | none =>
      rcases runs_perform_bind.mp hexists with ⟨existence, rest, rfl, hinspect⟩ | ⟨e, rfl, rfl⟩
      · rcases existence with _ | _ | _
        · obtain ⟨rfl, rfl⟩ := hinspect
          simp
        · obtain ⟨rfl, rfl⟩ := hinspect
          simp
        rcases runs_perform_bind.mp hinspect with ⟨inspection, rest, rfl, hledger⟩ | ⟨e, rfl, rfl⟩
        · cases inspection with
          | none =>
              obtain ⟨rfl, rfl⟩ := hledger
              simp
          | some inspection =>
            rcases runs_perform_bind.mp hledger with ⟨all, rest, rfl, hcensus⟩ | ⟨e, rfl, rfl⟩
            · split at hcensus
              · obtain ⟨rfl, rfl⟩ := hcensus
                simp
              split at hcensus
              · obtain ⟨rfl, rfl⟩ := hcensus
                simp
              rcases runs_bind.mp hcensus with ⟨before, after, proof, rfl, hfinal, hend⟩
                | ⟨e, rfl, hfinal⟩
              · have hnot := hlate hfinal
                cases proof with
                | some reason =>
                    obtain ⟨rfl, rfl⟩ := hend
                    simp [hnot]
                | none =>
                    obtain ⟨rfl, rfl⟩ := hend
                    simp [hnot]
              · simp [hlate hfinal]
            · simp
        · simp
      · simp
  · simp [hown hproof]

/-! ### The report of a request -/

/-- The record starts a request. -/
def requestStarts (record : ControlAuditRecord) : Bool :=
  record.action == Events.tenantDeprovisionRequested

/-- The record is a terminal record of a request. -/
def requestEnds (record : ControlAuditRecord) : Bool :=
  record.action == Events.tenantDeprovisionCompleted
    || record.action == Events.tenantDeprovisionFailed

/-- The stored state of the tenant is changed to quarantined in the run: a record read in
another state is written, over the version read, in that state. -/
def StoresQuarantine (tenantId : String) (events : List ControlEvent) : Prop :=
  ∃ record ts persisted, record.lifecycleState ≠ .quarantined
    ∧ ⟨.getTenant tenantId, .ok (some record)⟩ ∈ events
    ∧ ⟨.compareAndSwapTenant { record with lifecycleState := .quarantined, updatedAt := ts }
        record.version, .ok persisted⟩ ∈ events

/-- The trail of the run accounts for it: one start record, then exactly one terminal record,
completed exactly where the drop has succeeded or the database is absent, and a marker of the
hold only for a change of the stored state. -/
structure DeprovisionReported (tenantId : String) (events : List ControlEvent) : Prop where
  terminal : ∃ requested last,
    boundaries requestStarts requestEnds (trailOf events) = [requested, last]
      ∧ requestStarts requested ∧ requestEnds last
      ∧ requested.tenantId = some tenantId ∧ last.tenantId = some tenantId
      ∧ (last.action = Events.tenantDeprovisionCompleted ↔
        ⟨.deprovision (tenantDatabaseName tenantId), .ok ()⟩ ∈ events
          ∨ ⟨.databaseExists (tenantDatabaseName tenantId), .ok (some false)⟩ ∈ events)
  marker : ∀ record ∈ trailOf events, record.action = Events.tenantQuarantined →
    StoresQuarantine tenantId events

/-- The request is refused as an anomaly of a tenant that its record shows in a state with a way
into the hold, and the next read of the record, by the quarantine, shows it in the hold. -/
def QuarantinedMeanwhile (service : RecoveryCompensationService) (tenantId : String)
    (events : List ControlEvent) : Prop :=
  ∃ start examination reason record record' rest,
    events = start ++ (examination ++ (⟨.getTenant tenantId, .ok (some record)⟩
        :: ⟨.getTenant tenantId, .ok (some record')⟩ :: rest))
      ∧ start.length = 2
      ∧ Runs (examine service tenantId (tenantDatabaseName tenantId)) examination
        (.ok (.refused reason))
      ∧ reason ∈ anomalyReasons ∧ record.lifecycleState ∈ quarantineEligibleStates
      ∧ record'.lifecycleState = .quarantined

/-- What the hold of a refusal runs, where the sink works. -/
inductive HoldRuns (tenantId actor correlationId reason : String) : List ControlEvent → Prop
  | harmless (hreason : reason ∉ anomalyReasons) :
      HoldRuns tenantId actor correlationId reason []
  | ineligible (a : Except ControlError (Option TenantRecord))
      (hnot : ∀ record, a = .ok (some record) →
        record.lifecycleState ∉ quarantineEligibleStates) :
      HoldRuns tenantId actor correlationId reason [⟨.getTenant tenantId, a⟩]
  | raised (record : TenantRecord) (quarantine : List ControlEvent) (e : ControlError)
      (hruns : QuarantineRuns tenantId actor correlationId quarantine (.error e)) :
      HoldRuns tenantId actor correlationId reason
        (⟨.getTenant tenantId, .ok (some record)⟩ :: quarantine)
  | marked (hreason : reason ∈ anomalyReasons) (record persisted : TenantRecord)
      (quarantine : List ControlEvent) (ts : String)
      (heligible : record.lifecycleState ∈ quarantineEligibleStates)
      (hruns : QuarantineRuns tenantId actor correlationId quarantine (.ok persisted)) :
      HoldRuns tenantId actor correlationId reason
        (⟨.getTenant tenantId, .ok (some record)⟩ :: (quarantine
          ++ recording (eventRecord actor tenantId Events.tenantQuarantined ts correlationId)))

section Report

variable {service : RecoveryCompensationService} {tenantId actor correlationId : String}
  {events : List ControlEvent}

theorem holdAnomaly_cases {reason : String} {r : Except ControlError Unit}
    (h : Runs (holdAnomaly tenantId reason actor correlationId true) events r)
    (hworks : SinkWorks events) :
  HoldRuns tenantId actor correlationId reason events
  := by
  rw [holdAnomaly] at h
  split at h
  · rename_i hreason
    have hreason : reason ∈ anomalyReasons := by simpa using hreason
    rcases runs_perform_bind.mp h with ⟨record | record, rest, rfl, hrest⟩ | ⟨e, rfl, rfl⟩
    · obtain ⟨rfl, -⟩ := hrest
      apply HoldRuns.ineligible
      rintro record ⟨⟩
    · simp only at hrest
      split at hrest
      · rename_i heligible
        rcases runs_bind.mp hrest with ⟨quarantine, after, persisted, rfl, hquarantine, hmark⟩
          | ⟨e, rfl, hquarantine⟩
        · obtain ⟨hworksQuarantine, hworksAfter⟩ := sinkWorks_append.mp hworks.tail
          obtain ⟨ts, rfl, -⟩ := recordEvent_runs hmark hworksAfter
          apply HoldRuns.marked hreason record persisted quarantine ts heligible
          apply quarantineTenant_cases hquarantine hworksQuarantine
        · apply HoldRuns.raised record _ e
          apply quarantineTenant_cases hquarantine hworks.tail
      · rename_i hnot
        obtain ⟨rfl, -⟩ := hrest
        apply HoldRuns.ineligible
        rintro _ ⟨⟩
        apply hnot
    · apply HoldRuns.ineligible
      rintro record ⟨⟩
  · rename_i hreason
    obtain ⟨rfl, -⟩ := h
    apply HoldRuns.harmless
    simpa using hreason

/-- What a request does after its reads is the hold of a refusal, or the drop. -/
theorem Concludes.calls {examined : Except ControlError Examined} {calls : List ControlEvent}
    {target action : String}
    (h : Concludes tenantId target actor correlationId examined calls action) :
  ∀ e ∈ calls, holds e.op ∨ e.op = .deprovision target
  := by
  cases h with
  | raised e => exact List.forall_mem_nil _
  | refused reason _ r hhold =>
      intro e he
      left
      apply (holdAnomaly_calls tenantId reason actor correlationId).of_runs hhold e he
  | absent => exact List.forall_mem_nil _
  | dropped => exact List.forall_mem_singleton.mpr (.inr rfl)
  | undropped e => exact List.forall_mem_singleton.mpr (.inr rfl)

theorem Concludes.verdict {examined : Except ControlError Examined} {calls : List ControlEvent}
    {target action : String}
    (h : Concludes tenantId target actor correlationId examined calls action) :
  (action = Events.tenantDeprovisionCompleted ∨ action = Events.tenantDeprovisionFailed)
    ∧ (action = Events.tenantDeprovisionCompleted ↔
      ⟨.deprovision target, .ok ()⟩ ∈ calls ∨ examined = .ok .absent)
  := by
  have hnot : Events.tenantDeprovisionFailed ≠ Events.tenantDeprovisionCompleted := by decide
  cases h with
  | raised e => simp [hnot]
  | refused reason _ r hhold =>
      have hcalls := (holdAnomaly_calls tenantId reason actor correlationId).of_runs hhold
      have hundropped : ⟨.deprovision target, .ok ()⟩ ∉ calls := fun hmem => hcalls _ hmem
      simp [hnot, hundropped]
  | absent => simp
  | dropped => simp
  | undropped e => simp [hnot]

/-- The conclusion appends no record of the request itself. -/
theorem Concludes.boundaries {examined : Except ControlError Examined}
    {calls : List ControlEvent} {target action : String}
    (h : Concludes tenantId target actor correlationId examined calls action) :
  boundaries requestStarts requestEnds (trailOf calls) = []
  := by
  apply List.filter_eq_nil_iff.mpr
  intro record hrecord
  obtain ⟨⟨op, a⟩, he, happended⟩ := mem_collected.mp hrecord
  have hop := h.calls _ he
  cases op with
  | appendAudit record' =>
      cases a with
      | error _ => cases happended
      | ok _ =>
          obtain rfl := Option.some.inj happended
          rcases hop with (haction | haction) | hdrop
          · simp only [requestStarts, requestEnds, haction]
            decide
          · simp only [requestStarts, requestEnds, haction]
            decide
          · cases hdrop
  | _ => cases happended

/-- Whatever the ports answer, a request is accounted for by its terminal record. -/
theorem deprovision_terminal {r : Except ControlError DeprovisionOutcome}
    (h : Runs (service.deprovisionTenantDatabase tenantId actor correlationId) events r)
    (hworks : SinkWorks events) :
  ∃ requested last, boundaries requestStarts requestEnds (trailOf events) = [requested, last]
    ∧ requestStarts requested ∧ requestEnds last
    ∧ requested.tenantId = some tenantId ∧ last.tenantId = some tenantId
    ∧ (last.action = Events.tenantDeprovisionCompleted ↔
      ⟨.deprovision (tenantDatabaseName tenantId), .ok ()⟩ ∈ events
        ∨ ⟨.databaseExists (tenantDatabaseName tenantId), .ok (some false)⟩ ∈ events)
  := by
  obtain ⟨ts, examination, examined, calls, action, ts', hexamine, hconcludes, rfl⟩ :=
    deprovision_runs h hworks
  have hreads := (examine_calls service tenantId _).of_runs hexamine
  obtain ⟨haction, hverdict⟩ := hconcludes.verdict
  refine ⟨eventRecord actor tenantId Events.tenantDeprovisionRequested ts correlationId,
    eventRecord actor tenantId action ts' correlationId, ?_, rfl, ?_, rfl, rfl, ?_⟩
  · simp only [terminalRecord, trailOf_append, trailOf_recording, examines_silent hreads,
      List.nil_append, boundaries_append, hconcludes.boundaries]
    rcases haction with rfl | rfl <;> rfl
  · rcases haction with rfl | rfl <;> rfl
  · have hundropped : ⟨.deprovision (tenantDatabaseName tenantId), .ok ()⟩ ∉ examination :=
      fun hmem => hreads _ hmem
    have hexists : ⟨.databaseExists (tenantDatabaseName tenantId), .ok (some false)⟩ ∉ calls := by
      intro hmem
      rcases hconcludes.calls _ hmem with hholds | hdrop
      · apply hholds
      · cases hdrop
    apply hverdict.trans
    simp [terminalRecord, recording, hundropped, hexists, examine_absent hexamine]

theorem read_of_head {record record' : TenantRecord} {rest rest' : List ControlEvent}
    (h : (⟨.getTenant tenantId, .ok (some record)⟩ : ControlEvent) :: rest
      = ⟨.getTenant tenantId, .ok (some record')⟩ :: rest') :
  record = record'
  := by
  simp only [List.cons.injEq, Event.mk.injEq, heq_eq_eq, true_and, Except.ok.injEq,
    Option.some.injEq] at h
  apply h.1

/-- A quarantine that reads the tenant in the hold returns it and does nothing else. -/
theorem QuarantineRuns.of_head {r : Except ControlError TenantRecord}
    (h : QuarantineRuns tenantId actor correlationId events r) {after rest : List ControlEvent}
    {record : TenantRecord}
    (hhead : events ++ after = ⟨.getTenant tenantId, .ok (some record)⟩ :: rest)
    (hheld : record.lifecycleState = .quarantined) :
  events = [⟨.getTenant tenantId, .ok (some record)⟩] ∧ r = .ok record
  := by
  cases h with
  | unread e => simp at hhead
  | unknown e => simp at hhead
  | held record' hstate =>
      obtain rfl := read_of_head hhead
      exact ⟨rfl, rfl⟩
  | illegal record' e hstate =>
      obtain rfl := read_of_head hhead
      simp [hheld] at hstate
  | unwritten record' ts e hstate =>
      obtain rfl := read_of_head hhead
      simp [hheld] at hstate
  | written record' persisted ts ts' hstate =>
      obtain rfl := read_of_head hhead
      simp [hheld] at hstate

/-- A hold that appends a record has stored the quarantine, or has found the tenant in the
hold. -/
theorem HoldRuns.marker {reason : String} (h : HoldRuns tenantId actor correlationId reason events)
    {record : ControlAuditRecord} (hrecord : record ∈ trailOf events) :
  StoresQuarantine tenantId events
    ∨ reason ∈ anomalyReasons ∧ ∃ record record' rest,
      events = ⟨.getTenant tenantId, .ok (some record)⟩
          :: ⟨.getTenant tenantId, .ok (some record')⟩ :: rest
        ∧ record.lifecycleState ∈ quarantineEligibleStates
        ∧ record'.lifecycleState = .quarantined
  := by
  cases h with
  | harmless hreason => cases hrecord
  | ineligible a hnot => cases hrecord
  | raised record' quarantine e hruns =>
      cases hruns <;> cases hrecord
  | marked hreason record' persisted quarantine ts heligible hruns =>
      cases hruns with
      | held _ hstate =>
          right
          exact ⟨hreason, record', persisted, _, rfl, heligible, hstate⟩
      | written record'' _ ts' ts'' hstate =>
          left
          refine ⟨record'', ts', persisted, ?_, ?_, ?_⟩
          · intro hheld
            rw [hheld] at hstate
            revert hstate
            decide
          · simp
          · simp

/-- The marker of a request is for a change of the stored state, unless the tenant was put into
the hold meanwhile. -/
theorem deprovision_marker {r : Except ControlError DeprovisionOutcome}
    (h : Runs (service.deprovisionTenantDatabase tenantId actor correlationId) events r)
    (hworks : SinkWorks events) (hnot : ¬ QuarantinedMeanwhile service tenantId events) :
  ∀ record ∈ trailOf events, record.action = Events.tenantQuarantined →
    StoresQuarantine tenantId events
  := by
  obtain ⟨ts, examination, examined, calls, action, ts', hexamine, hconcludes, rfl⟩ :=
    deprovision_runs h hworks
  have hreads := (examine_calls service tenantId _).of_runs hexamine
  have hworksCalls : SinkWorks calls :=
    (sinkWorks_append.mp (sinkWorks_append.mp (sinkWorks_append.mp hworks).2).2).1
  intro record hrecord haction
  simp only [terminalRecord, trailOf_append, trailOf_recording, examines_silent hreads,
    List.nil_append, List.mem_append, List.mem_singleton] at hrecord
  have hcalls : record ∈ trailOf calls := by
    have hrequested : Events.tenantDeprovisionRequested ≠ Events.tenantQuarantined := by decide
    have hcompleted : Events.tenantDeprovisionCompleted ≠ Events.tenantQuarantined := by decide
    have hfailed : Events.tenantDeprovisionFailed ≠ Events.tenantQuarantined := by decide
    rcases hrecord with rfl | hcalls | rfl
    · apply absurd haction hrequested
    · apply hcalls
    · rcases hconcludes.verdict.1 with rfl | rfl
      · apply absurd haction hcompleted
      · apply absurd haction hfailed
  cases hconcludes with
  | refused reason _ r hhold =>
      rcases (holdAnomaly_cases hhold hworksCalls).marker hcalls with hstores
        | ⟨hreason, before, after, rest, rfl, heligible, hheld⟩
      · obtain ⟨stored, ts, persisted, hstate, hget, hswap⟩ := hstores
        refine ⟨stored, ts, persisted, hstate, ?_, ?_⟩
        · simp [hget]
        · simp [hswap]
      · apply absurd _ hnot
        exact ⟨terminalRecord tenantId _ actor correlationId ts, examination, reason, before,
          after, _, rfl, rfl, hexamine, hreason, heligible, hheld⟩
  | _ => cases hcalls

/-- Where the tenant was put into the hold meanwhile, the marker is appended and nothing is
stored. -/
theorem not_reported_of_meanwhile {r : Except ControlError DeprovisionOutcome}
    (h : Runs (service.deprovisionTenantDatabase tenantId actor correlationId) events r)
    (hworks : SinkWorks events) (hmeanwhile : QuarantinedMeanwhile service tenantId events) :
  ¬ DeprovisionReported tenantId events
  := by
  obtain ⟨ts, examination, examined, calls, action, ts', hexamine, hconcludes, rfl⟩ :=
    deprovision_runs h hworks
  have hreads := (examine_calls service tenantId _).of_runs hexamine
  have hworksCalls : SinkWorks calls :=
    (sinkWorks_append.mp (sinkWorks_append.mp (sinkWorks_append.mp hworks).2).2).1
  obtain ⟨start, examination', reason, record, record', rest, heq, hlength, hexamine', hreason,
    heligible, hheld⟩ := hmeanwhile
  obtain ⟨rfl, hafter⟩ := List.append_inj heq hlength.symm
  obtain ⟨rfl, hexamined, hcalls⟩ := hexamine.unique hexamine' hafter
  subst hexamined
  cases hconcludes with
  | refused _ _ r hhold =>
      cases holdAnomaly_cases hhold hworksCalls with
      | harmless hharmless => exact absurd hreason hharmless
      | ineligible a hineligible =>
          obtain ⟨hget, -⟩ := List.cons.inj hcalls
          simp only [Event.mk.injEq, heq_eq_eq, true_and] at hget
          exact absurd heligible (hineligible record hget)
      | raised before quarantine e hruns =>
          obtain ⟨-, hquarantine⟩ := List.cons.inj hcalls
          obtain ⟨-, hr⟩ := hruns.of_head hquarantine hheld
          cases hr
      | marked _ before persisted quarantine tm _ hruns =>
          rw [List.cons_append, List.append_assoc] at hcalls
          obtain ⟨-, hquarantine⟩ := List.cons.inj hcalls
          obtain ⟨rfl, -⟩ := hruns.of_head hquarantine hheld
          intro hreported
          obtain ⟨stored, ts'', persisted', -, -, hswap⟩ := hreported.marker
            (eventRecord actor tenantId Events.tenantQuarantined tm correlationId) (by simp) rfl
          have hunwritten : ∀ updated v a, ⟨.compareAndSwapTenant updated v, a⟩ ∉ examination :=
            fun _ _ _ hmem => hreads _ hmem
          simp [terminalRecord, recording, hunwritten] at hswap

/-- Where the sink works, a request is accounted for exactly where the tenant is not put into
the hold between the two last reads of its record. -/
theorem deprovision_reported_iff (service : RecoveryCompensationService)
    (tenantId actor correlationId : String) (events : List ControlEvent)
    (r : Except ControlError DeprovisionOutcome)
    (h : Runs (service.deprovisionTenantDatabase tenantId actor correlationId) events r)
    (hworks : SinkWorks events) :
  DeprovisionReported tenantId events ↔ ¬ QuarantinedMeanwhile service tenantId events
  := by
  constructor
  · intro hreported hmeanwhile
    apply not_reported_of_meanwhile h hworks hmeanwhile hreported
  · intro hnot
    constructor
    · apply deprovision_terminal h hworks
    · apply deprovision_marker h hworks hnot

end Report

/-! ### A tenant put into the hold meanwhile -/

section Meanwhile

/-- The answers to a request for the failed tenant, whose database holds rows.  Another call
puts the tenant into the hold between the refusal's read of the record and the read of the
quarantine. -/
def answersToRefuse : List ControlEvent :=
  terminalRecord "a" Events.tenantDeprovisionRequested "ops" "c" "t2"
    ++ [⟨.getTenant "a", .ok (some failedTenant)⟩,
      ⟨.controlDatabaseName, .ok (some "snackportal_control")⟩,
      ⟨.evidenceExcluding "a", .ok []⟩,
      ⟨.getTenant "a", .ok (some failedTenant)⟩,
      ⟨.databaseExists "sp2_tenant_a", .ok (some true)⟩,
      ⟨.inspectDatabase "sp2_tenant_a",
        .ok (some ⟨"sp2_tenant_a", "sys", "1", [("public.startups", 3)], 0, 0, []⟩)⟩,
      ⟨.evidenceExcluding "", .ok []⟩,
      ⟨.getTenant "a", .ok (some failedTenant)⟩,
      ⟨.getTenant "a", .ok (some { failedTenant with lifecycleState := .quarantined })⟩]
    ++ terminalRecord "a" Events.tenantQuarantined "ops" "c" "t3"
    ++ terminalRecord "a" Events.tenantDeprovisionFailed "ops" "c" "t4"

theorem answersToRefuse_run :
  Runs ((⟨["1"]⟩ : RecoveryCompensationService).deprovisionTenantDatabase "a" "ops" "c")
      answersToRefuse (.ok ⟨"a", "sp2_tenant_a", false, false, reasonContentNotEmpty⟩)
    ∧ SinkWorks answersToRefuse
  := by
  constructor
  · apply Runs.of_replay
    decide
  · simp [SinkWorks, answersToRefuse, terminalRecord, recording, sinkAnswers]

/-- The theorem on this run. -/
theorem deprovision_reported_iff_refused :
  DeprovisionReported "a" answersToRefuse
    ↔ ¬ QuarantinedMeanwhile ⟨["1"]⟩ "a" answersToRefuse
  := deprovision_reported_iff ⟨["1"]⟩ "a" "ops" "c" _ _ answersToRefuse_run.1
    answersToRefuse_run.2

/-- The request appends the marker of the hold and writes nothing into the registry. -/
theorem deprovision_unreported :
  Runs ((⟨["1"]⟩ : RecoveryCompensationService).deprovisionTenantDatabase "a" "ops" "c")
      answersToRefuse (.ok ⟨"a", "sp2_tenant_a", false, false, reasonContentNotEmpty⟩)
    ∧ SinkWorks answersToRefuse ∧ ¬ DeprovisionReported "a" answersToRefuse
  := by
  use answersToRefuse_run.1, answersToRefuse_run.2
  intro hreported
  obtain ⟨stored, ts, persisted, -, -, hswap⟩ := hreported.marker
    (eventRecord "ops" "a" Events.tenantQuarantined "t3" "c") (by decide) rfl
  simp [answersToRefuse, terminalRecord, recording] at hswap

end Meanwhile

end ControlPlane
