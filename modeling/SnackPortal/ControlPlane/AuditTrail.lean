import SnackPortal.Program.Runs
import SnackPortal.ControlPlane.Onboarding

/-!
# The audit trail of a call

The records that one call of the control plane appends, read off its run, where the audit sink
works.  Each part of a call appends records of its own few actions and spares all others.
-/

namespace ControlPlane

open Program

/-- The record a call appends to the audit trail. -/
def appended : ControlEvent → Option ControlAuditRecord
  | ⟨.appendAudit record, .ok _⟩ => some record
  | _ => none

/-- The records appended in a run, in their order. -/
def trailOf (events : List ControlEvent) : List ControlAuditRecord :=
  collected appended events

/-- The call is not one on the clock or the audit sink that fails. -/
def sinkAnswers : ControlEvent → Prop
  | ⟨.now, .error _⟩ | ⟨.appendAudit _, .error _⟩ => False
  | _ => True

/-- The audit sink works throughout the run: it appends every record. -/
def SinkWorks (events : List ControlEvent) : Prop :=
  ∀ e ∈ events, sinkAnswers e

theorem sinkWorks_append {before after : List ControlEvent} :
  SinkWorks (before ++ after) ↔ SinkWorks before ∧ SinkWorks after
  := List.forall_mem_append

theorem SinkWorks.head {e : ControlEvent} {events : List ControlEvent}
    (h : SinkWorks (e :: events)) :
  sinkAnswers e
  := h e List.mem_cons_self

theorem SinkWorks.tail {e : ControlEvent} {events : List ControlEvent}
    (h : SinkWorks (e :: events)) :
  SinkWorks events
  := fun e' he => h e' (List.mem_cons_of_mem e he)

/-- The audit record of an event that changes no lifecycle state. -/
def eventRecord (actor tenantId action timestamp correlationId : String) : ControlAuditRecord :=
  ⟨actor, some tenantId, action, none, none, timestamp, correlationId⟩

/-- The calls of one audit record. -/
def recording (record : ControlAuditRecord) : List ControlEvent :=
  [⟨.now, .ok record.timestamp⟩, ⟨.appendAudit record, .ok ()⟩]

@[simp] theorem trailOf_append (before after : List ControlEvent) :
  trailOf (before ++ after) = trailOf before ++ trailOf after
  := collected_append before after

@[simp] theorem trailOf_recording (record : ControlAuditRecord) :
  trailOf (recording record) = [record]
  := rfl

@[simp] theorem trailOf_cons (e : ControlEvent) (events : List ControlEvent) :
  trailOf (e :: events) = (appended e).toList ++ trailOf events
  := by
  rw [trailOf, collected, List.filterMap_cons]
  cases appended e <;> rfl

section Recording

variable {actor action correlationId : String} {fromState toState : Option String}
  {events : List ControlEvent}

/-- Where the sink works, an audit write appends its record and the call goes on. -/
theorem runs_recordAudit {α : Type} {tenantId : Option String} {f : Unit → ControlProgram α}
    {r : Except ControlError α}
    (h : Runs (recordAudit actor tenantId action fromState toState correlationId >>= f) events r)
    (hworks : SinkWorks events) :
  ∃ ts rest, events
      = recording ⟨actor, tenantId, action, fromState, toState, ts, correlationId⟩ ++ rest
    ∧ Runs (f ()) rest r ∧ SinkWorks rest
  := by
  rw [recordAudit, bind_assoc] at h
  rcases runs_perform_bind.mp h with ⟨ts, rest, rfl, happend⟩ | ⟨e, rfl, rfl⟩
  · rcases runs_perform_bind.mp happend with ⟨_, rest, rfl, hrest⟩ | ⟨e, rfl, rfl⟩
    · exact ⟨ts, rest, rfl, hrest, hworks.tail.tail⟩
    · apply hworks.tail.head.elim
  · apply hworks.head.elim

/-- Where the sink works, an event is appended and the call goes on. -/
theorem runs_recordEvent {α : Type} {tenantId : String} {f : Unit → ControlProgram α}
    {r : Except ControlError α}
    (h : Runs (recordEvent tenantId action actor correlationId >>= f) events r)
    (hworks : SinkWorks events) :
  ∃ ts rest, events = recording (eventRecord actor tenantId action ts correlationId) ++ rest
    ∧ Runs (f ()) rest r ∧ SinkWorks rest
  := runs_recordAudit h hworks

/-- Where the sink works, the recording of an event returns. -/
theorem recordEvent_runs {tenantId : String} {r : Except ControlError Unit}
    (h : Runs (recordEvent tenantId action actor correlationId) events r)
    (hworks : SinkWorks events) :
  ∃ ts, events = recording (eventRecord actor tenantId action ts correlationId) ∧ r = .ok ()
  := by
  rw [← bind_pure (recordEvent tenantId action actor correlationId)] at h
  obtain ⟨ts, rest, rfl, ⟨rfl, rfl⟩, -⟩ := runs_recordEvent h hworks
  use ts
  rw [List.append_nil]
  exact ⟨rfl, rfl⟩

end Recording

/-! ### Records of other actions -/

/-- The call appends no record of these actions. -/
def spares (actions : List String) : ControlOp → Prop
  | .appendAudit record => record.action ∉ actions
  | _ => True

section Spares

variable {actions : List String}

theorem spares_append {action : String} (h : action ∉ actions) (record : ControlAuditRecord)
    (haction : record.action = action) :
  spares actions (.appendAudit record)
  := by
  rw [spares, haction]
  apply h

theorem recordAudit_spares {actor action correlationId : String} {tenantId : Option String}
    {fromState toState : Option String} (h : action ∉ actions) :
  (recordAudit actor tenantId action fromState toState correlationId).Calls (spares actions)
  := recordAudit_calls trivial (spares_append h)

theorem recordEvent_spares {actor tenantId action correlationId : String}
    (h : action ∉ actions) :
  (recordEvent tenantId action actor correlationId).Calls (spares actions)
  := recordAudit_spares h

/-- A call that appends no record at all. -/
theorem perform_spares (op : ControlOp) (h : spares actions op) :
  (perform op : ControlProgram _).Calls (spares actions)
  := Calls.perform (S := controlSignature) h

/-- A run of calls that spare the actions appends no record of them. -/
theorem sparing {α : Type} {x : ControlProgram α} (hx : x.Calls (spares actions))
    {events : List ControlEvent} {r : Except ControlError α} (h : x.Runs events r) :
  ∀ record ∈ trailOf events, record.action ∉ actions
  := by
  intro record hrecord
  obtain ⟨e, he, happended⟩ := mem_collected.mp hrecord
  have hspares := hx.of_runs h e he
  obtain ⟨op, a⟩ := e
  cases op with
  | appendAudit record' =>
      cases a with
      | ok _ =>
          obtain rfl := Option.some.inj happended
          apply hspares
      | error _ => cases happended
  | _ => cases happended

/-- A lifecycle transition of the registry appends its own action only. -/
theorem transition_spares {tenantId action actor correlationId : String}
    {toState : TenantLifecycleState} {allowedFrom : List TenantLifecycleState}
    (h : action ∉ actions) :
  (TenantRegistry.transition tenantId toState allowedFrom action actor correlationId).Calls
    (spares actions)
  := TenantRegistry.transition_calls trivial trivial (fun _ _ _ => trivial) (spares_append h)

end Spares

/-! ### The quarantine of a tenant -/

/-- What a quarantine runs, where the sink works: it reads the record, and returns it when the
tenant is held already, or writes it over the version read and appends its audit record. -/
inductive QuarantineRuns (tenantId actor correlationId : String) :
    List ControlEvent → Except ControlError TenantRecord → Prop
  | unread (e : ControlError) :
      QuarantineRuns tenantId actor correlationId [⟨.getTenant tenantId, .error e⟩] (.error e)
  | unknown (e : ControlError) :
      QuarantineRuns tenantId actor correlationId [⟨.getTenant tenantId, .ok none⟩] (.error e)
  | held (record : TenantRecord) (hstate : record.lifecycleState = .quarantined) :
      QuarantineRuns tenantId actor correlationId [⟨.getTenant tenantId, .ok (some record)⟩]
        (.ok record)
  | illegal (record : TenantRecord) (e : ControlError)
      (hstate : record.lifecycleState ∉
        [TenantLifecycleState.quarantined, .provisioning, .failed]) :
      QuarantineRuns tenantId actor correlationId [⟨.getTenant tenantId, .ok (some record)⟩]
        (.error e)
  | unwritten (record : TenantRecord) (ts : String) (e : ControlError)
      (hstate : record.lifecycleState ∈ [TenantLifecycleState.provisioning, .failed]) :
      QuarantineRuns tenantId actor correlationId
        [⟨.getTenant tenantId, .ok (some record)⟩, ⟨.now, .ok ts⟩,
          ⟨.compareAndSwapTenant { record with lifecycleState := .quarantined, updatedAt := ts }
            record.version, .error e⟩] (.error e)
  | written (record persisted : TenantRecord) (ts ts' : String)
      (hstate : record.lifecycleState ∈ [TenantLifecycleState.provisioning, .failed]) :
      QuarantineRuns tenantId actor correlationId
        (⟨.getTenant tenantId, .ok (some record)⟩ :: ⟨.now, .ok ts⟩
          :: ⟨.compareAndSwapTenant { record with lifecycleState := .quarantined, updatedAt := ts }
            record.version, .ok persisted⟩
          :: recording ⟨actor, some tenantId, "QuarantineTenant",
            some record.lifecycleState.value, some TenantLifecycleState.quarantined.value, ts',
            correlationId⟩) (.ok persisted)

theorem quarantineTenant_cases {tenantId actor correlationId : String}
    {events : List ControlEvent} {r : Except ControlError TenantRecord}
    (h : Runs (TenantRegistry.quarantineTenant tenantId actor correlationId) events r)
    (hworks : SinkWorks events) :
  QuarantineRuns tenantId actor correlationId events r
  := by
  rw [TenantRegistry.quarantineTenant, TenantRegistry.transition, if_neg (by decide)] at h
  rcases runs_perform_bind.mp h with ⟨record | record, rest, rfl, hrest⟩ | ⟨e, rfl, rfl⟩
  · obtain ⟨rfl, rfl⟩ := hrest
    apply QuarantineRuns.unknown
  · simp only at hrest
    split at hrest
    · rename_i hstate
      obtain ⟨rfl, rfl⟩ := hrest
      apply QuarantineRuns.held record hstate
    · rename_i hstate
      split at hrest
      · rename_i hillegal
        obtain ⟨rfl, rfl⟩ := hrest
        apply QuarantineRuns.illegal record
        intro hmem
        rcases List.mem_cons.mp hmem with hheld | hlegal
        · apply hstate hheld
        · apply hillegal hlegal
      · rename_i hlegal
        have hlegal := not_not.mp hlegal
        rcases runs_perform_bind.mp hrest with ⟨ts, rest, rfl, hswap⟩ | ⟨e, rfl, rfl⟩
        · rcases runs_perform_bind.mp hswap with ⟨persisted, rest, rfl, haudit⟩ | ⟨e, rfl, rfl⟩
          · obtain ⟨ts', rest, rfl, hpure, -⟩ := runs_recordAudit haudit hworks.tail.tail.tail
            obtain ⟨rfl, rfl⟩ := hpure
            rw [List.append_nil]
            apply QuarantineRuns.written record persisted ts ts' hlegal
          · apply QuarantineRuns.unwritten record ts e hlegal
        · apply hworks.tail.head.elim
  · apply QuarantineRuns.unread

end ControlPlane
