import SnackPortal.ControlPlane.Recovery

/-!
# Every drop is proven

Whatever the ports answer, a deprovision request drops at most one database, that of its
tenant, and only after reads that prove the ownership and that follow a census without content
(`deprovision_proven`).
-/

namespace ControlPlane

open Program RecoveryCompensationService

/-- The history, the latest call first, ends with the reads that prove the drop: the census with
the reads that follow it, and before the census a canonical association reference. -/
inductive Proven (supportedSchemaVersions : List String) (tenantId target : String) :
    List ControlEvent → Prop where
  | reads {record : TenantRecord} {controlName : String}
      {others all own : List (String × DistinctnessEvidence)} {inspection : DatabaseInspection}
      {early : List ControlEvent} {registered : TenantRecord}
      (eligible : record.lifecycleState ∈ deprovisionEligibleStates)
      (control : target ≠ controlName)
      (elsewhere : ∀ e ∈ others,
        e.2.observedTarget ≠ target ∧ e.2.fingerprint ≠ inspection.fingerprint)
      (recorded : ∀ e ∈ all.lookup tenantId,
        e.fingerprint = inspection.fingerprint ∧ e.observedTarget = target)
      (census : classifyContent inspection supportedSchemaVersions ≠ .nonEmpty)
      (canonical : ⟨.getTenant tenantId, .ok (some registered)⟩ ∈ early
        ∧ tenantIdFromDsnRef registered.databaseAssociationRef.storeRef = some tenantId) :
      Proven supportedSchemaVersions tenantId target
        (⟨.evidenceExcluding noTenant, .ok all⟩ :: ⟨.evidenceExcluding tenantId, .ok others⟩
          :: ⟨.controlDatabaseName, .ok (some controlName)⟩
          :: ⟨.getTenant tenantId, .ok (some record)⟩ :: ⟨.evidenceExcluding noTenant, .ok own⟩
          :: ⟨.inspectDatabase target, .ok (some inspection)⟩ :: early)

/-- No database has been dropped. -/
def Undropped (h : List ControlEvent) : Prop :=
  ∀ e ∈ h, ∀ target, e.op ≠ .deprovision target

/-- The calls a deprovision request makes apart from the drop. -/
def keepsRecords : ControlOp → Prop
  | .deprovision _ => False
  | .putTenant _ => False
  | .compareAndSwapTenant updated _ => updated.lifecycleState = .quarantined
  | _ => True

/-- The condition on the calls of a deprovision request. -/
def dropsProven (supportedSchemaVersions : List String) (tenantId : String)
    (h : List ControlEvent) (op : ControlOp) : Prop :=
  keepsRecords op ∨ op = .deprovision (tenantDatabaseName tenantId)
    ∧ Proven supportedSchemaVersions tenantId (tenantDatabaseName tenantId) h ∧ Undropped h

theorem Undropped.cons {h : List ControlEvent} (hh : Undropped h) {e : ControlEvent}
    (he : keepsRecords e.op) :
  Undropped (e :: h)
  := by
  intro e' he' target htarget
  rcases List.mem_cons.mp he' with rfl | he'
  · rw [htarget] at he
    apply he
  · apply hh e' he' target htarget

theorem Undropped.append {h events : List ControlEvent} (hh : Undropped h)
    (hevents : ∀ e ∈ events, keepsRecords e.op) :
  Undropped (events ++ h)
  := by
  induction events with
  | nil => apply hh
  | cons e events ih =>
      apply Undropped.cons
      · apply ih fun e' he' => hevents e' (List.mem_cons_of_mem _ he')
      · apply hevents e List.mem_cons_self

section Requests

variable {supported : List String} {tenantId : String}

/-- A program that drops nothing. -/
theorem guarded_calls {α : Type} {x : ControlProgram α} (hx : x.Calls keepsRecords)
    (h : List ControlEvent) :
  Guarded (dropsProven supported tenantId)
    (fun _ h' => ∃ events, h' = events ++ h ∧ ∀ e ∈ events, keepsRecords e.op) x h
  := Guarded.of_calls hx (fun _ _ => .inl) h

theorem call_keeps (op : ControlOp) (hop : keepsRecords op) :
  (perform op : ControlProgram _).Calls keepsRecords
  := Calls.perform (S := controlSignature) hop

/-! ### The latch -/

/-- Every call of the latched program satisfies `keepsRecords`. -/
def LatchedCalls {α : Type} (x : Latched α) : Prop :=
  ∀ latch, (x latch).Calls keepsRecords

theorem LatchedCalls.lift {α : Type} {x : ControlProgram α} (hx : x.Calls keepsRecords) :
  LatchedCalls (Latched.lift x)
  := fun _ => Calls.andThen hx fun _ => Calls.pure

theorem LatchedCalls.attempt :
  LatchedCalls Latched.attempt
  := fun _ => Calls.pure

theorem LatchedCalls.pure {α : Type} {a : α} :
  LatchedCalls (Pure.pure a : Latched α)
  := fun _ => Calls.pure

theorem LatchedCalls.bind {α β : Type} {x : Latched α} {f : α → Latched β}
    (hx : LatchedCalls x) (hf : ∀ a, LatchedCalls (f a)) :
  LatchedCalls (x >>= f)
  := by
  intro latch
  apply Calls.bind (hx latch)
  rintro ⟨e | a, latch'⟩
  · apply Calls.pure
  · apply hf a latch'

/-- A latched program that starts with one that does not look at the latch. -/
theorem guarded_lift {α β : Type} {x : ControlProgram α} {f : α → Latched β}
    {Q : Except ControlError α → List ControlEvent → Prop} {latch : Bool}
    {h : List ControlEvent} (hx : Guarded (dropsProven supported tenantId) Q x h)
    (hf : ∀ a h', Q (.ok a) h' →
      Guarded (dropsProven supported tenantId) anyEnding (f a latch) h') :
  Guarded (dropsProven supported tenantId) anyEnding ((Latched.lift x >>= f) latch) h
  := by
  apply Guarded.bind (Q := fun r h' => ∀ a latch', r = .ok (.ok a, latch') →
    latch' = latch ∧ Q (.ok a) h')
  · apply Guarded.andThen hx
    rintro r h' hq a latch' ⟨⟩
    exact ⟨rfl, hq⟩
  · rintro ⟨e | a, latch'⟩ h' hq
    · trivial
    · obtain ⟨rfl, hq'⟩ := hq a latch' rfl
      apply hf a h' hq'
  · exact fun _ _ _ => trivial

/-! ### The parts of a request -/

theorem recordEvent_keeps (action actor correlationId : String) :
  (recordEvent tenantId action actor correlationId).Calls keepsRecords
  := recordAudit_calls trivial fun _ _ => trivial

/-- The only lifecycle write of a request is the quarantine of a refusal. -/
theorem quarantineTenant_keeps (actor correlationId : String) :
  (TenantRegistry.quarantineTenant tenantId actor correlationId).Calls keepsRecords
  := TenantRegistry.transition_calls trivial trivial (fun _ _ hstate => hstate)
    fun _ _ => trivial

theorem fail_keeps (target reason actor correlationId : String) (quarantine : Bool) :
  LatchedCalls (fail tenantId target reason actor correlationId quarantine)
  := by
  apply LatchedCalls.bind
  · apply LatchedCalls.lift
    rw [holdAnomaly]
    split
    · apply Calls.bind (call_keeps (.getTenant _) trivial)
      rintro (_ | record)
      · apply Calls.pure
      · simp only
        split
        · apply Calls.bind (quarantineTenant_keeps _ _)
          intro _
          apply recordEvent_keeps
        · apply Calls.pure
    · apply Calls.pure
  · intro _
    apply LatchedCalls.bind LatchedCalls.attempt
    intro _
    apply LatchedCalls.bind (LatchedCalls.lift (recordEvent_keeps _ _ _))
    intro _
    apply LatchedCalls.pure

theorem complete_keeps (target reason actor correlationId : String) (dropped : Bool) :
  LatchedCalls (complete tenantId target reason actor correlationId dropped)
  := by
  apply LatchedCalls.bind LatchedCalls.attempt
  intro _
  apply LatchedCalls.bind (LatchedCalls.lift (recordEvent_keeps _ _ _))
  intro _
  apply LatchedCalls.pure

/-- A refusal or a completion may follow any history. -/
theorem guarded_terminal {α : Type} {x : Latched α} (hx : LatchedCalls x) (latch : Bool)
    (h : List ControlEvent) :
  Guarded (dropsProven supported tenantId) anyEnding (x latch) h
  := (guarded_calls (hx latch) h).mono fun _ _ _ => trivial

/-- The reads of a non-content proof that succeeds against an observed fingerprint. -/
def Revalidated (tenantId target fingerprint : String) (h h' : List ControlEvent) : Prop :=
  ∃ (record : TenantRecord) (controlName : String)
    (others all : List (String × DistinctnessEvidence)),
    h' = ⟨.evidenceExcluding noTenant, .ok all⟩ :: ⟨.evidenceExcluding tenantId, .ok others⟩
        :: ⟨.controlDatabaseName, .ok (some controlName)⟩
        :: ⟨.getTenant tenantId, .ok (some record)⟩ :: h
      ∧ record.lifecycleState ∈ deprovisionEligibleStates ∧ target ≠ controlName
      ∧ (∀ e ∈ others, e.2.observedTarget ≠ target ∧ e.2.fingerprint ≠ fingerprint)
      ∧ ∀ e ∈ all.lookup tenantId, e.fingerprint = fingerprint ∧ e.observedTarget = target

theorem nonContentProof_revalidates (target fingerprint : String) (h : List ControlEvent) :
  Guarded (dropsProven supported tenantId)
    (fun r h' => r = .ok none → Revalidated tenantId target fingerprint h h')
    (nonContentProof tenantId target (some fingerprint)) h
  := by
  apply Guarded.step (S := controlSignature) (o := .getTenant tenantId) (.inl trivial)
  · rintro (_ | record)
    · rintro ⟨⟩
    simp only
    split
    · rintro ⟨⟩
    rename_i heligible
    split
    · rintro ⟨⟩
    apply Guarded.step (S := controlSignature) (o := .controlDatabaseName) (.inl trivial)
    · rintro (_ | controlName)
      · rintro ⟨⟩
      simp only
      split
      · rintro ⟨⟩
      rename_i hcontrol
      apply Guarded.step (S := controlSignature) (o := .evidenceExcluding tenantId) (.inl trivial)
      · intro others
        split
        · rintro ⟨⟩
        rename_i hothers
        have helsewhere : ∀ e ∈ others,
            e.2.observedTarget ≠ target ∧ e.2.fingerprint ≠ fingerprint := by
          intro e he
          have hnot := (List.any_eq_false.mp (Bool.not_eq_true _ ▸ hothers)) e he
          constructor
          · rintro rfl
            apply hnot
            simp
          · rintro rfl
            apply hnot
            simp
        apply Guarded.step (S := controlSignature) (o := .evidenceExcluding noTenant) (.inl trivial)
        · intro all
          split
          · rename_i hnone
            intro _
            exact ⟨record, controlName, others, all, rfl, not_not.mp heligible, hcontrol,
              helsewhere, by simp [hnone]⟩
          · rename_i own hown
            split
            · rintro ⟨⟩
            · rename_i hmatch
              intro _
              have hrecorded : own.fingerprint = fingerprint ∧ own.observedTarget = target := by
                simpa [mismatches] using hmatch
              refine ⟨record, controlName, others, all, rfl, not_not.mp heligible, hcontrol,
                helsewhere, ?_⟩
              intro e he
              obtain rfl := Option.some.inj (hown.symm.trans he)
              apply hrecorded
        · rintro e ⟨⟩
      · rintro e ⟨⟩
    · rintro e ⟨⟩
  · rintro e ⟨⟩

/-- A non-content proof reads the record, the Control identity and the ledger. -/
theorem nonContentProof_calls {p : ControlOp → Prop} (hget : p (.getTenant tenantId))
    (hname : p .controlDatabaseName) (hevidence : ∀ t, p (.evidenceExcluding t)) (target : String)
    (fingerprint : Option String) :
  (nonContentProof tenantId target fingerprint).Calls p
  := by
  apply Calls.bind (Calls.perform (S := controlSignature) hget)
  rintro (_ | record)
  · apply Calls.pure
  simp only
  split
  · apply Calls.pure
  split
  · apply Calls.pure
  apply Calls.bind (Calls.perform (S := controlSignature) hname)
  rintro (_ | controlName)
  · apply Calls.pure
  simp only
  split
  · apply Calls.pure
  apply Calls.bind (Calls.perform (S := controlSignature) (hevidence _))
  intro others
  split
  · apply Calls.pure
  split
  · apply Calls.pure
  apply Calls.bind (Calls.perform (S := controlSignature) (hevidence _))
  intro all
  split
  · apply Calls.pure
  split <;> apply Calls.pure

/-- An ownership proof that succeeds has read a canonical association reference. -/
theorem ownershipProof_canonical (target : String) {h : List ControlEvent}
    (hh : Undropped h) :
  Guarded (dropsProven supported tenantId)
    (fun r h' => Undropped h' ∧ (r = .ok none → ∃ registered : TenantRecord,
      ⟨.getTenant tenantId, .ok (some registered)⟩ ∈ h'
        ∧ tenantIdFromDsnRef registered.databaseAssociationRef.storeRef = some tenantId))
    (ownershipProof tenantId target) h
  := by
  have hproof : (nonContentProof tenantId target none).Calls keepsRecords :=
    nonContentProof_calls trivial trivial (fun _ => trivial) target none
  apply Guarded.bind (guarded_calls hproof h)
  · rintro (_ | reason) h' ⟨events, rfl, hevents⟩
    · have hh' : Undropped (events ++ h) := hh.append hevents
      apply Guarded.step (S := controlSignature) (o := .getTenant tenantId) (.inl trivial)
      · rintro (_ | record)
        · exact ⟨hh'.cons trivial, by rintro ⟨⟩⟩
        · simp only
          split
          · exact ⟨hh'.cons trivial, by rintro ⟨⟩⟩
          · rename_i hcanonical
            exact ⟨hh'.cons trivial, fun _ =>
              ⟨record, List.mem_cons_self, not_not.mp hcanonical⟩⟩
      · intro e
        exact ⟨hh'.cons trivial, by rintro ⟨⟩⟩
    · exact ⟨hh.append hevents, by rintro ⟨⟩⟩
  · rintro e h' ⟨events, rfl, hevents⟩
    exact ⟨hh.append hevents, by rintro ⟨⟩⟩

variable (service : RecoveryCompensationService)

/-- A proven drop that is the first. -/
theorem drop_guarded {h : List ControlEvent}
    (hproven : Proven service.supportedSchemaVersions tenantId (tenantDatabaseName tenantId) h)
    (hundropped : Undropped h) :
  Guarded (dropsProven service.supportedSchemaVersions tenantId) anyEnding
    (OnboardingOrchestrator.succeeds (deprovisionDatabase (tenantDatabaseName tenantId))) h
  := by
  constructor
  · right
    exact ⟨rfl, hproven, hundropped⟩
  · rintro (e | a) <;> trivial

/-- The drop lies behind the ownership proof, the census and the second proof. -/
theorem provenDeprovision_guarded (actor correlationId : String) (latch : Bool)
    {h : List ControlEvent} (hh : Undropped h) :
  Guarded (dropsProven service.supportedSchemaVersions tenantId) anyEnding
    (service.provenDeprovision tenantId (tenantDatabaseName tenantId) actor correlationId latch)
    h
  := by
  apply guarded_lift (ownershipProof_canonical (tenantDatabaseName tenantId) hh)
  rintro (_ | reason) h₁ ⟨hh₁, hcanonical⟩
  swap
  · apply guarded_terminal (fail_keeps _ _ _ _ _)
  obtain ⟨registered, hregistered, hshape⟩ := hcanonical rfl
  apply guarded_lift (guarded_calls (call_keeps (.databaseExists _) trivial) h₁)
  rintro (_ | _ | _) h₂ ⟨events, rfl, hevents⟩
  · apply guarded_terminal (fail_keeps _ _ _ _ _)
  · apply guarded_terminal (complete_keeps _ _ _ _ _)
  have hh₂ : Undropped (events ++ h₁) := hh₁.append hevents
  have hregistered₂ : ⟨.getTenant tenantId, .ok (some registered)⟩ ∈ events ++ h₁ :=
    List.mem_append_right _ hregistered
  generalize events ++ h₁ = h₃ at hh₂ hregistered₂
  have hinspect : Guarded (dropsProven service.supportedSchemaVersions tenantId)
      (fun r h' => h' = ⟨.inspectDatabase (tenantDatabaseName tenantId), r⟩ :: h₃)
      (inspectDatabase (tenantDatabaseName tenantId)) h₃ :=
    ⟨.inl trivial, fun _ => rfl⟩
  apply guarded_lift hinspect
  rintro (_ | inspection) _ rfl
  · apply guarded_terminal (fail_keeps _ _ _ _ _)
  have hown : Guarded (dropsProven service.supportedSchemaVersions tenantId)
      (fun r h' => h' = ⟨.evidenceExcluding noTenant, r⟩
        :: ⟨.inspectDatabase (tenantDatabaseName tenantId), .ok (some inspection)⟩ :: h₃)
      (evidenceExcluding noTenant)
      (⟨.inspectDatabase (tenantDatabaseName tenantId), .ok (some inspection)⟩ :: h₃) :=
    ⟨.inl trivial, fun _ => rfl⟩
  apply guarded_lift hown
  rintro own _ rfl
  split
  · apply guarded_terminal (fail_keeps _ _ _ _ _)
  split
  · apply guarded_terminal (fail_keeps _ _ _ _ _)
  rename_i hcensus
  apply guarded_lift (nonContentProof_revalidates _ _ _)
  rintro (_ | reason) h₄ hrevalidated
  swap
  · apply guarded_terminal (fail_keeps _ _ _ _ _)
  obtain ⟨record, controlName, others, all, rfl, heligible, hcontrol, hothers, hall⟩ :=
    hrevalidated rfl
  have hproven := @Proven.reads _ _ _ _ _ _ _ own _ _ _ heligible hcontrol hothers hall hcensus
    ⟨hregistered₂, hshape⟩
  have hinspected := hh₂.cons (e := ⟨.inspectDatabase (tenantDatabaseName tenantId),
    .ok (some inspection)⟩) trivial
  have hread := hinspected.cons (e := ⟨.evidenceExcluding noTenant, .ok own⟩) trivial
  have hrecord := hread.cons (e := ⟨.getTenant tenantId, .ok (some record)⟩) trivial
  have hname := hrecord.cons (e := ⟨.controlDatabaseName, .ok (some controlName)⟩) trivial
  have helsewhere := hname.cons (e := ⟨.evidenceExcluding tenantId, .ok others⟩) trivial
  have hundropped := helsewhere.cons (e := ⟨.evidenceExcluding noTenant, .ok all⟩) trivial
  apply guarded_lift (drop_guarded service hproven hundropped)
  intro dropped h' _
  split
  · apply guarded_terminal (fail_keeps _ _ _ _ _)
  · apply guarded_terminal (complete_keeps _ _ _ _ _)

theorem deprovisionTenantDatabase_guarded (actor correlationId : String) :
  Guarded (dropsProven service.supportedSchemaVersions tenantId) anyEnding
    (service.deprovisionTenantDatabase tenantId actor correlationId) []
  := by
  have hempty : Undropped [] := by
    rintro e ⟨⟩
  apply Guarded.bind (guarded_calls (recordEvent_keeps _ _ _) [])
  · rintro _ h ⟨events, rfl, hevents⟩
    apply Guarded.bind
      (provenDeprovision_guarded service actor correlationId false (hempty.append hevents))
    · rintro ⟨e | outcome, attempted⟩ h' _
      · simp only
        split
        · trivial
        · apply Guarded.mono (Guarded.of_calls _ (fun _ _ => .inl) h')
          · exact fun _ _ _ => trivial
          · apply Calls.bind
            · apply Calls.rescue (recordEvent_keeps _ _ _)
              intro _
              apply Calls.pure
            · intro _
              apply Calls.raise
      · trivial
    · exact fun _ _ _ => trivial
  · exact fun _ _ _ => trivial

end Requests

/-- A call that keeps records leaves every stored tenant stored. -/
theorem stored_of_keepsRecords {ι : Type} {i : ι} {op : ControlOp} {c : ControlChoice}
    {s s' : ControlState} {r : Except ControlError op.Ans}
    (hop : keepsRecords op ∨ ∃ target, op = .deprovision target)
    (ha : (controlPlane ι).answer i op c s = some (r, s')) {t : String}
    (ht : (s.tenants.lookup t).isSome) :
  (s'.tenants.lookup t).isSome
  := by
  simp only [Option.some.injEq] at ha
  split at ha
  · cases ha
    apply ht
  · cases op with
    | putTenant record => rcases hop with h | ⟨_, h⟩ <;> cases h
    | compareAndSwapTenant updated v =>
        rw [ControlState.answer] at ha
        rcases s.compareAndSwap_cases updated v with ⟨current, _, _, hswap⟩ | hswap
        · rw [hswap] at ha
          cases ha
          by_cases htu : t = updated.tenantId
          · subst htu
            rw [AList.lookup_insert]
            rfl
          · rw [AList.lookup_insert_ne htu]
            apply ht
        · rw [hswap] at ha
          cases ha
          apply ht
    | recordEvidence t e =>
        simp only [ControlState.answer, ControlState.recordEvidence] at ha
        split at ha <;> (cases ha; apply ht)
    | _ =>
        cases ha
        apply ht

/-- Whatever the ports have answered, the next call of a deprovision request is a drop only of
the tenant's own database, proven, and the first; and no call takes a tenant record away. -/
theorem deprovision_proven (service : RecoveryCompensationService)
    (tenantId actor correlationId : String) {h : List ControlEvent} {op : ControlOp}
    {k : Except ControlError op.Ans → ControlProgram DeprovisionOutcome}
    (hrun : (service.deprovisionTenantDatabase tenantId actor correlationId).After h
      (.call op k)) :
  (∀ target, op = .deprovision target → target = tenantDatabaseName tenantId
      ∧ Proven service.supportedSchemaVersions tenantId target h ∧ Undropped h)
    ∧ ∀ {ι : Type} (i : ι) c s r s', (controlPlane ι).answer i op c s = some (r, s') →
      ∀ t, (s.tenants.lookup t).isSome → (s'.tenants.lookup t).isSome
  := by
  have hop := (deprovisionTenantDatabase_guarded service actor correlationId).call hrun
  constructor
  · rintro target rfl
    rcases hop with hkeeps | ⟨htarget, hproven, hundropped⟩
    · cases hkeeps
    · obtain rfl := ControlOp.deprovision.inj htarget
      exact ⟨rfl, hproven, hundropped⟩
  · intro ι i c s r s' ha t ht
    apply stored_of_keepsRecords _ ha ht
    rcases hop with hkeeps | ⟨htarget, -, -⟩
    · left
      apply hkeeps
    · right
      exact ⟨_, htarget⟩

section FailedTenant

/-- A tenant whose verification failed. -/
def failedTenant : TenantRecord where
  tenantId := "a"
  organizationRef := "org"
  lifecycleState := .failed
  expectedSchemaVersion := "1"
  databaseAssociationRef := ⟨"tenant/a/dsn", "1"⟩
  federationConfigRef := "fed"
  createdAt := "t0"
  updatedAt := "t1"
  version := 3

/-- The answers, the earliest first, on which the database of the failed tenant is dropped. -/
def answersToDrop : List ControlEvent :=
  [⟨.now, .ok "t2"⟩,
    ⟨.appendAudit ⟨"ops", some "a", Events.tenantDeprovisionRequested, none, none, "t2", "c"⟩,
      .ok ()⟩,
    ⟨.getTenant "a", .ok (some failedTenant)⟩,
    ⟨.controlDatabaseName, .ok (some "snackportal_control")⟩,
    ⟨.evidenceExcluding "a", .ok []⟩,
    ⟨.getTenant "a", .ok (some failedTenant)⟩,
    ⟨.databaseExists "sp2_tenant_a", .ok (some true)⟩,
    ⟨.inspectDatabase "sp2_tenant_a", .ok (some ⟨"sp2_tenant_a", "sys", "1", [], 0, 0, []⟩)⟩,
    ⟨.evidenceExcluding "", .ok []⟩,
    ⟨.getTenant "a", .ok (some failedTenant)⟩,
    ⟨.controlDatabaseName, .ok (some "snackportal_control")⟩,
    ⟨.evidenceExcluding "a", .ok []⟩,
    ⟨.evidenceExcluding "", .ok []⟩]

/-- On these answers the request goes on to drop the database. -/
theorem deprovision_proven_failed :
  Proven ["1"] "a" "sp2_tenant_a" answersToDrop.reverse ∧ Undropped answersToDrop.reverse
  := by
  have hreplay : (((⟨["1"]⟩ : RecoveryCompensationService).deprovisionTenantDatabase "a" "ops"
      "c").replay answersToDrop).bind nextOp = some (.deprovision "sp2_tenant_a") := by
    decide
  obtain ⟨k, hafter⟩ := After.of_nextOp hreplay
  obtain ⟨hdrop, -⟩ := deprovision_proven ⟨["1"]⟩ "a" "ops" "c" hafter
  obtain ⟨-, hproven, hundropped⟩ := hdrop "sp2_tenant_a" rfl
  exact ⟨hproven, hundropped⟩

end FailedTenant

end ControlPlane
