import SnackPortal.ControlPlane.Writes

/-!
# The operations make only permitted calls

One lemma for each operation of the registry and the gate that writes the registry table, from
any history of its own calls; the remaining operations only sequence these.
-/

namespace ControlPlane

open Program

section Operations

variable {gate : ProvisioningVerificationService} {q : Operation}

/-- Every call of the program is permitted by its history, and its results meet `Q`. -/
abbrev Permits (gate : ProvisioningVerificationService) (q : Operation) {α : Type}
    (Q : α → List ControlEvent → Prop) (x : ControlProgram α) (h : List ControlEvent) : Prop :=
  Keeps honest (Permitted gate q) Q x h

variable {h : List ControlEvent}

/-- A program that writes nothing into the registry table makes only permitted calls. -/
theorem Permits.calls {α : Type} {x : ControlProgram α} (hx : x.Calls keepsTenants) :
  Permits gate q (fun _ h' => ∃ events, h' = events ++ h) x h
  := by
  apply (Keeps.calls hx permitted_of_keepsTenants).weaken
  rintro a h' _ ⟨events, hh, -⟩
  exact ⟨events, hh⟩

theorem Permits.effects {α : Type} {x : ControlProgram α} (hx : x.Calls keepsTenants) :
  Permits gate q (fun _ _ => True) x h
  := (Permits.calls hx).weaken fun _ _ _ _ => trivial

theorem recordAudit_keepsTenants (actor : String) (tenantId : Option String) (action : String)
    (fromState toState : Option String) (correlationId : String) :
  (recordAudit actor tenantId action fromState toState correlationId).Calls keepsTenants
  := recordAudit_calls trivial fun _ _ => trivial

theorem Permits.event {tenantId action actor correlationId : String} :
  Permits gate q (fun _ _ => True) (recordEvent tenantId action actor correlationId) h
  := Permits.effects (recordAudit_keepsTenants _ _ _ _ _ _)

theorem permits_audit {actor : String} {tenantId : Option String} {action : String}
    {fromState toState : Option String} {correlationId : String} :
  Permits gate q (fun _ _ => True)
    (recordAudit actor tenantId action fromState toState correlationId) h
  := Permits.effects (recordAudit_keepsTenants _ _ _ _ _ _)

/-- The call of an operation that writes nothing into the registry table. -/
theorem Permits.ask {α : Type} {o : ControlOp} {f : o.Ans → ControlProgram α}
    {Q : α → List ControlEvent → Prop} (ho : keepsTenants o)
    (hf : ∀ a, honest ⟨o, .ok a⟩ → Permits gate q Q (f a) (⟨o, .ok a⟩ :: h)) :
  Permits gate q Q (Program.perform (S := controlSignature) o >>= f) h
  := Keeps.ask (S := controlSignature) (fun _ => permitted_of_keepsTenants h o ho) hf

/-- A program that writes nothing into the registry table, before another one. -/
theorem Permits.aside {α β : Type} {x : ControlProgram α} {f : α → ControlProgram β}
    {Q : β → List ControlEvent → Prop} {t : String} (hx : x.Calls keepsTenants)
    (hadvanced : Advanced h t)
    (hf : ∀ a h', Advanced h' t → Permits gate q Q (f a) h') :
  Permits gate q Q (x >>= f) h
  := by
  apply Keeps.seq (Permits.calls hx)
  rintro a _ _ ⟨events, rfl⟩
  apply hf a _ (hadvanced.append events)

theorem invalidate_keepsTenants (tenantId actor correlationId : String) :
  (ProvisioningVerificationService.invalidate tenantId actor correlationId).Calls keepsTenants
  := by
  apply Program.Calls.bind (Program.Calls.perform (S := controlSignature) trivial)
  intro _
  apply recordAudit_keepsTenants

/-! ### The registry -/

theorem registry_transition_permits {tenantId : String} {toState : TenantLifecycleState}
    {allowedFrom : List TenantLifecycleState} {action actor correlationId : String}
    (he : ∀ s ∈ allowedFrom, Transition s toState) (hregistered : toState ≠ .registered) :
  Permits gate q (fun _ h' => Advanced h' tenantId)
    (TenantRegistry.transition tenantId toState allowedFrom action actor correlationId) h
  := by
  rw [TenantRegistry.transition]
  split
  · apply Keeps.raise
  rename_i hphase
  have hready : toState ≠ .ready := by
    rintro rfl
    apply hphase
    decide
  apply Permits.ask (o := .getTenant tenantId) trivial
  rintro (_ | record) hid
  · apply Keeps.raise
  have htold : Told (⟨.getTenant tenantId, .ok (some record)⟩ :: h) record :=
    Told.head rfl
  simp only
  split
  · rename_i hstate
    apply Keeps.pure
    intro _
    use record
    exact ⟨htold, hid, hstate ▸ hregistered⟩
  · split
    · apply Keeps.raise
    · rename_i hallowed
      apply Permits.ask (o := .now) trivial
      intro ts _
      apply Keeps.ask (S := controlSignature) (o := .compareAndSwapTenant _ _)
      · intro _
        exact ⟨record, htold.cons _, rfl, rfl, .table (he _ (not_not.mp hallowed)) hready⟩
      · intro persisted hpersisted
        have hadvanced : Advanced (⟨.compareAndSwapTenant
            { record with lifecycleState := toState, updatedAt := ts } record.version,
            .ok persisted⟩ :: ⟨.now, .ok ts⟩
            :: ⟨.getTenant tenantId, .ok (some record)⟩ :: h) tenantId := by
          use persisted
          constructor
          · apply Told.head rfl
          · rw [show persisted = _ from hpersisted]
            exact ⟨hid, hregistered⟩
        apply Keeps.seq (Permits.calls (recordAudit_keepsTenants _ _ _ _ _ _))
        rintro _ h' _ ⟨events, rfl⟩
        apply Keeps.pure
        intro _
        apply hadvanced.append

theorem registerTenant_permits (tenantId : String) (r : TenantRegistry.Registration)
    (actor correlationId : String) :
  Permits gate q (fun _ _ => True)
    (TenantRegistry.registerTenant tenantId r actor correlationId) h
  := by
  rw [TenantRegistry.registerTenant]
  split
  · apply Keeps.raise
  split
  · apply Keeps.raise
  apply Permits.ask (o := .getTenant tenantId) trivial
  rintro (_ | existing) _
  · apply Permits.ask (o := .now) trivial
    intro ts _
    apply Keeps.seq permits_audit
    intro _ h' _ _
    apply Keeps.ask (S := controlSignature) (o := .putTenant _)
    · exact fun _ => ⟨rfl, rfl⟩
    · intro _ _
      apply Keeps.pure
      exact fun _ => trivial
  · apply Keeps.pure
    exact fun _ => trivial

theorem markProvisioning_permits (tenantId actor correlationId : String) :
  Permits gate q (fun _ h' => Advanced h' tenantId)
    (TenantRegistry.markProvisioning tenantId actor correlationId) h
  := by
  apply registry_transition_permits
  · intro s hs
    obtain rfl := List.mem_singleton.mp hs
    apply Transition.provision
  · decide

theorem suspendTenant_permits (tenantId actor correlationId : String) :
  Permits gate q (fun _ h' => Advanced h' tenantId)
    (TenantRegistry.suspendTenant tenantId actor correlationId) h
  := by
  apply registry_transition_permits
  · intro s hs
    obtain rfl := List.mem_singleton.mp hs
    apply Transition.suspend
  · decide

theorem decommissionTenant_permits (tenantId actor correlationId : String) :
  Permits gate q (fun _ h' => Advanced h' tenantId)
    (TenantRegistry.decommissionTenant tenantId actor correlationId) h
  := by
  apply registry_transition_permits
  · exact fun _ => Transition.decommission
  · decide

theorem quarantineTenant_permits (tenantId actor correlationId : String) :
  Permits gate q (fun _ h' => Advanced h' tenantId)
    (TenantRegistry.quarantineTenant tenantId actor correlationId) h
  := by
  apply registry_transition_permits
  · exact fun _ => Transition.quarantine
  · decide

/-! ### The gate -/

open ProvisioningVerificationService

theorem require_permits (tenantId : String) :
  Permits gate q (fun rec h' => rec.tenantId = tenantId
      ∧ h' = ⟨.getTenant tenantId, .ok (some rec)⟩ :: h)
    (require tenantId) h
  := by
  apply Permits.ask (o := .getTenant tenantId) trivial
  rintro (_ | rec) hid
  · apply Keeps.raise
  · apply Keeps.pure
    exact fun _ => ⟨hid, rfl⟩

/-- A transition of the gate hands on the record it wrote, and leaves its write and the audit
record at the head of the history. -/
theorem gate_transition_permits {rec : TenantRecord} {toState : TenantLifecycleState}
    {action actor correlationId : String} (hrec : Told h rec)
    (hw : ∀ ts, Write gate q (⟨.now, .ok ts⟩ :: h) rec
      { rec with lifecycleState := toState, updatedAt := ts }) :
  Permits gate q
    (fun a h' => a.tenantId = rec.tenantId ∧ a.lifecycleState = toState
      ∧ ∃ updated v ts record before, updated.lifecycleState = toState
        ∧ record.action = action ∧ record.tenantId = some rec.tenantId
        ∧ h' = ⟨.appendAudit record, .ok ()⟩ :: ⟨.now, .ok ts⟩
          :: ⟨.compareAndSwapTenant updated v, .ok a⟩ :: before)
    (ProvisioningVerificationService.transition rec toState action actor correlationId) h
  := by
  apply Permits.ask (o := .now) trivial
  intro ts _
  apply Keeps.ask (S := controlSignature) (o := .compareAndSwapTenant _ _)
  · intro _
    exact ⟨rec, hrec.cons _, rfl, rfl, hw ts⟩
  · intro persisted hpersisted
    have hpersisted' : persisted = { rec with
        lifecycleState := toState
        updatedAt := ts
        version := rec.version + 1 } := hpersisted
    apply Keeps.seq (Q := fun _ h' => ∃ ts' record, record.action = action
      ∧ record.tenantId = some rec.tenantId
      ∧ h' = ⟨.appendAudit record, .ok ()⟩ :: ⟨.now, .ok ts'⟩ :: ⟨.compareAndSwapTenant _ _,
        .ok persisted⟩ :: ⟨.now, .ok ts⟩ :: h)
    · apply Permits.ask (o := .now) trivial
      intro ts' _
      apply Keeps.call (S := controlSignature) (o := .appendAudit _)
      · exact fun _ => trivial
      · intro _ _
        exact ⟨ts', _, rfl, rfl, rfl⟩
    · rintro _ h' _ ⟨ts', record, haction, htenant, rfl⟩
      apply Keeps.pure
      intro _
      constructor
      · rw [hpersisted']
      · constructor
        · rw [hpersisted']
        · exact ⟨_, _, ts', record, _, rfl, haction, htenant, rfl⟩

theorem failingClosed_permits {α : Type} {Q : α → List ControlEvent → Prop}
    {x : ControlProgram α} (hx : Permits gate q Q x h) :
  Permits gate q Q (failingClosed x) h
  := by
  apply Keeps.rescue hx
  intro e events _
  cases e <;> apply Keeps.raise

theorem fail_permits {rec : TenantRecord} (hrec : Told h rec)
    (hv : rec.lifecycleState = .verifying) (result : DistinctnessResult)
    (reason eventAction actor correlationId : String) (anomaly : Bool) :
  Permits gate q (fun _ _ => True)
    (fail rec result reason eventAction actor correlationId anomaly) h
  := by
  have hquarantined : Transition rec.lifecycleState .quarantined := hv ▸ Transition.anomaly
  have hfailed : Transition rec.lifecycleState .failed := hv ▸ Transition.fail
  apply Permits.ask (o := .removeEvidence rec.tenantId) trivial
  intro _ _
  apply Keeps.seq (Q := fun _ _ => True)
  · apply failingClosed_permits
    split
    · apply Keeps.seq (gate_transition_permits (hrec.cons _) _)
      · intro _ _ _ _
        apply Keeps.seq Permits.event
        intro _ _ _ _
        apply Permits.event
      · intro ts
        apply Write.table hquarantined
        rintro ⟨⟩
    · apply Keeps.seq (gate_transition_permits (hrec.cons _) _)
      · intro _ _ _ _
        apply Keeps.pure
        exact fun _ => trivial
      · intro ts
        apply Write.table hfailed
        rintro ⟨⟩
  · intro _ _ _ _
    apply Keeps.pure
    exact fun _ => trivial

/-- The record of an entry was told. -/
theorem EnteredWith.told {rec : TenantRecord} (hentered : EnteredWith rec h) :
  Told h rec
  := by
  obtain ⟨updated, v, ts, record, before, -, -, -, rfl⟩ := hentered
  apply Told.append _ [_, _]
  apply Told.head rfl

/-- The checks of `verify` and its commit, after the entry into `Verifying`. -/
theorem verifyFrom_permits {rec : TenantRecord} (hentered : EnteredWith rec h)
    (hv : rec.lifecycleState = .verifying) (hq : q.verifies rec.tenantId)
    (actor correlationId : String) :
  Permits gate q (fun _ _ => True) (gate.verifyFrom rec rec.tenantId actor correlationId) h
  := by
  have htold : ∀ events, Told (events ++ h) rec := hentered.told.append
  apply Permits.ask (o := .probe rec.databaseAssociationRef) trivial
  intro probe _
  split
  · apply fail_permits (htold [_]) hv
  rename_i hreachable
  split
  · apply fail_permits (htold [_]) hv
  rename_i hschema
  split
  · apply fail_permits (htold [_]) hv
  rename_i hassociation
  apply Permits.ask (o := .token) trivial
  intro token _
  apply Permits.ask (o := .gather _ _ _) trivial
  intro evidence _
  apply Permits.ask (o := .evidenceExcluding rec.tenantId) trivial
  intro inventory _
  simp only
  split
  · rename_i evidence _ hdecision
    -- the history is carried exactly, so that the commit finds all the checks on it
    apply Keeps.seq (Q := fun recorded (h' : List ControlEvent) => (recorded = true →
        h' = ⟨.recordEvidence rec.tenantId evidence, .ok ()⟩ :: _) ∧ Told h' rec)
    · apply Keeps.rescue
      · apply Keeps.seq (Q := fun _ (h' : List ControlEvent) =>
          h' = ⟨.recordEvidence rec.tenantId evidence, .ok ()⟩ :: _)
        · apply Keeps.call (S := controlSignature) (o := .recordEvidence rec.tenantId evidence)
          · exact fun _ => trivial
          · exact fun _ _ => rfl
        · rintro _ _ _ rfl
          apply Keeps.pure
          exact fun _ => ⟨fun _ => rfl, htold [_, _, _, _, _]⟩
      · intro e events _
        cases e with
        | collision =>
            apply Keeps.pure
            intro _
            constructor
            · rintro ⟨⟩
            · apply Told.append (htold [_, _, _, _])
        | _ => apply Keeps.raise
    · rintro recorded h' _ ⟨hrecorded, htold'⟩
      split
      · apply fail_permits htold' hv
      · rename_i hnot
        have hcases : recorded = true := by
          revert hnot
          cases recorded <;> simp
        obtain rfl := hrecorded hcases
        obtain ⟨hidentified, hsentinel, htarget, hcontrol, htenants⟩ :=
          decideDistinctness_verified hdecision
        obtain ⟨hsupported, hexpected⟩ := not_or.mp hschema
        apply Keeps.seq (Q := fun _ _ => True)
        · apply failingClosed_permits
          apply Keeps.weaken (gate_transition_permits htold' _)
          · exact fun _ _ _ _ => trivial
          · intro ts
            apply Write.commit ts rfl rfl hq hv
            refine ⟨probe, token, evidence, inventory, h, ?_⟩
            constructor
            · rfl
            · apply hentered
            · revert hreachable
              cases probe.reachable <;> simp
            · by_contra hnone
              apply hsupported
              exact fun v hv' hobserved => hnone ⟨v, hv', hobserved⟩
            · apply not_not.mp hexpected
            · apply hassociation
            · apply hidentified
            · apply hsentinel
            · apply htarget
            · apply hcontrol
            · apply htenants
        · intro _ _ _ _
          apply Keeps.seq Permits.event
          intro _ _ _ _
          apply Keeps.pure
          exact fun _ => trivial
  · apply Permits.ask (o := .removeEvidence rec.tenantId) trivial
    intro _ _
    split
    · apply Keeps.seq (fail_permits (htold [_, _, _, _, _]) hv _ _ _ _ _ _)
      intro _ _ _ _
      apply Keeps.pure
      exact fun _ => trivial
    · split
      · apply Keeps.seq (fail_permits (htold [_, _, _, _, _]) hv _ _ _ _ _ _)
        intro _ _ _ _
        apply Keeps.pure
        exact fun _ => trivial
      · apply Keeps.seq (fail_permits (htold [_, _, _, _, _]) hv _ _ _ _ _ _)
        intro _ _ _ _
        apply Keeps.pure
        exact fun _ => trivial

/-- The entry of `verify`, and its one retry, hand on the record they wrote. -/
theorem enterVerifying_permits {rec : TenantRecord} (htold : Told h rec)
    (hq : q.verifies rec.tenantId)
    (hrec : rec.lifecycleState ∉
      [TenantLifecycleState.decommissioned, .suspended, .quarantined])
    (hfirst : q = .verify rec.tenantId ∨ Advanced h rec.tenantId)
    (actor correlationId : String) :
  Permits gate q (fun entered h' => ∀ a, entered = some a → EnteredWith a h'
      ∧ a.lifecycleState = .verifying ∧ a.tenantId = rec.tenantId)
    (enterVerifying rec rec.tenantId actor correlationId) h
  := by
  have hentry : ∀ (rec' : TenantRecord) (h' : List ControlEvent),
      rec'.lifecycleState ∉ [TenantLifecycleState.decommissioned, .suspended, .quarantined] →
      rec'.tenantId = rec.tenantId → Told h' rec' →
      (q = .verify rec.tenantId ∨ Advanced h' rec.tenantId) →
      Permits gate q (fun a h'' => EnteredWith a h'' ∧ a.lifecycleState = .verifying
          ∧ a.tenantId = rec.tenantId)
        (ProvisioningVerificationService.transition rec' .verifying
          Events.distinctnessVerificationStarted actor correlationId) h' := by
    intro rec' h' hrec' hid htold' hfirst'
    apply (gate_transition_permits htold' _).weaken
    · rintro a h'' _ ⟨ha, hstate, updated, v, ts, record, before, hupdated, haction, htenant,
        rfl⟩
      constructor
      · exact ⟨updated, v, ts, record, before, hupdated, haction, htenant.trans (ha ▸ rfl), rfl⟩
      · exact ⟨hstate, ha.trans hid⟩
    · intro ts
      apply Write.entry (hid ▸ hq) hrec' rfl
      rw [hid]
      rcases hfirst' with hq | hadvanced
      · left
        apply hq
      · right
        apply hadvanced.append [_]
  apply Keeps.rescue
  · apply Keeps.seq (hentry rec h hrec rfl htold hfirst)
    intro a h' _ ha
    apply Keeps.pure
    rintro _ _ ⟨⟩
    apply ha
  · intro e events _
    cases e with
    | concurrency =>
        apply Keeps.seq (require_permits rec.tenantId)
        rintro fresh _ _ ⟨hid, rfl⟩
        split
        · apply Keeps.pure
          rintro _ _ ⟨⟩
        · split
          · rename_i hfresh
            have hfresh' : fresh.lifecycleState ∉
                [TenantLifecycleState.decommissioned, .suspended, .quarantined] := by
              rcases List.mem_pair.mp hfresh with hf | hf <;> rw [hf] <;> decide
            apply Keeps.seq (failingClosed_permits (hentry fresh _ hfresh' hid _ _))
            · intro a h' _ ha
              apply Keeps.pure
              rintro _ _ ⟨⟩
              apply ha
            · apply Told.head rfl
            · rcases hfirst with hq | hadvanced
              · left
                apply hq
              · right
                apply hadvanced.append (_ :: events)
          · apply Keeps.raise
    | _ => apply Keeps.raise

theorem verify_permits {tenantId : String} (hq : q.verifies tenantId)
    (hfirst : q = .verify tenantId ∨ Advanced h tenantId) (actor correlationId : String) :
  Permits gate q (fun _ _ => True) (gate.verify tenantId actor correlationId) h
  := by
  apply Keeps.seq (require_permits tenantId)
  rintro rec _ _ ⟨rfl, rfl⟩
  split
  · apply Keeps.raise
  · rename_i hrec
    apply Keeps.seq (enterVerifying_permits _ hq hrec _ actor correlationId)
    · rintro (_ | a) h' _ ha
      · apply Keeps.pure
        exact fun _ => trivial
      · obtain ⟨hentered, hstate, hid⟩ := ha a rfl
        simp only
        rw [← hid]
        apply verifyFrom_permits hentered hstate
        rw [hid]
        apply hq
    · apply Told.head rfl
    · rcases hfirst with hq | hadvanced
      · left
        apply hq
      · right
        apply hadvanced.append [_]

theorem reassociate_permits {tenantId : String} {newAssociationRef : SecretRef}
    (hq : q = .reassociate tenantId newAssociationRef) (actor correlationId : String) :
  Permits gate q (fun _ _ => True)
    (gate.reassociate tenantId newAssociationRef actor correlationId) h
  := by
  apply Keeps.seq (require_permits tenantId)
  rintro rec _ _ ⟨rfl, rfl⟩
  split
  · apply Keeps.raise
  · rename_i hrec
    apply Permits.ask (o := .now) trivial
    intro ts _
    have hverifies : q.verifies rec.tenantId := by
      rw [hq]
      rfl
    apply Keeps.seq (Q := fun _ h' => Advanced h' rec.tenantId)
    · apply failingClosed_permits
      apply Keeps.call (S := controlSignature) (o := .compareAndSwapTenant _ _)
      · intro _
        refine ⟨rec, ?_, rfl, rfl, .reassociation newAssociationRef hq rfl hrec rfl⟩
        apply Told.append _ [_]
        apply Told.head rfl
      · intro persisted hpersisted
        use persisted
        constructor
        · apply Told.head rfl
        · rw [show persisted = _ from hpersisted]
          constructor
          · rfl
          · rintro ⟨⟩
    · intro _ h' _ hadvanced
      apply Permits.aside (recordAudit_keepsTenants _ _ _ _ _ _) hadvanced
      intro _ h₁ h₁adv
      apply Permits.aside (recordAudit_keepsTenants _ _ _ _ _ _) h₁adv
      intro _ h₂ h₂adv
      apply Permits.aside (recordAudit_keepsTenants _ _ _ _ _ _) h₂adv
      intro _ h₃ h₃adv
      apply Permits.aside (invalidate_keepsTenants _ _ _) h₃adv
      intro _ h₄ h₄adv
      apply verify_permits hverifies (.inr h₄adv)

/-! ### The orchestrator -/

open OnboardingOrchestrator

theorem succeeds_keepsTenants {o : ControlOp} (hop : keepsTenants o) :
  (succeeds (Program.perform (S := controlSignature) o)).Calls keepsTenants
  := by
  apply Program.Calls.rescue
  · apply Program.Calls.bind (Program.Calls.perform (S := controlSignature) hop)
    intro _
    apply Program.Calls.pure
  · intro e
    apply Program.Calls.pure

theorem provisionApplyVerify_permits {tenantId : String} (hq : q.verifies tenantId)
    (hadvanced : Advanced h tenantId) (target : String) (associationRef : SecretRef)
    (actor correlationId : String) :
  Permits gate q (fun _ _ => True)
    (provisionApplyVerify gate tenantId target associationRef actor correlationId) h
  := by
  have hended : ∀ (action : String) (outcome : DistinctnessOutcome) (h' : List ControlEvent),
      Permits gate q (fun _ _ => True) (do
        recordEvent tenantId action actor correlationId
        pure outcome) h' := by
    intro action outcome h'
    apply Keeps.seq Permits.event
    intro _ _ _ _
    apply Keeps.pure
    exact fun _ => trivial
  apply Permits.aside (recordAudit_keepsTenants _ _ _ _ _ _) hadvanced
  intro _ h₁ h₁adv
  apply Permits.aside (succeeds_keepsTenants (o := .provision _ _) trivial) h₁adv
  intro provisioned h₂ h₂adv
  split
  · apply hended
  apply Permits.aside (recordAudit_keepsTenants _ _ _ _ _ _) h₂adv
  intro _ h₃ h₃adv
  apply Permits.aside (recordAudit_keepsTenants _ _ _ _ _ _) h₃adv
  intro _ h₄ h₄adv
  apply Permits.aside (succeeds_keepsTenants (o := .applySchema _ _ _) trivial) h₄adv
  intro applied h₅ h₅adv
  split
  · apply hended
  apply Permits.aside (recordAudit_keepsTenants _ _ _ _ _ _) h₅adv
  intro _ h₆ h₆adv
  apply Permits.aside (recordAudit_keepsTenants _ _ _ _ _ _) h₆adv
  intro _ h₇ h₇adv
  apply Permits.aside (recordAudit_keepsTenants _ _ _ _ _ _) h₇adv
  intro _ h₈ h₈adv
  apply verify_permits hq (.inr h₈adv)

theorem asRecovery_permits {x : ControlProgram DistinctnessOutcome}
    (hx : Permits gate q (fun _ _ => True) x h) (tenantId actor correlationId : String) :
  Permits gate q (fun _ _ => True) (asRecovery tenantId actor correlationId x) h
  := by
  apply Keeps.seq (Q := fun _ _ => True)
  · apply Keeps.rescue hx
    intro e events _
    apply Keeps.seq Permits.event
    intro _ _ _ _
    apply Keeps.raise
  · intro outcome _ _ _
    apply Keeps.seq Permits.event
    intro _ _ _ _
    apply Keeps.pure
    exact fun _ => trivial

theorem onboard_permits {tenantId : String} (hq : q.verifies tenantId)
    (organizationRef federationConfigRef expectedSchemaVersion actor correlationId : String) :
  Permits gate q (fun _ _ => True)
    (onboard gate tenantId organizationRef federationConfigRef expectedSchemaVersion actor
      correlationId) h
  := by
  have hfresh : ∀ (r : TenantRegistry.Registration) (target : String) (ref : SecretRef)
      (h' : List ControlEvent), Permits gate q (fun _ _ => True) (do
        let _ ← TenantRegistry.registerTenant tenantId r actor correlationId
        let _ ← TenantRegistry.markProvisioning tenantId actor correlationId
        provisionApplyVerify gate tenantId target ref actor correlationId) h' := by
    intro r target ref h'
    apply Keeps.seq (registerTenant_permits _ _ _ _)
    intro _ _ _ _
    apply Keeps.seq (markProvisioning_permits _ _ _)
    intro _ h'' _ hadvanced
    apply provisionApplyVerify_permits hq hadvanced
  apply Permits.ask (o := .getTenant tenantId) trivial
  rintro (_ | existing) hid
  · apply hfresh
  · have hid' : existing.tenantId = tenantId := hid
    simp only
    split
    · apply hfresh
    · apply Keeps.pure
      exact fun _ => trivial
    · rename_i hstate
      rw [OnboardingOrchestrator.resume, hid']
      have hadvanced : Advanced (⟨.getTenant tenantId, .ok (some existing)⟩ :: h) tenantId := by
        use existing
        constructor
        · apply Told.head rfl
        · rw [hstate]
          exact ⟨hid', by rintro ⟨⟩⟩
      apply Permits.aside (recordAudit_keepsTenants _ _ _ _ _ _) hadvanced
      intro _ h₁ h₁adv
      apply asRecovery_permits
      apply provisionApplyVerify_permits hq h₁adv
    · apply Keeps.pure
      exact fun _ => trivial

theorem recover_permits {tenantId : String} (hq : q.verifies tenantId)
    (actor correlationId : String) :
  Permits gate q (fun _ _ => True) (recover gate tenantId actor correlationId) h
  := by
  apply Permits.ask (o := .getTenant tenantId) trivial
  rintro (_ | record) hid
  · apply Keeps.raise
  · simp only
    split
    · apply Keeps.raise
    · rename_i hstate
      have hadvanced : Advanced (⟨.getTenant tenantId, .ok (some record)⟩ :: h) tenantId := by
        use record
        constructor
        · apply Told.head rfl
        · rw [not_not.mp hstate]
          exact ⟨hid, by rintro ⟨⟩⟩
      apply Permits.aside (recordAudit_keepsTenants _ _ _ _ _ _) hadvanced
      intro _ h₁ h₁adv
      apply Permits.ask (o := .listAudit) trivial
      intro trail _
      split
      · apply Keeps.seq (quarantineTenant_permits _ _ _)
        intro _ _ _ _
        apply Keeps.seq Permits.event
        intro _ _ _ _
        apply Keeps.seq Permits.event
        intro _ _ _ _
        apply Keeps.pure
        exact fun _ => trivial
      · apply asRecovery_permits
        apply verify_permits hq
        right
        apply h₁adv.append [_]

/-- A program that compensates makes only permitted calls. -/
theorem Permits.compensates {α : Type} {x : ControlProgram α} (hx : Compensates x) :
  Permits gate q (fun _ _ => True) x h
  := by
  induction hx generalizing h with
  | pure a =>
      apply Keeps.pure
      exact fun _ => trivial
  | raise e => apply Keeps.raise
  | bind _ _ ih ih' =>
      apply Keeps.seq ih
      intro a _ _ _
      apply ih' a
  | rescue _ _ ih ih' =>
      apply Keeps.rescue ih
      intro e _ _
      apply ih' e
  | ask op hop =>
      apply Permits.effects
      apply Program.Calls.perform (S := controlSignature) (keepsTenants_of_asks hop)
  | event _ _ _ _ => apply Permits.event
  | quarantine tenantId actor correlationId =>
      apply (quarantineTenant_permits _ _ _).weaken
      exact fun _ _ _ _ => trivial

/-- Every operation makes only permitted calls. -/
theorem program_permits (gate : ProvisioningVerificationService) (request : Request) :
  Permits gate request.operation (fun _ _ => True) (request.program gate) []
  := by
  obtain ⟨q, actor, correlationId⟩ := request
  have hdiscard : ∀ {α : Type} {x : ControlProgram α} {Q : α → List ControlEvent → Prop},
      Permits gate q Q x [] → Permits gate q (fun _ _ => True) x.discard [] := by
    intro α x Q hx
    apply Keeps.seq hx
    intro _ _ _ _
    apply Keeps.pure
    exact fun _ => trivial
  cases q with
  | registerTenant t r => apply hdiscard (registerTenant_permits _ _ _ _)
  | markProvisioning t => apply hdiscard (markProvisioning_permits _ _ _)
  | suspendTenant t => apply hdiscard (suspendTenant_permits _ _ _)
  | decommissionTenant t => apply hdiscard (decommissionTenant_permits _ _ _)
  | quarantineTenant t => apply hdiscard (quarantineTenant_permits _ _ _)
  | verify t =>
      have hq : (Operation.verify t).verifies t := rfl
      apply hdiscard (verify_permits hq (.inl rfl) _ _)
  | reassociate t ref => apply hdiscard (reassociate_permits rfl _ _)
  | disableRouting t =>
      apply Permits.effects
      apply Program.Calls.bind (Program.Calls.perform (S := controlSignature) trivial)
      intro _
      apply Program.Calls.bind (recordAudit_keepsTenants _ _ _ _ _ _)
      intro _
      apply invalidate_keepsTenants
  | onboard t org fed schema =>
      have hq : (Operation.onboard t org fed schema).verifies t := rfl
      apply hdiscard (onboard_permits hq _ _ _ _ _)
  | recover t =>
      have hq : (Operation.recover t).verifies t := rfl
      apply hdiscard (recover_permits hq _ _)
  | deprovisionTenantDatabase service t =>
      apply hdiscard (Permits.compensates (.deprovisionTenantDatabase service _ _ _))

end Operations

end ControlPlane
