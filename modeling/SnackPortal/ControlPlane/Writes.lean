import SnackPortal.Program.Recording
import SnackPortal.ControlPlane.Operations

/-!
# What an operation may write

The condition `Permitted` on the calls of one operation, read on the history of its own calls:
a registration writes a registered record of version zero, and a compare-and-swap continues a
record the operation was told of, along the transition table, into a verification, into a
verification of a new association, or, after all checks of a verification, into `Ready`.
-/

namespace ControlPlane

/-- The transition table of IC-002. -/
inductive Transition : TenantLifecycleState → TenantLifecycleState → Prop where
  | provision : Transition .registered .provisioning
  | associate : Transition .provisioning .verifying
  | pass : Transition .verifying .ready
  | fail : Transition .verifying .failed
  | anomaly : Transition .verifying .quarantined
  | retry : Transition .failed .verifying
  | quarantine {s} (h : s ∈ [TenantLifecycleState.provisioning, .failed]) :
      Transition s .quarantined
  | suspend : Transition .ready .suspended
  | reactivate : Transition .suspended .verifying
  | decommission {s} (h : s ∈ [TenantLifecycleState.registered, .provisioning, .suspended,
      .failed, .quarantined]) : Transition s .decommissioned

/-- The operation runs the verification of the tenant. -/
def Operation.verifies (t : String) : Operation → Prop
  | .verify t' | .reassociate t' _ | .onboard t' _ _ _ | .recover t' => t' = t
  | _ => False

/-- An answer of the store about the record it stands for. -/
def honest : ControlEvent → Prop
  | ⟨.getTenant t, .ok (some rec)⟩ => rec.tenantId = t
  | ⟨.compareAndSwapTenant updated v, .ok rec⟩ => rec = { updated with version := v + 1 }
  | _ => True

/-- The record the store has answered. -/
def tells : ControlEvent → Option TenantRecord
  | ⟨.getTenant _, .ok (some rec)⟩ => some rec
  | ⟨.compareAndSwapTenant _ _, .ok rec⟩ => some rec
  | _ => none

/-- The store has answered the record at some time. -/
def Told (h : List ControlEvent) (rec : TenantRecord) : Prop :=
  ∃ e ∈ h, tells e = some rec

/-- A record that was just answered was told. -/
theorem Told.head {h : List ControlEvent} {e : ControlEvent} {rec : TenantRecord}
    (he : tells e = some rec) :
  Told (e :: h) rec
  := ⟨e, List.mem_cons_self, he⟩

theorem Told.append {h : List ControlEvent} {rec : TenantRecord} (hr : Told h rec)
    (h' : List ControlEvent) :
  Told (h' ++ h) rec
  := by
  obtain ⟨e, he, hrec⟩ := hr
  exact ⟨e, List.mem_append_right h' he, hrec⟩

theorem Told.cons {h : List ControlEvent} {rec : TenantRecord} (hr : Told h rec)
    (e : ControlEvent) :
  Told (e :: h) rec
  := hr.append [e]

/-- The store has answered a record of the tenant that is past its registration. -/
def Advanced (h : List ControlEvent) (t : String) : Prop :=
  ∃ rec, Told h rec ∧ rec.tenantId = t ∧ rec.lifecycleState ≠ .registered

theorem Advanced.append {h : List ControlEvent} {t : String} (ht : Advanced h t)
    (h' : List ControlEvent) :
  Advanced (h' ++ h) t
  := by
  obtain ⟨rec, hr, hrec⟩ := ht
  exact ⟨rec, hr.append h', hrec⟩

/-! ### Verifications -/

/-- The history of a verification that has entered `Verifying` with the record. -/
def EnteredWith (rec : TenantRecord) (h : List ControlEvent) : Prop :=
  ∃ updated v ts record before, updated.lifecycleState = .verifying
    ∧ record.action = Events.distinctnessVerificationStarted
    ∧ record.tenantId = some rec.tenantId
    ∧ h = ⟨.appendAudit record, .ok ()⟩ :: ⟨.now, .ok ts⟩
        :: ⟨.compareAndSwapTenant updated v, .ok rec⟩ :: before

/-- The history of a verification of the record whose checks have all succeeded, up to the
acceptance of its evidence by the ledger. -/
structure Verified (gate : ProvisioningVerificationService) (rec : TenantRecord)
    (probe : ProbeResult) (token : String) (evidence : DistinctnessEvidence)
    (inventory : List (String × DistinctnessEvidence)) (before h : List ControlEvent) :
    Prop where
  run : h = ⟨.recordEvidence rec.tenantId evidence, .ok ()⟩
    :: ⟨.evidenceExcluding rec.tenantId, .ok inventory⟩
    :: ⟨.gather rec.databaseAssociationRef token (gate.sentinelPrefix ++ rec.tenantId),
        .ok (some evidence)⟩
    :: ⟨.token, .ok token⟩ :: ⟨.probe rec.databaseAssociationRef, .ok probe⟩ :: before
  entered : EnteredWith rec before
  reachable : probe.reachable = true
  supported : ∃ v ∈ gate.supportedSchemaVersions, probe.observedSchemaVersion = some v
  expected : probe.observedSchemaVersion = some rec.expectedSchemaVersion
  association : secretRefKey rec.databaseAssociationRef ≠ gate.controlDbEvidence.secretRefKey
  identified : evidence.systemIdentifier ≠ "" ∧ evidence.databaseIdentity ≠ ""
  sentinel : evidence.sentinelWritten = true ∧ evidence.sentinelToken.getD "" ≠ ""
  target : evidence.observedTarget = tenantDatabaseName rec.tenantId
  control : collidesWithControl evidence gate.controlDbEvidence = false
  tenants : ∀ e ∈ inventory, e.1 ≠ rec.tenantId → collidesWithTenant evidence e.2 = false

/-- What the decision `verified` says about the evidence. -/
theorem decideDistinctness_verified {t target : String} {candidate : DistinctnessEvidence}
    {control : DistinctnessEvidence} {inventory : List (String × DistinctnessEvidence)}
    (h : (decideDistinctness t (some candidate) target control inventory).result = .verified) :
  (candidate.systemIdentifier ≠ "" ∧ candidate.databaseIdentity ≠ "")
    ∧ (candidate.sentinelWritten = true ∧ candidate.sentinelToken.getD "" ≠ "")
    ∧ candidate.observedTarget = target
    ∧ collidesWithControl candidate control = false
    ∧ ∀ e ∈ inventory, e.1 ≠ t → collidesWithTenant candidate e.2 = false
  := by
  rw [decideDistinctness] at h
  split at h
  · cases h
  rename_i hidentified
  split at h
  · cases h
  rename_i hsentinel
  split at h
  · cases h
  rename_i htarget
  split at h
  · cases h
  rename_i hcontrol
  split at h
  · cases h
  rename_i hinventory
  constructor
  · apply not_or.mp hidentified
  · constructor
    · obtain ⟨hwritten, htoken⟩ := not_or.mp hsentinel
      exact ⟨Bool.not_eq_false _ ▸ hwritten, htoken⟩
    · constructor
      · apply not_not.mp htarget
      · constructor
        · apply Bool.not_eq_true _ ▸ hcontrol
        · intro e he hne
          simp only [List.any_eq_true, Bool.and_eq_true, bne_iff_ne] at hinventory
          apply eq_false_of_ne_true
          exact fun hcollides => hinventory ⟨e, he, hne, hcollides⟩

/-! ### The condition on calls -/

/-- The writes over a record that the operation was told of. -/
inductive Write (gate : ProvisioningVerificationService) (q : Operation)
    (h : List ControlEvent) (rec updated : TenantRecord) : Prop where
  /-- A transition of the registry, or the end of a verification that did not succeed. -/
  | table (edge : Transition rec.lifecycleState updated.lifecycleState)
      (hready : updated.lifecycleState ≠ .ready)
  /-- The entry into a verification. -/
  | entry (hq : q.verifies rec.tenantId) (hrec : rec.lifecycleState ∉
        [TenantLifecycleState.decommissioned, .suspended, .quarantined])
      (hupdated : updated.lifecycleState = .verifying)
      (hfirst : q = .verify rec.tenantId ∨ Advanced h rec.tenantId)
  /-- A re-association. -/
  | reassociation (ref : SecretRef) (hq : q = .reassociate rec.tenantId ref)
      (href : updated.databaseAssociationRef = ref)
      (hrec : rec.lifecycleState ∉ [TenantLifecycleState.quarantined, .decommissioned])
      (hupdated : updated.lifecycleState = .verifying)
  /-- The commit of a verification whose checks have all succeeded. -/
  | commit (ts : String) (hhead : h.head? = some ⟨.now, .ok ts⟩)
      (hupdated : updated = { rec with lifecycleState := .ready, updatedAt := ts })
      (hq : q.verifies rec.tenantId)
      (hrec : rec.lifecycleState = .verifying)
      (hverified : ∃ probe token evidence inventory before,
        Verified gate rec probe token evidence inventory before h.tail)

/-- The calls an operation may make after the history. -/
def Permitted (gate : ProvisioningVerificationService) (q : Operation)
    (h : List ControlEvent) : ControlOp → Prop
  | .putTenant r => r.version = 0 ∧ r.lifecycleState = .registered
  | .compareAndSwapTenant updated v => ∃ rec, Told h rec ∧ updated.tenantId = rec.tenantId
      ∧ v = rec.version ∧ Write gate q h rec updated
  | _ => True

theorem permitted_of_keepsTenants {gate : ProvisioningVerificationService} {q : Operation}
    (h : List ControlEvent) (op : ControlOp) (hop : keepsTenants op) :
  Permitted gate q h op
  := by
  cases op with
  | putTenant r => cases hop
  | compareAndSwapTenant r v => cases hop
  | _ => trivial

end ControlPlane
