import SnackPortal.ControlPlane.RelianceOperations

/-!
# Physical isolation of the tenants in `Ready`

In every run whose calls take no relied-on fingerprint out of the ledger, two tenants in
`Ready` were last verified on different databases (`ready_isolated`).  Disabling the routing of
a tenant in `Ready` takes its evidence out of the ledger and leaves the tenant in `Ready`;
another tenant is then verified on the same database (`ready_shared`).
-/

namespace ControlPlane

/-- The requests as threads of the control plane with a journal, in the state `s`. -/
def ControlState.recording {ι : Type} (s : ControlState) (gate : ProvisioningVerificationService)
    (requests : ι → Request) : (Machine.journaled (controlPlane ι)).Config Unit :=
  ⟨⟨s, []⟩, fun i => some ((requests i).program gate)⟩

/-- The tenant is in `Ready`, and its last successful verification gathered `e`. -/
def ReadyOn {ι : Type} [DecidableEq ι] (s : ControlHistory ι) (t : String)
    (e : DistinctnessEvidence) : Prop :=
  (s.base.tenants.lookup t).map TenantRecord.lifecycleState = some .ready
    ∧ lastVerification t s.journal = some e

instance {ι : Type} [DecidableEq ι] (s : ControlHistory ι) (t : String)
    (e : DistinctnessEvidence) : Decidable (ReadyOn s t e) :=
  inferInstanceAs (Decidable (_ ∧ _))

/-- A store before any verification: records under their own tenant ids, none in `Ready`, and
a distinct ledger. -/
structure ControlState.Unverified (s : ControlState) : Prop where
  keyed : ∀ t r, s.tenants.lookup t = some r → r.tenantId = t
  ready : ∀ t r, s.tenants.lookup t = some r → r.lifecycleState ≠ .ready
  distinct : s.ledger.Distinct

/-- The fingerprint of every tenant in `Ready` is in the ledger. -/
theorem Reliable.ready {ι : Type} [DecidableEq ι] {s : ControlHistory ι} (hs : Reliable s)
    {t : String} {e : DistinctnessEvidence} (h : ReadyOn s t e) :
  s.base.ledger.Holds t e.fingerprint
  := by
  obtain ⟨r, hr, hstate⟩ := Option.map_eq_some_iff.mp h.1
  apply (hs.relied t).1 r hr hstate e h.2

/-- In a run whose calls take no relied-on fingerprint out of the ledger, distinct tenants in
`Ready` were last verified on distinct databases. -/
theorem ready_isolated {ι : Type} [DecidableEq ι] (gate : ProvisioningVerificationService)
    (requests : ι → Request) {s : ControlState} (hs : s.Unverified)
    {cfg : (Machine.journaled (controlPlane ι)).Config Unit}
    (h : Machine.Reaches keepsRelied (s.recording gate requests) cfg) {t t' : String}
    {e e' : DistinctnessEvidence} (hne : t ≠ t') (ht : ReadyOn cfg.state t e)
    (ht' : ReadyOn cfg.state t' e') :
  ¬ (e.systemIdentifier = e'.systemIdentifier ∧ e.databaseIdentity = e'.databaseIdentity)
  := by
  rintro ⟨hsystem, hdatabase⟩
  have hstart : Reliable (⟨s, []⟩ : ControlHistory ι) := by
    constructor
    · apply hs.keyed
    · apply hs.distinct
    · intro u
      constructor
      · rintro r _ _ _ ⟨⟩
      · rintro k _ ⟨⟩
  have hreaches := Discipline.Safe.reaches (D := reliance ι)
    (Q := fun _ => Discipline.Returns fun _ _ => True) h hstart
  obtain ⟨hreliable, -, -⟩ := hreaches fun i x hx => by
    obtain rfl := Option.some.inj hx
    apply (reliance_parts gate).program_lawful (requests i) _ hstart trivial
  obtain ⟨f, hf, hfe⟩ := Reliable.ready hreliable ht
  obtain ⟨f', hf', hfe'⟩ := Reliable.ready hreliable ht'
  apply hne
  apply hreliable.distinct t t' f f' hf hf'
  rw [hfe, hfe']
  apply DistinctnessEvidence.fingerprint_congr hsystem hdatabase

section SharedDatabase

instance {n : Nat} (s : ControlHistory (Fin n)) (t : String) (p : String → Prop)
    [DecidablePred p] : Decidable (AllRelied s t p) :=
  inferInstanceAs (Decidable (_ ∧ _))

instance (l : Ledger) (t f : String) : Decidable (l.Holds t f) :=
  inferInstanceAs (Decidable (∃ e ∈ l.lookup t, e.fingerprint = f))

instance {n : Nat} (s : ControlHistory (Fin n)) (i : Fin n) (op : ControlOp)
    (c : ControlChoice) : Decidable (keepsRelied s i op c) :=
  match op with
  | .removeEvidence t =>
      inferInstanceAs (Decidable (c.fault = false → AllRelied s t fun _ => False))
  | .recordEvidence t e =>
      inferInstanceAs (Decidable (c.fault = false →
        s.base.ledger.holdsElsewhere t e.fingerprint = false →
          AllRelied s t (· = e.fingerprint)))
  | .putTenant r =>
      inferInstanceAs (Decidable (c.fault = false →
        ∀ k, ∀ q ∈ (viewOf k s.journal).recorded, q.1 = r.tenantId →
          s.base.ledger.Holds r.tenantId q.2.fingerprint))
  | .now | .token | .getTenant _ | .compareAndSwapTenant _ _ | .appendAudit _ | .listAudit
  | .evidenceExcluding _ | .probe _ | .gather _ _ _ | .invalidateTenant _ _ | .provision _ _
  | .applySchema _ _ _ | .controlDatabaseName | .databaseExists _ | .inspectDatabase _
  | .deprovision _ => .isTrue fun _ => trivial

/-- A gate that supports schema version `1`. -/
def schemaOneGate : ProvisioningVerificationService where
  controlDbEvidence := ⟨"sys", "0", "snackportal_control", "control/dsn", "sp2", none, false⟩
  supportedSchemaVersions := ["1"]
  sentinelPrefix := "sp2_"

/-- Two tenants are registered and verified; the last request disables the routing of the
first. -/
def twoTenants : Fin 5 → Request
  | 0 => ⟨.registerTenant "a" ⟨"org", "1", ⟨"tenant/a/dsn", "1"⟩, "fed"⟩, "ops", "c0"⟩
  | 1 => ⟨.registerTenant "b" ⟨"org", "1", ⟨"tenant/b/dsn", "1"⟩, "fed"⟩, "ops", "c1"⟩
  | 2 => ⟨.verify "a", "ops", "c2"⟩
  | 3 => ⟨.verify "b", "ops", "c3"⟩
  | 4 => ⟨.disableRouting "a", "ops", "c4"⟩

/-- The evidence of a tenant whose database has the given identity. -/
def evidenceOf (tenantId databaseIdentity : String) : DistinctnessEvidence :=
  ⟨"sys", databaseIdentity, tenantDatabaseName tenantId, tenantDsnRef tenantId,
    "sp2_" ++ tenantId, some ("token_" ++ tenantId), true⟩

/-- The next call of a thread, where the database of the tenant has the given identity. -/
def callOn {ι : Type} (tenantId databaseIdentity : String) (i : ι) : Move ι ControlChoice :=
  .call i { (default : ControlChoice) with
    probe := ⟨true, some "1"⟩
    gathered := some (evidenceOf tenantId databaseIdentity) }

/-- The moves that register both tenants and then verify the first. -/
def verifyFirst : List (Move (Fin 5) ControlChoice) :=
  (List.replicate 5 (0 : Fin 5) ++ List.replicate 5 1 ++ List.replicate 16 2).map
    (callOn "a" "1")

/-- The two verifications one after the other, on two databases: both tenants end in `Ready`. -/
theorem ready_isolated_serial :
  ∃ cfg : (Machine.journaled (controlPlane (Fin 5))).Config Unit,
    ReadyOn cfg.state "a" (evidenceOf "a" "1") ∧ ReadyOn cfg.state "b" (evidenceOf "b" "2")
    ∧ ¬ ((evidenceOf "a" "1").systemIdentifier = (evidenceOf "b" "2").systemIdentifier
      ∧ (evidenceOf "a" "1").databaseIdentity = (evidenceOf "b" "2").databaseIdentity)
  := by
  have hrun : ((ControlState.recording ⟨∅, [], ∅⟩ schemaOneGate twoTenants).run keepsRelied
      (verifyFirst ++ (List.replicate 16 (3 : Fin 5)).map (callOn "b" "2"))).map
        (fun cfg => decide (ReadyOn cfg.state "a" (evidenceOf "a" "1")
          ∧ ReadyOn cfg.state "b" (evidenceOf "b" "2"))) = some true := by
    decide +kernel
  obtain ⟨cfg, hcfg, hready⟩ := Machine.Reaches.of_map_run hrun
  obtain ⟨ha, hb⟩ := of_decide_eq_true hready
  have hempty : ControlState.Unverified ⟨∅, [], ∅⟩ := by
    constructor
    · rintro t r ⟨⟩
    · rintro t r ⟨⟩
    · rintro t t' e e' ⟨⟩
  exact ⟨cfg, ha, hb, ready_isolated schemaOneGate twoTenants hempty hcfg (by decide) ha hb⟩

/-- Both tenants are registered, the first is verified, its routing is disabled, and the second
is verified on the same database: both are in `Ready`. -/
theorem ready_shared :
  ¬ ∀ cfg : (Machine.journaled (controlPlane (Fin 5))).Config Unit,
    Machine.Reaches (Machine.anyCall _)
      (ControlState.recording ⟨∅, [], ∅⟩ schemaOneGate twoTenants) cfg →
    ∀ t t' e e', t ≠ t' → ReadyOn cfg.state t e → ReadyOn cfg.state t' e' →
      ¬ (e.systemIdentifier = e'.systemIdentifier ∧ e.databaseIdentity = e'.databaseIdentity)
  := by
  intro hclaim
  have hrun : ((ControlState.recording ⟨∅, [], ∅⟩ schemaOneGate twoTenants).run
      (Machine.anyCall _) (verifyFirst ++ (List.replicate 6 (4 : Fin 5)).map (callOn "a" "1")
        ++ (List.replicate 16 (3 : Fin 5)).map (callOn "b" "1"))).map
        (fun cfg => decide (ReadyOn cfg.state "a" (evidenceOf "a" "1")
          ∧ ReadyOn cfg.state "b" (evidenceOf "b" "1"))) = some true := by
    decide +kernel
  obtain ⟨cfg, hcfg, hready⟩ := Machine.Reaches.of_map_run hrun
  obtain ⟨ha, hb⟩ := of_decide_eq_true hready
  apply hclaim cfg hcfg "a" "b" _ _ (by decide) ha hb
  exact ⟨rfl, rfl⟩

end SharedDatabase

end ControlPlane
