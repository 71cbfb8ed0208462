import SnackPortal.Program.Discipline
import SnackPortal.ControlPlane.Operations

/-!
# Lifecycle runs

How the stored record of a tenant evolves while any number of operations of the registry, the
gate and the orchestrator run at once, in every run in which each registration writes over no
record that a transition has written.  Versions then only grow, so a compare-and-swap succeeds
only in the lifecycle state its thread has read, and every write follows an edge of `Edge`.
-/

namespace ControlPlane

/-- The lifecycle changes some operation writes. -/
inductive Edge : TenantLifecycleState → TenantLifecycleState → Prop where
  | markProvisioning : Edge .registered .provisioning
  | suspend : Edge .ready .suspended
  | decommission {s} (h : s ∈ [TenantLifecycleState.registered, .provisioning, .suspended,
      .failed, .quarantined]) : Edge s .decommissioned
  | quarantine {s} (h : s ∈ [TenantLifecycleState.provisioning, .failed]) : Edge s .quarantined
  | enterVerifying {s} (hq : s ≠ .quarantined) (hd : s ≠ .decommissioned) : Edge s .verifying
  | verified : Edge .verifying .ready
  | failed : Edge .verifying .failed
  | anomaly : Edge .verifying .quarantined

/-- The state is the isolation hold or what follows it. -/
def TenantLifecycleState.Held (s : TenantLifecycleState) : Prop :=
  s = .quarantined ∨ s = .decommissioned

/-- No edge leads out of the isolation hold. -/
theorem Edge.held {s s' : TenantLifecycleState} (h : Edge s s') (hs : s.Held) :
  s'.Held
  := by
  rcases hs with rfl | rfl
  · cases h with
    | decommission h => exact .inr rfl
    | quarantine h => exact .inl rfl
    | enterVerifying hq hd => contradiction
  · cases h with
    | decommission h => exact .inr rfl
    | quarantine h => exact .inl rfl
    | enterVerifying hq hd => contradiction

theorem Edge.held_path {s s' : TenantLifecycleState} (h : Relation.ReflTransGen Edge s s')
    (hs : s.Held) :
  s'.Held
  := by
  induction h with
  | refl => apply hs
  | tail _ h ih => apply h.held ih

/-! ### The discipline -/

/-- Every record is stored under its own tenant id, and a record no transition has written is
registered. -/
structure ControlState.Coherent (s : ControlState) : Prop where
  keyed : ∀ t r, s.tenants.lookup t = some r → r.tenantId = t
  initial : ∀ t r, s.tenants.lookup t = some r → r.version = 0 → r.lifecycleState = .registered

/-- Stored records stay; their versions do not decrease, their lifecycle states follow edges,
and where the version is the same the lifecycle state is the same. -/
def ControlState.Evolves (s s' : ControlState) : Prop :=
  ∀ t r, s.tenants.lookup t = some r → ∃ r', s'.tenants.lookup t = some r'
    ∧ r.version ≤ r'.version
    ∧ Relation.ReflTransGen Edge r.lifecycleState r'.lifecycleState
    ∧ (r'.version = r.version → r'.lifecycleState = r.lifecycleState)

theorem ControlState.Evolves.refl (s : ControlState) :
  s.Evolves s
  := fun _ r h => ⟨r, h, le_rfl, .refl, fun _ => rfl⟩

theorem ControlState.Evolves.trans {s s' s'' : ControlState} (h : s.Evolves s')
    (h' : s'.Evolves s'') :
  s.Evolves s''
  := by
  intro t r hr
  obtain ⟨r', hr', hv, he, heq⟩ := h t r hr
  obtain ⟨r'', hr'', hv', he', heq'⟩ := h' t r' hr'
  use r''
  constructor
  · apply hr''
  · constructor
    · apply le_trans hv hv'
    · constructor
      · apply he.trans he'
      · intro hv''
        have hv₁ : r'.version = r.version := by omega
        have hv₂ : r''.version = r'.version := by omega
        rw [heq' hv₂, heq hv₁]

/-- A change that keeps the registry table lets it evolve. -/
theorem ControlState.Evolves.of_tenants {s s' : ControlState} (h : s'.tenants = s.tenants) :
  s.Evolves s'
  := by
  intro t r hr
  use r
  rw [h]
  exact ⟨hr, le_rfl, .refl, fun _ => rfl⟩

/-- A write along lifecycle edges that does not lower the version lets the registry table
evolve. -/
theorem ControlState.Evolves.insert {s s' : ControlState} {t : String} {r' : TenantRecord}
    (hr : ∀ r, s.tenants.lookup t = some r → r.version ≤ r'.version
      ∧ Relation.ReflTransGen Edge r.lifecycleState r'.lifecycleState
      ∧ (r'.version = r.version → r'.lifecycleState = r.lifecycleState))
    (h : s'.tenants = s.tenants.insert t r') :
  s.Evolves s'
  := by
  intro u q hq
  rw [h]
  by_cases hu : u = t
  · subst hu
    use r'
    exact ⟨AList.lookup_insert _, hr q hq⟩
  · use q
    rw [AList.lookup_insert_ne hu]
    exact ⟨hq, le_rfl, .refl, fun _ => rfl⟩

theorem ControlState.Coherent.of_tenants {s s' : ControlState} (hs : s.Coherent)
    (h : s'.tenants = s.tenants) :
  s'.Coherent
  := by
  constructor
  · rw [h]
    apply hs.keyed
  · rw [h]
    apply hs.initial

theorem ControlState.Coherent.insert {s s' : ControlState} (hs : s.Coherent) {r : TenantRecord}
    (hr : r.version = 0 → r.lifecycleState = .registered)
    (h : s'.tenants = s.tenants.insert r.tenantId r) :
  s'.Coherent
  := by
  have hlookup : ∀ t q, s'.tenants.lookup t = some q →
      t = r.tenantId ∧ q = r ∨ s.tenants.lookup t = some q := by
    intro t q hq
    rw [h] at hq
    by_cases ht : t = r.tenantId
    · subst ht
      rw [AList.lookup_insert] at hq
      exact .inl ⟨rfl, (Option.some.inj hq).symm⟩
    · rw [AList.lookup_insert_ne ht] at hq
      exact .inr hq
  constructor
  · intro t q hq
    rcases hlookup t q hq with ⟨rfl, rfl⟩ | hq
    · rfl
    · apply hs.keyed t q hq
  · intro t q hq
    rcases hlookup t q hq with ⟨rfl, rfl⟩ | hq
    · apply hr
    · apply hs.initial t q hq

/-- A registration writes over no record that a transition has written. -/
def registersFresh {ι : Type} : (controlPlane ι).Guard := fun s _ op c =>
  match op with
  | .putTenant r => c.fault = false →
      ∀ stored ∈ s.tenants.lookup r.tenantId, stored.version = 0
  | _ => True

instance {ι : Type} (s : ControlState) (i : ι) (op : ControlOp) (c : ControlChoice) :
    Decidable (registersFresh s i op c) :=
  match op with
  | .putTenant r => inferInstanceAs (Decidable (c.fault = false →
      ∀ stored ∈ s.tenants.lookup r.tenantId, stored.version = 0))
  | .now | .token | .getTenant _ | .compareAndSwapTenant _ _ | .appendAudit _ | .listAudit
  | .recordEvidence _ _ | .evidenceExcluding _ | .removeEvidence _ | .probe _ | .gather _ _ _
  | .invalidateTenant _ _ | .provision _ _ | .applySchema _ _ _ | .controlDatabaseName
  | .databaseExists _ | .inspectDatabase _ | .deprovision _ => .isTrue trivial

/-- The discipline of the registry table. -/
def lifecycle (ι : Type) : Discipline (controlPlane ι) where
  guard := registersFresh
  inv := ControlState.Coherent
  evolve := ControlState.Evolves
  Own := Unit
  own _ _ := ()
  evolve_refl := ControlState.Evolves.refl
  evolve_trans := ControlState.Evolves.trans
  drop_inv _ _ h := h
  drop_evolve _ s _ := ControlState.Evolves.refl s
  drop_own _ _ _ _ _ := rfl

/-- The thread holds a record at least as old as the stored one: where the versions agree,
so do the lifecycle states. -/
def Known (rec : TenantRecord) (s : ControlState) : Prop :=
  ∃ r, s.tenants.lookup rec.tenantId = some r ∧ rec.version ≤ r.version
    ∧ (r.version = rec.version → r.lifecycleState = rec.lifecycleState)

section Triples

open Discipline

variable {ι : Type} {i : ι}

theorem Known.stable (rec : TenantRecord) :
  (lifecycle ι).Stable i (Known rec)
  := by
  rintro s s' hs ⟨r, hr, hle, heq⟩
  obtain ⟨r', hr', hv, -, hstate⟩ := hs.evolve rec.tenantId r hr
  use r'
  constructor
  · apply hr'
  · constructor
    · apply le_trans hle hv
    · intro hv'
      rw [hstate (by omega), heq (by omega)]

/-- A call that writes nothing into the registry table leaves it as it is. -/
theorem tenants_of_keepsTenants {o : ControlOp} (hop : keepsTenants o) {c : ControlChoice}
    {s s' : ControlState} {r : Except ControlError o.Ans}
    (h : (controlPlane ι).answer i o c s = some (r, s')) :
  s'.tenants = s.tenants
  := by
  simp only [Option.some.injEq] at h
  split at h
  · cases h
    rfl
  · cases o with
    | putTenant r => contradiction
    | compareAndSwapTenant r v => contradiction
    | recordEvidence t e =>
        simp only [ControlState.answer, ControlState.recordEvidence] at h
        split at h <;> (cases h; rfl)
    | _ =>
        cases h
        rfl

/-- A program that writes nothing into the registry table keeps what its thread knows. -/
theorem lifecycle_effects {α : Type} {P : ControlState → Prop} {x : ControlProgram α}
    (hx : x.Calls keepsTenants) (hP : (lifecycle ι).Stable i P)
    (hP' : ∀ s s', s'.tenants = s.tenants → P s → P s') :
  (lifecycle ι).Triple i P x (Returns fun _ => P)
  := by
  apply Triple.effects hx hP
  intro op s c r s' hop hinv hp _ ha
  have ht := tenants_of_keepsTenants hop ha
  constructor
  · exact ⟨ControlState.Coherent.of_tenants hinv ht, ControlState.Evolves.of_tenants ht,
      fun _ _ => rfl⟩
  · apply hP' s s' ht hp

theorem Known.of_tenants {rec : TenantRecord} {s s' : ControlState}
    (h : s'.tenants = s.tenants) (hk : Known rec s) :
  Known rec s'
  := by
  obtain ⟨r, hr, hle, heq⟩ := hk
  use r
  rw [h]
  exact ⟨hr, hle, heq⟩

/-- A record that was just read is known. -/
theorem getTenant_known (tenantId : String) :
  (lifecycle ι).Triple i (fun _ => True) (getTenant tenantId)
    (Returns fun a s => ∀ rec, a = some rec → rec.tenantId = tenantId ∧ Known rec s)
  := by
  apply Triple.perform (S := controlSignature) (o := .getTenant tenantId) Stable.true
  · rintro (e | a)
    · apply Stable.true
    · rintro s s' hs h rec rfl
      obtain ⟨ht, hk⟩ := h rec rfl
      exact ⟨ht, Known.stable rec s s' hs hk⟩
  · intro s c r s' hinv _ _ ha
    have ht := tenants_of_keepsTenants (o := .getTenant tenantId) trivial ha
    constructor
    · exact ⟨ControlState.Coherent.of_tenants hinv ht, ControlState.Evolves.of_tenants ht,
        fun _ _ => rfl⟩
    · simp only [Option.some.injEq] at ha
      split at ha
      · cases ha
        trivial
      · cases ha
        rintro rec hrec
        have hid := hinv.keyed tenantId rec hrec
        subst hid
        exact ⟨rfl, rec, hrec, le_rfl, fun _ => rfl⟩

/-- A compare-and-swap along an edge from a known record keeps the discipline, and what it
returns is known. -/
theorem compareAndSwapTenant_known (rec updated : TenantRecord)
    (ht : updated.tenantId = rec.tenantId)
    (he : Edge rec.lifecycleState updated.lifecycleState) :
  (lifecycle ι).Triple i (Known rec) (compareAndSwapTenant updated rec.version)
    (Returns fun a s => a = { updated with version := rec.version + 1 } ∧ Known a s)
  := by
  apply Triple.perform (S := controlSignature)
    (o := .compareAndSwapTenant updated rec.version) (Known.stable rec)
  · rintro (e | a)
    · apply Stable.true
    · rintro s s' hs ⟨ha, hk⟩
      exact ⟨ha, Known.stable a s s' hs hk⟩
  · rintro s c r s' hinv ⟨current, hcur, hle, heq⟩ _ ha
    rw [← ht] at hcur
    simp only [Option.some.injEq] at ha
    split at ha
    · cases ha
      exact ⟨Steps.refl hinv, trivial⟩
    · rw [ControlState.answer] at ha
      rcases s.compareAndSwap_cases updated rec.version with
        ⟨_, hcur', hv, hswap⟩ | hswap
      · obtain rfl := Option.some.inj (hcur.symm.trans hcur')
        rw [hswap] at ha
        cases ha
        have hpath : Edge current.lifecycleState updated.lifecycleState := heq hv ▸ he
        constructor
        · constructor
          · apply ControlState.Coherent.insert hinv
              (r := { updated with version := rec.version + 1 }) _ rfl
            rintro ⟨⟩
          · apply ControlState.Evolves.insert _ rfl
            intro r hr
            rw [hcur] at hr
            obtain rfl := Option.some.inj hr
            have hlt : current.version < rec.version + 1 := by omega
            exact ⟨Nat.le_of_lt hlt, .single hpath, fun h => absurd h (Nat.ne_of_gt hlt)⟩
          · exact fun _ _ => rfl
        · constructor
          · rfl
          · use { updated with version := rec.version + 1 }
            exact ⟨AList.lookup_insert _, le_rfl, fun _ => rfl⟩
      · rw [hswap] at ha
        cases ha
        exact ⟨Steps.refl hinv, trivial⟩

/-- A program that writes nothing into the registry table keeps a known record known. -/
theorem Known.keeps {α : Type} {rec : TenantRecord} {x : ControlProgram α}
    (hx : x.Calls keepsTenants) :
  (lifecycle ι).Triple i (Known rec) x (Returns fun _ => Known rec)
  := lifecycle_effects hx (Known.stable rec) fun _ _ => Known.of_tenants

theorem Known.call {rec : TenantRecord} (op : ControlOp) (h : keepsTenants op) :
  (lifecycle ι).Triple i (Known rec) (Program.perform (S := controlSignature) op)
    (Returns fun _ => Known rec)
  := Known.keeps (Program.Calls.perform (S := controlSignature) h)

/-- A call that writes nothing into the registry table keeps the discipline. -/
theorem lifecycle_call (op : ControlOp) (h : keepsTenants op) :
  (lifecycle ι).Lawful i (Program.perform (S := controlSignature) op)
  := lifecycle_effects (Program.Calls.perform (S := controlSignature) h) Stable.true
    fun _ _ _ _ => trivial

/-- A registration that meets the guard keeps the discipline. -/
theorem putTenant_lawful {record : TenantRecord} (hv : record.version = 0)
    (hr : record.lifecycleState = .registered) :
  (lifecycle ι).Lawful i (putTenant record)
  := by
  apply Triple.perform (S := controlSignature) (o := .putTenant record) Stable.true
  · rintro (e | a) <;> apply Stable.true
  · rintro s c r s' hinv _ hfresh ha
    simp only [Option.some.injEq] at ha
    split at ha
    · cases ha
      exact ⟨Steps.refl hinv, trivial⟩
    · rename_i hc
      cases ha
      have hfresh' := hfresh (Bool.not_eq_true _ ▸ hc)
      constructor
      · constructor
        · apply ControlState.Coherent.insert hinv (fun _ => hr) rfl
        · apply ControlState.Evolves.insert _ rfl
          intro q hq
          have hq₀ : q.version = 0 := hfresh' q hq
          have hqr : q.lifecycleState = .registered := hinv.initial _ q hq hq₀
          rw [hq₀, hv, hqr, hr]
          exact ⟨le_rfl, .refl, fun _ => rfl⟩
        · exact fun _ _ => rfl
      · trivial

end Triples

end ControlPlane
