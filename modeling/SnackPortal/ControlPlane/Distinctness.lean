import SnackPortal.ControlPlane.Records

/-!
# Physical distinctness

The evidence gathered about one tenant database, the decision the verifier draws from it, and
the ledger of the evidence recorded for every tenant.  The ledger refuses evidence whose
fingerprint another tenant holds, so recorded fingerprints are distinct
(`Distinct.recordEvidence`).
-/

namespace ControlPlane

/-- The four outcomes of physical distinctness verification. -/
inductive DistinctnessResult where
  | verified
  | verificationFailed
  | verificationIncomplete
  | isolationAnomaly
deriving DecidableEq, Repr, Inhabited

/-- Reference-only evidence about one database. -/
structure DistinctnessEvidence where
  systemIdentifier : String
  databaseIdentity : String
  observedTarget : String
  secretRefKey : String
  sentinelNamespace : String
  sentinelToken : Option String
  sentinelWritten : Bool
deriving DecidableEq, Repr, Inhabited

/-- The fingerprint of the physical database. -/
def DistinctnessEvidence.fingerprint (e : DistinctnessEvidence) : String :=
  e.systemIdentifier ++ "::" ++ e.databaseIdentity

/-- The result of a verification and its non-sensitive reason. -/
structure DistinctnessOutcome where
  result : DistinctnessResult
  reason : String
deriving DecidableEq, Repr, Inhabited

/-- The outcome is an isolation anomaly. -/
def DistinctnessOutcome.isAnomaly (o : DistinctnessOutcome) : Bool :=
  o.result == .isolationAnomaly

def reasonVerified := "verified"
def reasonIncompleteEvidence := "incomplete_evidence"
def reasonSentinelFailure := "sentinel_failure"
def reasonSystemIdOnly := "system_identifier_insufficient"
def reasonMisroutedTarget := "misrouted_target"
def reasonControlDbCollision := "control_db_collision"
def reasonTenantCollision := "tenant_collision"

/-- The comparison key of a secret reference is its store location. -/
def secretRefKey (ref : SecretRef) : String := ref.storeRef

/-- The candidate resolves to, or collides with, the Control database. -/
def collidesWithControl (candidate controlDb : DistinctnessEvidence) : Bool :=
  candidate.fingerprint == controlDb.fingerprint
    || candidate.observedTarget == controlDb.observedTarget
    || candidate.secretRefKey == controlDb.secretRefKey
    || candidate.sentinelNamespace == controlDb.sentinelNamespace
    || (controlDb.sentinelToken.isSome && candidate.sentinelToken == controlDb.sentinelToken)

/-- The candidate collides with the evidence recorded for another tenant. -/
def collidesWithTenant (candidate other : DistinctnessEvidence) : Bool :=
  candidate.fingerprint == other.fingerprint
    || candidate.observedTarget == other.observedTarget
    || candidate.secretRefKey == other.secretRefKey
    || (other.sentinelToken.isSome && candidate.sentinelToken == other.sentinelToken)

/-- The decision of `PhysicalDistinctnessVerifier.verify`, which fails closed. -/
def decideDistinctness (tenantId : String) (candidate : Option DistinctnessEvidence)
    (intendedTarget : String) (controlDb : DistinctnessEvidence)
    (inventory : List (String × DistinctnessEvidence)) : DistinctnessOutcome :=
  match candidate with
  | none => ⟨.verificationIncomplete, reasonIncompleteEvidence⟩
  | some candidate =>
      if candidate.systemIdentifier = "" ∨ candidate.databaseIdentity = "" then
        ⟨.verificationIncomplete,
          if candidate.systemIdentifier = "" then reasonIncompleteEvidence
          else reasonSystemIdOnly⟩
      else if candidate.sentinelWritten = false ∨ candidate.sentinelToken.getD "" = "" then
        ⟨.verificationIncomplete, reasonSentinelFailure⟩
      else if candidate.observedTarget ≠ intendedTarget then
        ⟨.isolationAnomaly, reasonMisroutedTarget⟩
      else if collidesWithControl candidate controlDb then
        ⟨.isolationAnomaly, reasonControlDbCollision⟩
      else if inventory.any fun e => e.1 != tenantId && collidesWithTenant candidate e.2 then
        ⟨.isolationAnomaly, reasonTenantCollision⟩
      else
        ⟨.verified, reasonVerified⟩

/-! ### The ledger -/

/-- The latest evidence recorded for every tenant. -/
abbrev Ledger := AList (fun _ : String => DistinctnessEvidence)

namespace Ledger

/-- Another tenant already holds the fingerprint. -/
def holdsElsewhere (l : Ledger) (tenantId fingerprint : String) : Bool :=
  l.entries.any fun e => e.1 != tenantId && e.2.fingerprint == fingerprint

/-- The evidence of all tenants but one. -/
def evidenceExcluding (l : Ledger) (tenantId : String) : List (String × DistinctnessEvidence) :=
  (l.entries.filter fun e => e.1 != tenantId).map fun e => (e.1, e.2)

/-- No two tenants hold the same fingerprint. -/
def Distinct (l : Ledger) : Prop :=
  ∀ t t' e e', l.lookup t = some e → l.lookup t' = some e' → e.fingerprint = e'.fingerprint →
    t = t'

theorem holdsElsewhere_eq_false {l : Ledger} {t f : String} (h : l.holdsElsewhere t f = false)
    {t' : String} {e : DistinctnessEvidence} (he : l.lookup t' = some e)
    (hf : e.fingerprint = f) :
  t' = t
  := by
  have hmem : (⟨t', e⟩ : Sigma fun _ : String => DistinctnessEvidence) ∈ l.entries :=
    AList.mem_lookup_iff.mp he
  simp only [holdsElsewhere, List.any_eq_false, Bool.and_eq_true, bne_iff_ne, beq_iff_eq,
    not_and] at h
  by_contra hne
  apply h _ hmem hne hf

/-- Recording evidence whose fingerprint no other tenant holds keeps the fingerprints of the
ledger distinct. -/
theorem Distinct.recordEvidence {l : Ledger} (h : l.Distinct) {t : String}
    {e : DistinctnessEvidence} (he : l.holdsElsewhere t e.fingerprint = false) :
  Distinct (l.insert t e)
  := by
  intro t₁ t₂ e₁ e₂ h₁ h₂ hf
  by_cases ht₁ : t₁ = t <;> by_cases ht₂ : t₂ = t
  · rw [ht₁, ht₂]
  · subst ht₁
    rw [AList.lookup_insert] at h₁
    rw [AList.lookup_insert_ne ht₂] at h₂
    obtain rfl := Option.some.inj h₁
    symm
    apply holdsElsewhere_eq_false he h₂ hf.symm
  · subst ht₂
    rw [AList.lookup_insert] at h₂
    rw [AList.lookup_insert_ne ht₁] at h₁
    obtain rfl := Option.some.inj h₂
    apply holdsElsewhere_eq_false he h₁ hf
  · rw [AList.lookup_insert_ne ht₁] at h₁
    rw [AList.lookup_insert_ne ht₂] at h₂
    apply h t₁ t₂ e₁ e₂ h₁ h₂ hf

/-- Removing evidence keeps the fingerprints of the ledger distinct. -/
theorem Distinct.remove {l : Ledger} (h : l.Distinct) (t : String) :
  Distinct (l.erase t)
  := by
  intro t₁ t₂ e₁ e₂ h₁ h₂ hf
  by_cases ht₁ : t₁ = t
  · subst ht₁
    rw [AList.lookup_erase] at h₁
    cases h₁
  · by_cases ht₂ : t₂ = t
    · subst ht₂
      rw [AList.lookup_erase] at h₂
      cases h₂
    · rw [AList.lookup_erase_ne ht₁] at h₁
      rw [AList.lookup_erase_ne ht₂] at h₂
      apply h t₁ t₂ e₁ e₂ h₁ h₂ hf

end Ledger

/-- The same pair of identifiers gives the same fingerprint. -/
theorem DistinctnessEvidence.fingerprint_congr {e e' : DistinctnessEvidence}
    (hs : e.systemIdentifier = e'.systemIdentifier)
    (hd : e.databaseIdentity = e'.databaseIdentity) :
  e.fingerprint = e'.fingerprint
  := by
  rw [fingerprint, fingerprint, hs, hd]

end ControlPlane
