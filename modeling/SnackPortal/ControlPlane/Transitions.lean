import SnackPortal.ControlPlane.WritesOperations
import SnackPortal.ControlPlane.Lifecycle
import SnackPortal.ControlPlane.Isolation
import SnackPortal.ControlPlane.Quarantine

/-!
# The lifecycle transitions of a run

Every record a thread was told of is still the stored one or was overtaken by a later version,
in every run in which each registration writes over no record that a transition has written.
So a write that succeeds goes over the very record its operation has read, and what the
operation may write over that record is what the run commits.
-/

namespace ControlPlane

open Machine Program

/-- The stored record of the tenant is no older than `rec`; at the version of `rec` it is in
the same state, and past version zero it is `rec`; past its registration it stays so. -/
def Recalled (s : ControlState) (rec : TenantRecord) : Prop :=
  ∃ r, s.tenants.lookup rec.tenantId = some r ∧ rec.version ≤ r.version
    ∧ (r.version = rec.version →
        r.lifecycleState = rec.lifecycleState ∧ (0 < rec.version → r = rec))
    ∧ (rec.lifecycleState ≠ .registered → r.lifecycleState ≠ .registered)

theorem Recalled.of_tenants {s s' : ControlState} {rec : TenantRecord} (h : Recalled s rec)
    (hs : s'.tenants = s.tenants) :
  Recalled s' rec
  := by
  obtain ⟨r, hr, hrest⟩ := h
  exact ⟨r, hs ▸ hr, hrest⟩

/-- A stored record is recalled. -/
theorem Recalled.stored {s : ControlState} {rec : TenantRecord}
    (h : s.tenants.lookup rec.tenantId = some rec) :
  Recalled s rec
  := ⟨rec, h, le_rfl, fun _ => ⟨rfl, fun _ => rfl⟩, id⟩

/-- A write of a later version past the registration, or over a record of version zero by
another one in the same state, keeps what is recalled. -/
theorem Recalled.insert {s s' : ControlState} {rec current : TenantRecord}
    (h : Recalled s rec) (updated : TenantRecord)
    (hcurrent : s.tenants.lookup updated.tenantId = some current)
    (hs : s'.tenants = s.tenants.insert updated.tenantId updated)
    (hv : current.version < updated.version ∧ updated.lifecycleState ≠ .registered
      ∨ current.version = 0 ∧ updated.version = 0
        ∧ updated.lifecycleState = current.lifecycleState) :
  Recalled s' rec
  := by
  obtain ⟨r, hr, hle, heq, hpast⟩ := h
  by_cases ht : rec.tenantId = updated.tenantId
  · rw [ht, hcurrent] at hr
    obtain rfl := Option.some.inj hr
    use updated
    constructor
    · rw [hs, ht]
      apply AList.lookup_insert
    · rcases hv with ⟨hlt, hstate⟩ | ⟨hzero, hupdated, hstate⟩
      · exact ⟨by omega, fun h => by omega, fun _ => hstate⟩
      · constructor
        · omega
        · constructor
          · intro hversion
            obtain ⟨hsame, -⟩ := heq (by omega)
            exact ⟨hstate.trans hsame, fun hpos => by omega⟩
          · rw [hstate]
            apply hpast
  · use r
    rw [hs, AList.lookup_insert_ne ht]
    exact ⟨hr, hle, heq, hpast⟩

/-- No edge leads into `Registered`. -/
theorem Transition.state_ne {s s' : TenantLifecycleState} (h : Transition s s') :
  s' ≠ .registered
  := by
  rintro rfl
  cases h

/-- Nothing is written into `Registered`. -/
theorem Write.state_ne {gate : ProvisioningVerificationService} {q : Operation}
    {h : List ControlEvent} {rec updated : TenantRecord} (hw : Write gate q h rec updated) :
  updated.lifecycleState ≠ .registered
  := by
  intro hregistered
  cases hw with
  | table edge hready => apply edge.state_ne hregistered
  | entry hq hrec hupdated hfirst =>
      rw [hregistered] at hupdated
      cases hupdated
  | reassociation ref hq href hrec hupdated =>
      rw [hregistered] at hupdated
      cases hupdated
  | commit ts hhead hupdated hq hrec hverified =>
      rw [hupdated] at hregistered
      cases hregistered

/-! ### What the threads were told -/

section Runs

variable {ι : Type} [DecidableEq ι]

/-- The store is coherent and answers honestly, and what any thread was told is recalled. -/
structure Recounted (s : ControlHistory ι) : Prop where
  coherent : s.base.Coherent
  honest : ∀ i, ∀ e ∈ historyOf i s.journal, honest e
  told : ∀ i, ∀ e ∈ historyOf i s.journal, ∀ rec, tells e = some rec → Recalled s.base rec

/-- A call that leaves the registry table as it is, and tells nothing but a stored record. -/
theorem Recounted.same {s s' : ControlHistory ι} (hs : Recounted s) {i : ι} {op : ControlOp}
    {r : Except ControlError op.Ans} (hj : s'.journal = .call i op r :: s.journal)
    (htenants : s'.base.tenants = s.base.tenants) (hhonest : ControlPlane.honest ⟨op, r⟩)
    (htells : ∀ rec, tells ⟨op, r⟩ = some rec → Recalled s.base rec) :
  Recounted s'
  := by
  constructor
  · apply hs.coherent.of_tenants htenants
  · rw [hj]
    apply forall_historyOf hs.honest hhonest
  · rw [hj]
    apply forall_historyOf
    · intro j e he rec hrec
      apply (hs.told j e he rec hrec).of_tenants htenants
    · intro rec hrec
      apply (htells rec hrec).of_tenants htenants

/-- A compare-and-swap that succeeded. -/
theorem Recounted.swapped {s s' : ControlHistory ι} (hs : Recounted s) {i : ι}
    {updated current : TenantRecord} {v : Nat}
    (hj : s'.journal = .call i (.compareAndSwapTenant updated v)
      (.ok { updated with version := v + 1 }) :: s.journal)
    (hbase : s'.base.tenants =
      s.base.tenants.insert updated.tenantId { updated with version := v + 1 })
    (hcurrent : s.base.tenants.lookup updated.tenantId = some current)
    (hv : current.version = v) (hstate : updated.lifecycleState ≠ .registered) :
  Recounted s'
  := by
  have hinsert : ∀ rec, Recalled s.base rec → Recalled s'.base rec := by
    intro rec hrec
    apply hrec.insert { updated with version := v + 1 } hcurrent hbase
    left
    rw [hv]
    exact ⟨Nat.lt_succ_self v, hstate⟩
  constructor
  · apply hs.coherent.insert (r := { updated with version := v + 1 }) _ hbase
    rintro ⟨⟩
  · rw [hj]
    apply forall_historyOf hs.honest
    rfl
  · rw [hj]
    apply forall_historyOf
    · intro j e he rec hrec
      apply hinsert rec (hs.told j e he rec hrec)
    · intro rec hrec
      obtain rfl := Option.some.inj hrec
      apply Recalled.stored
      rw [hbase]
      apply AList.lookup_insert

/-- A registration over no record that a transition has written. -/
theorem Recounted.put {s s' : ControlHistory ι} (hs : Recounted s) {i : ι}
    {record : TenantRecord} {a : Unit}
    (hj : s'.journal = .call i (.putTenant record) (.ok a) :: s.journal)
    (hbase : s'.base.tenants = s.base.tenants.insert record.tenantId record)
    (hversion : record.version = 0) (hstate : record.lifecycleState = .registered)
    (hfresh : ∀ stored ∈ s.base.tenants.lookup record.tenantId, stored.version = 0) :
  Recounted s'
  := by
  have hinsert : ∀ rec, Recalled s.base rec → Recalled s'.base rec := by
    intro rec hrec
    by_cases ht : rec.tenantId = record.tenantId
    · have hstored := hrec
      obtain ⟨current, hcurrent, -⟩ := hstored
      rw [ht] at hcurrent
      have hzero := hfresh current hcurrent
      apply hrec.insert record hcurrent hbase
      right
      refine ⟨hzero, hversion, ?_⟩
      rw [hstate, hs.coherent.initial _ _ hcurrent hzero]
    · obtain ⟨r, hr, hrest⟩ := hrec
      use r
      rw [hbase, AList.lookup_insert_ne ht]
      exact ⟨hr, hrest⟩
  constructor
  · apply hs.coherent.insert (fun _ => hstate) hbase
  · rw [hj]
    apply forall_historyOf hs.honest
    trivial
  · rw [hj]
    apply forall_historyOf
    · intro j e he rec hrec
      apply hinsert rec (hs.told j e he rec hrec)
    · rintro rec ⟨⟩

variable {gate : ProvisioningVerificationService} {requests : ι → Request}

/-- The condition on the calls of the threads. -/
abbrev permittedCalls (gate : ProvisioningVerificationService) (requests : ι → Request) (i : ι) :
    List ControlEvent → ControlOp → Prop :=
  Fairly honest (Permitted gate (requests i).operation)

/-- What a permitted call does to the registry table, and that it keeps what was recounted. -/
theorem Recounted.call {s s' : ControlHistory ι} (hs : Recounted s) {i : ι} {op : ControlOp}
    {c : ControlChoice} {r : Except ControlError op.Ans}
    (hop : permittedCalls gate requests i (historyOf i s.journal) op)
    (hfresh : registersFresh s.base i op c)
    (ha : (controlPlane ι).answer i op c s.base = some (r, s'.base))
    (hj : s'.journal = .call i op r :: s.journal) :
  Recounted s' ∧ (s'.base.tenants = s.base.tenants
    ∨ (∃ record : TenantRecord, record.lifecycleState = .registered ∧ record.version = 0
      ∧ (∀ stored ∈ s.base.tenants.lookup record.tenantId, stored.version = 0)
      ∧ s'.base.tenants = s.base.tenants.insert record.tenantId record)
    ∨ ∃ rec current updated, Recalled s.base rec ∧ Told (historyOf i s.journal) rec
      ∧ updated.tenantId = rec.tenantId
      ∧ s.base.tenants.lookup updated.tenantId = some current ∧ current.version = rec.version
      ∧ Write gate (requests i).operation (historyOf i s.journal) rec updated
      ∧ s'.base.tenants = s.base.tenants.insert updated.tenantId
        { updated with version := rec.version + 1 })
  := by
  have hpermitted := hop (hs.honest i)
  simp only [Option.some.injEq] at ha
  split at ha
  · obtain ⟨rfl, hbase⟩ := Prod.mk.inj ha
    have htenants : s'.base.tenants = s.base.tenants := by rw [← hbase]
    constructor
    · apply hs.same hj htenants
      · cases op <;> trivial
      · cases op <;> (rintro rec ⟨⟩)
    · left
      apply htenants
  · rename_i hfault
    cases op with
    | getTenant t =>
        obtain ⟨rfl, hbase⟩ := Prod.mk.inj ha
        have htenants : s'.base.tenants = s.base.tenants := by rw [← hbase]
        constructor
        · apply hs.same hj htenants
          · cases hlookup : s.base.tenants.lookup t with
            | none => trivial
            | some rec => apply hs.coherent.keyed t rec hlookup
          · intro rec hrec
            cases hlookup : s.base.tenants.lookup t with
            | none =>
                rw [hlookup] at hrec
                cases hrec
            | some rec' =>
                rw [hlookup] at hrec
                obtain rfl := Option.some.inj hrec
                have hid := hs.coherent.keyed t rec' hlookup
                apply Recalled.stored
                rw [hid]
                apply hlookup
        · left
          apply htenants
    | putTenant record =>
        obtain ⟨rfl, hbase⟩ := Prod.mk.inj ha
        have htenants : s'.base.tenants = s.base.tenants.insert record.tenantId record := by
          rw [← hbase]
        have hfresh' := hfresh (Bool.not_eq_true _ ▸ hfault)
        constructor
        · apply hs.put hj htenants hpermitted.1 hpermitted.2 hfresh'
        · right
          left
          exact ⟨record, hpermitted.2, hpermitted.1, hfresh', htenants⟩
    | compareAndSwapTenant updated v =>
        obtain ⟨rec, htold, hid, rfl, hwrite⟩ := hpermitted
        rw [ControlState.answer] at ha
        rcases s.base.compareAndSwap_cases updated rec.version with
          ⟨current, hcurrent, hv, hswap⟩ | hswap
        · rw [hswap] at ha
          obtain ⟨rfl, hbase⟩ := Prod.mk.inj ha
          have htenants : s'.base.tenants = s.base.tenants.insert updated.tenantId
              { updated with version := rec.version + 1 } := by
            rw [← hbase]
          constructor
          · apply hs.swapped hj htenants hcurrent hv hwrite.state_ne
          · right
            right
            have hrecalled : Recalled s.base rec := by
              obtain ⟨e, he, hrec⟩ := htold
              apply hs.told i e he rec hrec
            exact ⟨rec, current, updated, hrecalled, htold, hid, hcurrent, hv, hwrite, htenants⟩
        · rw [hswap] at ha
          obtain ⟨rfl, hbase⟩ := Prod.mk.inj ha
          have htenants : s'.base.tenants = s.base.tenants := by rw [← hbase]
          constructor
          · apply hs.same hj htenants
            · trivial
            · rintro rec' ⟨⟩
          · left
            apply htenants
    | recordEvidence t e =>
        have htenants : s'.base.tenants = s.base.tenants := by
          simp only [ControlState.answer, ControlState.recordEvidence] at ha
          split at ha <;> rw [← (Prod.mk.inj ha).2]
        constructor
        · apply hs.same hj htenants
          · trivial
          · cases r <;> (rintro rec ⟨⟩)
        · left
          apply htenants
    | _ =>
        obtain ⟨rfl, hbase⟩ := Prod.mk.inj ha
        have htenants : s'.base.tenants = s.base.tenants := by rw [← hbase]
        constructor
        · apply hs.same hj htenants
          · trivial
          · rintro rec ⟨⟩
        · left
          apply htenants

/-- The threads start with nothing told. -/
theorem Recounted.start {s : ControlState} (hs : s.Coherent) :
  Recounted (⟨s, []⟩ : ControlHistory ι)
  := by
  constructor
  · apply hs
  · rintro i e ⟨⟩
  · rintro i e ⟨⟩

/-- Requests start guarded. -/
theorem recording_guards (gate : ProvisioningVerificationService) (requests : ι → Request)
    {I : ControlHistory ι → Prop} {s : ControlState} (hs : I ⟨s, []⟩) :
  Guards (permittedCalls gate requests) I (s.recording gate requests)
  := by
  constructor
  · apply hs
  · rintro i x _ ⟨⟩
  · intro i x hx
    obtain rfl := Option.some.inj hx
    apply (program_permits gate (requests i)).mono
    exact fun _ _ _ => trivial

/-! ### The committed transitions -/

/-- A change of the stored record of the tenant that one call of the operation `q` commits. -/
inductive LifecycleChange (q : Operation) (t : String) :
    Option TenantRecord → Option TenantRecord → Prop where
  /-- The lifecycle state stays. -/
  | kept {r r' : Option TenantRecord}
      (h : r'.map TenantRecord.lifecycleState = r.map TenantRecord.lifecycleState) :
      LifecycleChange q t r r'
  /-- The tenant is registered. -/
  | registered {r' : TenantRecord} (h : r'.lifecycleState = .registered) :
      LifecycleChange q t none (some r')
  /-- An edge of the transition table. -/
  | table {r r' : TenantRecord} (h : Transition r.lifecycleState r'.lifecycleState) :
      LifecycleChange q t (some r) (some r')
  /-- The re-verification of a tenant in `Ready`. -/
  | reverification {r r' : TenantRecord} (hq : q.verifies t) (hr : r.lifecycleState = .ready)
      (hr' : r'.lifecycleState = .verifying) : LifecycleChange q t (some r) (some r')
  /-- A re-association. -/
  | reassociation {r r' : TenantRecord} (hq : q = .reassociate t r'.databaseAssociationRef)
      (hr : r.lifecycleState ≠ .quarantined ∧ r.lifecycleState ≠ .decommissioned)
      (hr' : r'.lifecycleState = .verifying) : LifecycleChange q t (some r) (some r')

deriving instance DecidableEq for Operation

/-- No registration writes over a record that a transition has written, and no call of `verify`
finds its tenant registered and not yet provisioned. -/
def verifiesProvisioned (requests : ι → Request) : (journaled (controlPlane ι)).Guard :=
  fun s i op c => registersFresh s.base i op c ∧ match op with
    | .getTenant t => (requests i).operation = .verify t → c.fault = false →
        ∀ r ∈ s.base.tenants.lookup t, r.lifecycleState ≠ .registered
    | _ => True

/-- What was recounted, and a call of `verify` was told of no registered record of its
tenant. -/
structure RecountedProvisioned (requests : ι → Request) (s : ControlHistory ι) : Prop where
  recounted : Recounted s
  provisioned : ∀ i, ∀ e ∈ historyOf i s.journal, ∀ rec, tells e = some rec →
    (requests i).operation = .verify rec.tenantId → rec.lifecycleState ≠ .registered

theorem RecountedProvisioned.call {s s' : ControlHistory ι}
    (hs : RecountedProvisioned requests s) {i : ι} {op : ControlOp} {c : ControlChoice}
    {r : Except ControlError op.Ans}
    (hop : permittedCalls gate requests i (historyOf i s.journal) op)
    (hguard : verifiesProvisioned requests s i op c)
    (ha : (controlPlane ι).answer i op c s.base = some (r, s'.base))
    (hj : s'.journal = .call i op r :: s.journal) :
  RecountedProvisioned requests s'
  := by
  constructor
  · apply (hs.recounted.call hop hguard.1 ha hj).1
  · rw [hj]
    apply forall_historyOf hs.provisioned
    intro rec htells hq
    have hpermitted := hop (hs.recounted.honest i)
    simp only [Option.some.injEq] at ha
    split at ha
    · obtain ⟨rfl, -⟩ := Prod.mk.inj ha
      cases op <;> cases htells
    · rename_i hfault
      cases op with
      | getTenant t =>
          obtain ⟨rfl, -⟩ := Prod.mk.inj ha
          cases hlookup : s.base.tenants.lookup t with
          | none =>
              rw [hlookup] at htells
              cases htells
          | some stored =>
              rw [hlookup] at htells
              obtain rfl := Option.some.inj htells
              have hid := hs.recounted.coherent.keyed t stored hlookup
              rw [hid] at hq
              apply hguard.2 hq (Bool.not_eq_true _ ▸ hfault) stored hlookup
      | compareAndSwapTenant updated v =>
          obtain ⟨told, -, -, -, hwrite⟩ := hpermitted
          rw [ControlState.answer] at ha
          rcases s.base.compareAndSwap_cases updated v with ⟨_, -, -, hswap⟩ | hswap
          · rw [hswap] at ha
            obtain ⟨rfl, -⟩ := Prod.mk.inj ha
            obtain rfl := Option.some.inj htells
            apply hwrite.state_ne
          · rw [hswap] at ha
            obtain ⟨rfl, -⟩ := Prod.mk.inj ha
            cases htells
      | _ =>
          cases r <;> cases htells

/-- The operation writes over the record it was told of along the transition table, as a
re-verification, or as a re-association. -/
theorem RecountedProvisioned.change {s : ControlHistory ι}
    (hs : RecountedProvisioned requests s) {i : ι} {t : String}
    {rec current updated : TenantRecord} (ht : t = rec.tenantId)
    (hrecalled : Recalled s.base rec) (htold : Told (historyOf i s.journal) rec)
    (hcurrent : s.base.tenants.lookup t = some current)
    (hv : current.version = rec.version)
    (hwrite : Write gate (requests i).operation (historyOf i s.journal) rec updated)
    {v : Nat} :
  LifecycleChange (requests i).operation t (some current)
    (some { updated with version := v })
  := by
  subst ht
  have hstate : current.lifecycleState = rec.lifecycleState := by
    obtain ⟨r, hr, -, heq, -⟩ := hrecalled
    obtain rfl := Option.some.inj (hr.symm.trans hcurrent)
    apply (heq hv).1
  cases hwrite with
  | table edge hready =>
      apply LifecycleChange.table
      rw [hstate]
      apply edge
  | reassociation ref hq href hrec hupdated =>
      apply LifecycleChange.reassociation
      · rw [hq, href]
      · rw [hstate]
        rw [List.mem_pair, not_or] at hrec
        apply hrec
      · apply hupdated
  | commit ts hhead hupdated hq hrec hverified =>
      apply LifecycleChange.table
      rw [hstate, hrec, hupdated]
      apply Transition.pass
  | entry hverifies hrec hupdated hfirst =>
      -- a registered record would be at version zero, behind whatever the thread was told of
      -- before, and a first read of it is excluded
      have hregistered : rec.lifecycleState ≠ .registered := by
        intro hregistered
        rcases hfirst with hq | ⟨other, ⟨e, he, hother⟩, hid, hne⟩
        · obtain ⟨e, he, hrec'⟩ := htold
          apply hs.provisioned i e he rec hrec' hq hregistered
        · obtain ⟨r, hr, -, -, hpast⟩ := hs.recounted.told i e he other hother
          rw [hid, hcurrent] at hr
          obtain rfl := Option.some.inj hr
          apply hpast hne
          rw [hstate, hregistered]
      cases hrec' : rec.lifecycleState with
      | registered => contradiction
      | verifying =>
          apply LifecycleChange.kept
          simp only [Option.map_some, hstate, hrec', hupdated]
      | ready =>
          apply LifecycleChange.reverification
          · apply hverifies
          · rw [hstate, hrec']
          · apply hupdated
      | provisioning =>
          apply LifecycleChange.table
          simp only [hstate, hrec', hupdated]
          apply Transition.associate
      | failed =>
          apply LifecycleChange.table
          simp only [hstate, hrec', hupdated]
          apply Transition.retry
      | suspended => simp [hrec'] at hrec
      | quarantined => simp [hrec'] at hrec
      | decommissioned => simp [hrec'] at hrec

/-- In a run whose registrations write over no record that a transition has written, and in
which no call of `verify` finds its tenant registered and not yet provisioned, every move leaves
the record of a tenant or commits a lifecycle change of the operation that makes it. -/
theorem transition_committed (gate : ProvisioningVerificationService) (requests : ι → Request)
    {s : ControlState} (hs : s.Coherent)
    {cfg cfg' : (journaled (controlPlane ι)).Config Unit}
    (h : Reaches (verifiesProvisioned requests) (s.recording gate requests) cfg)
    {m : Move ι ControlChoice} (hm : cfg.Meets (verifiesProvisioned requests) m)
    (hstep : cfg.step m = some cfg') (t : String) :
  cfg'.state.base.tenants.lookup t = cfg.state.base.tenants.lookup t
    ∨ ∃ i c, m = .call i c ∧ LifecycleChange (requests i).operation t
        (cfg.state.base.tenants.lookup t) (cfg'.state.base.tenants.lookup t)
  := by
  have hstart : RecountedProvisioned requests (⟨s, []⟩ : ControlHistory ι) := by
    constructor
    · apply Recounted.start hs
    · rintro i e ⟨⟩
  have hguards := Reaches.guarded (I := RecountedProvisioned requests) h
    (recording_guards gate requests hstart)
    (fun i op c r s s' hinv _ hop hguard ha hj => hinv.call hop hguard ha hj)
    (fun i s hinv => ⟨⟨hinv.1.1, hinv.1.2, hinv.1.3⟩, hinv.2⟩)
  rcases hguards.step_cases hm hstep with
    ⟨i, c, op, k, r, rfl, -, hguard, hop, ha, hj, -⟩ | ⟨i, -, hstate, -⟩
  · obtain ⟨-, htenants⟩ := hguards.inv.recounted.call hop hguard.1 ha hj
    rcases htenants with hsame | ⟨record, hregistered, hversion, hfresh, hput⟩
      | ⟨rec, current, updated, hrecalled, htold, hid, hcurrent, hv, hwrite, hswap⟩
    · left
      rw [hsame]
    · by_cases ht : t = record.tenantId
      · subst ht
        right
        use i, c
        constructor
        · rfl
        · rw [hput, AList.lookup_insert]
          cases hlookup : cfg.state.base.tenants.lookup record.tenantId with
          | none => apply LifecycleChange.registered hregistered
          | some stored =>
              apply LifecycleChange.kept
              have hzero := hfresh stored hlookup
              simp only [Option.map_some, hregistered,
                hguards.inv.recounted.coherent.initial _ _ hlookup hzero]
      · left
        rw [hput, AList.lookup_insert_ne ht]
    · by_cases ht : t = updated.tenantId
      · subst ht
        right
        use i, c
        constructor
        · rfl
        · rw [hswap, AList.lookup_insert, hcurrent]
          apply hguards.inv.change hid hrecalled htold hcurrent hv hwrite
      · left
        rw [hswap, AList.lookup_insert_ne ht]
  · left
    rw [hstate]

/-- The condition of `registersFresh`, beside the journal. -/
def recordedFresh : (journaled (controlPlane ι)).Guard := fun s => registersFresh s.base

/-- The record a verification has entered with is past version zero. -/
theorem EnteredWith.version_pos {rec : TenantRecord} {h : List ControlEvent}
    (hentered : EnteredWith rec h) (hhonest : ∀ e ∈ h, honest e) :
  0 < rec.version
  := by
  obtain ⟨updated, v, ts, record, before, -, -, -, rfl⟩ := hentered
  have hrec : rec = { updated with version := v + 1 } := by
    apply hhonest ⟨.compareAndSwapTenant updated v, .ok rec⟩
    simp
  rw [hrec]
  apply Nat.succ_pos

/-- In a run whose registrations write over no record that a transition has written, a record
is committed to `Ready` only by a call of `verify`, over the stored record in `Verifying`,
after all the checks of that call have succeeded on the association reference stored there. -/
theorem ready_verified (gate : ProvisioningVerificationService) (requests : ι → Request)
    {s : ControlState} (hs : s.Coherent)
    {cfg cfg' : (journaled (controlPlane ι)).Config Unit}
    (h : Reaches recordedFresh (s.recording gate requests) cfg)
    {m : Move ι ControlChoice} (hm : cfg.Meets recordedFresh m)
    (hstep : cfg.step m = some cfg') {t : String} {r' : TenantRecord}
    (hr' : cfg'.state.base.tenants.lookup t = some r') (hready : r'.lifecycleState = .ready)
    (hnew : cfg.state.base.tenants.lookup t ≠ some r') :
  ∃ i c rec ts probe token evidence inventory before, m = .call i c
    ∧ (requests i).operation.verifies t
    ∧ cfg.state.base.tenants.lookup t = some rec
    ∧ rec.lifecycleState = .verifying
    ∧ r' = { rec with
        lifecycleState := .ready
        updatedAt := ts
        version := rec.version + 1 }
    ∧ Verified gate rec probe token evidence inventory before
        (historyOf i cfg.state.journal).tail
  := by
  have hguards := Reaches.guarded (I := Recounted) h
    (recording_guards gate requests (Recounted.start hs))
    (fun i op c r s s' hinv _ hop hguard ha hj => (hinv.call hop hguard ha hj).1)
    (fun i s hinv => ⟨hinv.1, hinv.2, hinv.3⟩)
  rcases hguards.step_cases hm hstep with
    ⟨i, c, op, k, r, rfl, -, hguard, hop, ha, hj, -⟩ | ⟨i, -, hstate, -⟩
  · obtain ⟨-, htenants⟩ := hguards.inv.call hop hguard ha hj
    rcases htenants with hsame | ⟨record, hregistered, -, -, hput⟩
      | ⟨rec, current, updated, hrecalled, htold, hid, hcurrent, hv, hwrite, hswap⟩
    · rw [hsame] at hr'
      exact absurd hr' hnew
    · rw [hput] at hr'
      by_cases ht : t = record.tenantId
      · subst ht
        rw [AList.lookup_insert] at hr'
        obtain rfl := Option.some.inj hr'
        rw [hregistered] at hready
        cases hready
      · rw [AList.lookup_insert_ne ht] at hr'
        exact absurd hr' hnew
    · rw [hswap] at hr'
      by_cases ht : t = updated.tenantId
      · subst ht
        rw [AList.lookup_insert] at hr'
        obtain rfl := Option.some.inj hr'
        cases hwrite with
        | table edge hnot => exact absurd hready hnot
        | entry hq hrec hupdated hfirst =>
            rw [show updated.lifecycleState = .ready from hready] at hupdated
            cases hupdated
        | reassociation ref hq href hrec hupdated =>
            rw [show updated.lifecycleState = .ready from hready] at hupdated
            cases hupdated
        | commit ts hhead hupdated hq hrec hverified =>
            obtain ⟨probe, token, evidence, inventory, before, hverified⟩ := hverified
            have hpos : 0 < rec.version := by
              apply hverified.entered.version_pos
              intro e he
              apply hguards.inv.honest i e
              apply List.mem_of_mem_tail
              rw [hverified.run]
              simp [he]
            obtain ⟨r, hr, -, heq, -⟩ := hrecalled
            rw [← hid, hcurrent] at hr
            obtain rfl := Option.some.inj hr
            obtain rfl := (heq hv).2 hpos
            refine ⟨i, c, current, ts, probe, token, evidence, inventory, before, rfl, ?_⟩
            exact ⟨hid ▸ hq, hcurrent, hrec, by rw [hupdated], hverified⟩
      · rw [AList.lookup_insert_ne ht] at hr'
        exact absurd hr' hnew
  · rw [hstate] at hr'
    exact absurd hr' hnew

end Runs

section Samples

instance {n : Nat} (requests : Fin n → Request) (s : ControlHistory (Fin n)) (i : Fin n)
    (op : ControlOp) (c : ControlChoice) : Decidable (verifiesProvisioned requests s i op c) :=
  match op with
  | .getTenant t => inferInstanceAs (Decidable (registersFresh s.base i (.getTenant t) c
      ∧ ((requests i).operation = .verify t → c.fault = false →
        ∀ r ∈ s.base.tenants.lookup t, r.lifecycleState ≠ .registered)))
  | .putTenant r => inferInstanceAs (Decidable (registersFresh s.base i (.putTenant r) c ∧ True))
  | .now | .token | .compareAndSwapTenant _ _ | .appendAudit _ | .listAudit
  | .recordEvidence _ _ | .evidenceExcluding _ | .removeEvidence _ | .probe _ | .gather _ _ _
  | .invalidateTenant _ _ | .provision _ _ | .applySchema _ _ _ | .controlDatabaseName
  | .databaseExists _ | .inspectDatabase _ | .deprovision _ => .isTrue ⟨trivial, trivial⟩

instance {ι : Type} (s : ControlHistory ι) (i : ι) (op : ControlOp) (c : ControlChoice) :
    Decidable (recordedFresh s i op c) :=
  inferInstanceAs (Decidable (registersFresh s.base i op c))

/-- A tenant is registered, provisioned and verified. -/
def provisioned : Fin 3 → Request
  | 0 => ⟨.registerTenant "acme" acme, "ops", "c0"⟩
  | 1 => ⟨.markProvisioning "acme", "ops", "c1"⟩
  | 2 => ⟨.verify "acme", "ops", "c2"⟩

/-- The stored lifecycle state of the tenant. -/
def recordedState {ι : Type} (t : String) (cfg : (journaled (controlPlane ι)).Config Unit) :
    Option TenantLifecycleState :=
  (cfg.state.base.tenants.lookup t).map TenantRecord.lifecycleState

theorem coherent_empty :
  (⟨∅, [], ∅⟩ : ControlState).Coherent
  := by
  constructor
  · rintro t r ⟨⟩
  · rintro t r ⟨⟩

/-- What a run leads to, and what one more move then leads to. -/
theorem reaches_of_run {n : Nat} {G : (journaled (controlPlane (Fin n))).Guard}
    [∀ s i op c, Decidable (G s i op c)] {β γ : Type}
    {cfg : (journaled (controlPlane (Fin n))).Config Unit}
    {ms : List (Move (Fin n) ControlChoice)} {m : Move (Fin n) ControlChoice}
    {f : (journaled (controlPlane (Fin n))).Config Unit → β}
    {g : (journaled (controlPlane (Fin n))).Config Unit → γ} {b : β} {d : γ}
    (h : (cfg.run G ms).map (fun cfg => (f cfg, (cfg.run G [m]).map g)) = some (b, some d)) :
  ∃ cfg₁ cfg₂, Reaches G cfg cfg₁ ∧ cfg₁.Meets G m ∧ cfg₁.step m = some cfg₂ ∧ f cfg₁ = b
    ∧ g cfg₂ = d
  := by
  obtain ⟨cfg₁, hcfg₁, hf⟩ := Reaches.of_map_run h
  obtain ⟨hb, hd⟩ := Prod.mk.inj hf
  obtain ⟨cfg₂, hrun, hg⟩ := Option.map_eq_some_iff.mp hd
  rw [Config.run] at hrun
  split at hrun
  · rename_i hm
    obtain ⟨cfg', hstep, hnil⟩ := Option.bind_eq_some_iff.mp hrun
    obtain rfl := Option.some.inj hnil
    exact ⟨cfg₁, cfg', hcfg₁, hm, hstep, hb, hg⟩
  · cases hrun

/-- A provisioned tenant enters `Verifying`, which is an edge of the table. -/
theorem transition_committed_provisioned :
  ∃ cfg cfg' : (journaled (controlPlane (Fin 3))).Config Unit,
    recordedState "acme" cfg = some .provisioning ∧ recordedState "acme" cfg' = some .verifying
    ∧ (cfg'.state.base.tenants.lookup "acme" = cfg.state.base.tenants.lookup "acme"
      ∨ ∃ i c, (callOf 2 : Move (Fin 3) ControlChoice) = .call i c
        ∧ LifecycleChange (provisioned i).operation "acme"
          (cfg.state.base.tenants.lookup "acme") (cfg'.state.base.tenants.lookup "acme"))
  := by
  have hrun : ((ControlState.recording ⟨∅, [], ∅⟩ default provisioned).run
      (verifiesProvisioned provisioned)
      ([0, 0, 0, 0, 0, 1, 1, 1, 1, 1, 2, 2].map callOf)).map
        (fun cfg => (recordedState "acme" cfg,
          (cfg.run (verifiesProvisioned provisioned) [callOf 2]).map (recordedState "acme")))
      = some (some .provisioning, some (some .verifying)) := by
    decide +kernel
  obtain ⟨cfg, cfg', hcfg, hm, hstep, hf, hg⟩ := reaches_of_run hrun
  exact ⟨cfg, cfg', hf, hg,
    transition_committed default provisioned coherent_empty hcfg hm hstep "acme"⟩

/-- A tenant is registered and, before it is provisioned, verified. -/
def unprovisioned : Fin 2 → Request
  | 0 => ⟨.registerTenant "acme" acme, "ops", "c0"⟩
  | 1 => ⟨.verify "acme", "ops", "c1"⟩

/-- The verification of a registered tenant commits `Registered` to `Verifying`. -/
theorem transition_unprovisioned :
  ¬ ∀ (cfg cfg' : (journaled (controlPlane (Fin 2))).Config Unit)
      (m : Move (Fin 2) ControlChoice),
    Reaches (anyCall _) (ControlState.recording ⟨∅, [], ∅⟩ default unprovisioned) cfg →
    cfg.step m = some cfg' → ∀ t,
      cfg'.state.base.tenants.lookup t = cfg.state.base.tenants.lookup t
        ∨ ∃ i c, m = .call i c ∧ LifecycleChange (unprovisioned i).operation t
            (cfg.state.base.tenants.lookup t) (cfg'.state.base.tenants.lookup t)
  := by
  intro hclaim
  have hrun : ((ControlState.recording ⟨∅, [], ∅⟩ default unprovisioned).run (anyCall _)
      ([0, 0, 0, 0, 0, 1, 1].map callOf)).map
        (fun cfg => (recordedState "acme" cfg,
          (cfg.run (anyCall _) [callOf 1]).map (recordedState "acme")))
      = some (some .registered, some (some .verifying)) := by
    decide +kernel
  obtain ⟨cfg, cfg', hcfg, -, hstep, hf, hg⟩ := reaches_of_run hrun
  obtain ⟨r, hr, hstate⟩ := Option.map_eq_some_iff.mp hf
  obtain ⟨r', hr', hstate'⟩ := Option.map_eq_some_iff.mp hg
  rcases hclaim cfg cfg' _ hcfg hstep "acme" with hsame | ⟨i, c, hm, hchange⟩
  · rw [hr, hr'] at hsame
    obtain rfl := Option.some.inj hsame
    rw [hstate] at hstate'
    cases hstate'
  · obtain ⟨rfl, -⟩ := Move.call.inj hm
    rw [hr, hr'] at hchange
    cases hchange with
    | kept h =>
        simp only [Option.map_some, hstate, hstate'] at h
        cases h
    | table h =>
        rw [hstate, hstate'] at h
        cases h
    | reverification hq hready _ =>
        rw [hstate] at hready
        cases hready
    | reassociation hq _ _ => cases hq

/-- The verification of a provisioned tenant commits it to `Ready`. -/
theorem ready_verified_provisioned :
  ∃ (cfg : (journaled (controlPlane (Fin 3))).Config Unit) (i : Fin 3) (c : ControlChoice)
      (rec : TenantRecord) (probe : ProbeResult) (token : String)
      (evidence : DistinctnessEvidence) (inventory : List (String × DistinctnessEvidence))
      (before : List ControlEvent),
    callOn "acme" "1" (2 : Fin 3) = .call i c
    ∧ cfg.state.base.tenants.lookup "acme" = some rec ∧ rec.lifecycleState = .verifying
    ∧ Verified schemaOneGate rec probe token evidence inventory before
        (historyOf i cfg.state.journal).tail
  := by
  have hrun : ((ControlState.recording ⟨∅, [], ∅⟩ schemaOneGate provisioned).run
      recordedFresh ((List.replicate 5 (0 : Fin 3) ++ List.replicate 5 1 ++ List.replicate 11 2).map
        (callOn "acme" "1"))).map
        (fun cfg => (recordedState "acme" cfg,
          (cfg.run recordedFresh [callOn "acme" "1" 2]).map (recordedState "acme")))
      = some (some .verifying, some (some .ready)) := by
    decide +kernel
  obtain ⟨cfg, cfg', hcfg, hm, hstep, hf, hg⟩ := reaches_of_run hrun
  obtain ⟨r', hr', hready⟩ := Option.map_eq_some_iff.mp hg
  have hnew : cfg.state.base.tenants.lookup "acme" ≠ some r' := by
    intro hsame
    rw [recordedState, hsame, Option.map_some, hready] at hf
    cases hf
  obtain ⟨i, c, rec, ts, probe, token, evidence, inventory, before, hi, -, hrec, hstate, -,
    hverified⟩ := ready_verified schemaOneGate provisioned coherent_empty hcfg hm hstep hr'
      hready hnew
  exact ⟨cfg, i, c, rec, probe, token, evidence, inventory, before, hi, hrec, hstate, hverified⟩

/-- Two registrations of one tenant with different associations, and the requests that
provision, verify and quarantine it. -/
def reregistered : Fin 6 → Request
  | 0 => ⟨.registerTenant "acme" ⟨"org", "1", ⟨"tenant/acme/old", "1"⟩, "fed"⟩, "ops", "c0"⟩
  | 1 => ⟨.registerTenant "acme" acme, "ops", "c1"⟩
  | 2 => ⟨.markProvisioning "acme", "ops", "c2"⟩
  | 3 => ⟨.verify "acme", "ops", "c3"⟩
  | 4 => ⟨.markProvisioning "acme", "ops", "c4"⟩
  | 5 => ⟨.quarantineTenant "acme", "ops", "c5"⟩

/-- The first registration finds no record; the second registers the tenant, which is
provisioned and verified up to the commit; the first registration writes, and the tenant is
provisioned and quarantined up to the version of the verification; then the verification
commits `Ready` over the quarantined record. -/
theorem ready_unverified :
  ¬ ∀ (cfg cfg' : (journaled (controlPlane (Fin 6))).Config Unit)
      (m : Move (Fin 6) ControlChoice),
    Reaches (anyCall _) (ControlState.recording ⟨∅, [], ∅⟩ schemaOneGate reregistered) cfg →
    cfg.step m = some cfg' → ∀ t r', cfg'.state.base.tenants.lookup t = some r' →
      r'.lifecycleState = .ready → cfg.state.base.tenants.lookup t ≠ some r' →
      ∃ i c rec ts probe token evidence inventory before, m = .call i c
        ∧ (reregistered i).operation.verifies t
        ∧ cfg.state.base.tenants.lookup t = some rec
        ∧ rec.lifecycleState = .verifying
        ∧ r' = { rec with
            lifecycleState := .ready
            updatedAt := ts
            version := rec.version + 1 }
        ∧ Verified schemaOneGate rec probe token evidence inventory before
            (historyOf i cfg.state.journal).tail
  := by
  intro hclaim
  have hrun : ((ControlState.recording ⟨∅, [], ∅⟩ schemaOneGate reregistered).run (anyCall _)
      (([(0 : Fin 6)] ++ List.replicate 5 1 ++ List.replicate 5 2 ++ List.replicate 11 3
        ++ List.replicate 4 0 ++ List.replicate 5 4 ++ List.replicate 5 5).map
        (callOn "acme" "1"))).map
        (fun cfg => (recordedState "acme" cfg,
          (cfg.run (anyCall _) [callOn "acme" "1" 3]).map (recordedState "acme")))
      = some (some .quarantined, some (some .ready)) := by
    decide +kernel
  obtain ⟨cfg, cfg', hcfg, -, hstep, hf, hg⟩ := reaches_of_run hrun
  obtain ⟨r', hr', hready⟩ := Option.map_eq_some_iff.mp hg
  have hnew : cfg.state.base.tenants.lookup "acme" ≠ some r' := by
    intro hsame
    rw [recordedState, hsame, Option.map_some, hready] at hf
    cases hf
  obtain ⟨i, c, rec, ts, probe, token, evidence, inventory, before, -, -, hrec, hstate, -⟩ :=
    hclaim cfg cfg' _ hcfg hstep "acme" r' hr' hready hnew
  rw [recordedState, hrec, Option.map_some, hstate] at hf
  cases hf

end Samples

end ControlPlane
