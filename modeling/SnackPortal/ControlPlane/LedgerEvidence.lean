import SnackPortal.ControlPlane.Contention
import SnackPortal.ControlPlane.Transitions

/-!
# The evidence of the tenants in `Ready`

A gate writes the ledger before the compare-and-swap that decides whether it commits.  In every
run in which no call takes the entry of a tenant away from a committed or a pending
verification, and no overtaken verification writes the ledger, every tenant in `Ready` has the
evidence of the verification that committed it, and a verification that lost its race changes
nothing any more (`evidence_kept`).
-/

namespace ControlPlane

open Machine Program

/-! ### Reading the history of a thread -/

/-- What a thread that runs holds, read off its history. -/
def viewAfter : List ControlEvent → ThreadView
  | [] => ⟨none, none, none⟩
  | ⟨op, r⟩ :: h => (viewAfter h).after op r

section Journal

variable {ι : Type} [DecidableEq ι]

theorem viewOf_eq {i : ι} {js : List (ControlEntry ι)} (hlive : .drop i ∉ js) :
  viewOf i js = viewAfter (historyOf i js)
  := by
  induction js with
  | nil => rfl
  | cons entry js ih =>
      rw [List.mem_cons, not_or] at hlive
      obtain ⟨hentry, hlive⟩ := hlive
      cases entry with
      | call j op r =>
          rw [viewOf, historyOf, ih hlive]
          split <;> rfl
      | drop j =>
          rw [viewOf, historyOf, ih hlive]
          rw [if_neg]
          rintro rfl
          exact hentry rfl

/-- Where the verification of a thread stands. -/
def stageIn (k : ι) : List (ControlEntry ι) → Stage
  | [] => .reading
  | .call i op r :: js => if i = k then (stageIn k js).after ⟨op, r⟩ else stageIn k js
  | .drop i :: js => if i = k then .settled else stageIn k js

theorem stageIn_eq {i : ι} {js : List (ControlEntry ι)} (hlive : .drop i ∉ js) :
  stageIn i js = stageOf (historyOf i js)
  := by
  induction js with
  | nil => rfl
  | cons entry js ih =>
      rw [List.mem_cons, not_or] at hlive
      obtain ⟨hentry, hlive⟩ := hlive
      cases entry with
      | call j op r =>
          rw [stageIn, historyOf, ih hlive]
          split <;> rfl
      | drop j =>
          rw [stageIn, historyOf, ih hlive]
          rw [if_neg]
          rintro rfl
          exact hentry rfl

theorem stageIn_self {i : ι} {op : ControlOp} {r : Except ControlError op.Ans}
    {js : List (ControlEntry ι)} :
  stageIn i (.call i op r :: js) = (stageIn i js).after ⟨op, r⟩
  := if_pos rfl

theorem stageIn_other {i k : ι} {op : ControlOp} {r : Except ControlError op.Ans}
    {js : List (ControlEntry ι)} (h : k ≠ i) :
  stageIn k (.call i op r :: js) = stageIn k js
  := if_neg h.symm

/-- Only a compare-and-swap that succeeds leads to a record written. -/
theorem Stage.written_of_after {stage : Stage} {op : ControlOp}
    {r : Except ControlError op.Ans} {rec : TenantRecord}
    (h : stage.after ⟨op, r⟩ = .written rec)
    (hop : ∀ updated v, op = .compareAndSwapTenant updated v → ∃ e, r = .error e) :
  stage = .written rec
  := by
  cases r with
  | error e =>
      exact absurd h (Stage.after_error stage op e rec)
  | ok a =>
      cases op with
      | compareAndSwapTenant updated v =>
          obtain ⟨e, he⟩ := hop updated v rfl
          cases he
      | getTenant t =>
          cases a with
          | none => apply h
          | some rec' => cases h
      | appendAudit record =>
          simp only [Stage.after] at h
          split at h
          · split at h <;> cases h
          · apply h
      | _ => apply h

/-! ### The condition -/

/-- The thread has recorded evidence for the tenant, and its commit can still succeed. -/
def Pending (s : ControlHistory ι) (k : ι) (t : String) : Prop :=
  ∃ rec ∈ (viewOf k s.journal).held, ∃ q ∈ (viewOf k s.journal).recorded, q.1 = t
    ∧ ∃ r ∈ s.base.tenants.lookup t, r.version ≤ rec.version

/-- The tenant is not in `Ready`. -/
def NotReady (s : ControlHistory ι) (t : String) : Prop :=
  ∀ r ∈ s.base.tenants.lookup t, r.lifecycleState ≠ .ready

/-- Another write has taken the place of the record that the verification has written. -/
def Overtaken (s : ControlHistory ι) : Stage → Prop
  | .written held => held.lifecycleState = .verifying
      ∧ ∀ r ∈ s.base.tenants.lookup held.tenantId, r.version ≠ held.version
  | .verifying held => ∀ r ∈ s.base.tenants.lookup held.tenantId, r.version ≠ held.version
  | _ => False

/-- The verification has written the record of the tenant and owes the audit record of it. -/
def Stage.awaits (t : String) : Stage → Bool
  | .written held => held.lifecycleState == .verifying && held.tenantId == t
  | _ => false

/-- No call takes the ledger entry of a tenant away from a committed or a pending verification,
no overtaken verification writes the ledger, and no write of a record comes between the entry
of a verification and its audit record. -/
def keepsEvidence : (journaled (controlPlane ι)).Guard := fun s i op c =>
  c.fault = false → match op with
  | .putTenant _ => False
  | .removeEvidence t => (s.base.ledger.lookup t).isSome →
      NotReady s t ∧ (∀ k, ¬ Pending s k t) ∧ ¬ Overtaken s (stageIn i s.journal)
  | .recordEvidence t e => s.base.ledger.holdsElsewhere t e.fingerprint = false →
      NotReady s t ∧ (∀ k, k ≠ i → ¬ Pending s k t) ∧ ¬ Overtaken s (stageIn i s.journal)
  | .compareAndSwapTenant updated _ =>
      ∀ k, k ≠ i → (stageIn k s.journal).awaits updated.tenantId = false
  | _ => True

/-! ### The invariant -/

/-- The thread has recorded `e` for the tenant, and its commit can still succeed. -/
def Awaiting (s : ControlHistory ι) (k : ι) (t : String) (e : DistinctnessEvidence) : Prop :=
  (viewOf k s.journal).recorded = some (t, e)
    ∧ ∃ rec ∈ (viewOf k s.journal).held, ∃ r ∈ s.base.tenants.lookup t, r.version ≤ rec.version

theorem Awaiting.pending {s : ControlHistory ι} {k : ι} {t : String}
    {e : DistinctnessEvidence} (h : Awaiting s k t e) :
  Pending s k t
  := by
  obtain ⟨hrecorded, rec, hheld, r, hr, hle⟩ := h
  exact ⟨rec, hheld, (t, e), hrecorded, rfl, r, hr, hle⟩

/-- A call that records nothing and lowers no version adds no evidence to wait for. -/
theorem Awaiting.before {s s' : ControlHistory ι} {i k : ι} {op : ControlOp}
    {r : Except ControlError op.Ans} {t : String} {e : DistinctnessEvidence}
    (h : Awaiting s' k t e) (hj : s'.journal = .call i op r :: s.journal)
    (hop : recordsEvidence op r = false)
    (hversions : ∀ r' ∈ s'.base.tenants.lookup t, ∃ r ∈ s.base.tenants.lookup t,
      r.version ≤ r'.version) :
  Awaiting s k t e
  := by
  obtain ⟨hrecorded, rec, hheld, r', hr', hle⟩ := h
  obtain ⟨r₀, hr₀, hle₀⟩ := hversions r' hr'
  rw [hj] at hrecorded hheld
  by_cases hk : k = i
  · subst hk
    rw [viewOf_call_self] at hrecorded hheld
    obtain ⟨hbefore, hsame⟩ := ThreadView.after_recorded hop hrecorded
    rw [hsame] at hheld
    exact ⟨hbefore, rec, hheld, r₀, hr₀, le_trans hle₀ hle⟩
  · rw [viewOf_call hk] at hrecorded hheld
    exact ⟨hrecorded, rec, hheld, r₀, hr₀, le_trans hle₀ hle⟩

/-- What was recounted; the ledger has the evidence of every tenant in `Ready` and of every
pending verification; and the record of an entry without its audit record is the stored one. -/
structure EvidenceKept (s : ControlHistory ι) : Prop where
  recounted : Recounted s
  ready : ∀ t, ∀ r ∈ s.base.tenants.lookup t, r.lifecycleState = .ready →
    ∃ e, lastVerification t s.journal = some e ∧ s.base.ledger.lookup t = some e
  pending : ∀ k t e, Awaiting s k t e → s.base.ledger.lookup t = some e
  locked : ∀ k rec, stageIn k s.journal = .written rec → rec.lifecycleState = .verifying →
    ∃ r ∈ s.base.tenants.lookup rec.tenantId, r.version = rec.version

/-- A call that leaves the registry table and records no evidence, where the ledger keeps what
is relied on. -/
theorem EvidenceKept.same {s s' : ControlHistory ι} (hs : EvidenceKept s)
    (hrecounted : Recounted s') {i : ι} {op : ControlOp} {r : Except ControlError op.Ans}
    (hj : s'.journal = .call i op r :: s.journal) (hop : recordsEvidence op r = false)
    (hswap : ∀ updated v, op = .compareAndSwapTenant updated v → ∃ e, r = .error e)
    (htenants : s'.base.tenants = s.base.tenants)
    (hledger : ∀ t, (NotReady s t ∧ ∀ k, ¬ Pending s k t)
      ∨ s'.base.ledger.lookup t = s.base.ledger.lookup t) :
  EvidenceKept s'
  := by
  have hcommit : ∀ t, commitsReady t op r = false := by
    intro t
    cases op with
    | compareAndSwapTenant updated v =>
        obtain ⟨e, rfl⟩ := hswap updated v rfl
        rfl
    | _ => cases r <;> rfl
  constructor
  · apply hrecounted
  · intro t r' hr' hready
    rw [htenants] at hr'
    obtain ⟨e, hlast, he⟩ := hs.ready t r' hr' hready
    use e
    constructor
    · rw [hj, lastVerification, hcommit t]
      apply hlast
    · rcases hledger t with ⟨hnot, -⟩ | hsame
      · exact absurd hready (hnot r' hr')
      · rw [hsame]
        apply he
  · intro k t e hawaiting
    have hbefore := hawaiting.before hj hop (by
      rw [htenants]
      exact fun r' hr' => ⟨r', hr', le_rfl⟩)
    rcases hledger t with ⟨-, hnot⟩ | hsame
    · exact absurd hbefore.pending (hnot k)
    · rw [hsame]
      apply hs.pending k t e hbefore
  · intro k rec hstage hverifying
    rw [htenants]
    rw [hj] at hstage
    by_cases hk : k = i
    · subst hk
      rw [stageIn_self] at hstage
      apply hs.locked k rec (Stage.written_of_after hstage hswap) hverifying
    · rw [stageIn_other hk] at hstage
      apply hs.locked k rec hstage hverifying

/-- The recording of evidence for a tenant not in `Ready` that no other verification waits
for. -/
theorem EvidenceKept.recorded {s s' : ControlHistory ι} (hs : EvidenceKept s)
    (hrecounted : Recounted s') {i : ι} {t : String} {e : DistinctnessEvidence} {a : Unit}
    (hj : s'.journal = .call i (.recordEvidence t e) (.ok a) :: s.journal)
    (hbase : s'.base = { s.base with ledger := s.base.ledger.insert t e })
    (hready : NotReady s t) (hpending : ∀ k, k ≠ i → ¬ Pending s k t) :
  EvidenceKept s'
  := by
  have htenants : s'.base.tenants = s.base.tenants := by rw [hbase]
  have hledger : s'.base.ledger = s.base.ledger.insert t e := by rw [hbase]
  constructor
  · apply hrecounted
  · intro u r hr hstate
    rw [htenants] at hr
    have hu : u ≠ t := by
      rintro rfl
      apply hready r hr hstate
    obtain ⟨e', hlast, he'⟩ := hs.ready u r hr hstate
    use e'
    constructor
    · rw [hj]
      apply hlast
    · rw [hledger, AList.lookup_insert_ne hu]
      apply he'
  · rintro k u e' ⟨hrecorded, rec, hheld, r, hr, hle⟩
    rw [htenants] at hr
    rw [hj] at hrecorded hheld
    by_cases hk : k = i
    · subst hk
      rw [viewOf_call_self] at hrecorded
      obtain ⟨rfl, rfl⟩ := Prod.mk.inj (Option.some.inj hrecorded)
      rw [hledger]
      apply AList.lookup_insert
    · rw [viewOf_call hk] at hrecorded hheld
      have hawaiting : Awaiting s k u e' := ⟨hrecorded, rec, hheld, r, hr, hle⟩
      have hu : u ≠ t := by
        rintro rfl
        apply hpending k hk hawaiting.pending
      rw [hledger, AList.lookup_insert_ne hu]
      apply hs.pending k u e' hawaiting
  · intro k rec hstage hverifying
    rw [htenants]
    rw [hj] at hstage
    by_cases hk : k = i
    · subst hk
      rw [stageIn_self] at hstage
      apply hs.locked k rec (Stage.written_of_after hstage (by rintro _ _ ⟨⟩)) hverifying
    · rw [stageIn_other hk] at hstage
      apply hs.locked k rec hstage hverifying

/-- A compare-and-swap over a record no other verification owes an audit record of, where a
commit of `Ready` is one of what its thread has gathered and recorded. -/
theorem EvidenceKept.swapped {s s' : ControlHistory ι} (hs : EvidenceKept s)
    (hrecounted : Recounted s') {i : ι} {updated current : TenantRecord} {v : Nat}
    (hj : s'.journal = .call i (.compareAndSwapTenant updated v)
      (.ok { updated with version := v + 1 }) :: s.journal)
    (hbase : s'.base = { s.base with
      tenants := s.base.tenants.insert updated.tenantId { updated with version := v + 1 } })
    (hcurrent : s.base.tenants.lookup updated.tenantId = some current)
    (hv : current.version = v)
    (hlocked : ∀ k, k ≠ i → (stageIn k s.journal).awaits updated.tenantId = false)
    (hready : updated.lifecycleState = .ready → ∃ rec e,
      viewOf i s.journal = ⟨some rec, some e, some (updated.tenantId, e)⟩ ∧ rec.version = v) :
  EvidenceKept s'
  := by
  have hledger : s'.base.ledger = s.base.ledger := by rw [hbase]
  have htenants : s'.base.tenants =
      s.base.tenants.insert updated.tenantId { updated with version := v + 1 } := by rw [hbase]
  have hversions : ∀ t, ∀ r' ∈ s'.base.tenants.lookup t, ∃ r ∈ s.base.tenants.lookup t,
      r.version ≤ r'.version := by
    intro t r' hr'
    rw [htenants] at hr'
    by_cases ht : t = updated.tenantId
    · subst ht
      rw [AList.lookup_insert] at hr'
      obtain rfl := Option.some.inj hr'
      use current
      rw [hv]
      exact ⟨hcurrent, Nat.le_succ v⟩
    · rw [AList.lookup_insert_ne ht] at hr'
      exact ⟨r', hr', le_rfl⟩
  constructor
  · apply hrecounted
  · intro t r' hr' hstate
    by_cases ht : t = updated.tenantId
    · subst ht
      rw [htenants, AList.lookup_insert] at hr'
      obtain rfl := Option.some.inj hr'
      obtain ⟨rec, e, hview, hrec⟩ := hready hstate
      have hcommit : commitsReady updated.tenantId (.compareAndSwapTenant updated v)
          (.ok { updated with version := v + 1 }) = true := by
        simp [commitsReady, show updated.lifecycleState = .ready from hstate]
      use e
      constructor
      · rw [hj, lastVerification, hcommit, if_pos rfl, hview]
      · rw [hledger]
        apply hs.pending i
        constructor
        · rw [hview]
        · use rec
          constructor
          · rw [hview]
            rfl
          · exact ⟨current, hcurrent, by rw [hv, hrec]⟩
    · rw [htenants, AList.lookup_insert_ne ht] at hr'
      have hcommit : commitsReady t (.compareAndSwapTenant updated v)
          (.ok { updated with version := v + 1 }) = false := by
        simp [commitsReady, Ne.symm ht]
      rw [hj, lastVerification, hcommit, hledger]
      apply hs.ready t r' hr' hstate
  · intro k t e hawaiting
    rw [hledger]
    apply hs.pending k t e (hawaiting.before hj rfl (hversions t))
  · intro k rec hstage hverifying
    rw [hj] at hstage
    by_cases hk : k = i
    · subst hk
      rw [stageIn_self] at hstage
      obtain rfl := Stage.written.inj hstage
      use { updated with version := v + 1 }
      rw [htenants]
      exact ⟨AList.lookup_insert _, rfl⟩
    · rw [stageIn_other hk] at hstage
      have hne : rec.tenantId ≠ updated.tenantId := by
        intro hid
        have hfree := hlocked k hk
        rw [hstage, Stage.awaits, hverifying, hid] at hfree
        simp at hfree
      rw [htenants, AList.lookup_insert_ne hne]
      apply hs.locked k rec hstage hverifying

/-! ### Runs -/

/-- The history of a verification before its commit holds the record, and the evidence gathered
and recorded. -/
theorem viewAfter_commit {gate : ProvisioningVerificationService} {rec : TenantRecord}
    {probe : ProbeResult} {token ts : String} {evidence : DistinctnessEvidence}
    {inventory : List (String × DistinctnessEvidence)} {before h : List ControlEvent}
    (hhead : h.head? = some ⟨.now, .ok ts⟩)
    (hverified : Verified gate rec probe token evidence inventory before h.tail) :
  viewAfter h = ⟨some rec, some evidence, some (rec.tenantId, evidence)⟩
  := by
  cases h with
  | nil => cases hhead
  | cons e h =>
      obtain rfl := Option.some.inj hhead
      rw [List.tail_cons] at hverified
      obtain ⟨updated, v, ts', record, before', -, -, -, hbefore⟩ := hverified.entered
      rw [viewAfter, hverified.run, hbefore]
      rfl

/-- To take away an entry that is not there changes nothing. -/
theorem erase_of_lookup_eq_none {l : Ledger} {t : String} (h : l.lookup t = none) :
  l.erase t = l
  := by
  apply AList.ext
  apply List.kerase_of_notMem_keys
  apply AList.lookup_eq_none.mp h

variable {gate : ProvisioningVerificationService} {requests : ι → Request}

/-- A permitted call that meets the condition keeps the evidence. -/
theorem EvidenceKept.call {s s' : ControlHistory ι} (hs : EvidenceKept s) {i : ι}
    {op : ControlOp} {c : ControlChoice} {r : Except ControlError op.Ans}
    (hlive : .drop i ∉ s.journal)
    (hop : permittedCalls gate requests i (historyOf i s.journal) op)
    (hguard : keepsEvidence s i op c)
    (ha : (controlPlane ι).answer i op c s.base = some (r, s'.base))
    (hj : s'.journal = .call i op r :: s.journal) :
  EvidenceKept s'
  := by
  have hfresh : registersFresh s.base i op c := by
    cases op with
    | putTenant record => exact fun hfault => (hguard hfault).elim
    | _ => trivial
  have hrecounted := (hs.recounted.call hop hfresh ha hj).1
  have hpermitted := hop (hs.recounted.honest i)
  simp only [Option.some.injEq] at ha
  split at ha
  · obtain ⟨rfl, hbase⟩ := Prod.mk.inj ha
    apply hs.same hrecounted hj
    · cases op <;> rfl
    · exact fun _ _ _ => ⟨_, rfl⟩
    · rw [← hbase]
    · intro t
      right
      rw [← hbase]
  · rename_i hfault
    have hguard' := hguard (Bool.not_eq_true _ ▸ hfault)
    cases op with
    | putTenant record => exact hguard'.elim
    | removeEvidence t =>
        obtain ⟨rfl, hbase⟩ := Prod.mk.inj ha
        apply hs.same hrecounted hj rfl
        · rintro _ _ ⟨⟩
        · rw [← hbase]
        · intro u
          have hledger : s'.base.ledger = s.base.ledger.erase t := by rw [← hbase]
          by_cases hu : u = t
          · subst hu
            cases hentry : s.base.ledger.lookup u with
            | none =>
                right
                rw [hledger, erase_of_lookup_eq_none hentry]
                apply hentry
            | some e =>
                obtain ⟨hready, hpending, -⟩ := hguard' (by rw [hentry]; rfl)
                exact .inl ⟨hready, hpending⟩
          · right
            rw [hledger]
            apply AList.lookup_erase_ne hu
    | recordEvidence t e =>
        simp only [ControlState.answer, ControlState.recordEvidence] at ha
        split at ha
        · obtain ⟨rfl, hbase⟩ := Prod.mk.inj ha
          apply hs.same hrecounted hj rfl
          · rintro _ _ ⟨⟩
          · rw [← hbase]
          · intro u
            right
            rw [← hbase]
        · rename_i hheld
          obtain ⟨rfl, hbase⟩ := Prod.mk.inj ha
          obtain ⟨hready, hpending, -⟩ := hguard' (Bool.not_eq_true _ ▸ hheld)
          apply hs.recorded hrecounted hj hbase.symm hready hpending
    | compareAndSwapTenant updated v =>
        obtain ⟨rec, -, hid, rfl, hwrite⟩ := hpermitted
        rw [ControlState.answer] at ha
        rcases s.base.compareAndSwap_cases updated rec.version with
          ⟨current, hcurrent, hv, hswap⟩ | hswap
        · rw [hswap] at ha
          obtain ⟨rfl, hbase⟩ := Prod.mk.inj ha
          apply hs.swapped hrecounted hj hbase.symm hcurrent hv hguard'
          intro hready
          cases hwrite with
          | table edge hnot => exact absurd hready hnot
          | entry hq hrec hupdated hfirst =>
              rw [hready] at hupdated
              cases hupdated
          | reassociation ref hq href hrec hupdated =>
              rw [hready] at hupdated
              cases hupdated
          | commit ts hhead hupdated hq hrec hverified =>
              obtain ⟨probe, token, evidence, inventory, before, hverified⟩ := hverified
              use rec, evidence
              rw [viewOf_eq hlive, viewAfter_commit hhead hverified, hid]
              exact ⟨rfl, rfl⟩
        · rw [hswap] at ha
          obtain ⟨rfl, hbase⟩ := Prod.mk.inj ha
          apply hs.same hrecounted hj rfl
          · exact fun _ _ _ => ⟨_, rfl⟩
          · rw [← hbase]
          · intro u
            right
            rw [← hbase]
    | _ =>
        obtain ⟨rfl, hbase⟩ := Prod.mk.inj ha
        apply hs.same hrecounted hj rfl
        · rintro _ _ ⟨⟩
        · rw [← hbase]
        · intro u
          right
          rw [← hbase]

/-- The end of a thread keeps the evidence. -/
theorem EvidenceKept.drop {s : ControlHistory ι} (hs : EvidenceKept s) (i : ι) :
  EvidenceKept ((controlPlane ι).journaled.drop i s)
  := by
  constructor
  · exact ⟨hs.recounted.coherent, hs.recounted.honest, hs.recounted.told⟩
  · apply hs.ready
  · rintro k t e ⟨hrecorded, rec, hheld, r, hr, hle⟩
    apply hs.pending k t e
    change (viewOf k (.drop i :: s.journal)).recorded = _ at hrecorded
    change rec ∈ (viewOf k (.drop i :: s.journal)).held at hheld
    rw [viewOf] at hrecorded hheld
    split at hrecorded
    · cases hrecorded
    · rename_i hk
      rw [if_neg hk] at hheld
      exact ⟨hrecorded, rec, hheld, r, hr, hle⟩
  · intro k rec hstage hverifying
    change stageIn k (.drop i :: s.journal) = _ at hstage
    rw [stageIn] at hstage
    split at hstage
    · cases hstage
    · apply hs.locked k rec hstage hverifying

/-- What an overtaken verification calls changes nothing. -/
theorem EvidenceKept.overtaken {s s' : ControlHistory ι} (hs : EvidenceKept s) {i : ι}
    {op : ControlOp} {c : ControlChoice} {r : Except ControlError op.Ans}
    (hstaged : (stageIn i s.journal).allows op) (hguard : keepsEvidence s i op c)
    (ha : (controlPlane ι).answer i op c s.base = some (r, s'.base))
    (hovertaken : Overtaken s (stageIn i s.journal)) :
  s'.base = s.base
  := by
  cases hstage : stageIn i s.journal with
  | reading =>
      rw [hstage] at hovertaken
      exact hovertaken.elim
  | settled =>
      rw [hstage] at hovertaken
      exact hovertaken.elim
  | written held =>
      rw [hstage] at hovertaken
      obtain ⟨hverifying, hne⟩ := hovertaken
      obtain ⟨stored, hstored, hversion⟩ := hs.locked i held hstage hverifying
      exact absurd hversion (hne stored hstored)
  | verifying held =>
      have hheld := hovertaken
      rw [hstage] at hstaged hheld
      simp only [Option.some.injEq] at ha
      split at ha
      · exact (Prod.mk.inj ha).2.symm
      · rename_i hfault
        have hguard' := hguard (Bool.not_eq_true _ ▸ hfault)
        cases op with
        | putTenant record => exact hstaged.elim
        | appendAudit record => exact hstaged.elim
        | compareAndSwapTenant updated v =>
            obtain ⟨hid, rfl⟩ := hstaged
            rw [ControlState.answer] at ha
            rcases s.base.compareAndSwap_cases updated held.version with
              ⟨current, hcurrent, hv, -⟩ | hswap
            · rw [hid] at hcurrent
              exact absurd hv (hheld current hcurrent)
            · rw [hswap] at ha
              exact (Prod.mk.inj ha).2.symm
        | removeEvidence t =>
            obtain ⟨-, hbase⟩ := Prod.mk.inj ha
            cases hentry : s.base.ledger.lookup t with
            | none => rw [← hbase, erase_of_lookup_eq_none hentry]
            | some e =>
                obtain ⟨-, -, hnot⟩ := hguard' (by rw [hentry]; rfl)
                exact absurd hovertaken hnot
        | recordEvidence t e =>
            simp only [ControlState.answer, ControlState.recordEvidence] at ha
            split at ha
            · exact (Prod.mk.inj ha).2.symm
            · rename_i hfree
              obtain ⟨-, -, hnot⟩ := hguard' (Bool.not_eq_true _ ▸ hfree)
              exact absurd hovertaken hnot
        | _ => exact (Prod.mk.inj ha).2.symm

/-- What a verification calls before its entry changes nothing, unless it enters. -/
theorem reading_unchanged {s s' : ControlHistory ι} {i : ι} {op : ControlOp}
    {c : ControlChoice} {r : Except ControlError op.Ans}
    (hstaged : (stageIn i s.journal).allows op)
    (ha : (controlPlane ι).answer i op c s.base = some (r, s'.base))
    (hj : s'.journal = .call i op r :: s.journal) (hreading : stageIn i s.journal = .reading) :
  s'.base = s.base ∨ ∃ held, stageIn i s'.journal = .written held
  := by
  rw [hreading] at hstaged
  simp only [Option.some.injEq] at ha
  split at ha
  · exact .inl (Prod.mk.inj ha).2.symm
  · cases op with
    | now => exact .inl (Prod.mk.inj ha).2.symm
    | getTenant t => exact .inl (Prod.mk.inj ha).2.symm
    | compareAndSwapTenant updated v =>
        rw [ControlState.answer] at ha
        rcases s.base.compareAndSwap_cases updated v with ⟨_, -, -, hswap⟩ | hswap
        · rw [hswap] at ha
          obtain ⟨rfl, -⟩ := Prod.mk.inj ha
          right
          rw [hj, stageIn_self]
          exact ⟨_, rfl⟩
        · rw [hswap] at ha
          exact .inl (Prod.mk.inj ha).2.symm
    | _ => exact hstaged.elim

/-- The operation is a verification of its own, or a re-association that ends in one. -/
def Operation.races : Operation → Prop
  | .verify _ | .reassociate _ _ => True
  | _ => False

/-- A racing operation calls what its stage allows. -/
theorem Request.stages (gate : ProvisioningVerificationService) (request : Request)
    (hraces : request.operation.races) :
  Stages (fun _ _ => True) (request.program gate) []
  := by
  obtain ⟨q, actor, correlationId⟩ := request
  cases q with
  | verify t =>
      apply Keeps.seq (verify_stages t actor correlationId)
      intro _ _ _ _
      apply Keeps.pure
      exact fun _ => trivial
  | reassociate t ref =>
      apply Keeps.seq (reassociate_stages t ref actor correlationId)
      intro _ _ _ _
      apply Keeps.pure
      exact fun _ => trivial
  | _ => exact False.elim hraces

/-- The calls of a racing operation are those its stage allows. -/
def stagedCalls (requests : ι → Request) (i : ι) (h : List ControlEvent) (op : ControlOp) :
    Prop :=
  (requests i).operation.races → Fairly honest Staged h op

theorem recording_staged (gate : ProvisioningVerificationService) (requests : ι → Request)
    (s : ControlState) :
  Guards (stagedCalls requests) (fun _ => True) (s.recording gate requests)
  := by
  constructor
  · trivial
  · rintro i x _ ⟨⟩
  · intro i x hx
    obtain rfl := Option.some.inj hx
    by_cases hraces : (requests i).operation.races
    · have hstages := Request.stages gate (requests i) hraces
      apply Guarded.imp (fun h op hop _ => hop)
      apply hstages.mono
      exact fun _ _ _ => trivial
    · apply Guarded.always
      exact fun h op hr => absurd hr hraces

/-- In a run that keeps the evidence of committed and pending verifications and in which no
overtaken verification writes the ledger, every tenant in `Ready` has the ledger entry of the
verification that committed it; what an overtaken verification calls changes neither store nor
ledger nor trail, and so does what a verification calls before its entry, unless it enters. -/
theorem evidence_kept (gate : ProvisioningVerificationService) (requests : ι → Request)
    {s : ControlState} (hs : s.Coherent)
    (hready : ∀ t r, s.tenants.lookup t = some r → r.lifecycleState ≠ .ready)
    {cfg : (journaled (controlPlane ι)).Config Unit}
    (h : Reaches keepsEvidence (s.recording gate requests) cfg) :
  (∀ t, ∀ r ∈ cfg.state.base.tenants.lookup t, r.lifecycleState = .ready →
      ∃ e, lastVerification t cfg.state.journal = some e
        ∧ cfg.state.base.ledger.lookup t = some e)
    ∧ ∀ i c cfg', (requests i).operation.races → cfg.Meets keepsEvidence (.call i c) →
      cfg.step (.call i c) = some cfg' →
      (Overtaken cfg.state (stageIn i cfg.state.journal) →
        cfg'.state.base = cfg.state.base)
      ∧ (stageIn i cfg.state.journal = .reading → cfg'.state.base = cfg.state.base
        ∨ ∃ held, stageIn i cfg'.state.journal = .written held)
  := by
  have hstart : EvidenceKept (⟨s, []⟩ : ControlHistory ι) := by
    constructor
    · apply Recounted.start hs
    · intro t r hr hstate
      exact absurd hstate (hready t r hr)
    · rintro k t e ⟨⟨⟩, -⟩
    · rintro k rec ⟨⟩
  have hkept : Guards (permittedCalls gate requests) EvidenceKept cfg := by
    apply Reaches.guarded h (recording_guards gate requests hstart)
    · intro i op c r s s' hs hlive hop hguard ha hj
      apply hs.call hlive hop hguard ha hj
    · exact fun i s hs => hs.drop i
  have hstaged : Guards (stagedCalls requests) (fun _ => True) cfg := by
    apply Reaches.guarded h (recording_staged gate requests s)
    · exact fun _ _ _ _ _ _ _ _ _ _ _ _ => trivial
    · exact fun _ _ _ => trivial
  constructor
  · apply hkept.inv.ready
  · intro i c cfg' hraces hm hstep
    rcases hkept.step_cases hm hstep with
      ⟨j, c', op, k, r, hmove, hi, hguard, -, ha, hj, -⟩ | ⟨j, hmove, -⟩
    · obtain ⟨rfl, rfl⟩ := Move.call.inj hmove
      have hallows : (stageIn i cfg.state.journal).allows op := by
        rw [stageIn_eq (hkept.live i _ hi)]
        apply (hstaged.threads i _ hi).1 hraces (hkept.inv.recounted.honest i)
      constructor
      · apply hkept.inv.overtaken hallows hguard ha
      · apply reading_unchanged hallows ha hj
    · cases hmove

end Journal

section Samples

instance {n : Nat} (s : ControlHistory (Fin n)) (k : Fin n) (t : String) :
    Decidable (Pending s k t) :=
  inferInstanceAs (Decidable (∃ rec ∈ (viewOf k s.journal).held,
    ∃ q ∈ (viewOf k s.journal).recorded, q.1 = t
      ∧ ∃ r ∈ s.base.tenants.lookup t, r.version ≤ rec.version))

instance {ι : Type} (s : ControlHistory ι) (t : String) : Decidable (NotReady s t) :=
  inferInstanceAs (Decidable (∀ r ∈ s.base.tenants.lookup t, r.lifecycleState ≠ .ready))

instance {ι : Type} (s : ControlHistory ι) (stage : Stage) : Decidable (Overtaken s stage) :=
  match stage with
  | .written held => inferInstanceAs (Decidable (held.lifecycleState = .verifying
      ∧ ∀ r ∈ s.base.tenants.lookup held.tenantId, r.version ≠ held.version))
  | .verifying held => inferInstanceAs (Decidable
      (∀ r ∈ s.base.tenants.lookup held.tenantId, r.version ≠ held.version))
  | .reading | .settled => .isFalse id

instance {n : Nat} (s : ControlHistory (Fin n)) (i : Fin n) (op : ControlOp)
    (c : ControlChoice) : Decidable (keepsEvidence s i op c) :=
  match op with
  | .putTenant _ => inferInstanceAs (Decidable (c.fault = false → False))
  | .removeEvidence t => inferInstanceAs (Decidable (c.fault = false →
      (s.base.ledger.lookup t).isSome →
        NotReady s t ∧ (∀ k, ¬ Pending s k t) ∧ ¬ Overtaken s (stageIn i s.journal)))
  | .recordEvidence t e => inferInstanceAs (Decidable (c.fault = false →
      s.base.ledger.holdsElsewhere t e.fingerprint = false →
        NotReady s t ∧ (∀ k, k ≠ i → ¬ Pending s k t)
          ∧ ¬ Overtaken s (stageIn i s.journal)))
  | .compareAndSwapTenant updated _ => inferInstanceAs (Decidable (c.fault = false →
      ∀ k, k ≠ i → (stageIn k s.journal).awaits updated.tenantId = false))
  | .now | .token | .getTenant _ | .appendAudit _ | .listAudit | .evidenceExcluding _
  | .probe _ | .gather _ _ _ | .invalidateTenant _ _ | .provision _ _ | .applySchema _ _ _
  | .controlDatabaseName | .databaseExists _ | .inspectDatabase _ | .deprovision _ =>
      .isTrue fun _ => trivial

/-- A tenant in `Provisioning`. -/
def provisioningAcme : TenantRecord where
  tenantId := "acme"
  organizationRef := "org"
  lifecycleState := .provisioning
  expectedSchemaVersion := "1"
  databaseAssociationRef := ⟨"tenant/acme/dsn", "1"⟩
  federationConfigRef := "fed"
  createdAt := "t0"
  updatedAt := "t1"
  version := 1

/-- A store with that tenant. -/
def provisioningStore : ControlState := ⟨AList.singleton "acme" provisioningAcme, [], ∅⟩

theorem lookup_provisioningStore {t : String} {r : TenantRecord}
    (h : provisioningStore.tenants.lookup t = some r) :
  t = "acme" ∧ r = provisioningAcme
  := by
  by_cases ht : t = "acme"
  · subst ht
    exact ⟨rfl, (Option.some.inj h).symm⟩
  · rw [AList.lookup_eq_none.mpr] at h
    · cases h
    · rw [provisioningStore, AList.mem_keys, AList.keys_singleton, List.mem_singleton]
      apply ht

theorem coherent_provisioningStore :
  provisioningStore.Coherent
  := by
  constructor
  · intro t r h
    obtain ⟨rfl, rfl⟩ := lookup_provisioningStore h
    rfl
  · intro t r h hversion
    obtain ⟨rfl, rfl⟩ := lookup_provisioningStore h
    cases hversion

/-- Two verifications of the tenant. -/
def twoVerifications : Fin 2 → Request
  | 0 => ⟨.verify "acme", "ops", "c0"⟩
  | 1 => ⟨.verify "acme", "ops", "c1"⟩

/-- One verification runs to its end. -/
theorem evidence_kept_serial :
  ∃ cfg : (journaled (controlPlane (Fin 2))).Config Unit,
    recordedState "acme" cfg = some .ready
    ∧ ∃ e, lastVerification "acme" cfg.state.journal = some e
      ∧ cfg.state.base.ledger.lookup "acme" = some e
  := by
  have hrun : ((provisioningStore.recording schemaOneGate twoVerifications).run keepsEvidence
      ((List.replicate 16 (1 : Fin 2)).map (callOn "acme" "1"))).map (recordedState "acme")
      = some (some .ready) := by
    decide +kernel
  obtain ⟨cfg, hcfg, hstate⟩ := Reaches.of_map_run hrun
  obtain ⟨r, hr, hready⟩ := Option.map_eq_some_iff.mp hstate
  have hnone : ∀ t r, provisioningStore.tenants.lookup t = some r →
      r.lifecycleState ≠ .ready := by
    intro t r h
    obtain ⟨rfl, rfl⟩ := lookup_provisioningStore h
    rintro ⟨⟩
  obtain ⟨hkept, -⟩ := evidence_kept schemaOneGate twoVerifications coherent_provisioningStore
    hnone hcfg
  exact ⟨cfg, hstate, hkept "acme" r hr hready⟩

/-- The first verification enters, the second enters over it and commits `Ready`; then the
first finds the database unreachable and removes the evidence, before its own commit fails. -/
theorem evidence_removed :
  ¬ ∀ cfg : (journaled (controlPlane (Fin 2))).Config Unit,
    Reaches (anyCall _) (provisioningStore.recording schemaOneGate twoVerifications) cfg →
    ∀ t, ∀ r ∈ cfg.state.base.tenants.lookup t, r.lifecycleState = .ready →
      ∃ e, lastVerification t cfg.state.journal = some e
        ∧ cfg.state.base.ledger.lookup t = some e
  := by
  intro hclaim
  have hrun : ((provisioningStore.recording schemaOneGate twoVerifications).run (anyCall _)
      ((List.replicate 5 (0 : Fin 2) ++ List.replicate 16 1).map (callOn "acme" "1")
        ++ [callOf 0, callOf 0])).map
        (fun cfg => (recordedState "acme" cfg, cfg.state.base.ledger.lookup "acme"))
      = some (some .ready, none) := by
    decide +kernel
  obtain ⟨cfg, hcfg, hf⟩ := Reaches.of_map_run hrun
  obtain ⟨hstate, hledger⟩ := Prod.mk.inj hf
  obtain ⟨r, hr, hready⟩ := Option.map_eq_some_iff.mp hstate
  obtain ⟨e, -, he⟩ := hclaim cfg hcfg "acme" r hr hready
  rw [hledger] at he
  cases he

end Samples

end ControlPlane
