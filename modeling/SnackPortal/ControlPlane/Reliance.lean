import SnackPortal.ControlPlane.Operations

/-!
# What the ledger is relied on for

A verifier records the evidence it gathered and then commits `Ready`; from the recording on it
relies on the ledger to keep the fingerprint, and once it has committed the `Ready` tenant
does.  The journal of the calls tells which fingerprints are relied on.  In every run in which
no call takes a fingerprint that is relied on out of the ledger, the ledger keeps all of them
(`reliance`), so it distinguishes all tenants in `Ready`.
-/

namespace ControlPlane

/-- The shared state with the journal of the calls on it. -/
abbrev ControlHistory (ι : Type) :=
  Machine.Journaled ControlState controlSignature ControlError ι

/-- An entry of the journal. -/
abbrev ControlEntry (ι : Type) := Machine.Entry controlSignature ControlError ι

/-! ### Reading the journal -/

/-- What a thread holds: the record it last wrote, the evidence it last gathered, and the
evidence it has recorded and not yet committed. -/
structure ThreadView where
  held : Option TenantRecord
  gathered : Option DistinctnessEvidence
  recorded : Option (String × DistinctnessEvidence)

/-- What the thread holds after one more call. -/
def ThreadView.after (v : ThreadView) : (op : ControlOp) → Except ControlError op.Ans → ThreadView
  | .compareAndSwapTenant _ _, .ok persisted => ⟨some persisted, v.gathered, none⟩
  | .gather _ _ _, .ok evidence => { v with gathered := evidence }
  | .recordEvidence t e, .ok _ => { v with recorded := some (t, e) }
  | _, .ok _ => v
  | _, .error _ => { v with recorded := none }

/-- The call records evidence. -/
def recordsEvidence : (op : ControlOp) → Except ControlError op.Ans → Bool
  | .recordEvidence _ _, .ok _ => true
  | _, _ => false

/-- The call commits the tenant to `Ready`. -/
def commitsReady (t : String) : (op : ControlOp) → Except ControlError op.Ans → Bool
  | .compareAndSwapTenant _ _, .ok persisted =>
      persisted.tenantId == t && persisted.lifecycleState == .ready
  | _, _ => false

section Journal

variable {ι : Type} [DecidableEq ι]

/-- What the thread `k` holds. -/
def viewOf (k : ι) : List (ControlEntry ι) → ThreadView
  | [] => ⟨none, none, none⟩
  | .call i op r :: js => if i = k then (viewOf k js).after op r else viewOf k js
  | .drop i :: js => if i = k then { viewOf k js with recorded := none } else viewOf k js

/-- The evidence that the last successful verification of the tenant gathered. -/
def lastVerification (t : String) : List (ControlEntry ι) → Option DistinctnessEvidence
  | [] => none
  | .call i op r :: js =>
      if commitsReady t op r then (viewOf i js).gathered else lastVerification t js
  | .drop _ :: js => lastVerification t js

/-- Every fingerprint of the tenant that is relied on satisfies `p`: that of the last
successful verification where the tenant is in `Ready`, and those recorded by the threads whose
commit can still succeed. -/
def AllRelied (s : ControlHistory ι) (t : String) (p : String → Prop) : Prop :=
  (∀ r ∈ s.base.tenants.lookup t, r.lifecycleState = .ready →
      ∀ e ∈ lastVerification t s.journal, p e.fingerprint)
    ∧ ∀ k, ∀ rec ∈ (viewOf k s.journal).held, ∀ q ∈ (viewOf k s.journal).recorded, q.1 = t →
      ∀ r ∈ s.base.tenants.lookup t, r.version ≤ rec.version → p q.2.fingerprint

/-- The ledger holds the fingerprint for the tenant. -/
def Ledger.Holds (l : Ledger) (t f : String) : Prop :=
  ∃ e ∈ l.lookup t, e.fingerprint = f

/-- No call takes a fingerprint that is relied on out of the ledger, and a registration, which
starts the versions of a tenant afresh, does so only where the ledger holds all fingerprints
recorded for it. -/
def keepsRelied : (Machine.journaled (controlPlane ι)).Guard := fun s _ op c =>
  c.fault = false → match op with
  | .removeEvidence t => AllRelied s t fun _ => False
  | .recordEvidence t e => s.base.ledger.holdsElsewhere t e.fingerprint = false →
      AllRelied s t (· = e.fingerprint)
  | .putTenant r => ∀ k, ∀ q ∈ (viewOf k s.journal).recorded, q.1 = r.tenantId →
      s.base.ledger.Holds r.tenantId q.2.fingerprint
  | _ => True

theorem viewOf_call {i k : ι} {op : ControlOp} {r : Except ControlError op.Ans}
    {js : List (ControlEntry ι)} (h : k ≠ i) :
  viewOf k (.call i op r :: js) = viewOf k js
  := if_neg h.symm

theorem viewOf_call_self {i : ι} {op : ControlOp} {r : Except ControlError op.Ans}
    {js : List (ControlEntry ι)} :
  viewOf i (.call i op r :: js) = (viewOf i js).after op r
  := if_pos rfl

/-- Evidence which the thread has recorded after a call other than a recording was recorded
before the call, and the record held is the same. -/
theorem ThreadView.after_recorded {v : ThreadView} {op : ControlOp}
    {r : Except ControlError op.Ans} (hop : recordsEvidence op r = false)
    {q : String × DistinctnessEvidence} (h : q ∈ (v.after op r).recorded) :
  q ∈ v.recorded ∧ (v.after op r).held = v.held
  := by
  cases r with
  | error e =>
      cases op <;> cases h
  | ok a =>
      cases op with
      | recordEvidence t e => cases hop
      | compareAndSwapTenant r v => cases h
      | _ => exact ⟨h, rfl⟩

theorem AllRelied.mono {s : ControlHistory ι} {t : String} {p q : String → Prop}
    (hpq : ∀ f, p f → q f) (h : AllRelied s t p) :
  AllRelied s t q
  := by
  constructor
  · intro r hr hready e he
    apply hpq _ (h.1 r hr hready e he)
  · intro k rec hrec recorded hrecorded ht r hr hv
    apply hpq _ (h.2 k rec hrec recorded hrecorded ht r hr hv)

/-- A call that records no evidence, commits nothing to `Ready` and does not lower a version
gives no fingerprint more to rely on. -/
theorem AllRelied.call {s s' : ControlHistory ι} {i : ι} {op : ControlOp}
    {r : Except ControlError op.Ans} {t : String} {p : String → Prop}
    (hjournal : s'.journal = .call i op r :: s.journal)
    (hop : recordsEvidence op r = false) (hcommit : commitsReady t op r = false)
    (htenants : ∀ r' ∈ s'.base.tenants.lookup t, ∃ r ∈ s.base.tenants.lookup t,
      (r'.lifecycleState = .ready → r.lifecycleState = .ready) ∧ r.version ≤ r'.version)
    (h : AllRelied s t p) :
  AllRelied s' t p
  := by
  constructor
  · intro r' hr' hready e he
    obtain ⟨r₀, hr₀, hready₀, -⟩ := htenants r' hr'
    rw [hjournal, lastVerification, hcommit] at he
    apply h.1 r₀ hr₀ (hready₀ hready) e he
  · intro k rec hrec q hq ht r' hr' hv
    obtain ⟨r₀, hr₀, -, hv₀⟩ := htenants r' hr'
    rw [hjournal] at hrec hq
    by_cases hk : k = i
    · subst hk
      rw [viewOf_call_self] at hrec hq
      obtain ⟨hq₀, hheld⟩ := ThreadView.after_recorded hop hq
      rw [hheld] at hrec
      apply h.2 k rec hrec q hq₀ ht r₀ hr₀ (le_trans hv₀ hv)
    · rw [viewOf_call hk] at hrec hq
      apply h.2 k rec hrec q hq ht r₀ hr₀ (le_trans hv₀ hv)

/-! ### The discipline -/

/-- Records are stored under their own tenant ids, the ledger is distinct, and it holds every
fingerprint that is relied on. -/
structure Reliable (s : ControlHistory ι) : Prop where
  keyed : ∀ t r, s.base.tenants.lookup t = some r → r.tenantId = t
  distinct : s.base.ledger.Distinct
  relied : ∀ t, AllRelied s t (s.base.ledger.Holds t)

/-- A call that leaves the registry table and the ledger as they are and records nothing. -/
theorem Reliable.same {s s' : ControlHistory ι} (hs : Reliable s) {i : ι} {op : ControlOp}
    {r : Except ControlError op.Ans} (hjournal : s'.journal = .call i op r :: s.journal)
    (hop : recordsEvidence op r = false) (hcommit : ∀ t, commitsReady t op r = false)
    (htenants : s'.base.tenants = s.base.tenants) (hledger : s'.base.ledger = s.base.ledger) :
  Reliable s'
  := by
  constructor
  · rw [htenants]
    apply hs.keyed
  · rw [hledger]
    apply hs.distinct
  · intro t
    rw [hledger]
    apply (hs.relied t).call hjournal hop (hcommit t)
    rw [htenants]
    intro r hr
    exact ⟨r, hr, id, le_rfl⟩

/-- The removal of evidence that is not relied on. -/
theorem Reliable.removed {s s' : ControlHistory ι} (hs : Reliable s) {i : ι} {t : String}
    {a : Unit} (hjournal : s'.journal = .call i (.removeEvidence t) (.ok a) :: s.journal)
    (hbase : s'.base = { s.base with ledger := s.base.ledger.erase t })
    (hguard : AllRelied s t fun _ => False) :
  Reliable s'
  := by
  have htenants : s'.base.tenants = s.base.tenants := by rw [hbase]
  have hledger : s'.base.ledger = s.base.ledger.erase t := by rw [hbase]
  constructor
  · rw [htenants]
    apply hs.keyed
  · rw [hledger]
    apply hs.distinct.remove t
  · intro u
    apply AllRelied.call hjournal rfl rfl
    · rw [htenants]
      intro r hr
      exact ⟨r, hr, id, le_rfl⟩
    · by_cases hu : u = t
      · subst hu
        apply hguard.mono
        rintro f ⟨⟩
      · apply (hs.relied u).mono
        rintro f ⟨e, he, hf⟩
        use e
        rw [hledger]
        exact ⟨(AList.lookup_erase_ne hu).trans he, hf⟩

/-- The recording of evidence that keeps the fingerprints relied on. -/
theorem Reliable.recorded {s s' : ControlHistory ι} (hs : Reliable s) {i : ι} {t : String}
    {e : DistinctnessEvidence} {a : Unit}
    (hjournal : s'.journal = .call i (.recordEvidence t e) (.ok a) :: s.journal)
    (hbase : s'.base = { s.base with ledger := s.base.ledger.insert t e })
    (hfree : s.base.ledger.holdsElsewhere t e.fingerprint = false)
    (hguard : AllRelied s t (· = e.fingerprint)) :
  Reliable s'
  := by
  have htenants : s'.base.tenants = s.base.tenants := by rw [hbase]
  have hledger : s'.base.ledger = s.base.ledger.insert t e := by rw [hbase]
  have hkeeps : ∀ u, AllRelied s u (s'.base.ledger.Holds u) := by
    intro u
    rw [hledger]
    by_cases hu : u = t
    · subst hu
      apply hguard.mono
      rintro f rfl
      exact ⟨e, AList.lookup_insert _, rfl⟩
    · apply (hs.relied u).mono
      rintro f ⟨e', he', hf⟩
      exact ⟨e', (AList.lookup_insert_ne hu).trans he', hf⟩
  constructor
  · rw [htenants]
    apply hs.keyed
  · rw [hledger]
    apply hs.distinct.recordEvidence hfree
  · intro u
    constructor
    · rw [htenants, hjournal]
      apply (hkeeps u).1
    · rw [htenants, hjournal]
      intro k rec hrec q hq hu
      by_cases hk : k = i
      · subst hk
        rw [viewOf_call_self] at hq
        obtain rfl := Option.some.inj hq
        subst hu
        rintro r _ _
        rw [hledger]
        exact ⟨e, AList.lookup_insert _, rfl⟩
      · rw [viewOf_call hk] at hrec hq
        apply (hkeeps u).2 k rec hrec q hq hu

/-- A compare-and-swap that commits nothing to `Ready`, or commits what its thread has gathered
and recorded. -/
theorem Reliable.swapped {s s' : ControlHistory ι} (hs : Reliable s) {i : ι}
    {updated current : TenantRecord} {v : Nat}
    (hjournal : s'.journal = .call i (.compareAndSwapTenant updated v)
      (.ok { updated with version := v + 1 }) :: s.journal)
    (hbase : s'.base = { s.base with
      tenants := s.base.tenants.insert updated.tenantId { updated with version := v + 1 } })
    (hcurrent : s.base.tenants.lookup updated.tenantId = some current)
    (hv : current.version = v)
    (hready : updated.lifecycleState = .ready → ∃ rec e,
      viewOf i s.journal = ⟨some rec, some e, some (updated.tenantId, e)⟩ ∧ rec.version = v) :
  Reliable s'
  := by
  have hledger : s'.base.ledger = s.base.ledger := by rw [hbase]
  have htenants : s'.base.tenants =
      s.base.tenants.insert updated.tenantId { updated with version := v + 1 } := by rw [hbase]
  have hlookup : ∀ t r', s'.base.tenants.lookup t = some r' →
      t = updated.tenantId ∧ r' = { updated with version := v + 1 }
        ∨ t ≠ updated.tenantId ∧ s.base.tenants.lookup t = some r' := by
    intro t r' hr'
    rw [htenants] at hr'
    by_cases ht : t = updated.tenantId
    · subst ht
      rw [AList.lookup_insert] at hr'
      exact .inl ⟨rfl, (Option.some.inj hr').symm⟩
    · rw [AList.lookup_insert_ne ht] at hr'
      exact .inr ⟨ht, hr'⟩
  constructor
  · intro t r' hr'
    rcases hlookup t r' hr' with ⟨rfl, rfl⟩ | ⟨-, hr⟩
    · rfl
    · apply hs.keyed t r' hr
  · rw [hledger]
    apply hs.distinct
  · intro t
    rw [hledger]
    by_cases hcommit : t = updated.tenantId ∧ updated.lifecycleState = .ready
    · obtain ⟨rfl, hstate⟩ := hcommit
      obtain ⟨rec, e, hview, hrec⟩ := hready hstate
      have hholds : s.base.ledger.Holds updated.tenantId e.fingerprint := by
        apply (hs.relied updated.tenantId).2 i rec _ (updated.tenantId, e) _ rfl current hcurrent
        · rw [hv, hrec]
        · rw [hview]
          rfl
        · rw [hview]
          rfl
      constructor
      · intro r' _ _ e' he'
        have hthis : commitsReady updated.tenantId (.compareAndSwapTenant updated v)
            (.ok { updated with version := v + 1 }) = true := by
          simp [commitsReady, hstate]
        rw [hjournal, lastVerification, hthis, if_pos rfl, hview] at he'
        obtain rfl := Option.some.inj he'
        apply hholds
      · intro k rec' hrec' q hq ht r' hr' hv'
        rw [hjournal] at hrec' hq
        by_cases hk : k = i
        · subst hk
          rw [viewOf_call_self] at hq
          cases hq
        · rw [viewOf_call hk] at hrec' hq
          rcases hlookup _ r' hr' with ⟨-, rfl⟩ | ⟨hne, -⟩
          · apply (hs.relied updated.tenantId).2 k rec' hrec' q hq ht current hcurrent
            rw [hv]
            apply le_trans (Nat.le_succ v) hv'
          · exact absurd rfl hne
    · apply (hs.relied t).call hjournal rfl
      · simp only [commitsReady, Bool.and_eq_false_iff, beq_eq_false_iff_ne]
        rw [not_and_or] at hcommit
        rcases hcommit with h | h
        · exact .inl (Ne.symm h)
        · exact .inr h
      · intro r' hr'
        rcases hlookup t r' hr' with ⟨rfl, rfl⟩ | ⟨-, hr⟩
        · use current
          constructor
          · apply hcurrent
          · constructor
            · intro hstate
              exact absurd ⟨rfl, hstate⟩ hcommit
            · rw [hv]
              apply Nat.le_succ
        · use r'
          exact ⟨hr, id, le_rfl⟩

/-- A registration in a state other than `Ready`, where the ledger holds what has been recorded
for the tenant. -/
theorem Reliable.put {s s' : ControlHistory ι} (hs : Reliable s) {i : ι}
    {record : TenantRecord} {a : Unit}
    (hjournal : s'.journal = .call i (.putTenant record) (.ok a) :: s.journal)
    (hbase : s'.base = { s.base with
      tenants := s.base.tenants.insert record.tenantId record })
    (hstate : record.lifecycleState ≠ .ready)
    (hguard : ∀ k, ∀ q ∈ (viewOf k s.journal).recorded, q.1 = record.tenantId →
      s.base.ledger.Holds record.tenantId q.2.fingerprint) :
  Reliable s'
  := by
  have hledger : s'.base.ledger = s.base.ledger := by rw [hbase]
  have htenants : s'.base.tenants = s.base.tenants.insert record.tenantId record := by rw [hbase]
  have hview : ∀ k, viewOf k s'.journal = viewOf k s.journal := by
    intro k
    rw [hjournal]
    by_cases hk : k = i
    · subst hk
      rw [viewOf_call_self]
      rfl
    · rw [viewOf_call hk]
  constructor
  · intro t r hr
    rw [htenants] at hr
    by_cases ht : t = record.tenantId
    · subst ht
      rw [AList.lookup_insert] at hr
      obtain rfl := Option.some.inj hr
      rfl
    · rw [AList.lookup_insert_ne ht] at hr
      apply hs.keyed t r hr
  · rw [hledger]
    apply hs.distinct
  · intro t
    rw [hledger]
    by_cases ht : t = record.tenantId
    · subst ht
      constructor
      · intro r hr hready
        rw [htenants, AList.lookup_insert] at hr
        obtain rfl := Option.some.inj hr
        exact absurd hready hstate
      · intro k rec _ q hq hqt _ _ _
        rw [hview] at hq
        apply hguard k q hq hqt
    · apply (hs.relied t).call hjournal rfl rfl
      intro r hr
      rw [htenants, Option.mem_def, AList.lookup_insert_ne ht] at hr
      exact ⟨r, hr, id, le_rfl⟩

/-- The discipline of the ledger: every thread owns what it holds. -/
def reliance (ι : Type) [DecidableEq ι] : Discipline (Machine.journaled (controlPlane ι)) where
  guard := keepsRelied
  inv := Reliable
  evolve _ _ := True
  Own := ThreadView
  own k s := viewOf k s.journal
  evolve_refl _ := trivial
  evolve_trans _ _ := trivial
  drop_inv i s hs := by
    have hview : ∀ k, ((viewOf k (.drop i :: s.journal)).held = (viewOf k s.journal).held)
        ∧ ∀ q ∈ (viewOf k (.drop i :: s.journal)).recorded, q ∈ (viewOf k s.journal).recorded := by
      intro k
      rw [viewOf]
      split
      · exact ⟨rfl, by rintro q ⟨⟩⟩
      · exact ⟨rfl, fun _ h => h⟩
    constructor
    · apply hs.keyed
    · apply hs.distinct
    · intro t
      constructor
      · apply (hs.relied t).1
      · intro k rec hrec q hq
        rw [(hview k).1] at hrec
        apply (hs.relied t).2 k rec hrec q ((hview k).2 q hq)
  drop_evolve _ _ _ := trivial
  drop_own i j s _ hj := if_neg hj.symm

/-! ### Calls under the discipline -/

open Discipline

variable {i : ι}

/-- What a thread holds does not change while it waits. -/
theorem view_stable (P : ThreadView → Prop) :
  (reliance ι).Stable i fun s => P (viewOf i s.journal)
  := by
  intro s s' hs h
  have hown : viewOf i s'.journal = viewOf i s.journal := hs.own
  rw [hown]
  apply h

/-- A call by `i` changes what only `i` holds. -/
theorem steps_of_reliable {s s' : ControlHistory ι} {op : ControlOp}
    {r : Except ControlError op.Ans} (hjournal : s'.journal = .call i op r :: s.journal)
    (hs' : Reliable s') :
  (reliance ι).Steps i s s'
  := by
  constructor
  · apply hs'
  · trivial
  · intro j hj
    change viewOf j s'.journal = viewOf j s.journal
    rw [hjournal, viewOf_call hj]

/-- A call that writes no record in `Ready` keeps the discipline. -/
theorem Reliable.answer {s s' : ControlHistory ι} (hs : Reliable s) {o : ControlOp}
    {c : ControlChoice} {r : Except ControlError o.Ans} (hguard : keepsRelied s i o c)
    (ha : (controlPlane ι).answer i o c s.base = some (r, s'.base))
    (hj : s'.journal = .call i o r :: s.journal)
    (hop : ∀ updated v, o = .compareAndSwapTenant updated v →
      updated.lifecycleState = .ready → ∃ rec e,
        viewOf i s.journal = ⟨some rec, some e, some (updated.tenantId, e)⟩ ∧ rec.version = v)
    (hput : ∀ record, o = .putTenant record → record.lifecycleState ≠ .ready) :
  Reliable s'
  := by
  simp only [Option.some.injEq] at ha
  split at ha
  · obtain ⟨rfl, hbase⟩ := Prod.mk.inj ha
    apply hs.same hj
    · cases o <;> rfl
    · intro t
      cases o <;> rfl
    · rw [← hbase]
    · rw [← hbase]
  · rename_i hfault
    have hguard' := hguard (Bool.not_eq_true _ ▸ hfault)
    cases o with
    | putTenant record =>
        obtain ⟨rfl, hbase⟩ := Prod.mk.inj ha
        apply hs.put hj hbase.symm (hput record rfl) hguard'
    | removeEvidence t =>
        obtain ⟨rfl, hbase⟩ := Prod.mk.inj ha
        apply hs.removed hj hbase.symm hguard'
    | recordEvidence t e =>
        simp only [ControlState.answer, ControlState.recordEvidence] at ha
        split at ha
        · obtain ⟨rfl, hbase⟩ := Prod.mk.inj ha
          apply hs.same hj rfl (fun _ => rfl)
          · rw [← hbase]
          · rw [← hbase]
        · rename_i hheld
          have hfree := Bool.not_eq_true _ ▸ hheld
          obtain ⟨rfl, hbase⟩ := Prod.mk.inj ha
          apply hs.recorded hj hbase.symm hfree (hguard' hfree)
    | compareAndSwapTenant updated v =>
        rw [ControlState.answer] at ha
        rcases s.base.compareAndSwap_cases updated v with
          ⟨current, hcurrent, hv, hswap⟩ | hswap
        · rw [hswap] at ha
          obtain ⟨rfl, hbase⟩ := Prod.mk.inj ha
          apply hs.swapped hj hbase.symm hcurrent hv (hop updated v rfl)
        · rw [hswap] at ha
          obtain ⟨rfl, hbase⟩ := Prod.mk.inj ha
          apply hs.same hj rfl (fun _ => rfl)
          · rw [← hbase]
          · rw [← hbase]
    | _ =>
        obtain ⟨rfl, hbase⟩ := Prod.mk.inj ha
        apply hs.same hj rfl (fun _ => rfl)
        · rw [← hbase]
        · rw [← hbase]

end Journal

end ControlPlane
