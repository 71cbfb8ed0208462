import SnackPortal.Program.Discipline
import SnackPortal.ControlPlane.PostgresStore

/-!
# The trail of the registry table

What the connections of the control store keep, as long as what each of them commits is whole:
the version of a tenant has grown by one with every transition that the trail tells of it, and
these lead from the state the tenant started in to the one it is in.  While a connection has a
transition under way it holds the row, so the state that its audit record names is still the one
of the row when both are committed.
-/

namespace ControlPlane

namespace PostgresControlStore

open Machine Discipline

/-! ### Transitions -/

/-- The transition of the tenant that an audit record tells of. -/
def transitionOf (t : String) (record : ControlAuditRecord) : Option (String × String) :=
  if record.tenantId = some t then
    match record.fromState, record.toState with
    | some fromState, some toState => some (fromState, toState)
    | _, _ => none
  else
    none

/-- An event that leaves no state tells of no transition. -/
theorem transitionOf_event {t : String} {record : ControlAuditRecord}
    (h : record.fromState = none) :
  transitionOf t record = none
  := by
  rw [transitionOf, h]
  split
  · rfl
  · rfl

theorem transitionOf_of_ne {t : String} {record : ControlAuditRecord}
    (h : record.tenantId ≠ some t) :
  transitionOf t record = none
  := if_neg h

theorem transitionOf_self {t s s' : String} {record : ControlAuditRecord}
    (ht : record.tenantId = some t) (hfrom : record.fromState = some s)
    (hto : record.toState = some s') :
  transitionOf t record = some (s, s')
  := by
  rw [transitionOf, if_pos ht, hfrom, hto]

/-- The transitions lead from a state to a state, each from where the one before it led. -/
inductive LeadsTo (start : TenantLifecycleState) :
    List (String × String) → TenantLifecycleState → Prop where
  | start : LeadsTo start [] start
  | step {steps : List (String × String)} {s : TenantLifecycleState} (h : LeadsTo start steps s)
      (s' : TenantLifecycleState) : LeadsTo start (steps ++ [(s.value, s'.value)]) s'

/-- The audit records with the numbers from `n` on. -/
def since (n : Nat) (d : ControlTables) : List (Nat × ControlAuditRecord) :=
  d.audit.filter fun a => n ≤ a.1

/-- The transitions of the tenant among audit records. -/
def transitions (t : String) (audit : List (Nat × ControlAuditRecord)) :
    List (String × String) :=
  audit.filterMap fun a => transitionOf t a.2

/-- The rows of `list_audit` with the numbers from `n` on. -/
def trailSince (n : Nat) (d : ControlTables) : List ControlAuditRecord :=
  (d.ordered.filter fun a => n ≤ a.1).map Prod.snd

/-- Where the transitions of a tenant were committed in the order of their numbers, `list_audit`
tells of them in the order of their commits. -/
theorem filterMap_trailSince {n : Nat} {d : ControlTables} {t : String}
    (h : ((since n d).filter fun a => transitionOf t a.2 ≠ none).Pairwise
      fun a b => a.1 < b.1) :
  (trailSince n d).filterMap (transitionOf t) = transitions t (since n d)
  := by
  have htells : ∀ l : List (Nat × ControlAuditRecord),
      l.filterMap (fun a => transitionOf t a.2)
        = (l.filter fun a => transitionOf t a.2 ≠ none).filterMap fun a => transitionOf t a.2 := by
    intro l
    rw [List.filterMap_filter]
    apply List.filterMap_congr
    intro a _
    split
    · rfl
    · rename_i hnone
      simpa using hnone
  have hperm : ((d.ordered.filter fun a => n ≤ a.1).filter fun a => transitionOf t a.2 ≠ none).Perm
      ((since n d).filter fun a => transitionOf t a.2 ≠ none) :=
    ((List.mergeSort_perm _ _).filter _).filter _
  have hsorted : ((d.ordered.filter fun a => n ≤ a.1).filter
      fun a => transitionOf t a.2 ≠ none).Pairwise fun a b => a.1 ≤ b.1 := by
    apply List.Pairwise.filter
    apply List.Pairwise.filter
    have hmerged := @List.pairwise_mergeSort _ (fun a b : Nat × ControlAuditRecord => a.1 ≤ b.1)
      (fun a b c hab hbc => decide_eq_true (le_trans (of_decide_eq_true hab)
        (of_decide_eq_true hbc)))
      (fun a b => by simpa using le_total a.1 b.1) d.audit
    exact hmerged.imp fun hle => of_decide_eq_true hle
  -- no two of these share a number
  have hsame : ∀ a ∈ (since n d).filter (fun a => transitionOf t a.2 ≠ none),
      ∀ b ∈ (since n d).filter (fun a => transitionOf t a.2 ≠ none), a.1 = b.1 → a = b := by
    have hsymm : Std.Symm fun a b : Nat × ControlAuditRecord => a.1 = b.1 → a = b :=
      ⟨fun _ _ hab heq => (hab heq.symm).symm⟩
    apply List.Pairwise.forall_of_forall
    · intro a _ _
      rfl
    · apply h.imp
      intro a b hlt heq
      exact absurd heq (ne_of_lt hlt)
  have heq : ((d.ordered.filter fun a => n ≤ a.1).filter fun a => transitionOf t a.2 ≠ none)
      = (since n d).filter fun a => transitionOf t a.2 ≠ none := by
    apply List.Perm.eq_of_pairwise _ hsorted (h.imp le_of_lt) hperm
    intro a b ha hb hab hba
    exact hsame a (hperm.mem_iff.mp ha) b hb (le_antisymm hab hba)
  calc
    (trailSince n d).filterMap (transitionOf t)
    _ = (d.ordered.filter fun a => n ≤ a.1).filterMap fun a => transitionOf t a.2 := by
        rw [trailSince, List.filterMap_map]
        rfl
    _ = (since n d).filterMap fun a => transitionOf t a.2 := by
        rw [htells, htells (since n d), heq]
    _ = transitions t (since n d) := rfl

/-- The state and the version that a tenant started with. -/
def origin (d₀ : ControlTables) (t : String) : TenantLifecycleState × Nat :=
  match d₀.tenants.lookup t with
  | none => (.registered, 0)
  | some record => (record.lifecycleState, record.version)

/-- The row of the tenant is what the transitions have made of the first one. -/
def Accounted (d₀ : ControlTables) (t : String) (steps : List (String × String)) :
    Option TenantRecord → Prop
  | none => d₀.tenants.lookup t = none ∧ steps = []
  | some row => row.version = (origin d₀ t).2 + steps.length
      ∧ LeadsTo (origin d₀ t).1 steps row.lifecycleState

/-! ### What the connections have under way -/

/-- What a connection may have under way, on the tables `d` with the next number `next`. -/
inductive Underway (n : Nat) (d : ControlTables) (next : Nat) : List ControlChange → Prop where
  | nothing : Underway n d next []
  | registration {record : TenantRecord} (hversion : record.version = 0)
      (hstate : record.lifecycleState = .registered)
      (hfresh : ∀ row ∈ d.tenants.lookup record.tenantId, row.version = 0) :
      Underway n d next [.upsertTenant record]
  | event {id : Nat} {record : ControlAuditRecord} (hfrom : record.fromState = none)
      (hn : n ≤ id) (hnext : id < next) : Underway n d next [.insertAudit id record]
  | swapped {updated current : TenantRecord}
      (hcurrent : d.tenants.lookup updated.tenantId = some current) :
      Underway n d next [.updateTenant updated current.version]
  | transition {updated current : TenantRecord} {id : Nat} {record : ControlAuditRecord}
      (hcurrent : d.tenants.lookup updated.tenantId = some current)
      (htenant : record.tenantId = some updated.tenantId)
      (hfrom : record.fromState = some current.lifecycleState.value)
      (hto : record.toState = some updated.lifecycleState.value)
      (hn : n ≤ id) (hnext : id < next)
      (habove : ∀ a ∈ since n d, transitionOf updated.tenantId a.2 ≠ none → a.1 < id) :
      Underway n d next [.updateTenant updated current.version, .insertAudit id record]

/-- The tenant whose row the changes write. -/
def rowOf : List ControlChange → Option String
  | .upsertTenant record :: _ => some record.tenantId
  | .updateTenant updated _ :: _ => some updated.tenantId
  | _ => none

/-- What is under way stays so while its row, and the transitions of its tenant, stay. -/
theorem Underway.keep {n next next' : Nat} {d d' : ControlTables} {ws : List ControlChange}
    (h : Underway n d next ws) (hnext : next ≤ next')
    (hrow : ∀ t, rowOf ws = some t → d'.tenants.lookup t = d.tenants.lookup t)
    (haudit : ∀ t, rowOf ws = some t → ∀ a ∈ since n d', transitionOf t a.2 ≠ none →
      a ∈ since n d) :
  Underway n d' next' ws
  := by
  cases h with
  | nothing => exact .nothing
  | registration hversion hstate hfresh =>
      apply Underway.registration hversion hstate
      rw [hrow _ rfl]
      apply hfresh
  | event hfrom hn hlt => exact .event hfrom hn (lt_of_lt_of_le hlt hnext)
  | swapped hcurrent => exact .swapped ((hrow _ rfl).trans hcurrent)
  | transition hcurrent htenant hfrom hto hn hlt habove =>
      apply Underway.transition ((hrow _ rfl).trans hcurrent) htenant hfrom hto hn
        (lt_of_lt_of_le hlt hnext)
      intro a ha htransition
      apply habove a (haudit _ rfl a ha htransition) htransition

/-- The row that is written is locked. -/
theorem rowOf_mem_keys {ws : List ControlChange} {t : String} (h : rowOf ws = some t) :
  ∃ w ∈ ws, t ∈ controlSchema.keys w
  := by
  cases ws with
  | nil => cases h
  | cons w ws =>
      cases w with
      | upsertTenant record =>
          obtain rfl := Option.some.inj h
          exact ⟨_, List.mem_cons_self, List.mem_singleton_self _⟩
      | updateTenant updated v =>
          obtain rfl := Option.some.inj h
          exact ⟨_, List.mem_cons_self, List.mem_singleton_self _⟩
      | insertAudit id record => cases h

/-! ### The invariant -/

section Invariant

variable {ι : Type} [DecidableEq ι]

/-- The audit record tells of a transition of the tenant. -/
abbrev tellsOf (t : String) (a : Nat × ControlAuditRecord) : Prop :=
  transitionOf t a.2 ≠ none

/-- What the connections keep, on tables that started as `d₀` with the next number `n`. -/
structure Traced (d₀ : ControlTables) (n : Nat) (s : StoreState ι) : Prop where
  consistent : s.db.Consistent controlSchema
  keyed : ∀ t, ∀ row ∈ s.db.committed.tenants.lookup t, row.tenantId = t
  initial : ∀ t, ∀ row ∈ s.db.committed.tenants.lookup t, row.version = 0 →
    row.lifecycleState = .registered
  numbered : ∀ a ∈ since n s.db.committed, a.1 < s.nextId
  next : n ≤ s.nextId
  ascending : ∀ t, ((since n s.db.committed).filter fun a => tellsOf t a).Pairwise
    fun a b => a.1 < b.1
  accounted : ∀ t, Accounted d₀ t (transitions t (since n s.db.committed))
    (s.db.committed.tenants.lookup t)
  underway : ∀ i, Underway n s.db.committed s.nextId (s.db.pending i)

variable {d₀ : ControlTables} {n : Nat} {s s' : StoreState ι} {i : ι}

/-- What keeps the committed tables and the locks, and what is under way elsewhere, keeps the
invariant where what `i` has under way is in order. -/
theorem Traced.pend (h : Traced d₀ n s) (hcommitted : s'.db.committed = s.db.committed)
    (hnext : s.nextId ≤ s'.nextId) (hconsistent : s'.db.Consistent controlSchema)
    (hothers : ∀ j, j ≠ i → s'.db.pending j = s.db.pending j)
    (hself : Underway n s.db.committed s'.nextId (s'.db.pending i)) :
  Traced d₀ n s'
  := by
  constructor
  · apply hconsistent
  · rw [hcommitted]
    apply h.keyed
  · rw [hcommitted]
    apply h.initial
  · rw [hcommitted]
    intro a ha
    apply lt_of_lt_of_le (h.numbered a ha) hnext
  · apply le_trans h.next hnext
  · rw [hcommitted]
    apply h.ascending
  · rw [hcommitted]
    apply h.accounted
  · intro j
    rw [hcommitted]
    by_cases hj : j = i
    · rw [hj]
      apply hself
    · rw [hothers j hj]
      apply (h.underway j).keep hnext (fun _ _ => rfl) fun _ _ _ ha _ => ha

theorem Traced.rollback (h : Traced d₀ n s) (i : ι) :
  Traced d₀ n (s.rollback i)
  := by
  have hcommitted : (s.rollback i).db.committed = s.db.committed := rfl
  apply h.pend (i := i) hcommitted (le_refl _) (h.consistent.rollback i)
  · intro j hj
    apply Function.update_of_ne hj
  · have hnothing : (s.rollback i).db.pending i = [] := Function.update_self _ _ _
    rw [hnothing]
    apply Underway.nothing

theorem Traced.abort (h : Traced d₀ n s) (i : ι) :
  Traced d₀ n (s.abort i)
  := by
  have hcommitted : (s.abort i).db.committed = s.db.committed := rfl
  apply h.pend (i := i) hcommitted (le_refl _) (h.consistent.abort i)
  · intro j hj
    apply Function.update_of_ne hj
  · have hnothing : (s.abort i).db.pending i = [] := Function.update_self _ _ _
    rw [hnothing]
    apply Underway.nothing

omit [DecidableEq ι] in
/-- While a connection has a change of a row under way, no other one has. -/
theorem Traced.alone (h : Traced d₀ n s) {j : ι} (hj : j ≠ i) {t : String}
    (ht : rowOf (s.db.pending j) = some t) :
  rowOf (s.db.pending i) ≠ some t
  := by
  intro ht'
  obtain ⟨w, hw, hkey⟩ := rowOf_mem_keys ht
  obtain ⟨w', hw', hkey'⟩ := rowOf_mem_keys ht'
  apply hj
  apply h.consistent.exclusive t j i
  · apply h.consistent.locked j w hw t hkey
  · apply h.consistent.locked i w' hw' t hkey'

/-- Every row is still there; at the same version it is in the same state. -/
def Evolves (d d' : ControlTables) : Prop :=
  ∀ t, ∀ row ∈ d.tenants.lookup t, ∃ row' ∈ d'.tenants.lookup t, row.version ≤ row'.version
    ∧ (row'.version = row.version → row'.lifecycleState = row.lifecycleState)

theorem Evolves.refl (d : ControlTables) :
  Evolves d d
  := fun _ row hrow => ⟨row, hrow, le_refl _, fun _ => rfl⟩

theorem Evolves.trans {d d' d'' : ControlTables} (h : Evolves d d') (h' : Evolves d' d'') :
  Evolves d d''
  := by
  intro t row hrow
  obtain ⟨row', hrow', hle, heq⟩ := h t row hrow
  obtain ⟨row'', hrow'', hle', heq'⟩ := h' t row' hrow'
  refine ⟨row'', hrow'', le_trans hle hle', ?_⟩
  intro hversion
  have hmiddle : row'.version = row.version := by omega
  rw [heq' (by omega), heq hmiddle]

/-- What a commit makes of the tables: of one row at most, with the transition, if any, that the
records added tell of it. -/
structure Advance (d₀ : ControlTables) (n next : Nat) (d d' : ControlTables)
    (written : Option String) (added : List (Nat × ControlAuditRecord)) : Prop where
  audit : d'.audit = d.audit ++ added
  numbered : ∀ a ∈ added, n ≤ a.1 ∧ a.1 < next
  others : ∀ t, written ≠ some t → d'.tenants.lookup t = d.tenants.lookup t
    ∧ ∀ a ∈ added, ¬ tellsOf t a
  row : ∀ t, written = some t → ∃ row ∈ d'.tenants.lookup t, row.tenantId = t
    ∧ (row.version = 0 → row.lifecycleState = .registered)
    ∧ Accounted d₀ t (transitions t (since n d ++ added)) (some row)
    ∧ ∀ old ∈ d.tenants.lookup t, old.version ≤ row.version
      ∧ (row.version = old.version → row.lifecycleState = old.lifecycleState)
  above : ∀ t, written = some t → ∀ a ∈ added, ∀ b ∈ since n d, tellsOf t b → b.1 < a.1
  single : added.length ≤ 1

theorem Advance.since_eq {next : Nat} {d d' : ControlTables} {written : Option String}
    {added : List (Nat × ControlAuditRecord)} (h : Advance d₀ n next d d' written added) :
  since n d' = since n d ++ added
  := by
  rw [since, h.audit, List.filter_append, since]
  congr 1
  apply List.filter_eq_self.mpr
  intro a ha
  exact decide_eq_true (h.numbered a ha).1

theorem Advance.evolves {next : Nat} {d d' : ControlTables} {written : Option String}
    {added : List (Nat × ControlAuditRecord)} (h : Advance d₀ n next d d' written added) :
  Evolves d d'
  := by
  intro t row hrow
  by_cases ht : written = some t
  · obtain ⟨row', hrow', -, -, -, hold⟩ := h.row t ht
    exact ⟨row', hrow', hold row hrow⟩
  · rw [(h.others t ht).1]
    exact ⟨row, hrow, le_refl _, fun _ => rfl⟩

/-- A commit that advances the tables keeps the invariant. -/
theorem Traced.advance (h : Traced d₀ n s) {added : List (Nat × ControlAuditRecord)}
    (hadvance : Advance d₀ n s.nextId s.db.committed (s.commit i).db.committed
      (rowOf (s.db.pending i)) added) :
  Traced d₀ n (s.commit i)
  := by
  have hsince := hadvance.since_eq
  constructor
  · apply h.consistent.commit
  · intro t row hrow
    by_cases ht : rowOf (s.db.pending i) = some t
    · obtain ⟨row', hrow', hkeyed, -⟩ := hadvance.row t ht
      obtain rfl := Option.mem_unique hrow hrow'
      apply hkeyed
    · rw [(hadvance.others t ht).1] at hrow
      apply h.keyed t row hrow
  · intro t row hrow
    by_cases ht : rowOf (s.db.pending i) = some t
    · obtain ⟨row', hrow', -, hinitial, -⟩ := hadvance.row t ht
      obtain rfl := Option.mem_unique hrow hrow'
      apply hinitial
    · rw [(hadvance.others t ht).1] at hrow
      apply h.initial t row hrow
  · intro a ha
    rw [hsince] at ha
    rcases List.mem_append.mp ha with hold | hnew
    · apply h.numbered a hold
    · apply (hadvance.numbered a hnew).2
  · apply h.next
  · intro t
    rw [hsince, List.filter_append, List.pairwise_append]
    refine ⟨h.ascending t, ?_, ?_⟩
    · apply List.Pairwise.filter
      have hsingle := hadvance.single
      rcases added with _ | ⟨a, _ | ⟨b, rest⟩⟩
      · apply List.Pairwise.nil
      · apply List.pairwise_singleton
      · simp at hsingle
    · intro b hb a ha
      obtain ⟨hb, htells⟩ := List.mem_filter.mp hb
      obtain ⟨ha, htells'⟩ := List.mem_filter.mp ha
      by_cases ht : rowOf (s.db.pending i) = some t
      · apply hadvance.above t ht a ha b hb (of_decide_eq_true htells)
      · exact absurd (of_decide_eq_true htells') ((hadvance.others t ht).2 a ha)
  · intro t
    rw [hsince]
    by_cases ht : rowOf (s.db.pending i) = some t
    · obtain ⟨row, hrow, -, -, haccounted, -⟩ := hadvance.row t ht
      rw [Option.mem_def.mp hrow]
      apply haccounted
    · obtain ⟨hsame, hnone⟩ := hadvance.others t ht
      have hadded : transitions t added = [] := by
        apply List.filterMap_eq_nil_iff.mpr
        intro a ha
        apply not_not.mp (hnone a ha)
      rw [hsame, transitions, List.filterMap_append]
      have hsplit : List.filterMap (fun a => transitionOf t a.2) added = [] := hadded
      rw [hsplit, List.append_nil]
      apply h.accounted t
  · intro j
    by_cases hj : j = i
    · have hnothing : (s.commit i).db.pending j = [] := by
        rw [hj]
        apply Function.update_self
      rw [hnothing]
      apply Underway.nothing
    · have hsame : (s.commit i).db.pending j = s.db.pending j := Function.update_of_ne hj _ _
      rw [hsame]
      apply (h.underway j).keep (le_refl _)
      · intro t ht
        apply (hadvance.others t (h.alone hj ht)).1
      · intro t ht a ha htells
        rw [hsince] at ha
        rcases List.mem_append.mp ha with hold | hnew
        · apply hold
        · exact absurd htells ((hadvance.others t (h.alone hj ht)).2 a hnew)

/-! ### Commits -/

theorem Advance.nothing {next : Nat} {d : ControlTables} :
  Advance d₀ n next d d none []
  := by
  constructor
  · rw [List.append_nil]
  · intro a ha
    cases ha
  · intro t _
    refine ⟨rfl, ?_⟩
    intro a ha
    cases ha
  · intro t ht
    cases ht
  · intro t ht
    cases ht
  · apply Nat.zero_le

omit [DecidableEq ι] in
/-- A registration leaves a row in its first state, over none or over one in its first state. -/
theorem Advance.registration (h : Traced d₀ n s) {record : TenantRecord}
    (hversion : record.version = 0) (hstate : record.lifecycleState = .registered)
    (hfresh : ∀ row ∈ s.db.committed.tenants.lookup record.tenantId, row.version = 0) :
  Advance d₀ n s.nextId s.db.committed
    ((ControlChange.upsertTenant record).apply s.db.committed) (some record.tenantId) []
  := by
  have hwritten : ControlChange.upserted record (s.db.committed.tenants.lookup record.tenantId)
      ∈ ((ControlChange.upsertTenant record).apply s.db.committed).tenants.lookup
        record.tenantId := AList.lookup_insert _
  have hcolumns : ∀ current, (ControlChange.upserted record current).version = 0
      ∧ (ControlChange.upserted record current).lifecycleState = .registered
      ∧ (ControlChange.upserted record current).tenantId = record.tenantId := by
    intro current
    cases current with
    | none => exact ⟨hversion, hstate, rfl⟩
    | some current => exact ⟨hversion, hstate, rfl⟩
  obtain ⟨hversion', hstate', htenant⟩ :=
    hcolumns (s.db.committed.tenants.lookup record.tenantId)
  constructor
  · rw [List.append_nil]
    rfl
  · intro a ha
    cases ha
  · intro t ht
    constructor
    · apply AList.lookup_insert_ne
      intro heq
      exact ht (congrArg some heq.symm)
    · intro a ha
      cases ha
  · intro t ht
    obtain rfl := Option.some.inj ht
    refine ⟨_, hwritten, htenant, fun _ => hstate', ?_, ?_⟩
    · rw [List.append_nil]
      have haccounted := h.accounted record.tenantId
      cases hrow : s.db.committed.tenants.lookup record.tenantId with
      | none =>
          rw [hrow] at haccounted
          obtain ⟨hnone, hsteps⟩ := haccounted
          have horigin : origin d₀ record.tenantId = (.registered, 0) := by
            rw [origin, hnone]
          rw [hrow] at hversion' hstate'
          rw [Accounted, hsteps, horigin, hversion', hstate']
          exact ⟨rfl, LeadsTo.start⟩
      | some old =>
          have hold := hfresh old hrow
          have hregistered := h.initial _ old hrow hold
          rw [hrow] at haccounted hversion' hstate'
          obtain ⟨hcount, hleads⟩ := haccounted
          rw [hold] at hcount
          rw [hregistered] at hleads
          rw [Accounted, hversion', hstate']
          exact ⟨hcount, hleads⟩
    · intro old hold
      have hzero := hfresh old hold
      rw [hversion', hstate', hzero]
      exact ⟨le_refl _, fun _ => (h.initial _ old hold hzero).symm⟩
  · intro t _ a ha
    cases ha
  · apply Nat.zero_le

/-- An event tells of no transition. -/
theorem Advance.event {next id : Nat} {d : ControlTables} {record : ControlAuditRecord}
    (hfrom : record.fromState = none) (hn : n ≤ id) (hnext : id < next) :
  Advance d₀ n next d ((ControlChange.insertAudit id record).apply d) none [(id, record)]
  := by
  constructor
  · rfl
  · intro a ha
    rw [List.mem_singleton.mp ha]
    exact ⟨hn, hnext⟩
  · intro t _
    refine ⟨rfl, ?_⟩
    intro a ha htells
    rw [List.mem_singleton.mp ha] at htells
    apply htells
    apply transitionOf_event hfrom
  · intro t ht
    cases ht
  · intro t ht
    cases ht
  · apply le_refl

omit [DecidableEq ι] in
/-- A transition takes the row one version further, from the state that its record names. -/
theorem Advance.transition (h : Traced d₀ n s) {updated current : TenantRecord} {id : Nat}
    {record : ControlAuditRecord}
    (hcurrent : s.db.committed.tenants.lookup updated.tenantId = some current)
    (htenant : record.tenantId = some updated.tenantId)
    (hfrom : record.fromState = some current.lifecycleState.value)
    (hto : record.toState = some updated.lifecycleState.value)
    (hn : n ≤ id) (hnext : id < s.nextId)
    (habove : ∀ a ∈ since n s.db.committed, tellsOf updated.tenantId a → a.1 < id) :
  Advance d₀ n s.nextId s.db.committed
    ((ControlChange.insertAudit id record).apply
      ((ControlChange.updateTenant updated current.version).apply s.db.committed))
    (some updated.tenantId) [(id, record)]
  := by
  have happlied : (ControlChange.updateTenant updated current.version).apply s.db.committed
      = { s.db.committed with
          tenants := s.db.committed.tenants.insert updated.tenantId
            (ControlChange.updated updated current) } := by
    rw [ControlChange.apply, hcurrent]
  rw [happlied]
  have hwritten : (s.db.committed.tenants.insert updated.tenantId
      (ControlChange.updated updated current)).lookup updated.tenantId
        = some (ControlChange.updated updated current) := AList.lookup_insert _
  constructor
  · rfl
  · intro a ha
    rw [List.mem_singleton.mp ha]
    exact ⟨hn, hnext⟩
  · intro t ht
    have hne : t ≠ updated.tenantId := by
      intro heq
      exact ht (congrArg some heq.symm)
    constructor
    · apply AList.lookup_insert_ne hne
    · intro a ha htells
      rw [List.mem_singleton.mp ha] at htells
      apply htells
      apply transitionOf_of_ne
      intro heq
      apply hne
      apply Option.some.inj (heq.symm.trans htenant)
  · intro t ht
    obtain rfl := Option.some.inj ht
    refine ⟨_, hwritten, rfl, ?_, ?_, ?_⟩
    · intro hzero
      cases hzero
    · have haccounted := h.accounted updated.tenantId
      rw [hcurrent] at haccounted
      obtain ⟨hcount, hleads⟩ := haccounted
      have hsteps : transitions updated.tenantId (since n s.db.committed ++ [(id, record)])
          = transitions updated.tenantId (since n s.db.committed)
            ++ [(current.lifecycleState.value, updated.lifecycleState.value)] := by
        rw [transitions, List.filterMap_append, transitions]
        simp [transitionOf_self htenant hfrom hto]
      rw [Accounted, hsteps]
      constructor
      · have hversion : (ControlChange.updated updated current).version = current.version + 1 := rfl
        rw [hversion, hcount, List.length_append]
        rfl
      · exact hleads.step updated.lifecycleState
    · intro old hold
      obtain rfl := Option.some.inj (hcurrent.symm.trans hold)
      constructor
      · apply Nat.le_succ
      · intro heq
        exact absurd heq (Nat.succ_ne_self _)
  · intro t ht a ha b hb htells
    obtain rfl := Option.some.inj ht
    rw [List.mem_singleton.mp ha]
    apply habove b hb htells
  · apply le_refl

/-- The row of an update that waits for its audit record is not committed. -/
def Whole (ws : List ControlChange) : Prop :=
  ∀ updated v, ws ≠ [.updateTenant updated v]

/-- A commit of what is whole keeps the invariant. -/
theorem Traced.commit (h : Traced d₀ n s) (hwhole : Whole (s.db.pending i)) :
  Traced d₀ n (s.commit i) ∧ Evolves s.db.committed (s.commit i).db.committed
  := by
  have hcommitted : (s.commit i).db.committed
      = controlSchema.applyAll (s.db.pending i) s.db.committed := rfl
  have hadvance : ∃ added, Advance d₀ n s.nextId s.db.committed (s.commit i).db.committed
      (rowOf (s.db.pending i)) added := by
    rw [hcommitted]
    have hunderway := h.underway i
    generalize s.db.pending i = ws at hunderway hwhole
    cases hunderway with
    | nothing => exact ⟨[], Advance.nothing⟩
    | registration hversion hstate hfresh =>
        exact ⟨[], Advance.registration h hversion hstate hfresh⟩
    | event hfrom hn hnext => exact ⟨_, Advance.event hfrom hn hnext⟩
    | swapped hcurrent => exact absurd rfl (hwhole _ _)
    | transition hcurrent htenant hfrom hto hn hnext habove =>
        exact ⟨_, Advance.transition h hcurrent htenant hfrom hto hn hnext habove⟩
  obtain ⟨added, hadvance⟩ := hadvance
  exact ⟨h.advance hadvance, hadvance.evolves⟩

end Invariant

end PostgresControlStore

end ControlPlane
