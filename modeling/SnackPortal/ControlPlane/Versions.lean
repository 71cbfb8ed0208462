import SnackPortal.ControlPlane.Lifecycle
import SnackPortal.ControlPlane.LifecycleService

/-!
# The versions of an association

The versions that the association of a tenant has had, in runs of any calls of the lifecycle
service at once.  While every re-association is from a version to one of its kind, the versions
increase, so none comes back; a run through versions of both kinds leads back to one.
-/

namespace ControlPlane

open Discipline

/-- A journal of the calls on the ports. -/
abbrev ControlJournal (ι : Type) := List (Machine.Entry controlSignature ControlError ι)

section Versions

variable {ι : Type} (requests : ι → LifecycleRequest) (start : ControlState)

/-- The versions of a tenant that re-associations have been accepted with, the latest first. -/
def accepted (t : String) : ControlJournal ι → List String
  | [] => []
  | .call i (.compareAndSwapTenant _ _) (.ok persisted) :: journal =>
      if (requests i).reassociates ∧ persisted.tenantId = t then
        persisted.databaseAssociationRef.version :: accepted t journal
      else
        accepted t journal
  | _ :: journal => accepted t journal

/-- The versions that have been in force for a tenant, the latest first. -/
def inForce (t : String) (journal : ControlJournal ι) : List String :=
  accepted requests t journal
    ++ ((start.tenants.lookup t).map (·.databaseAssociationRef.version)).toList

/-- The versions increase, are of one kind, and the latest is that of the record. -/
structure Ascending (versions : List String) (current : Option TenantRecord) : Prop where
  sorted : versions.Pairwise fun later earlier => versionGt later earlier
  alike : ∀ v ∈ versions, ∀ w ∈ versions, Alike v w
  latest : versions.head? = current.map (·.databaseAssociationRef.version)

/-- A single version ascends. -/
theorem Ascending.initial (current : Option TenantRecord) :
  Ascending (current.map (·.databaseAssociationRef.version)).toList current
  := by
  cases current with
  | none => exact ⟨.nil, nofun, rfl⟩
  | some rec =>
      constructor
      · apply List.pairwise_singleton
      · intro v hv w hw
        rw [List.mem_singleton.mp hv, List.mem_singleton.mp hw]
        rfl
      · rfl

/-- A greater version of the kind of the latest one follows it. -/
theorem Ascending.cons {versions : List String} {current updated : TenantRecord}
    (h : Ascending versions (some current))
    (hgt : versionGt updated.databaseAssociationRef.version
      current.databaseAssociationRef.version)
    (halike : Alike updated.databaseAssociationRef.version
      current.databaseAssociationRef.version) :
  Ascending (updated.databaseAssociationRef.version :: versions) (some updated)
  := by
  obtain ⟨earlier, hearlier⟩ := List.head?_eq_some_iff.mp h.latest
  have hmem : current.databaseAssociationRef.version ∈ versions :=
    List.mem_of_mem_head? h.latest
  have hkind : ∀ v ∈ versions, Alike updated.databaseAssociationRef.version v :=
    fun v hv => halike.trans (h.alike _ hmem v hv)
  constructor
  · apply List.pairwise_cons.mpr
    constructor
    · intro v hv
      have hsorted := h.sorted
      rw [hearlier] at hv hsorted
      rcases List.mem_cons.mp hv with rfl | hv
      · apply hgt
      · have hv' : v ∈ versions := by
          rw [hearlier]
          apply List.mem_cons_of_mem _ hv
        apply versionGt_trans halike (h.alike _ hmem v hv') hgt
        apply (List.pairwise_cons.mp hsorted).1 v hv
    · apply h.sorted
  · intro v hv w hw
    rcases List.mem_cons.mp hv with rfl | hv
    · rcases List.mem_cons.mp hw with rfl | hw
      · rfl
      · apply hkind w hw
    · rcases List.mem_cons.mp hw with rfl | hw
      · apply (hkind v hv).symm
      · apply h.alike v hv w hw
  · rfl

/-- Increasing versions are distinct. -/
theorem Ascending.nodup {versions : List String} {current : Option TenantRecord}
    (h : Ascending versions current) :
  versions.Nodup
  := by
  apply h.sorted.imp
  rintro v w hgt rfl
  rw [versionGt_irrefl] at hgt
  cases hgt

/-! ### The discipline -/

/-- A write over a record of the expected version changes its association to a version of the
same kind. -/
def keepsKind : (Machine.journaled (controlPlane ι)).Guard := fun s _ op c =>
  match op with
  | .compareAndSwapTenant updated expectedVersion => c.fault = false →
      ∀ current ∈ s.base.tenants.lookup updated.tenantId, current.version = expectedVersion →
        Alike updated.databaseAssociationRef.version current.databaseAssociationRef.version
  | _ => True

instance (s : Machine.Journaled ControlState controlSignature ControlError ι) (i : ι)
    (op : ControlOp) (c : ControlChoice) : Decidable (keepsKind s i op c) :=
  match op with
  | .compareAndSwapTenant updated expectedVersion => inferInstanceAs (Decidable (c.fault = false →
      ∀ current ∈ s.base.tenants.lookup updated.tenantId, current.version = expectedVersion →
        Alike updated.databaseAssociationRef.version current.databaseAssociationRef.version))
  | .now | .token | .getTenant _ | .putTenant _ | .appendAudit _ | .listAudit
  | .recordEvidence _ _ | .evidenceExcluding _ | .removeEvidence _ | .probe _ | .gather _ _ _
  | .invalidateTenant _ _ | .provision _ _ | .applySchema _ _ _ | .controlDatabaseName
  | .databaseExists _ | .inspectDatabase _ | .deprovision _ => .isTrue trivial

/-- Every record is stored under its own tenant id. -/
def ControlState.Keyed (s : ControlState) : Prop :=
  ∀ t r, s.tenants.lookup t = some r → r.tenantId = t

/-- The discipline of the lifecycle service: the versions ascend, and a record that is stored
under the version of another one is that record. -/
def ascent : Discipline (Machine.journaled (controlPlane ι)) where
  guard := keepsKind
  inv s := s.base.Keyed
    ∧ ∀ t, Ascending (inForce requests start t s.journal) (s.base.tenants.lookup t)
  evolve s s' := ∀ t r, s.base.tenants.lookup t = some r →
    ∃ r', s'.base.tenants.lookup t = some r' ∧ r.version ≤ r'.version
      ∧ (r'.version = r.version → r' = r)
  Own := Unit
  own _ _ := ()
  evolve_refl _ _ r h := ⟨r, h, le_rfl, fun _ => rfl⟩
  evolve_trans := by
    intro s s' s'' h h' t r hr
    obtain ⟨r', hr', hle, heq⟩ := h t r hr
    obtain ⟨r'', hr'', hle', heq'⟩ := h' t r' hr'
    use r'', hr'', le_trans hle hle'
    intro hv
    have hv' : r''.version = r'.version := by omega
    have hv'' : r'.version = r.version := by omega
    rw [heq' hv', heq hv'']
  drop_inv _ _ h := h
  drop_evolve _ _ _ _ r h := ⟨r, h, le_rfl, fun _ => rfl⟩
  drop_own _ _ _ _ _ := rfl

/-- The thread holds a record at least as old as the stored one, which is the stored one where
the versions agree. -/
def Remembered (rec : TenantRecord)
    (s : Machine.Journaled ControlState controlSignature ControlError ι) : Prop :=
  ∃ r, s.base.tenants.lookup rec.tenantId = some r ∧ rec.version ≤ r.version
    ∧ (r.version = rec.version → r = rec)

variable {requests start} {i : ι}

theorem Remembered.stable (rec : TenantRecord) :
  (ascent requests start).Stable i (Remembered rec)
  := by
  intro s s' hs h
  obtain ⟨r, hr, hle, heq⟩ := h
  obtain ⟨r', hr', hle', heq'⟩ := hs.evolve rec.tenantId r hr
  use r', hr', le_trans hle hle'
  intro hv
  rw [heq' (by omega), heq (by omega)]

/-- A call that writes nothing into the registry table. -/
theorem ascent_steps {o : ControlOp} (hop : keepsTenants o) {c : ControlChoice}
    {s s' : Machine.Journaled ControlState controlSignature ControlError ι}
    {r : Except ControlError o.Ans} (hinv : (ascent requests start).inv s)
    (h : (Machine.journaled (controlPlane ι)).answer i o c s = some (r, s')) :
  (ascent requests start).Steps i s s' ∧ s'.base.tenants = s.base.tenants
  := by
  obtain ⟨hbase, hjournal⟩ := Machine.journaled_answer h
  have htenants := tenants_of_keepsTenants hop hbase
  have haccepted : ∀ t, accepted requests t s'.journal = accepted requests t s.journal := by
    intro t
    rw [hjournal]
    cases o with
    | compareAndSwapTenant updated v => contradiction
    | _ => rfl
  constructor
  · constructor
    · constructor
      · intro t r hr
        rw [htenants] at hr
        apply hinv.1 t r hr
      · intro t
        rw [inForce, haccepted, htenants]
        apply hinv.2
    · intro t r hr
      use r
      rw [htenants]
      exact ⟨hr, le_rfl, fun _ => rfl⟩
    · exact fun _ _ => rfl
  · apply htenants

theorem Remembered.of_tenants {rec : TenantRecord}
    {s s' : Machine.Journaled ControlState controlSignature ControlError ι}
    (h : s'.base.tenants = s.base.tenants) (hrec : Remembered rec s) :
  Remembered rec s'
  := by
  obtain ⟨r, hr, hrest⟩ := hrec
  use r
  rw [h]
  exact ⟨hr, hrest⟩

/-! ### The calls of the service -/

/-- A program that writes nothing into the registry table keeps what is said of the table. -/
theorem ascent_effects {α : Type}
    {P : Machine.Journaled ControlState controlSignature ControlError ι → Prop}
    {x : ControlProgram α} (hx : x.Calls keepsTenants)
    (hP : (ascent requests start).Stable i P)
    (hP' : ∀ s s', s'.base.tenants = s.base.tenants → P s → P s') :
  (ascent requests start).Triple i P x (Returns fun _ => P)
  := by
  apply Triple.effects hx hP
  intro op s c r s' hop hinv hp _ ha
  obtain ⟨hsteps, htenants⟩ := ascent_steps hop hinv ha
  exact ⟨hsteps, hP' s s' htenants hp⟩

theorem Remembered.keeps {α : Type} {rec : TenantRecord} {x : ControlProgram α}
    (hx : x.Calls keepsTenants) :
  (ascent requests start).Triple i (Remembered rec) x (Returns fun _ => Remembered rec)
  := ascent_effects hx (Remembered.stable rec) fun _ _ => Remembered.of_tenants

theorem ascent_lawful {α : Type} {x : ControlProgram α} (hx : x.Calls keepsTenants) :
  (ascent requests start).Lawful i x
  := ascent_effects hx Stable.true fun _ _ _ h => h

/-- A record that was just read is remembered. -/
theorem require_remembered (tenantId : String) :
  (ascent requests start).Triple i (fun _ => True) (TenantLifecycleService.require tenantId)
    (Returns Remembered)
  := by
  have hget : (ascent requests start).Triple i (fun _ => True) (getTenant tenantId)
      (Returns fun found s => ∀ rec, found = some rec → Remembered rec s) := by
    apply Triple.perform (S := controlSignature) (o := .getTenant tenantId) Stable.true
    · rintro (e | found)
      · apply Stable.true
      · intro s s' hs h rec hrec
        apply Remembered.stable rec s s' hs (h rec hrec)
    · intro s c r s' hinv _ _ ha
      obtain ⟨hsteps, htenants⟩ := ascent_steps (o := .getTenant tenantId) trivial hinv ha
      use hsteps
      obtain ⟨hbase, -⟩ := Machine.journaled_answer ha
      simp only [Option.some.injEq] at hbase
      split at hbase
      · obtain ⟨he, -⟩ := Prod.mk.inj hbase
        subst he
        trivial
      · obtain ⟨hfound, hs⟩ := Prod.mk.inj hbase
        subst hfound
        intro rec hrec
        have hid := hinv.1 tenantId rec hrec
        subst hid
        use rec
        rw [← hs]
        exact ⟨hrec, le_rfl, fun _ => rfl⟩
  apply Triple.seq hget
  intro found
  cases found with
  | none => apply Triple.throw
  | some rec =>
      apply Triple.ok
      · intro s s' hs h rec' hrec
        apply Remembered.stable rec' s s' hs (h rec' hrec)
      · intro s _ h
        apply h rec rfl

/-- What a call may write over a record: a re-association a greater version, and every other call
the version that is there. -/
structure Moves (q : LifecycleRequest) (rec updated : TenantRecord) : Prop where
  tenantId : updated.tenantId = rec.tenantId
  greater : q.reassociates → versionGt updated.databaseAssociationRef.version
    rec.databaseAssociationRef.version
  same : q.reassociates = false →
    updated.databaseAssociationRef.version = rec.databaseAssociationRef.version

/-- A call that raises and leaves the store as it is. -/
theorem ascent_refused {o : ControlOp}
    {s s' : Machine.Journaled ControlState controlSignature ControlError ι} {e : ControlError}
    (hinv : (ascent requests start).inv s) (hbase : s'.base = s.base)
    (hjournal : s'.journal = .call i o (.error e) :: s.journal) :
  (ascent requests start).Steps i s s'
  := by
  have haccepted : ∀ t, accepted requests t s'.journal = accepted requests t s.journal := by
    intro t
    rw [hjournal]
    cases o with
    | compareAndSwapTenant updated v => rfl
    | _ => rfl
  constructor
  · constructor
    · rw [hbase]
      apply hinv.1
    · intro t
      rw [hbase, inForce, haccepted]
      apply hinv.2 t
  · intro t r hr
    use r
    rw [hbase]
    exact ⟨hr, le_rfl, fun _ => rfl⟩
  · exact fun _ _ => rfl

/-- A write over the stored record. -/
theorem ascent_written {s s' : Machine.Journaled ControlState controlSignature ControlError ι}
    {current updated persisted : TenantRecord} {expectedVersion : Nat}
    (hinv : (ascent requests start).inv s) (hmoves : Moves (requests i) current persisted)
    (hversion : persisted.version = current.version + 1)
    (halike : Alike persisted.databaseAssociationRef.version
      current.databaseAssociationRef.version)
    (hcurrent : s.base.tenants.lookup persisted.tenantId = some current)
    (htenants : s'.base.tenants = s.base.tenants.insert persisted.tenantId persisted)
    (hjournal : s'.journal
      = .call i (.compareAndSwapTenant updated expectedVersion) (.ok persisted) :: s.journal) :
  (ascent requests start).Steps i s s'
  := by
  constructor
  · constructor
    · intro t q hq
      rw [htenants] at hq
      by_cases ht : t = persisted.tenantId
      · subst ht
        rw [AList.lookup_insert] at hq
        rw [← Option.some.inj hq]
      · rw [AList.lookup_insert_ne ht] at hq
        apply hinv.1 t q hq
    · intro t
      have hascending := hinv.2 t
      rw [inForce] at hascending
      rw [inForce, hjournal, htenants, accepted]
      by_cases ht : t = persisted.tenantId
      · subst ht
        rw [hcurrent] at hascending
        rw [AList.lookup_insert]
        split
        · rename_i hre
          apply hascending.cons (hmoves.greater hre.1) halike
        · rename_i hre
          have hsame := hmoves.same (by simpa using hre)
          exact ⟨hascending.sorted, hascending.alike,
            hascending.latest.trans (congrArg some hsame.symm)⟩
      · have hre : ¬ ((requests i).reassociates ∧ persisted.tenantId = t) :=
          fun h => ht h.2.symm
        rw [if_neg hre, AList.lookup_insert_ne ht]
        apply hascending
  · intro t q hq
    rw [htenants]
    by_cases ht : t = persisted.tenantId
    · subst ht
      obtain rfl := Option.some.inj (hcurrent.symm.trans hq)
      use persisted, AList.lookup_insert _
      constructor
      · omega
      · omega
    · use q
      rw [AList.lookup_insert_ne ht]
      exact ⟨hq, le_rfl, fun _ => rfl⟩
  · exact fun _ _ => rfl

/-- A write of the service over a record that it has read, accepted or refused. -/
theorem swap_ascends {rec updated : TenantRecord} (hmoves : Moves (requests i) rec updated) :
  (ascent requests start).Triple i (Remembered rec)
    (TenantLifecycleService.swap updated rec.version) (Returns fun _ _ => True)
  := by
  apply Triple.rescue (Q := fun _ _ => True)
  · apply Triple.perform (S := controlSignature)
      (o := .compareAndSwapTenant updated rec.version) (Remembered.stable rec)
    · rintro (e | persisted) <;> apply Stable.true
    · intro s c r s' hinv hrec hguard ha
      refine ⟨?_, by cases r <;> trivial⟩
      obtain ⟨hbase, hjournal⟩ := Machine.journaled_answer ha
      obtain ⟨current, hcurrent, hle, heq⟩ := hrec
      rw [← hmoves.tenantId] at hcurrent
      simp only [Option.some.injEq] at hbase
      split at hbase
      · obtain ⟨he, hs⟩ := Prod.mk.inj hbase
        rw [← he] at hjournal
        apply ascent_refused hinv hs.symm hjournal
      · rename_i hfault
        rw [ControlState.answer] at hbase
        rcases s.base.compareAndSwap_cases updated rec.version with
          ⟨_, hcurrent', hv, hswap⟩ | hswap
        · obtain rfl := Option.some.inj (hcurrent.symm.trans hcurrent')
          obtain rfl := heq hv
          rw [hswap] at hbase
          obtain ⟨hr, hs⟩ := Prod.mk.inj hbase
          rw [← hr] at hjournal
          have halike := hguard (by simpa using hfault) current hcurrent rfl
          have hmoves' : Moves (requests i) current
              { updated with version := current.version + 1 } :=
            ⟨hmoves.tenantId, hmoves.greater, hmoves.same⟩
          apply ascent_written hinv hmoves' rfl halike hcurrent _ hjournal
          rw [← hs]
        · rw [hswap] at hbase
          obtain ⟨he, hs⟩ := Prod.mk.inj hbase
          rw [← he] at hjournal
          apply ascent_refused hinv hs.symm hjournal
  · exact fun _ => Stable.true
  · intro e
    cases e <;> apply Triple.throw

theorem nowIso_keeps :
  nowIso.Calls keepsTenants
  := Program.Calls.perform (S := controlSignature) (show keepsTenants .now from trivial)

theorem probeDatabase_keeps {ref : SecretRef} :
  (probeDatabase ref).Calls keepsTenants
  := Program.Calls.perform (S := controlSignature) (show keepsTenants (.probe ref) from trivial)

theorem set_ascends {rec : TenantRecord} (hq : (requests i).reassociates = false)
    (toState : TenantLifecycleState) (actor correlationId action : String) :
  (ascent requests start).Triple i (Remembered rec)
    (TenantLifecycleService.set rec toState actor correlationId action)
    (Returns fun _ _ => True)
  := by
  apply Triple.seq (Remembered.keeps nowIso_keeps)
  intro ts
  apply Triple.seq (swap_ascends _)
  · intro persisted
    apply Triple.seq (ascent_lawful (recordAudit_calls trivial fun _ _ => trivial))
    intro _
    apply Lawful.pure
  · exact ⟨rfl, fun h => absurd (hq.symm.trans h) Bool.false_ne_true, fun _ => rfl⟩

theorem verifyTenant_ascends (hq : (requests i).reassociates = false) (supported : List String)
    (tenantId actor correlationId : String) :
  (ascent requests start).Lawful i
    (TenantLifecycleService.verifyTenant supported tenantId actor correlationId)
  := by
  apply Triple.seq (require_remembered tenantId)
  intro rec
  split
  · apply Triple.throw
  · apply Triple.seq (set_ascends hq _ _ _ _)
    intro _
    apply Triple.seq (ascent_lawful probeDatabase_keeps)
    intro result
    apply Triple.seq (require_remembered tenantId)
    intro cur
    split
    · apply set_ascends hq
    split
    · apply set_ascends hq
    · apply set_ascends hq

/-- Every call of the service keeps the discipline. -/
theorem program_ascends (supported : List String) :
  (ascent requests start).Lawful i ((requests i).program supported)
  := by
  cases hq : requests i with
  | verify tenantId actor correlationId =>
      apply verifyTenant_ascends
      rw [hq]
      rfl
  | activate tenantId actor correlationId =>
      apply Triple.seq (require_remembered tenantId)
      intro rec
      split
      · apply Triple.throw
      · apply set_ascends
        rw [hq]
        rfl
  | reactivate tenantId actor correlationId =>
      have hnot : (requests i).reassociates = false := by
        rw [hq]
        rfl
      apply Triple.seq (require_remembered tenantId)
      intro rec
      split
      · apply Triple.throw
      · apply Triple.seq (set_ascends hnot _ _ _ _)
        intro _
        apply verifyTenant_ascends hnot
  | reassociate tenantId newAssociationRef actor correlationId =>
      apply Triple.seq (require_remembered tenantId)
      intro rec
      split
      · apply Triple.throw
      split
      · apply Triple.throw
      · rename_i hgt
        apply Triple.seq (Remembered.keeps nowIso_keeps)
        intro ts
        apply Triple.seq (swap_ascends _)
        · intro persisted
          apply Triple.seq (ascent_lawful (recordAudit_calls trivial fun _ _ => trivial))
          intro _
          apply Lawful.pure
        · constructor
          · rfl
          · intro _
            simpa using hgt
          · intro hfalse
            rw [hq] at hfalse
            cases hfalse

/-! ### The runs -/

variable [DecidableEq ι]

variable (requests start) in
/-- All calls at once, before their first calls on the ports. -/
def serving (supported : List String) :
    (Machine.journaled (controlPlane ι)).Config TenantRecord :=
  ⟨⟨start, []⟩, fun i => some ((requests i).program supported)⟩

/-- While every write of the run keeps the kind of the version, the versions that have been in
force for a tenant increase, the latest is that of the record, and none was in force twice. -/
theorem inForce_ascending (supported : List String) (hkeyed : start.Keyed)
    {cfg : (Machine.journaled (controlPlane ι)).Config TenantRecord}
    (h : Machine.Reaches keepsKind (serving requests start supported) cfg) (t : String) :
  (inForce requests start t cfg.state.journal).Pairwise
      (fun later earlier => versionGt later earlier)
    ∧ (inForce requests start t cfg.state.journal).Nodup
    ∧ (inForce requests start t cfg.state.journal).head?
      = (cfg.state.base.tenants.lookup t).map (·.databaseAssociationRef.version)
  := by
  have hinv : (ascent requests start).inv (serving requests start supported).state := by
    use hkeyed
    intro t
    apply Ascending.initial
  have hsafe : ∀ i x, (serving requests start supported).threads i = some x →
      (ascent requests start).Safe i (Returns fun _ _ => True) x
        (serving requests start supported).state := by
    intro i x hx
    obtain rfl := Option.some.inj hx
    apply program_ascends supported _ hinv trivial
  obtain ⟨hascending, -⟩ :=
    Safe.reaches (Q := fun _ => Returns fun _ _ => True) h hinv hsafe
  exact ⟨(hascending.2 t).sorted, (hascending.2 t).nodup, (hascending.2 t).latest⟩

end Versions

/-! ### A run through versions of both kinds -/

/-- A tenant whose association has the version. -/
def associatedTenant (version : String) : TenantRecord :=
  ⟨"acme", "org", .ready, "1", ⟨"A", version⟩, "f", "t0", "t0", 1⟩

def associatedStore (version : String) : ControlState :=
  ⟨AList.singleton "acme" (associatedTenant version), [], ∅⟩

theorem associatedStore_keyed (version : String) :
  (associatedStore version).Keyed
  := by
  intro t r hr
  have hmem : ⟨t, r⟩ ∈ (associatedStore version).tenants.entries := by
    apply AList.mem_lookup_iff.mp hr
  obtain ⟨rfl, hassociated⟩ := Sigma.mk.inj (List.mem_singleton.mp hmem)
  rw [eq_of_heq hassociated]
  rfl

/-- Re-associations of the tenant with versions, one after the other. -/
def reassociations (versions : List String) (n : Nat) : LifecycleRequest :=
  .reassociate "acme" ⟨"B", versions.getD n ""⟩ "ops" "c"

/-- Every one of three re-associations runs to its end. -/
def reassociationMoves : List (Move Nat ControlChoice) :=
  [0, 1, 2].flatMap fun n => List.replicate 5 (.call n default)

/-- The versions that a run of three re-associations brings into force. -/
def reassociated (G : (Machine.journaled (controlPlane Nat)).Guard)
    [∀ s i op c, Decidable (G s i op c)] (versions : List String) : Option (List String) :=
  ((serving (reassociations versions) (associatedStore "9") ["1"]).run G reassociationMoves).map
    fun cfg => inForce (reassociations versions) (associatedStore "9") "acme" cfg.state.journal

theorem inForce_ascending_integers :
  ∃ cfg, Machine.Reaches keepsKind
      (serving (reassociations ["10", "11", "12"]) (associatedStore "9") ["1"]) cfg
    ∧ inForce (reassociations ["10", "11", "12"]) (associatedStore "9") "acme"
      cfg.state.journal = ["12", "11", "10", "9"]
    ∧ (cfg.state.base.tenants.lookup "acme").map (·.databaseAssociationRef.version) = some "12"
  := by
  have hrun : reassociated keepsKind ["10", "11", "12"] = some ["12", "11", "10", "9"] := by
    decide +kernel
  obtain ⟨cfg, hcfg, hversions⟩ := Machine.Reaches.of_map_run hrun
  use cfg, hcfg, hversions
  obtain ⟨-, -, hlatest⟩ := inForce_ascending ["1"] (associatedStore_keyed "9") hcfg "acme"
  rw [hversions] at hlatest
  apply hlatest.symm

/-- From `9` to `10` as integers, to `10a` as texts, and back to `9` as texts. -/
theorem inForce_comes_back :
  ¬ ∀ cfg, Machine.Reaches (Machine.anyCall _)
      (serving (reassociations ["10", "10a", "9"]) (associatedStore "9") ["1"]) cfg →
    (inForce (reassociations ["10", "10a", "9"]) (associatedStore "9") "acme"
      cfg.state.journal).Nodup
  := by
  intro hall
  have hrun : reassociated (Machine.anyCall _) ["10", "10a", "9"]
      = some ["9", "10a", "10", "9"] := by
    decide +kernel
  obtain ⟨cfg, hcfg, hversions⟩ := Machine.Reaches.of_map_run hrun
  have hnodup := hall cfg hcfg
  rw [hversions] at hnodup
  revert hnodup
  decide

end ControlPlane
