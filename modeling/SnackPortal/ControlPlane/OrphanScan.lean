import Mathlib.Data.List.Dedup
import Mathlib.Data.List.ReduceOption
import SnackPortal.Program.Evaluation
import SnackPortal.ControlPlane.Deprovision

/-!
# The orphan scan

`scanForOrphans` classifies every database of the tenant namespace, and every registry record
without one, and only reads.  A row marked safe and a deprovision request rest on two separate
decisions about the same facts: in a state in which nothing else runs they differ in exactly
two inputs, the existence probe of the request and the evidence of the empty tenant id
(`Quiescent.drops_iff_marks`).
-/

namespace ControlPlane

open Program RecoveryCompensationService

/-! ### The rows -/

def refCanonical := "canonical"
def refNonCanonical := "non_canonical"
def refNoRecord := "no_record"

def classEligibleEmpty := "eligible_empty"
def classEligibleBootstrapOnly := "eligible_bootstrap_only"
def classNonEmptyEvidence := "non_empty_evidence"
def classActiveTenant := "active_tenant"
def classNoRegistryRecord := "db_no_registry_record"
def classRegistryNoDatabase := "registry_record_database_absent"
def classLedgerCollision := "ledger_collision"
def classFingerprintMismatch := "fingerprint_mismatch"
def classControlDbTarget := "control_db_targeted"
def classUninspectable := "uninspectable"

def actionExplicitDeprovision := "explicit_deprovision_eligible"
def actionPreserveEvidence := "preserve_evidence"
def actionManualReview := "manual_review"
def actionNone := "no_action"

/-- The stored name of a content class. -/
def DatabaseContent.value : DatabaseContent → String
  | .empty => "empty"
  | .bootstrapOnly => "bootstrap_only"
  | .nonEmpty => "non_empty"

/-- One row of the report. -/
structure OrphanScanEntry where
  tenantId : Option String
  databaseName : String
  registryState : Option String
  associationRefStatus : String
  contentClass : Option String
  ledgerConflict : Bool
  fingerprintMismatch : Bool
  controlDbTarget : Bool
  classification : String
  recommendedAction : String
  safeToDeprovision : Bool
  reason : String
deriving DecidableEq, Repr, Inhabited

/-! ### The scan -/

/-- The calls of the scan on the store, the inspection port and the ledger. -/
inductive ScanOp where
  | listCandidateDatabases
  | controlDatabaseName
  | evidenceExcluding (tenantId : String)
  | listTenantIds
  | getTenant (tenantId : String)
  | inspectDatabase (target : String)
deriving DecidableEq

/-- The type of the answers to a call of the scan. -/
abbrev ScanOp.Ans : ScanOp → Type
  | .listCandidateDatabases => Option (List String)
  | .controlDatabaseName => Option String
  | .evidenceExcluding _ => List (String × DistinctnessEvidence)
  | .listTenantIds => List String
  | .getTenant _ => Option TenantRecord
  | .inspectDatabase _ => Option DatabaseInspection

/-- The signature of the scan. -/
abbrev scanSignature : Signature := ⟨ScanOp, ScanOp.Ans⟩

/-- The exceptions of the scan: its own, which carries a message, and those of a port. -/
inductive ScanError where
  | recovery (message : String)
  | port
deriving DecidableEq, Repr, Inhabited

/-- A program of the scan. -/
abbrev ScanProgram := Program scanSignature ScanError

/-- The collaborators of the scan that are plain data. -/
structure OrphanScanService where
  supportedSchemaVersions : List String
deriving Inhabited

namespace OrphanScanService

/-- Ask a port of the scan. -/
def ask (op : ScanOp) : ScanProgram op.Ans := Program.perform (S := scanSignature) op

/-- `_ref_status`. -/
def refStatus : Option TenantRecord → String
  | none => refNoRecord
  | some record =>
      if tenantIdFromDsnRef record.databaseAssociationRef.storeRef = some record.tenantId then
        refCanonical
      else
        refNonCanonical

/-- The tenant id a database name of the namespace carries. -/
def tenantIdOfName (name : String) : Option String :=
  if defaultTenantDbPrefix.toList.isPrefixOf name.toList then
    some (String.ofList (name.toList.drop defaultTenantDbPrefix.toList.length))
  else
    none

/-- The evidence is the one recorded for the tenant of the record. -/
def isOwn (record : Option TenantRecord) (e : String × DistinctnessEvidence) : Bool :=
  record.any fun r => e.1 == r.tenantId

/-- Classification, action, safety and reason of a database that could be inspected. -/
def verdict (record : Option TenantRecord) (controlTarget ledgerConflict fingerprintMismatch : Bool)
    (content : DatabaseContent) : String × String × Bool × String :=
  if controlTarget then
    (classControlDbTarget, actionManualReview, false,
      "candidate resolves to the Control database (never droppable)")
  else match record with
  | none =>
      (classNoRegistryRecord, actionManualReview, false,
        "physical database has no registry record (report-only; never touched)")
  | some r =>
      if ledgerConflict then
        (classLedgerCollision, actionManualReview, false,
          "another tenant's distinctness evidence identifies this database")
      else if fingerprintMismatch then
        (classFingerprintMismatch, actionManualReview, false,
          "recorded physical identity disagrees with the observed database")
      else if r.lifecycleState ∉ deprovisionEligibleStates then
        (classActiveTenant, actionNone, false,
          "lifecycle state is not compensation-eligible")
      else if content = .nonEmpty then
        (classNonEmptyEvidence, actionPreserveEvidence, false,
          "content beyond bootstrap is evidence (never dropped)")
      else if refStatus record ≠ refCanonical then
        (classUninspectable, actionManualReview, false,
          "association reference is not canonical for this tenant")
      else
        (if content = .empty then classEligibleEmpty else classEligibleBootstrapOnly,
          actionExplicitDeprovision, true,
          "ownership-proof preconditions hold (explicit deprovision only)")

/-- The row of one database, from what the ports answered about it. -/
def classified (supported : List String) (name controlName : String)
    (allEvidence : List (String × DistinctnessEvidence)) (record : Option TenantRecord) :
    Option DatabaseInspection → OrphanScanEntry
  | none =>
      { tenantId := record.map (·.tenantId)
        databaseName := name
        registryState := record.map (·.lifecycleState.value)
        associationRefStatus := refStatus record
        contentClass := none
        ledgerConflict := false
        fingerprintMismatch := false
        controlDbTarget := name == controlName
        classification := classUninspectable
        recommendedAction := actionManualReview
        safeToDeprovision := false
        reason := "content census unavailable (fail closed)" }
  | some inspection =>
      let content := classifyContent inspection supported
      let ledgerConflict := allEvidence.any fun e => !isOwn record e
        && (e.2.observedTarget == name || e.2.fingerprint == inspection.fingerprint)
      let fingerprintMismatch := allEvidence.any fun e => isOwn record e
        && (e.2.observedTarget != name || e.2.fingerprint != inspection.fingerprint)
      let (classification, action, safe, reason) :=
        verdict record (name == controlName) ledgerConflict fingerprintMismatch content
      { tenantId := record.map (·.tenantId)
        databaseName := name
        registryState := record.map (·.lifecycleState.value)
        associationRefStatus := refStatus record
        contentClass := some content.value
        ledgerConflict := ledgerConflict
        fingerprintMismatch := fingerprintMismatch
        controlDbTarget := name == controlName
        classification := classification
        recommendedAction := action
        safeToDeprovision := safe
        reason := reason }

theorem refStatus_canonical {record : TenantRecord} :
  refStatus (some record) = refCanonical
    ↔ tenantIdFromDsnRef record.databaseAssociationRef.storeRef = some record.tenantId
  := by
  rw [refStatus]
  split
  · exact iff_of_true rfl ‹_›
  · apply iff_of_false _ ‹_›
    decide

/-- A database is safe exactly where none of the reasons against it applies. -/
theorem verdict_safe {record : Option TenantRecord}
    {controlTarget ledgerConflict fingerprintMismatch : Bool} {content : DatabaseContent} :
  (verdict record controlTarget ledgerConflict fingerprintMismatch content).2.2.1 = true
    ↔ controlTarget = false ∧ ledgerConflict = false ∧ fingerprintMismatch = false
      ∧ content ≠ .nonEmpty ∧ ∃ r, record = some r
        ∧ r.lifecycleState ∈ deprovisionEligibleStates ∧ refStatus record = refCanonical
  := by
  cases record with
  | none =>
      cases controlTarget <;> simp [verdict]
  | some r =>
      cases controlTarget <;> cases ledgerConflict <;> cases fingerprintMismatch <;>
        simp only [verdict, Bool.false_eq_true, if_false, if_true, false_and, and_false,
          reduceCtorEq, true_and]
      by_cases heligible : r.lifecycleState ∈ deprovisionEligibleStates <;>
        by_cases hcensus : content = .nonEmpty <;>
        by_cases hcanonical : refStatus (some r) = refCanonical <;>
        simp [heligible, hcensus, hcanonical]

variable (service : OrphanScanService)

/-- The registry record of the tenant a database name carries, where it carries one. -/
def recordOf : Option String → ScanProgram (Option TenantRecord)
  | some tenantId => if tenantId = "" then pure none else ask (.getTenant tenantId)
  | none => pure none

/-- `_classify_database`. -/
def classifyDatabase (controlName : String) (allEvidence : List (String × DistinctnessEvidence))
    (name : String) : ScanProgram OrphanScanEntry := do
  let record ← recordOf (tenantIdOfName name)
  let inspection ← ask (.inspectDatabase name)
  pure (classified service.supportedSchemaVersions name controlName allEvidence record inspection)

/-- The row of a registry record whose database is absent. -/
def absentRow (controlName tenantId : String) (record : TenantRecord) : OrphanScanEntry :=
  let target := tenantDatabaseName tenantId
  { tenantId := some tenantId
    databaseName := target
    registryState := some record.lifecycleState.value
    associationRefStatus := refStatus (some record)
    contentClass := none
    ledgerConflict := false
    fingerprintMismatch := false
    controlDbTarget := target == controlName
    classification := if target = controlName then classControlDbTarget else classRegistryNoDatabase
    recommendedAction := actionManualReview
    safeToDeprovision := false
    reason := "registry record present; physical database absent" }

/-- One round of the registry sweep. -/
def sweepRow (inventory : List String) (controlName tenantId : String) :
    ScanProgram (Option OrphanScanEntry) :=
  if tenantDatabaseName tenantId ∈ inventory then
    pure none
  else do
    match ← ask (.getTenant tenantId) with
    | none => pure none
    | some record => pure (some (absentRow controlName tenantId record))

/-- `sorted(set(names))`. -/
def sortedSet (names : List String) : List String :=
  names.dedup.mergeSort fun a b => decide (a ≤ b)

/-- The order of the report: by database name, then by tenant id. -/
def rowsInOrder (a b : OrphanScanEntry) : Bool :=
  decide (a.databaseName < b.databaseName)
    || a.databaseName == b.databaseName && decide (a.tenantId.getD "" ≤ b.tenantId.getD "")

/-- `scan_for_orphans`. -/
def scanForOrphans : ScanProgram (List OrphanScanEntry) := do
  match ← ask .listCandidateDatabases with
  | none => Program.raise (.recovery "orphan inventory unavailable (fail closed)")
  | some names =>
      match ← ask .controlDatabaseName with
      | none => Program.raise (.recovery "control database identity unavailable (fail closed)")
      | some controlName => do
          let inventory := sortedSet names
          let allEvidence ← ask (.evidenceExcluding noTenant)
          let entries ← inventory.mapM (service.classifyDatabase controlName allEvidence)
          let ids ← ask .listTenantIds
          let swept ← (sortedSet ids).mapM (sweepRow inventory controlName)
          pure ((entries ++ swept.reduceOption).mergeSort rowsInOrder)

end OrphanScanService

/-! ### A quiescent state -/

/-- A state in which nothing else runs: the registry and the ledger, and one answer for every
question to the inspection port.  The registry stores each record under its own tenant id. -/
structure Quiescent where
  state : ControlState
  keyed : ∀ t record, state.tenants.lookup t = some record → record.tenantId = t
  candidates : Option (List String)
  controlName : Option String
  exists_ : String → Option Bool
  inspection : String → Option DatabaseInspection
  now : String
  token : String
  /-- The operator raises when it is told to drop. -/
  dropRaises : Bool

namespace Quiescent

variable (q : Quiescent)

/-- What a call leaves to the outside world. -/
def choice (op : ControlOp) : ControlChoice where
  fault := match op with
    | .deprovision _ => q.dropRaises
    | _ => false
  now := q.now
  token := q.token
  probe := default
  gathered := none
  controlName := q.controlName
  exists_ := match op with
    | .databaseExists target => q.exists_ target
    | _ => none
  inspection := match op with
    | .inspectDatabase target => q.inspection target
    | _ => none

/-- The answers to the calls of a deprovision request. -/
def answer : Answering controlSignature ControlError ControlState := fun op s =>
  if (q.choice op).fault then (.error .port, s) else s.answer (q.choice op) op

/-- The answers to the calls of the scan. -/
def scanAnswer : (op : ScanOp) → Except ScanError op.Ans
  | .listCandidateDatabases => .ok q.candidates
  | .controlDatabaseName => .ok q.controlName
  | .evidenceExcluding t => .ok (q.state.ledger.evidenceExcluding t)
  | .listTenantIds => .ok q.state.tenants.keys
  | .getTenant t => .ok (q.state.tenants.lookup t)
  | .inspectDatabase target => .ok (q.inspection target)

/-- The report of the scan. -/
def scan (service : OrphanScanService) : Except ScanError (List OrphanScanEntry) :=
  service.scanForOrphans.consult q.scanAnswer

/-- A deprovision request issues the drop of the database of the tenant. -/
def Drops (service : RecoveryCompensationService) (tenantId actor correlationId : String) : Prop :=
  ((service.deprovisionTenantDatabase tenantId actor correlationId).evaluate q.answer
    q.state).Issues (.deprovision (tenantDatabaseName tenantId))

/-- The evidence identifies the database. -/
def Identifies (e : DistinctnessEvidence) (target fingerprint : String) : Prop :=
  e.observedTarget = target ∨ e.fingerprint = fingerprint

/-- What the scan and a deprovision request both ask of the database of a tenant. -/
structure Droppable (supported : List String) (tenantId target : String)
    (inspection : DatabaseInspection) : Prop where
  record : ∃ record, q.state.tenants.lookup tenantId = some record
    ∧ record.lifecycleState ∈ deprovisionEligibleStates
    ∧ tenantIdFromDsnRef record.databaseAssociationRef.storeRef = some tenantId
  control : ∃ controlName, q.controlName = some controlName ∧ target ≠ controlName
  elsewhere : ∀ t e, q.state.ledger.lookup t = some e → t ≠ tenantId → t ≠ noTenant →
    ¬ Identifies e target inspection.fingerprint
  recorded : ∀ e ∈ q.state.ledger.lookup tenantId,
    e.fingerprint = inspection.fingerprint ∧ e.observedTarget = target
  census : classifyContent inspection supported ≠ .nonEmpty

/-! ### The reads of the ledger -/

theorem mem_evidenceExcluding {ledger : Ledger} {tenantId t : String}
    {e : DistinctnessEvidence} :
  (t, e) ∈ ledger.evidenceExcluding tenantId ↔ ledger.lookup t = some e ∧ t ≠ tenantId
  := by
  rw [Ledger.evidenceExcluding, List.mem_map]
  constructor
  · rintro ⟨⟨t', e'⟩, he, hpair⟩
    obtain ⟨rfl, rfl⟩ := Prod.mk.inj hpair
    obtain ⟨hmem, hne⟩ := List.mem_filter.mp he
    exact ⟨AList.mem_lookup_iff.mpr hmem, bne_iff_ne.mp hne⟩
  · rintro ⟨hlookup, hne⟩
    use ⟨t, e⟩
    constructor
    · apply List.mem_filter.mpr
      exact ⟨AList.mem_lookup_iff.mp hlookup, bne_iff_ne.mpr hne⟩
    · rfl

theorem lookup_evidenceExcluding (ledger : Ledger) {tenantId t : String} (h : t ≠ tenantId) :
  (ledger.evidenceExcluding tenantId).lookup t = ledger.lookup t
  := by
  change List.lookup t ((ledger.entries.filter _).map _) = ledger.entries.dlookup t
  induction ledger.entries with
  | nil => rfl
  | cons e entries ih =>
      obtain ⟨t', e'⟩ := e
      by_cases ht : t = t'
      · subst ht
        rw [List.filter_cons, if_pos (bne_iff_ne.mpr h), List.map_cons, List.lookup_cons,
          List.dlookup_cons_eq, beq_self_eq_true]
      · rw [List.dlookup_cons_ne _ _ ht, ← ih, List.filter_cons]
        split
        · rw [List.map_cons, List.lookup_cons]
          rw [beq_eq_false_iff_ne.mpr ht]
        · rfl

/-! ### The decision of the request -/

section Request

variable {tenantId target : String}

/-- What the proof around the census asks, once the fingerprint is known where there is one. -/
structure NonContent (tenantId target : String) (fingerprint : Option String) : Prop where
  record : ∃ record, q.state.tenants.lookup tenantId = some record
    ∧ record.lifecycleState ∈ deprovisionEligibleStates
  control : ∃ controlName, q.controlName = some controlName ∧ target ≠ controlName
  elsewhere : ∀ t e, q.state.ledger.lookup t = some e → t ≠ tenantId →
    e.observedTarget ≠ target ∧ fingerprint ≠ some e.fingerprint
  recorded : ∀ f ∈ fingerprint, ∀ e ∈ (q.state.ledger.evidenceExcluding noTenant).lookup tenantId,
    e.fingerprint = f ∧ e.observedTarget = target

variable {q}

/-- The program only reads, and it finds no reason against the drop exactly where `P` holds. -/
def Decides (x : ControlProgram (Option String)) (s : ControlState) (target : String)
    (P : Prop) : Prop :=
  ∃ r, Yields q.answer x s (.deprovision target) r s ∧ (r = none ↔ P)

theorem Decides.refuse {s : ControlState} {P : Prop} {reason : String} (h : ¬ P) :
  q.Decides (pure (some reason)) s target P
  := ⟨some reason, Yields.pure, iff_of_false (nomatch ·) h⟩

theorem Decides.pass {s : ControlState} {P : Prop} (h : P) :
  q.Decides (pure none) s target P
  := ⟨none, Yields.pure, iff_of_true rfl h⟩

theorem Decides.read {s : ControlState} {P : Prop} {o : ControlOp} {a : o.Ans}
    {f : o.Ans → ControlProgram (Option String)} (h : q.answer o s = (.ok a, s))
    (ho : ∀ target, o ≠ .deprovision target) (hf : q.Decides (f a) s target P) :
  q.Decides (Program.perform (S := controlSignature) o >>= f) s target P
  := by
  obtain ⟨r, hr, hP⟩ := hf
  exact ⟨r, Yields.bind (Yields.perform h (ho target)) hr, hP⟩

theorem Decides.after {s : ControlState} {P : Prop} {x : ControlProgram (Option String)}
    {f : Option String → ControlProgram (Option String)} {r : Option String}
    (h : Yields q.answer x s (.deprovision target) r s) (hf : q.Decides (f r) s target P) :
  q.Decides (x >>= f) s target P
  := by
  obtain ⟨r', hr', hP⟩ := hf
  exact ⟨r', Yields.bind h hr', hP⟩

theorem mem_elsewhere {fingerprint : Option String} :
  (¬ (q.state.ledger.evidenceExcluding tenantId).any fun e => e.2.observedTarget == target
      || fingerprint == some e.2.fingerprint)
    ↔ ∀ t e, q.state.ledger.lookup t = some e → t ≠ tenantId →
      e.observedTarget ≠ target ∧ fingerprint ≠ some e.fingerprint
  := by
  simp only [List.any_eq_true, not_exists, not_and, Prod.forall, mem_evidenceExcluding,
    Bool.or_eq_true, beq_iff_eq, not_or, and_imp]

theorem mismatches_eq_false {own : DistinctnessEvidence} {fingerprint : String} :
  mismatches own target fingerprint = false
    ↔ own.fingerprint = fingerprint ∧ own.observedTarget = target
  := by
  rw [mismatches, Bool.or_eq_false_iff, bne_eq_false_iff_eq, bne_eq_false_iff_eq]

theorem any_mismatches {own : Option DistinctnessEvidence} {fingerprint : String} :
  (own.any fun own => mismatches own target fingerprint) = false
    ↔ ∀ e ∈ own, e.fingerprint = fingerprint ∧ e.observedTarget = target
  := by
  cases own with
  | none => simp
  | some own => simp [mismatches_eq_false]

/-- The proof around the census reads the registry and the ledger and decides on them. -/
theorem nonContentProof_decides (tenantId target : String) (fingerprint : Option String)
    {s : ControlState} (htenants : s.tenants = q.state.tenants)
    (hledger : s.ledger = q.state.ledger) :
  q.Decides (nonContentProof tenantId (tenantDatabaseName tenantId) fingerprint) s
    target (q.NonContent tenantId (tenantDatabaseName tenantId) fingerprint)
  := by
  have hget : q.answer (.getTenant tenantId) s = (.ok (q.state.tenants.lookup tenantId), s) := by
    rw [← htenants]
    rfl
  have hevidence : ∀ t, q.answer (.evidenceExcluding t) s
      = (.ok (q.state.ledger.evidenceExcluding t), s) := by
    intro t
    rw [← hledger]
    rfl
  have hnamespace : (!defaultTenantDbPrefix.toList.isPrefixOf (tenantDatabaseName tenantId).toList)
      = false := by
    rw [tenantDatabaseName, String.toList_append]
    simp
  unfold nonContentProof
  apply Decides.read hget nofun
  cases hrecord : q.state.tenants.lookup tenantId with
  | none =>
      apply Decides.refuse
      intro h
      obtain ⟨_, hsome, _⟩ := h.record
      rw [hrecord] at hsome
      cases hsome
  | some record =>
  simp only [hnamespace, Bool.false_eq_true, if_false]
  by_cases heligible : record.lifecycleState ∈ deprovisionEligibleStates
  swap
  · rw [if_pos heligible]
    apply Decides.refuse
    intro h
    obtain ⟨_, hsome, hstate⟩ := h.record
    obtain rfl := Option.some.inj (hrecord.symm.trans hsome)
    exact heligible hstate
  rw [if_neg (not_not.mpr heligible)]
  apply Decides.read (o := .controlDatabaseName) (a := q.controlName) rfl nofun
  cases hcontrol : q.controlName with
  | none =>
      apply Decides.refuse
      intro h
      obtain ⟨_, hsome, _⟩ := h.control
      rw [hcontrol] at hsome
      cases hsome
  | some controlName =>
  by_cases htarget : tenantDatabaseName tenantId = controlName
  · simp only [if_pos htarget]
    apply Decides.refuse
    intro h
    obtain ⟨_, hsome, hne⟩ := h.control
    obtain rfl := Option.some.inj (hcontrol.symm.trans hsome)
    exact hne htarget
  simp only [if_neg htarget]
  apply Decides.read (hevidence tenantId) nofun
  by_cases helsewhere : (q.state.ledger.evidenceExcluding tenantId).any fun e =>
      e.2.observedTarget == tenantDatabaseName tenantId || fingerprint == some e.2.fingerprint
  · rw [if_pos helsewhere]
    apply Decides.refuse
    intro h
    exact mem_elsewhere.mpr h.elsewhere helsewhere
  rw [if_neg helsewhere]
  have hclear := mem_elsewhere.mp helsewhere
  cases fingerprint with
  | none =>
      apply Decides.pass
      exact ⟨⟨record, hrecord, heligible⟩, ⟨controlName, hcontrol, htarget⟩, hclear, nofun⟩
  | some fingerprint =>
  apply Decides.read (hevidence noTenant) nofun
  cases hown : (q.state.ledger.evidenceExcluding noTenant).lookup tenantId with
  | none =>
      apply Decides.pass
      refine ⟨⟨record, hrecord, heligible⟩, ⟨controlName, hcontrol, htarget⟩, hclear, ?_⟩
      intro f _ e he
      rw [hown] at he
      cases he
  | some own =>
  cases hmismatch : mismatches own (tenantDatabaseName tenantId) fingerprint with
  | true =>
      simp only [hmismatch, if_true]
      apply Decides.refuse
      intro h
      rw [mismatches_eq_false.mpr (h.recorded fingerprint rfl own hown)] at hmismatch
      cases hmismatch
  | false =>
      simp only [hmismatch, Bool.false_eq_true, if_false]
      apply Decides.pass
      refine ⟨⟨record, hrecord, heligible⟩, ⟨controlName, hcontrol, htarget⟩, hclear, ?_⟩
      intro f hf e he
      obtain rfl := Option.some.inj hf
      obtain rfl := Option.some.inj (hown.symm.trans he)
      exact mismatches_eq_false.mp hmismatch

/-- The record of the tenant has a canonical association reference. -/
def Canonical (tenantId : String) : Prop :=
  ∃ record, q.state.tenants.lookup tenantId = some record
    ∧ tenantIdFromDsnRef record.databaseAssociationRef.storeRef = some tenantId

theorem ownershipProof_decides (tenantId target : String) {s : ControlState}
    (htenants : s.tenants = q.state.tenants) (hledger : s.ledger = q.state.ledger) :
  q.Decides (ownershipProof tenantId (tenantDatabaseName tenantId)) s target
    (q.NonContent tenantId (tenantDatabaseName tenantId) none ∧ q.Canonical tenantId)
  := by
  obtain ⟨r, hr, hiff⟩ := nonContentProof_decides tenantId target none htenants
    hledger
  have hget : q.answer (.getTenant tenantId) s = (.ok (q.state.tenants.lookup tenantId), s) := by
    rw [← htenants]
    rfl
  unfold ownershipProof
  apply Decides.after hr
  cases r with
  | some reason =>
      apply Decides.refuse
      intro h
      cases hiff.mpr h.1
  | none =>
      apply Decides.read hget nofun
      obtain ⟨record, hrecord, _⟩ := (hiff.mp rfl).record
      simp only [hrecord]
      by_cases hcanonical :
          tenantIdFromDsnRef record.databaseAssociationRef.storeRef = some tenantId
      · rw [if_neg (not_not.mpr hcanonical)]
        apply Decides.pass
        exact ⟨hiff.mp rfl, record, hrecord, hcanonical⟩
      · rw [if_pos hcanonical]
        apply Decides.refuse
        rintro ⟨_, record', hrecord', h⟩
        obtain rfl := Option.some.inj (hrecord.symm.trans hrecord')
        exact hcanonical h

/-! ### The drop -/

/-- A latched program that starts with one that returns. -/
theorem issues_lift {α β : Type} {x : ControlProgram α} {f : α → Latched β} {latch : Bool}
    {s s' : ControlState} {a : α}
    (h : Yields q.answer x s (.deprovision target) a s') :
  (((Latched.lift x >>= f) latch).evaluate q.answer s).Issues (.deprovision target)
    ↔ ((f a latch).evaluate q.answer s').Issues (.deprovision target)
  := by
  have hlift : Yields q.answer (Latched.lift x latch) s (.deprovision target) (.ok a, latch) s' :=
    h.andThen Yields.pure
  apply hlift.issues_bind

/-- A latched program without a drop. -/
theorem not_issues {α : Type} {x : Latched α} (hx : LatchedCalls x) (latch : Bool)
    (s : ControlState) :
  ¬ ((x latch).evaluate q.answer s).Issues (.deprovision target)
  := by
  intro h
  apply (hx latch).of_issues q.answer h

/-- What the body of a request asks before it drops. -/
structure Proves (supported : List String) (tenantId target : String)
    (inspection : DatabaseInspection) : Prop where
  owned : q.NonContent tenantId target none
  canonical : q.Canonical tenantId
  exists_ : q.exists_ target = some true
  inspected : q.inspection target = some inspection
  census : classifyContent inspection supported ≠ .nonEmpty
  again : q.NonContent tenantId target (some inspection.fingerprint)

/-- The body of a request drops exactly where its proofs hold. -/
theorem provenDeprovision_issues (tenantId : String) (service : RecoveryCompensationService)
    (actor correlationId : String) {s : ControlState} (htenants : s.tenants = q.state.tenants)
    (hledger : s.ledger = q.state.ledger) :
  ((service.provenDeprovision tenantId (tenantDatabaseName tenantId) actor correlationId
      false).evaluate q.answer s).Issues (.deprovision (tenantDatabaseName tenantId))
    ↔ ∃ inspection, q.Proves service.supportedSchemaVersions tenantId
      (tenantDatabaseName tenantId) inspection
  := by
  have hread : ∀ {o : ControlOp} {a : o.Ans}, q.answer o s = (.ok a, s) →
      (∀ target, o ≠ .deprovision target) → Yields q.answer
        (Program.perform (S := controlSignature) o) s
        (.deprovision (tenantDatabaseName tenantId)) a s :=
    fun h ho => Yields.perform h (ho _)
  have hall : q.answer (.evidenceExcluding noTenant) s
      = (.ok (q.state.ledger.evidenceExcluding noTenant), s) := by
    rw [← hledger]
    rfl
  unfold provenDeprovision
  obtain ⟨r, hr, hiff⟩ := ownershipProof_decides tenantId (tenantDatabaseName tenantId) htenants
    hledger
  apply (issues_lift hr).trans
  cases r with
  | some reason =>
      apply iff_of_false (not_issues (fail_keeps _ _ _ _ _) _ _)
      rintro ⟨_, h⟩
      cases hiff.mpr ⟨h.owned, h.canonical⟩
  | none =>
  obtain ⟨howned, hcanonical⟩ := hiff.mp rfl
  apply (issues_lift (hread (o := .databaseExists _)
    (a := q.exists_ (tenantDatabaseName tenantId)) rfl nofun)).trans
  cases hexists : q.exists_ (tenantDatabaseName tenantId) with
  | none =>
      apply iff_of_false (not_issues (fail_keeps _ _ _ _ _) _ _)
      rintro ⟨_, h⟩
      cases hexists.symm.trans h.exists_
  | some present =>
  cases present with
  | false =>
      apply iff_of_false (not_issues (complete_keeps _ _ _ _ _) _ _)
      rintro ⟨_, h⟩
      cases hexists.symm.trans h.exists_
  | true =>
  apply (issues_lift (hread (o := .inspectDatabase _)
    (a := q.inspection (tenantDatabaseName tenantId)) rfl nofun)).trans
  cases hinspected : q.inspection (tenantDatabaseName tenantId) with
  | none =>
      apply iff_of_false (not_issues (fail_keeps _ _ _ _ _) _ _)
      rintro ⟨_, h⟩
      cases hinspected.symm.trans h.inspected
  | some inspection =>
  have hsame : ∀ {other}, q.Proves service.supportedSchemaVersions tenantId
      (tenantDatabaseName tenantId) other → other = inspection :=
    fun h => Option.some.inj (h.inspected.symm.trans hinspected)
  apply (issues_lift (hread (o := .evidenceExcluding _) hall nofun)).trans
  cases hmismatch : ((q.state.ledger.evidenceExcluding noTenant).lookup tenantId).any fun own =>
      mismatches own (tenantDatabaseName tenantId) inspection.fingerprint with
  | true =>
      rw [if_pos rfl]
      apply iff_of_false (not_issues (fail_keeps _ _ _ _ _) _ _)
      rintro ⟨other, h⟩
      obtain rfl := hsame h
      have hrecorded := any_mismatches.mpr (h.again.recorded _ rfl)
      cases hrecorded.symm.trans hmismatch
  | false =>
  rw [if_neg Bool.false_ne_true]
  by_cases hcensus : classifyContent inspection service.supportedSchemaVersions = .nonEmpty
  · rw [if_pos hcensus]
    apply iff_of_false (not_issues (fail_keeps _ _ _ _ _) _ _)
    rintro ⟨other, h⟩
    obtain rfl := hsame h
    exact h.census hcensus
  rw [if_neg hcensus]
  obtain ⟨r, hr, hiff⟩ := nonContentProof_decides tenantId (tenantDatabaseName tenantId)
    (some inspection.fingerprint) htenants hledger
  apply (issues_lift hr).trans
  cases r with
  | some reason =>
      apply iff_of_false (not_issues (fail_keeps _ _ _ _ _) _ _)
      rintro ⟨other, h⟩
      obtain rfl := hsame h
      cases hiff.mpr h.again
  | none =>
      apply iff_of_true
      · apply issues_call
      · exact ⟨inspection, howned, hcanonical, hexists, hinspected, hcensus, hiff.mp rfl⟩

theorem tenantIdFromDsnRef_ne {storeRef : String} (h : tenantIdFromDsnRef storeRef = some tenantId) :
  tenantId ≠ noTenant
  := by
  rw [tenantIdFromDsnRef] at h
  split at h
  · simp only at h
    split at h
    · rename_i hinner
      obtain rfl := Option.some.inj h
      intro hempty
      apply hinner.1
      have hlist := congrArg String.toList hempty
      rwa [String.toList_ofList] at hlist
    · cases h
  · cases h

/-- The two proofs of a request amount to what the scan asks, and to the evidence of the empty
tenant id not identifying the database. -/
theorem proves_iff {supported : List String} {inspection : DatabaseInspection} :
  q.Proves supported tenantId target inspection
    ↔ q.inspection target = some inspection ∧ q.Droppable supported tenantId target inspection
      ∧ q.exists_ target = some true
      ∧ ∀ e ∈ q.state.ledger.lookup noTenant, ¬ Identifies e target inspection.fingerprint
  := by
  constructor
  · intro h
    obtain ⟨record, hrecord, hcanonical⟩ := h.canonical
    obtain ⟨record', hrecord', heligible⟩ := h.again.record
    obtain rfl := Option.some.inj (hrecord.symm.trans hrecord')
    have hnamed := tenantIdFromDsnRef_ne hcanonical
    have helsewhere : ∀ t e, q.state.ledger.lookup t = some e → t ≠ tenantId →
        ¬ Identifies e target inspection.fingerprint := by
      intro t e he ht hidentifies
      obtain ⟨htarget, hfingerprint⟩ := h.again.elsewhere t e he ht
      rcases hidentifies with hsame | hsame
      · exact htarget hsame
      · exact hfingerprint (congrArg some hsame.symm)
    refine ⟨h.inspected, ⟨⟨record, hrecord, heligible, hcanonical⟩, h.again.control, ?_, ?_,
      h.census⟩, h.exists_, ?_⟩
    · intro t e he ht _
      apply helsewhere t e he ht
    · have hrecorded := h.again.recorded _ rfl
      rwa [lookup_evidenceExcluding _ hnamed] at hrecorded
    · intro e he
      apply helsewhere noTenant e he hnamed.symm
  · rintro ⟨hinspected, h, hexists, hunnamed⟩
    obtain ⟨record, hrecord, heligible, hcanonical⟩ := h.record
    have hnamed := tenantIdFromDsnRef_ne hcanonical
    have helsewhere : ∀ t e, q.state.ledger.lookup t = some e → t ≠ tenantId →
        ¬ Identifies e target inspection.fingerprint := by
      intro t e he ht
      by_cases hunnamed' : t = noTenant
      · subst hunnamed'
        apply hunnamed e he
      · apply h.elsewhere t e he ht hunnamed'
    refine ⟨⟨⟨record, hrecord, heligible⟩, h.control, ?_, nofun⟩, ⟨record, hrecord, hcanonical⟩,
      hexists, hinspected, h.census, ⟨record, hrecord, heligible⟩, h.control, ?_, ?_⟩
    · intro t e he ht
      exact ⟨fun hsame => helsewhere t e he ht (.inl hsame), nofun⟩
    · intro t e he ht
      constructor
      · exact fun hsame => helsewhere t e he ht (.inl hsame)
      · exact fun hsame => helsewhere t e he ht (.inr (Option.some.inj hsame).symm)
    · intro f hf
      obtain rfl := Option.some.inj hf
      rw [lookup_evidenceExcluding _ hnamed]
      apply h.recorded

/-- A request drops the database of the tenant exactly where its proofs hold. -/
theorem drops_iff (service : RecoveryCompensationService) (actor correlationId : String) :
  q.Drops service tenantId actor correlationId
    ↔ ∃ inspection, q.Proves service.supportedSchemaVersions tenantId
      (tenantDatabaseName tenantId) inspection
  := by
  have hrequested : Yields q.answer
      (recordEvent tenantId Events.tenantDeprovisionRequested actor correlationId) q.state
      (.deprovision (tenantDatabaseName tenantId)) () _ :=
    Yields.bind (Yields.perform (a := q.now) rfl nofun) (Yields.perform rfl nofun)
  apply hrequested.issues_bind.trans
  apply (issues_bind_left q.answer (p := keepsRecords) _ id).trans
  · apply provenDeprovision_issues tenantId service actor correlationId
    · rfl
    · rfl
  · rintro ⟨e | outcome, attempted⟩
    · simp only
      split
      · apply Calls.raise
      · apply Calls.bind
        · apply Calls.rescue (recordEvent_keeps _ _ _)
          intro _
          apply Calls.pure
        · intro _
          apply Calls.raise
    · apply Calls.pure

end Request

/-! ### The decision of the scan -/

section Report

variable (service : OrphanScanService)

/-- The record the scan reads for a database name. -/
def recordFor (name : String) : Option TenantRecord :=
  match OrphanScanService.tenantIdOfName name with
  | some tenantId => if tenantId = "" then none else q.state.tenants.lookup tenantId
  | none => none

/-- The row of a database in the report. -/
def row (controlName name : String) : OrphanScanEntry :=
  OrphanScanService.classified service.supportedSchemaVersions name controlName
    (q.state.ledger.evidenceExcluding noTenant) (q.recordFor name) (q.inspection name)

theorem consult_classifyDatabase (controlName name : String) :
  (service.classifyDatabase controlName (q.state.ledger.evidenceExcluding noTenant)
      name).consult q.scanAnswer = .ok (q.row service controlName name)
  := by
  have hrecord : (OrphanScanService.recordOf (OrphanScanService.tenantIdOfName name)).consult
      q.scanAnswer = .ok (q.recordFor name) := by
    rw [recordFor]
    cases OrphanScanService.tenantIdOfName name with
    | none => rfl
    | some tenantId =>
        simp only [OrphanScanService.recordOf]
        split <;> rfl
  apply (consult_bind_ok hrecord).trans
  rfl

/-- The row of the registry sweep for a tenant. -/
def swept (inventory : List String) (controlName tenantId : String) : Option OrphanScanEntry :=
  if tenantDatabaseName tenantId ∈ inventory then none
  else (q.state.tenants.lookup tenantId).map
    (OrphanScanService.absentRow controlName tenantId)

theorem consult_sweepRow (inventory : List String) (controlName tenantId : String) :
  (OrphanScanService.sweepRow inventory controlName tenantId).consult q.scanAnswer
    = .ok (q.swept inventory controlName tenantId)
  := by
  rw [swept, OrphanScanService.sweepRow]
  split
  · rfl
  · have hrecord : (OrphanScanService.ask (.getTenant tenantId)).consult q.scanAnswer
        = .ok (q.state.tenants.lookup tenantId) := rfl
    apply (consult_bind_ok hrecord).trans
    cases q.state.tenants.lookup tenantId <;> rfl

/-- The report of the scan, where it can list the databases and name the Control database. -/
theorem scan_eq {names : List String} {controlName : String} (hnames : q.candidates = some names)
    (hcontrol : q.controlName = some controlName) :
  q.scan service = .ok
    (((OrphanScanService.sortedSet names).map (q.row service controlName)
      ++ ((OrphanScanService.sortedSet q.state.tenants.keys).map
        (q.swept (OrphanScanService.sortedSet names) controlName)).reduceOption).mergeSort
      OrphanScanService.rowsInOrder)
  := by
  have hlist : (OrphanScanService.ask .listCandidateDatabases).consult q.scanAnswer
      = .ok (some names) := congrArg Except.ok hnames
  have hname : (OrphanScanService.ask .controlDatabaseName).consult q.scanAnswer
      = .ok (some controlName) := congrArg Except.ok hcontrol
  have hclassified : ((OrphanScanService.sortedSet names).mapM (service.classifyDatabase
      controlName (q.state.ledger.evidenceExcluding noTenant))).consult q.scanAnswer
      = .ok ((OrphanScanService.sortedSet names).map (q.row service controlName)) :=
    consult_mapM fun name _ => q.consult_classifyDatabase service controlName name
  have hswept : ((OrphanScanService.sortedSet q.state.tenants.keys).mapM
      (OrphanScanService.sweepRow (OrphanScanService.sortedSet names) controlName)).consult
      q.scanAnswer = .ok ((OrphanScanService.sortedSet q.state.tenants.keys).map
        (q.swept (OrphanScanService.sortedSet names) controlName)) :=
    consult_mapM fun tenantId _ => q.consult_sweepRow _ controlName tenantId
  have hevidence : (OrphanScanService.ask (.evidenceExcluding noTenant)).consult q.scanAnswer
      = .ok (q.state.ledger.evidenceExcluding noTenant) := rfl
  have hids : (OrphanScanService.ask .listTenantIds).consult q.scanAnswer
      = .ok q.state.tenants.keys := rfl
  apply (consult_bind_ok hlist).trans
  apply (consult_bind_ok hname).trans
  apply (consult_bind_ok hevidence).trans
  apply (consult_bind_ok hclassified).trans
  apply (consult_bind_ok hids).trans
  apply (consult_bind_ok hswept).trans
  rfl

/-! ### Agreement -/

theorem tenantIdOfName_target (tenantId : String) :
  OrphanScanService.tenantIdOfName (tenantDatabaseName tenantId) = some tenantId
  := by
  rw [OrphanScanService.tenantIdOfName, tenantDatabaseName, String.toList_append]
  rw [if_pos (List.isPrefixOf_iff_prefix.mpr (List.prefix_append _ _)), List.drop_left,
    String.ofList_toList]

variable {q}

/-- No evidence but that of the tenant itself identifies the database. -/
theorem conflict_eq_false {record : TenantRecord} {target fingerprint : String} :
  (((q.state.ledger.evidenceExcluding noTenant).any fun e =>
      !OrphanScanService.isOwn (some record) e
        && (e.2.observedTarget == target || e.2.fingerprint == fingerprint)) = false)
    ↔ ∀ t e, q.state.ledger.lookup t = some e → t ≠ record.tenantId → t ≠ noTenant →
      ¬ Identifies e target fingerprint
  := by
  simp only [List.any_eq_false, Prod.forall, mem_evidenceExcluding, Bool.and_eq_true,
    Bool.or_eq_true, beq_iff_eq, OrphanScanService.isOwn, Option.any_some, Bool.not_eq_true',
    beq_eq_false_iff_ne, Identifies]
  constructor
  · intro h t e he ht hnamed hidentifies
    exact h t e ⟨he, hnamed⟩ ⟨ht, hidentifies⟩
  · rintro h t e ⟨he, hnamed⟩ ⟨ht, hidentifies⟩
    exact h t e he ht hnamed hidentifies

/-- The evidence of the tenant itself does not contradict the database. -/
theorem mismatch_eq_false {record : TenantRecord} {target fingerprint : String}
    (hnamed : record.tenantId ≠ noTenant) :
  (((q.state.ledger.evidenceExcluding noTenant).any fun e =>
      OrphanScanService.isOwn (some record) e
        && (e.2.observedTarget != target || e.2.fingerprint != fingerprint)) = false)
    ↔ ∀ e ∈ q.state.ledger.lookup record.tenantId,
      e.fingerprint = fingerprint ∧ e.observedTarget = target
  := by
  simp only [List.any_eq_false, Prod.forall, mem_evidenceExcluding, Bool.and_eq_true,
    Bool.or_eq_true, beq_iff_eq, bne_iff_ne, OrphanScanService.isOwn, Option.any_some]
  constructor
  · intro h e he
    have hclear := h record.tenantId e ⟨he, hnamed⟩
    rw [not_and] at hclear
    have hsame := not_or.mp (hclear rfl)
    exact ⟨not_not.mp hsame.2, not_not.mp hsame.1⟩
  · rintro h t e ⟨he, _⟩ ⟨rfl, hdiffers⟩
    obtain ⟨hfingerprint, htarget⟩ := h e he
    rcases hdiffers with hdiffers | hdiffers
    · exact hdiffers htarget
    · exact hdiffers hfingerprint

/-- The row of the database of a tenant is safe where what the scan asks of it holds. -/
theorem row_safe {tenantId controlName : String} (hcontrol : q.controlName = some controlName) :
  (q.row service controlName (tenantDatabaseName tenantId)).safeToDeprovision = true
    ↔ ∃ inspection, q.inspection (tenantDatabaseName tenantId) = some inspection
      ∧ q.Droppable service.supportedSchemaVersions tenantId (tenantDatabaseName tenantId)
        inspection
  := by
  rw [row]
  cases hinspected : q.inspection (tenantDatabaseName tenantId) with
  | none =>
      apply iff_of_false Bool.false_ne_true
      rintro ⟨_, h, _⟩
      cases h
  | some inspection =>
  apply OrphanScanService.verdict_safe.trans
  constructor
  · rintro ⟨htarget, hconflict, hmismatch, hcensus, record, hrecord, heligible, hcanonical⟩
    rw [recordFor, tenantIdOfName_target] at hrecord
    by_cases hempty : tenantId = ""
    · simp only [if_pos hempty] at hrecord
      cases hrecord
    simp only [if_neg hempty] at hrecord
    have hkey := q.keyed tenantId record hrecord
    have hfor : q.recordFor (tenantDatabaseName tenantId) = some record := by
      rw [recordFor, tenantIdOfName_target]
      simp only [if_neg hempty]
      apply hrecord
    rw [hfor] at hconflict hmismatch hcanonical
    have helsewhere := conflict_eq_false.mp hconflict
    have hrecorded := (mismatch_eq_false (hkey ▸ hempty)).mp hmismatch
    rw [hkey] at helsewhere hrecorded
    refine ⟨inspection, rfl, ⟨record, hrecord, heligible, ?_⟩, ⟨controlName, hcontrol, ?_⟩,
      helsewhere, hrecorded, hcensus⟩
    · rw [OrphanScanService.refStatus_canonical.mp hcanonical, hkey]
    · exact beq_eq_false_iff_ne.mp htarget
  · rintro ⟨_, hinspection, h⟩
    obtain rfl := Option.some.inj hinspection
    obtain ⟨record, hrecord, heligible, hcanonical⟩ := h.record
    obtain ⟨controlName', hcontrol', htarget⟩ := h.control
    obtain rfl := Option.some.inj (hcontrol.symm.trans hcontrol')
    have hempty := tenantIdFromDsnRef_ne hcanonical
    have hkey := q.keyed tenantId record hrecord
    have hfor : q.recordFor (tenantDatabaseName tenantId) = some record := by
      rw [recordFor, tenantIdOfName_target]
      simp only [if_neg (show ¬ tenantId = "" from hempty)]
      apply hrecord
    subst hkey
    rw [hfor]
    refine ⟨beq_eq_false_iff_ne.mpr htarget, conflict_eq_false.mpr h.elsewhere,
      (mismatch_eq_false hempty).mpr h.recorded, h.census, record, rfl, heligible, ?_⟩
    exact OrphanScanService.refStatus_canonical.mpr hcanonical

/-- The report marks the database as safe to deprovision. -/
def Marks (target : String) : Prop :=
  ∃ entries, q.scan service = .ok entries
    ∧ ∃ e ∈ entries, e.databaseName = target ∧ e.safeToDeprovision = true

theorem mem_sortedSet {name : String} {names : List String} :
  name ∈ OrphanScanService.sortedSet names ↔ name ∈ names
  := by
  rw [OrphanScanService.sortedSet, List.mem_mergeSort, List.mem_dedup]

theorem row_databaseName (controlName name : String) :
  (q.row service controlName name).databaseName = name
  := by
  rw [row]
  cases q.inspection name <;> rfl

/-- A row of the registry sweep is about a database that the inventory lacks. -/
theorem swept_databaseName {inventory : List String} {controlName tenantId : String}
    {e : OrphanScanEntry} (he : q.swept inventory controlName tenantId = some e) :
  e.databaseName ∉ inventory
  := by
  rw [swept] at he
  split at he
  · cases he
  · rename_i habsent
    obtain ⟨record, _, rfl⟩ := Option.map_eq_some_iff.mp he
    apply habsent

/-- The rows of a report about a database of the inventory. -/
theorem mem_report {names : List String} {controlName name : String} (hname : name ∈ names)
    {entries : List OrphanScanEntry} (hnames : q.candidates = some names)
    (hcontrol : q.controlName = some controlName) (hscan : q.scan service = .ok entries)
    {e : OrphanScanEntry} :
  e ∈ entries ∧ e.databaseName = name ↔ e = q.row service controlName name
  := by
  rw [q.scan_eq service hnames hcontrol] at hscan
  obtain rfl := Except.ok.inj hscan
  rw [List.mem_mergeSort, List.mem_append, List.reduceOption_mem_iff]
  constructor
  · rintro ⟨he | he, rfl⟩
    · obtain ⟨name, _, rfl⟩ := List.mem_map.mp he
      rw [row_databaseName]
    · obtain ⟨_, _, hswept⟩ := List.mem_map.mp he
      exact absurd (mem_sortedSet.mpr hname) (swept_databaseName hswept)
  · rintro rfl
    constructor
    · left
      apply List.mem_map_of_mem
      exact mem_sortedSet.mpr hname
    · apply row_databaseName

/-- A scan without the inventory or the Control identity reports nothing. -/
theorem scan_fails (hcontrol : q.controlName = none) (entries : List OrphanScanEntry) :
  q.scan service ≠ .ok entries
  := by
  have hlist : (OrphanScanService.ask .listCandidateDatabases).consult q.scanAnswer
      = .ok q.candidates := rfl
  have hname : (OrphanScanService.ask .controlDatabaseName).consult q.scanAnswer
      = .ok (none : Option String) := congrArg Except.ok hcontrol
  intro hscan
  have hraised := (consult_bind_ok hlist).symm.trans hscan
  cases hcandidates : q.candidates with
  | none =>
      rw [hcandidates] at hraised
      cases hraised
  | some names =>
      rw [hcandidates] at hraised
      cases (consult_bind_ok hname).symm.trans hraised

/-- The scan marks the database of a tenant in the inventory where what it asks of it holds. -/
theorem marks_iff {names : List String} {tenantId : String} (hnames : q.candidates = some names)
    (htarget : tenantDatabaseName tenantId ∈ names) :
  q.Marks service (tenantDatabaseName tenantId)
    ↔ ∃ inspection, q.inspection (tenantDatabaseName tenantId) = some inspection
      ∧ q.Droppable service.supportedSchemaVersions tenantId (tenantDatabaseName tenantId)
        inspection
  := by
  cases hcontrol : q.controlName with
  | none =>
      constructor
      · rintro ⟨entries, hscan, _⟩
        exact absurd hscan (scan_fails service hcontrol entries)
      · rintro ⟨_, _, h⟩
        obtain ⟨_, hsome, _⟩ := h.control
        cases hcontrol.symm.trans hsome
  | some controlName =>
      apply Iff.trans _ (row_safe service hcontrol)
      constructor
      · rintro ⟨entries, hscan, e, he, hname, hsafe⟩
        rwa [← (mem_report service htarget hnames hcontrol hscan).mp ⟨he, hname⟩]
      · intro hsafe
        have hscan := q.scan_eq service hnames hcontrol
        obtain ⟨he, hname⟩ := (mem_report service htarget hnames hcontrol hscan).mpr rfl
        exact ⟨_, hscan, _, he, hname, hsafe⟩

end Report

/-- No evidence recorded under the empty tenant id identifies the database. -/
def Unclaimed (target : String) : Prop :=
  ∀ inspection, q.inspection target = some inspection →
    ∀ e ∈ q.state.ledger.lookup noTenant, ¬ Identifies e target inspection.fingerprint

/-- In a state in which nothing else runs, a deprovision request drops a database of the
inventory exactly where the scan marks it, the probe of the request finds it, and no evidence
of the empty tenant id identifies it. -/
theorem drops_iff_marks (supported : List String) (tenantId actor correlationId : String)
    {names : List String} (hnames : q.candidates = some names)
    (htarget : tenantDatabaseName tenantId ∈ names) :
  q.Drops ⟨supported⟩ tenantId actor correlationId
    ↔ q.Marks ⟨supported⟩ (tenantDatabaseName tenantId)
      ∧ q.exists_ (tenantDatabaseName tenantId) = some true
      ∧ q.Unclaimed (tenantDatabaseName tenantId)
  := by
  rw [drops_iff, marks_iff ⟨supported⟩ hnames htarget]
  constructor
  · rintro ⟨inspection, h⟩
    obtain ⟨hinspected, hdroppable, hexists, hclear⟩ := proves_iff.mp h
    refine ⟨⟨inspection, hinspected, hdroppable⟩, hexists, ?_⟩
    intro other hother e he
    obtain rfl := Option.some.inj (hinspected.symm.trans hother)
    apply hclear e he
  · rintro ⟨⟨inspection, hinspected, hdroppable⟩, hexists, hclear⟩
    use inspection
    exact proves_iff.mpr ⟨hinspected, hdroppable, hexists, hclear inspection hinspected⟩

/-! ### Runs of both decisions -/

/-- The record of a tenant whose onboarding stopped after provisioning. -/
def sampleProvisioning : TenantRecord where
  tenantId := "a"
  organizationRef := "org"
  lifecycleState := .provisioning
  expectedSchemaVersion := "1"
  databaseAssociationRef := ⟨tenantDsnRef "a", "1"⟩
  federationConfigRef := "fed"
  createdAt := "2024-01-01"
  updatedAt := "2024-01-01"
  version := 2

/-- The inspection of an empty database. -/
def sampleInspection : DatabaseInspection :=
  ⟨tenantDatabaseName "a", "sys", "db", [], 0, 0, []⟩

/-- One tenant with an empty database, and an answer of the existence probe. -/
def sampleQuiescent (present : Option Bool) : Quiescent where
  state := ⟨AList.insert "a" sampleProvisioning ∅, [], ∅⟩
  keyed := by
    intro t record h
    by_cases ht : t = "a"
    · subst ht
      rw [AList.lookup_insert] at h
      obtain rfl := Option.some.inj h
      rfl
    · rw [AList.lookup_insert_ne ht] at h
      cases h
  candidates := some [tenantDatabaseName "a"]
  controlName := some "control"
  exists_ _ := present
  inspection _ := some sampleInspection
  now := "now"
  token := "token"
  dropRaises := false

theorem sampleQuiescent_droppable (present : Option Bool) :
  (sampleQuiescent present).Droppable [] "a" (tenantDatabaseName "a") sampleInspection
  := by
  refine ⟨⟨sampleProvisioning, AList.lookup_insert _, by decide, by decide +kernel⟩,
    ⟨"control", rfl, by decide +kernel⟩, ?_, ?_, by decide⟩
  · intro t e he
    cases he
  · intro e he
    cases he

theorem sampleQuiescent_marks (present : Option Bool) :
  (sampleQuiescent present).Marks ⟨[]⟩ (tenantDatabaseName "a")
  := by
  apply (marks_iff ⟨[]⟩ rfl (List.mem_singleton_self _)).mpr
  exact ⟨sampleInspection, rfl, sampleQuiescent_droppable present⟩

/-- The scan marks a database as safe whose existence the request cannot probe, and the request
does not drop it. -/
theorem marks_unprobed :
  ∃ q : Quiescent, q.candidates = some [tenantDatabaseName "a"]
    ∧ q.Marks ⟨[]⟩ (tenantDatabaseName "a") ∧ ¬ q.Drops ⟨[]⟩ "a" "admin" "c-1"
  := by
  use sampleQuiescent none
  refine ⟨rfl, sampleQuiescent_marks none, ?_⟩
  intro hdrops
  obtain ⟨_, h⟩ := (drops_iff ⟨[]⟩ "admin" "c-1").mp hdrops
  cases h.exists_

theorem drops_iff_marks_sample :
  (sampleQuiescent (some true)).Drops ⟨[]⟩ "a" "admin" "c-1"
    ↔ (sampleQuiescent (some true)).Marks ⟨[]⟩ (tenantDatabaseName "a")
      ∧ (sampleQuiescent (some true)).exists_ (tenantDatabaseName "a") = some true
      ∧ (sampleQuiescent (some true)).Unclaimed (tenantDatabaseName "a")
  := (sampleQuiescent (some true)).drops_iff_marks [] "a" "admin" "c-1" rfl
    (List.mem_singleton_self _)

end Quiescent

end ControlPlane
