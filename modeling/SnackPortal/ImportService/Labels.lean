import SnackPortal.Program.Runs
import SnackPortal.ImportService.Service

/-!
# What lineage calls an upsert

Imports into one table, interleaved with each other and with edits of the tenant.  The lineage row
of a record says `created` where its upsert wrote and `noop` where it did not, so an upsert that
writes over a row is told as a creation, and what the tenant has edited there is overwritten.  In
a history in which every upsert that writes finds no row, every label is right and no edit is
overwritten (`history_right`).
-/

namespace ImportService

open Lineage (Hmac LineageEmit LineageIntent)
open Program TenantDatabase

/-! ### The label of a record -/

/-- A statement on the tenant's records that was answered. -/
def touches : Event tenantSignature ServiceError → Bool
  | ⟨.getRecord _, .ok _⟩ | ⟨.putRecord _ _, .ok _⟩ => true
  | _ => false

/-- The reference to a row of the tenant. -/
def keyTarget (req : ImportRequest) (key : RecordKey) : String :=
  req.tenantId ++ ":" ++ key.table ++ ":" ++ key.key

/-- How a lineage row tells of the last statement before it: a row that was read is there and is
told as `noop`, one that was written as `created`. -/
def Labels (req : ImportRequest) (targetRef operation : String) :
    Event tenantSignature ServiceError → Prop
  | ⟨.getRecord key, .ok existing⟩ =>
      existing ≠ none ∧ targetRef = keyTarget req key ∧ operation = "noop"
  | ⟨.putRecord key _, .ok _⟩ => targetRef = keyTarget req key ∧ operation = "created"
  | _ => False

/-- A lineage row tells of the last statement on the records. -/
def labelled (req : ImportRequest) (h : List (Event tenantSignature ServiceError)) :
    TenantOp → Prop
  | .appendLineage row =>
      ∃ e, h.find? touches = some e ∧ Labels req row.targetRef row.operation e
  | _ => True

/-- A call that appends no lineage row. -/
def appendsNone : TenantOp → Bool
  | .appendLineage _ => false
  | _ => true

def noLineage (op : TenantOp) : Prop :=
  appendsNone op = true

theorem perform_noLineage {op : TenantOp} (h : appendsNone op = true) :
  (TenantDatabase.perform op).Calls noLineage
  := Calls.perform h

/-- A call that neither appends a lineage row nor is a statement on the records. -/
def isBeside : TenantOp → Bool
  | .appendLineage _ | .getRecord _ | .putRecord _ _ => false
  | _ => true

def besideRecords (op : TenantOp) : Prop :=
  isBeside op = true

theorem perform_beside {op : TenantOp} (h : isBeside op = true) :
  (TenantDatabase.perform op).Calls besideRecords
  := Calls.perform h

section Labelled

variable {req : ImportRequest} {α β : Type} {h : List (Event tenantSignature ServiceError)}

theorem labelled_of_noLineage {op : TenantOp} (hop : noLineage op) :
  labelled req h op
  := by
  cases op with
  | appendLineage row => cases hop
  | _ => trivial

/-- A program that appends no lineage row. -/
theorem guarded_noLineage {x : TenantProgram α} (hx : x.Calls noLineage) :
  Guarded (labelled req) anyEnding x h
  := by
  apply (Guarded.of_calls hx (fun _ _ => labelled_of_noLineage) h).mono
  intro _ _ _
  trivial

/-- Sequencing, whatever the first program returns. -/
theorem guarded_seq {x : TenantProgram α} {f : α → TenantProgram β}
    (hx : Guarded (labelled req) anyEnding x h)
    (hf : ∀ a h', Guarded (labelled req) anyEnding (f a) h') :
  Guarded (labelled req) anyEnding (x >>= f) h
  := by
  apply Guarded.bind hx
  · exact fun a h' _ => hf a h'
  · intro _ _ _
    trivial

/-- The last statement on the records was the one of this upsert. -/
def Upserted (key : RecordKey) (changed : Bool) (h : List (Event tenantSignature ServiceError)) :
    Prop :=
  ∃ e, h.find? touches = some e ∧ ∀ req, Labels req (keyTarget req key) (operationOf changed) e

theorem upsertRecord_upserted {key : RecordKey} {row : Columns} :
  Guarded (labelled req) (fun r h' => ∀ changed, r = .ok changed → Upserted key changed h')
    (upsertRecord key row) h
  := by
  apply Guarded.step
  · trivial
  · intro existing
    split
    · rename_i hcarries
      rintro changed ⟨rfl⟩
      refine ⟨_, rfl, fun req => ⟨?_, rfl, rfl⟩⟩
      rintro rfl
      cases hcarries
    · apply Guarded.step
      · trivial
      · rintro _ changed ⟨rfl⟩
        exact ⟨_, rfl, fun req => ⟨rfl, rfl⟩⟩
      · nofun
  · nofun

/-- Calls beside the records leave the last statement on them. -/
theorem Upserted.beside {key : RecordKey} {changed : Bool}
    {events : List (Event tenantSignature ServiceError)} (hupserted : Upserted key changed h)
    (hbeside : ∀ e ∈ events, isBeside e.op = true) :
  Upserted key changed (events ++ h)
  := by
  obtain ⟨e, he, hlabels⟩ := hupserted
  refine ⟨e, ?_, hlabels⟩
  rw [List.find?_append, List.find?_eq_none.mpr, Option.none_or, he]
  rintro ⟨op, a⟩ hmem
  have hop := hbeside _ hmem
  cases op with
  | getRecord _ | putRecord _ _ => cases hop
  | _ => cases a <;> nofun

/-- A program beside the records. -/
theorem guarded_beside {key : RecordKey} {changed : Bool} {x : TenantProgram α}
    (hx : x.Calls besideRecords) (hupserted : Upserted key changed h) :
  Guarded (labelled req) (fun _ h' => Upserted key changed h') x h
  := by
  have hok : ∀ (h : List (Event tenantSignature ServiceError)) op, besideRecords op →
      labelled req h op := by
    intro h op hop
    apply labelled_of_noLineage
    cases op with
    | appendLineage row => cases hop
    | _ => rfl
  apply (Guarded.of_calls hx hok h).mono
  rintro _ _ ⟨events, rfl, hevents⟩
  apply hupserted.beside hevents

/-- The lineage row of an upsert is labelled by it. -/
theorem emit_labelled {service : LineageEmit} {hmac : Hmac} {tenantId : String}
    {intent : LineageIntent} {key : RecordKey} {changed : Bool}
    (htarget : intent.targetRef = keyTarget req key)
    (hoperation : intent.operation = operationOf changed) (hupserted : Upserted key changed h) :
  Guarded (labelled req) anyEnding (service.emit hmac tenantId intent) h
  := by
  have hraised : ∀ (e : ServiceError) (h' : List (Event tenantSignature ServiceError)),
      Upserted key changed h' → anyEnding (α := String) (Except.error e) h' := fun _ _ _ => trivial
  have hlock : service.lock.Calls besideRecords := by
    rw [LineageEmit.lock]
    split
    · exact perform_beside rfl
    · apply Calls.pure
  have hkey : (service.chainKey tenantId).Calls besideRecords := by
    apply Calls.bind (perform_beside rfl)
    intro _
    exact perform_beside rfl
  apply Guarded.bind (guarded_beside hlock hupserted) _ hraised
  intro _ h' hupserted
  apply Guarded.bind (guarded_beside (perform_beside rfl) hupserted) _ hraised
  intro prev h' hupserted
  apply Guarded.bind (guarded_beside (perform_beside rfl) hupserted) _ hraised
  intro lineageId h' hupserted
  apply Guarded.bind (guarded_beside hkey hupserted) _ hraised
  intro chainKey h' hupserted
  cases hrow : LineageEmit.row hmac chainKey prev lineageId intent with
  | error e => trivial
  | ok row =>
      obtain ⟨e, he, hlabels⟩ := hupserted
      apply Guarded.step
      · use e, he
        rw [(LineageEmit.continues_of_row hrow).targetRef, LineageEmit.operation_of_row hrow,
          htarget, hoperation]
        apply hlabels
      · intro _
        apply guarded_noLineage
        apply Calls.bind _ fun _ => Calls.pure
        rw [LineageEmit.auditWritten]
        split
        · exact perform_noLineage rfl
        · apply Calls.pure
      · intro _
        trivial

/-- A record and its lineage row. -/
theorem applyRecord_labelled {svc : Service} {hmac : Hmac} {jobId : String}
    {record : ImportRecord} :
  Guarded (labelled req) anyEnding (svc.applyRecord hmac req jobId record) h
  := by
  apply Guarded.bind upsertRecord_upserted
  · intro changed h' hupserted
    apply Guarded.bind (guarded_beside (perform_beside rfl) (hupserted changed rfl))
    · intro occurredAt h'' hupserted
      apply guarded_seq (emit_labelled rfl rfl hupserted)
      intro _ _
      trivial
    · intro _ _ _
      trivial
  · intro _ _ _
    trivial

theorem applyOneBatch_labelled {svc : Service} {hmac : Hmac} {jobId : String} {seq : Nat}
    {batch : List ImportRecord} :
  Guarded (labelled req) anyEnding (svc.applyOneBatch hmac req jobId seq batch) h
  := by
  have hrecords : ∀ bApplied h,
      Guarded (labelled req) anyEnding (svc.applyRecords hmac req jobId batch bApplied) h := by
    induction batch with
    | nil =>
        intro _ _
        trivial
    | cons record batch ih =>
        intro bApplied h
        apply guarded_seq applyRecord_labelled
        intro changed h'
        apply ih
  apply guarded_seq (hrecords 0 h)
  intro bApplied h'
  apply guarded_noLineage
  apply Calls.bind (perform_noLineage rfl)
  intro updatedAt
  apply Calls.bind (perform_noLineage rfl)
  intro _
  apply Calls.pure

/-- The upserts on the bookkeeping append no lineage row. -/
theorem upsertIdempotency_noLineage {operationKey : String} {columns : IdempotencyColumns} :
  (upsertIdempotency operationKey columns).Calls noLineage
  := by
  apply Calls.bind (perform_noLineage rfl)
  intro existing
  split
  · apply Calls.pure
  · apply Calls.bind (perform_noLineage rfl)
    intro _
    apply Calls.pure

theorem upsertJob_noLineage {row : JobRow} :
  (upsertJob row).Calls noLineage
  := by
  apply Calls.bind (perform_noLineage rfl)
  intro existing
  split
  · apply Calls.pure
  · apply Calls.bind (perform_noLineage rfl)
    intro _
    apply Calls.pure

theorem beginJob_noLineage :
  (beginJob req).Calls noLineage
  := by
  apply Calls.bind (perform_noLineage rfl)
  intro _
  apply Calls.bind (perform_noLineage rfl)
  intro idem
  cases idem with
  | some idem =>
      apply Calls.bind (perform_noLineage rfl)
      intro _
      split
      · apply Calls.pure
      · apply Calls.pure
  | none =>
      apply Calls.bind (perform_noLineage rfl)
      intro jobId
      apply Calls.bind upsertJob_noLineage
      intro _
      apply Calls.bind upsertIdempotency_noLineage
      intro _
      apply Calls.bind (perform_noLineage rfl)
      intro _
      apply Calls.pure

theorem failBatch_noLineage {jobId : String} {applied noop : Nat} :
  (Service.failBatch req jobId applied noop).Calls noLineage
  := by
  apply Calls.bind (perform_noLineage rfl)
  intro _
  apply Calls.bind (perform_noLineage rfl)
  intro _
  apply Calls.bind upsertIdempotency_noLineage
  intro _
  apply Calls.bind (perform_noLineage rfl)
  intro _
  apply Calls.raise

theorem finalize_noLineage {jobId : String} {applied noop rejected : Nat} :
  (Service.finalize req jobId applied noop rejected).Calls noLineage
  := by
  apply Calls.bind (perform_noLineage rfl)
  intro _
  apply Calls.bind upsertJob_noLineage
  intro _
  apply Calls.bind upsertIdempotency_noLineage
  intro _
  apply Calls.bind (perform_noLineage rfl)
  intro _
  apply Calls.bind (perform_noLineage rfl)
  intro _
  apply Calls.pure

theorem applyFrom_labelled {svc : Service} {hmac : Hmac} {jobId : String}
    {startSeq seq applied noop : Nat} {bs : List (List ImportRecord)} :
  Guarded (labelled req) anyEnding
    (svc.applyFrom hmac req jobId startSeq seq bs applied noop) h
  := by
  induction bs generalizing h seq applied noop with
  | nil => trivial
  | cons batch rest ih =>
      rw [Service.applyFrom]
      split
      · apply ih
      · apply guarded_seq (guarded_noLineage (perform_noLineage rfl))
        intro _ h'
        have hbatch : Guarded (labelled req) anyEnding
            ((svc.applyOneBatch hmac req jobId seq batch).rescue
              fun _ => Service.failBatch req jobId applied noop) h' := by
          apply Guarded.andThen applyOneBatch_labelled
          rintro (e | bApplied) h'' -
          · apply guarded_noLineage failBatch_noLineage
          · trivial
        apply guarded_seq hbatch
        intro bApplied h''
        apply guarded_seq (guarded_noLineage (perform_noLineage rfl))
        intro _ _
        apply ih

/-- In every run of an import, whatever is answered, a lineage row tells of the last statement on
the records. -/
theorem startImport_labelled (svc : Service) (hmac : Hmac) :
  Guarded (labelled req) anyEnding (svc.startImport hmac req) h
  := by
  have hproceed : ∀ jobId resuming h,
      Guarded (labelled req) anyEnding (svc.proceed hmac req jobId resuming) h := by
    intro jobId resuming h
    apply guarded_seq (guarded_noLineage (perform_noLineage rfl))
    intro _ h'
    have hcollect : (svc.collect req).Calls noLineage := by
      rw [Service.collect]
      split
      · apply Calls.raise
      · apply Calls.bind (perform_noLineage rfl)
        intro raws
        apply Calls.pure
    apply guarded_seq (guarded_noLineage hcollect)
    intro collected h'
    have hresume : (resumePoint jobId).Calls noLineage := by
      apply Calls.bind (perform_noLineage rfl)
      intro _
      apply Calls.bind (perform_noLineage rfl)
      intro cp
      apply Calls.bind (perform_noLineage rfl)
      intro _
      apply Calls.pure
    apply guarded_seq (guarded_noLineage hresume)
    intro startSeq h'
    have hbatches : Guarded (labelled req) anyEnding
        (svc.applyBatches hmac req jobId collected.1 startSeq) h' := by
      rw [Service.applyBatches]
      split
      · trivial
      · apply applyFrom_labelled
    apply guarded_seq hbatches
    intro counts h'
    apply guarded_noLineage finalize_noLineage
  have hbody : ∀ h, Guarded (labelled req) anyEnding (svc.importBody hmac req) h := by
    intro h
    apply guarded_seq (guarded_noLineage beginJob_noLineage)
    rintro ⟨jobId, resuming, replay⟩ h'
    cases replay with
    | some replay =>
        apply guarded_seq (guarded_noLineage (perform_noLineage rfl))
        intro _ _
        trivial
    | none => apply hproceed
  apply guarded_seq (guarded_noLineage (perform_noLineage rfl))
  intro _ h'
  apply guarded_seq (guarded_noLineage (perform_noLineage rfl))
  intro _ h'
  have hguarded : Guarded (labelled req) anyEnding
      ((svc.importBody hmac req).rescue (Service.surface req)) h' := by
    apply Guarded.andThen (hbody h')
    rintro (e | status) h'' -
    · cases e with
      | importFailed code status =>
          apply guarded_seq (guarded_noLineage (perform_noLineage rfl))
          intro _ _
          trivial
      | _ => trivial
    · trivial
  apply Guarded.andThen hguarded
  intro r h'' _
  apply Guarded.andThen (guarded_noLineage (perform_noLineage rfl))
  rintro (e | _) _ -
  · trivial
  · trivial

end Labelled

/-! ### Histories of a table -/

/-- What a session did last to the tenant's records: the row it found under the key, and the row
that was there afterwards. -/
structure Touch where
  key : RecordKey
  before : Option Columns
  after : Option Columns

/-- The columns of the tables, the tenant's records as committed, what the open transactions write
to them, what every session did last, and the columns the tenant has edited. -/
structure TableState (ι : Type) where
  columns : ColumnTypes
  committed : RecordKey → Option Columns
  pending : ι → List (RecordKey × Columns)
  touched : ι → Option Touch
  edited : RecordKey → String → Bool

/-- A step of a history: an answered call of an import, a commit of one that takes effect and
raises, or an edit of the tenant, which leaves a row under the key or none. -/
inductive HistoryStep (ι : Type) where
  | call (i : ι) (e : Event tenantSignature ServiceError)
  | lostCommit (i : ι) (error : ServiceError)
  | edit (key : RecordKey) (row : Option Columns)

/-- The call of a step, where it is one of the session `i`. -/
def HistoryStep.event {ι : Type} [DecidableEq ι] (i : ι) :
    HistoryStep ι → Option (Event tenantSignature ServiceError)
  | .call j e => if j = i then some e else none
  | .lostCommit j error => if j = i then some ⟨.commit, .error error⟩ else none
  | .edit _ _ => none

/-- The row that an upsert leaves: the columns it does not write keep their values. -/
def written (row : Columns) (existing : Option Columns) : Columns :=
  row ∪ existing.getD ∅

namespace TableState

variable {ι : Type} [DecidableEq ι] (s : TableState ι)

/-- The row a session sees under a key. -/
def view (i : ι) (key : RecordKey) : Option Columns :=
  (s.pending i).foldl
    (fun existing w => if w.1 = key then some (written w.2 existing) else existing)
    (s.committed key)

/-- The transaction of the session ends without effect. -/
def drop (i : ι) : TableState ι :=
  { s with pending := Function.update s.pending i [] }

/-- The transaction of the session takes effect. -/
def commit (i : ι) : TableState ι :=
  { s.drop i with committed := s.view i }

/-- What a step does to the table; `none` where the call is not answered so.  Locks are left out:
they only keep some histories from happening. -/
def effect : HistoryStep ι → Option (TableState ι)
  | .call i ⟨.getRecord key, .ok existing⟩ => if existing = s.view i key then some s else none
  | .call i ⟨.putRecord key row, .ok _⟩ =>
      some { s with
        pending := Function.update s.pending i (s.pending i ++ [(key, s.columns.taken key row)]) }
  | .call i ⟨.commit, .ok _⟩ => some (s.commit i)
  | .call i ⟨.rollback, _⟩ | .call i ⟨.close, _⟩ => some (s.drop i)
  | .call i ⟨op, .error _⟩ => some (if op.kind = .outside then s else s.drop i)
  | .call _ _ => some s
  | .lostCommit i _ => some (s.commit i)
  | .edit key row => some { s with
      committed := Function.update s.committed key row
      edited := fun key' column => s.edited key' column || (key' = key
        && (s.committed key).bind (·.lookup column) ≠ row.bind (·.lookup column)) }

/-- What the sessions did last, after a step. -/
def touchedAfter : HistoryStep ι → ι → Option Touch
  | .call i ⟨.getRecord key, .ok existing⟩ =>
      Function.update s.touched i (some ⟨key, existing, existing⟩)
  | .call i ⟨.putRecord key row, .ok _⟩ =>
      Function.update s.touched i (some ⟨key, s.view i key,
        some (written (s.columns.taken key row) (s.view i key))⟩)
  | _ => s.touched

/-- The state after a step. -/
def next (step : HistoryStep ι) : Option (TableState ι) :=
  (s.effect step).map fun s' => { s' with touched := s.touchedAfter step }

/-- The steps can be made, and every one meets `P` in the state before it. -/
def Along (P : TableState ι → HistoryStep ι → Prop) : TableState ι → List (HistoryStep ι) → Prop
  | _, [] => True
  | s, step :: steps => P s step ∧ ∃ s', s.next step = some s' ∧ Along P s' steps

/-- What every step of a history meets, a step in its midst meets. -/
theorem Along.midst {P : TableState ι → HistoryStep ι → Prop} {s : TableState ι}
    {before after : List (HistoryStep ι)} {step : HistoryStep ι}
    (h : s.Along P (before ++ step :: after)) :
  ∃ s', before.foldlM TableState.next s = some s' ∧ P s' step
  := by
  induction before generalizing s with
  | nil => exact ⟨s, rfl, h.1⟩
  | cons first before ih =>
      obtain ⟨-, s₁, hnext, hrest⟩ := h
      obtain ⟨s', hs', hP⟩ := ih hrest
      use s', by rw [List.foldlM_cons, hnext]; exact hs'

instance decidableAlong {P : TableState ι → HistoryStep ι → Prop}
    [∀ s step, Decidable (P s step)] :
    (s : TableState ι) → (steps : List (HistoryStep ι)) → Decidable (s.Along P steps)
  | _, [] => .isTrue trivial
  | s, step :: steps =>
      match h : s.next step with
      | none => .isFalse fun ⟨_, _, hnext, _⟩ => by simp [h] at hnext
      | some s' =>
          have := decidableAlong (P := P) s' steps
          decidable_of_iff (P s step ∧ s'.Along P steps) (by simp [Along, h])

/-- The label of a lineage row is right: `created` where there was no row under the key, `noop`
where the row was left as it was, and `updated` otherwise. -/
structure RightLabel (operation : String) (t : Touch) : Prop where
  created : operation = "created" ↔ t.before = none
  noop : operation = "noop" ↔ t.before ≠ none ∧ t.after = t.before
  updated : operation = "updated" ↔ t.before ≠ none ∧ t.after ≠ t.before

/-- A lineage row is about the row its session touched last and is labelled right, and an upsert
that writes leaves the columns that the tenant has edited. -/
def Right (req : ι → ImportRequest) (s : TableState ι) : HistoryStep ι → Prop
  | .call i ⟨.appendLineage row, .ok _⟩ => ∃ t, s.touched i = some t
      ∧ row.targetRef = keyTarget (req i) t.key ∧ RightLabel row.operation t
  | .call i ⟨.putRecord key row, .ok _⟩ => ∀ existing, s.view i key = some existing →
      ∀ column, s.edited key column = true →
        (written (s.columns.taken key row) (some existing)).lookup column = existing.lookup column
  | _ => True

/-- An upsert that writes finds no row under its key. -/
def findsNoRow (s : TableState ι) : HistoryStep ι → Bool
  | .call i ⟨.putRecord key _, .ok _⟩ => (s.view i key).isNone
  | _ => true

def FindsNoRow (s : TableState ι) (step : HistoryStep ι) : Prop :=
  s.findsNoRow step = true

instance (s : TableState ι) (step : HistoryStep ι) : Decidable (s.FindsNoRow step) :=
  inferInstanceAs (Decidable (s.findsNoRow step = true))

end TableState

section History

variable {ι : Type} [DecidableEq ι] {s s' : TableState ι} {step : HistoryStep ι}

theorem TableState.touched_of_next (h : s.next step = some s') :
  s'.touched = s.touchedAfter step
  := by
  obtain ⟨s₁, -, rfl⟩ := Option.map_eq_some_iff.mp h
  rfl

/-- What a step does to the last statements of the sessions. -/
theorem TableState.touchedAfter_cases (s : TableState ι) (step : HistoryStep ι) :
  (∃ i key existing, step = .call i ⟨.getRecord key, .ok existing⟩
      ∧ s.touchedAfter step = Function.update s.touched i (some ⟨key, existing, existing⟩))
    ∨ (∃ i key row a, step = .call i ⟨.putRecord key row, .ok a⟩
        ∧ s.touchedAfter step = Function.update s.touched i
          (some ⟨key, s.view i key, some (written (s.columns.taken key row) (s.view i key))⟩))
    ∨ s.touchedAfter step = s.touched ∧ ∀ i e, step.event i = some e → touches e = false
  := by
  have hother : ∀ {j : ι} {e : Event tenantSignature ServiceError}, touches e = false →
      ∀ i e', (HistoryStep.call j e).event i = some e' → touches e' = false := by
    intro j e htouches i e' he'
    rw [HistoryStep.event] at he'
    split at he'
    · rw [← Option.some.inj he', htouches]
    · cases he'
  cases step with
  | lostCommit j error =>
      right; right
      use rfl
      intro i e he
      rw [HistoryStep.event] at he
      split at he
      · rw [← Option.some.inj he]
        rfl
      · cases he
  | edit key row =>
      right; right
      use rfl
      intro i e he
      cases he
  | call j e =>
      obtain ⟨op, a⟩ := e
      cases a with
      | error error =>
          right; right
          constructor
          · cases op <;> rfl
          · apply hother
            cases op <;> rfl
      | ok a =>
          cases op with
          | getRecord key =>
              left
              exact ⟨j, key, a, rfl, rfl⟩
          | putRecord key row =>
              right; left
              exact ⟨j, key, row, a, rfl, rfl⟩
          | _ =>
              right; right
              exact ⟨rfl, hother rfl⟩

/-- The statement is the one that the session did last: a read left the row it found, and a write
found none. -/
def Did (t : Touch) : Event tenantSignature ServiceError → Prop
  | ⟨.getRecord key, .ok existing⟩ => t = ⟨key, existing, existing⟩
  | ⟨.putRecord key _, .ok _⟩ => t.key = key ∧ t.before = none ∧ t.after ≠ none
  | _ => False

/-- The last statements of the histories are what the sessions did last. -/
def Remembered (h : ι → List (Event tenantSignature ServiceError)) (s : TableState ι) : Prop :=
  ∀ i e, (h i).find? touches = some e → ∃ t, s.touched i = some t ∧ Did t e

/-- A step whose write finds no row keeps the histories remembered. -/
theorem Remembered.next {h : ι → List (Event tenantSignature ServiceError)}
    (hremembered : Remembered h s) (hmeets : s.FindsNoRow step) (hnext : s.next step = some s') :
  Remembered (fun i => (step.event i).toList ++ h i) s'
  := by
  have htouched := TableState.touched_of_next hnext
  -- the session of the step did it, and the others did what they did before
  have hone : ∀ {j : ι} {e : Event tenantSignature ServiceError} {t : Touch},
      touches e = true → step = .call j e → Did t e →
        s.touchedAfter step = Function.update s.touched j (some t) →
          Remembered (fun i => (step.event i).toList ++ h i) s' := by
    intro j e t htouches hstep hdid hafter i e' he'
    rw [htouched, hafter]
    subst hstep
    dsimp only [HistoryStep.event] at he'
    split at he'
    · rename_i hij
      subst hij
      rw [Option.toList_some, List.singleton_append, List.find?_cons_of_pos htouches] at he'
      obtain rfl := Option.some.inj he'
      use t, Function.update_self _ _ _
    · rename_i hij
      rw [Function.update_of_ne (Ne.symm hij)]
      apply hremembered i e' he'
  rcases s.touchedAfter_cases step with ⟨j, key, existing, hstep, hafter⟩
    | ⟨j, key, row, a, hstep, hafter⟩ | ⟨hafter, hother⟩
  · exact hone rfl hstep rfl hafter
  · apply hone rfl hstep _ hafter
    rw [hstep] at hmeets
    exact ⟨rfl, Option.isNone_iff_eq_none.mp hmeets, nofun⟩
  · intro i e he
    rw [htouched, hafter]
    apply hremembered i e
    dsimp only at he
    cases hevent : step.event i with
    | none =>
        rw [hevent] at he
        apply he
    | some e' =>
        rw [hevent, Option.toList_some, List.singleton_append,
          List.find?_cons_of_neg (by simp [hother i e' hevent])] at he
        apply he

/-- A label that tells of the last statement is right. -/
theorem RightLabel.of_labels {req : ImportRequest} {targetRef operation : String} {t : Touch}
    {e : Event tenantSignature ServiceError} (hlabels : Labels req targetRef operation e)
    (hdid : Did t e) :
  targetRef = keyTarget req t.key ∧ TableState.RightLabel operation t
  := by
  obtain ⟨op, a⟩ := e
  cases op with
  | getRecord key =>
      cases a with
      | error _ => cases hlabels
      | ok existing =>
          obtain ⟨hthere, htarget, rfl⟩ := hlabels
          obtain rfl : t = ⟨key, existing, existing⟩ := hdid
          use htarget
          constructor <;> simp [hthere]
  | putRecord key row =>
      cases a with
      | error _ => cases hlabels
      | ok _ =>
          obtain ⟨htarget, rfl⟩ := hlabels
          obtain ⟨rfl, hbefore, hafter⟩ := hdid
          use htarget
          constructor <;> simp [hbefore]
  | _ => cases hlabels

/-- An import with its service. -/
structure ImportRun where
  service : Service
  hmac : Hmac
  request : ImportRequest

def ImportRun.program (run : ImportRun) : TenantProgram ImportStatus :=
  run.service.startImport run.hmac run.request

/-- The calls of a session in a history, the latest first. -/
def callsOf (steps : List (HistoryStep ι)) (i : ι) : List (Event tenantSignature ServiceError) :=
  (steps.filterMap (HistoryStep.event i)).reverse

theorem callsOf_cons (steps : List (HistoryStep ι)) (i : ι) :
  callsOf (step :: steps) i = callsOf steps i ++ (step.event i).toList
  := by
  rw [callsOf, List.filterMap_cons]
  cases step.event i with
  | none => simp [callsOf]
  | some e => simp [callsOf]

/-- Part of a history is a history. -/
theorem after_of_append {α : Type} {x y : TenantProgram α}
    {h h' : List (Event tenantSignature ServiceError)} (hafter : x.After (h' ++ h) y) :
  ∃ z, x.After h z
  := by
  induction h' generalizing y with
  | nil => exact ⟨y, hafter⟩
  | cons e h' ih =>
      cases hafter with
      | answered hx r => apply ih hx

/-- A call of a session that runs an import is labelled. -/
theorem labelled_of_after {run : ImportRun} {e : Event tenantSignature ServiceError}
    {h h' : List (Event tenantSignature ServiceError)} {y : TenantProgram ImportStatus}
    (hafter : run.program.After (h' ++ e :: h) y) :
  labelled run.request h e.op
  := by
  obtain ⟨z, hz⟩ := after_of_append hafter
  cases hz with
  | answered hx r => apply (startImport_labelled run.service run.hmac).call hx

variable (run : ι → ImportRun)

/-- From a state in which the histories are remembered, a history whose writes find no row is
right. -/
theorem right_along {h : ι → List (Event tenantSignature ServiceError)}
    {steps : List (HistoryStep ι)}
    (hruns : ∀ i, ∃ rest, (run i).program.After (callsOf steps i ++ h i) rest)
    (hremembered : Remembered h s) (hmeets : s.Along TableState.FindsNoRow steps) :
  s.Along (TableState.Right fun i => (run i).request) steps
  := by
  induction steps generalizing s h with
  | nil => trivial
  | cons step steps ih =>
      obtain ⟨hfinds, s', hnext, hrest⟩ := hmeets
      have hruns' : ∀ i, ∃ rest,
          (run i).program.After (callsOf steps i ++ ((step.event i).toList ++ h i)) rest := by
        intro i
        obtain ⟨rest, hafter⟩ := hruns i
        use rest
        rwa [callsOf_cons, List.append_assoc] at hafter
      refine ⟨?_, s', hnext, ih hruns' (hremembered.next hfinds hnext) hrest⟩
      cases step with
      | call i e =>
          obtain ⟨rest, hafter⟩ := hruns' i
          have hevent : (HistoryStep.call i e).event i = some e := if_pos rfl
          rw [hevent] at hafter
          have hlabelled := labelled_of_after hafter
          obtain ⟨op, a⟩ := e
          cases a with
          | error error => cases op <;> trivial
          | ok a =>
              cases op with
              | appendLineage row =>
                  obtain ⟨e, he, hlabels⟩ := hlabelled
                  obtain ⟨t, ht, hdid⟩ := hremembered i e he
                  use t, ht
                  apply RightLabel.of_labels hlabels hdid
              | putRecord key row =>
                  intro existing hexisting
                  have hnone : s.view i key = none := Option.isNone_iff_eq_none.mp hfinds
                  rw [hnone] at hexisting
                  cases hexisting
              | _ => trivial
      | lostCommit i error => trivial
      | edit key row => trivial

/-- In a history of imports and edits in which every upsert that writes finds no row, every
lineage row is labelled right, and no upsert overwrites what the tenant has edited. -/
theorem history_right {steps : List (HistoryStep ι)}
    (hruns : ∀ i, ∃ rest, (run i).program.After (callsOf steps i) rest)
    (hmeets : s.Along TableState.FindsNoRow steps) :
  s.Along (TableState.Right fun i => (run i).request) steps
  := by
  apply right_along run (h := fun _ => []) _ _ hmeets
  · intro i
    rw [List.append_nil]
    apply hruns i
  · intro i e he
    cases he

end History

section Reimport

/-- The row of a record as an import leaves it, with this name. -/
def importedRow (name : String) : Columns :=
  [⟨"record_id", .text "1"⟩, ⟨"display_name", .text name⟩].toAList

def importedKey : RecordKey := ⟨"tenant_copy", "record_id", "1"⟩

/-- A request to import the record. -/
def reimportRequest : ImportRequest where
  tenantId := "t1"
  source := ⟨.csv, "upload-2", some "record_id,display_name\n1,A", none⟩
  operationKey := "op-2"
  correlationId := "c-2"
  actorRef := "user:1"
  naturalKeyField := "record_id"
  targetTable := "tenant_copy"

def reimport : ImportRun where
  service := ⟨⟨"secretstore/t", true, false⟩, fun _ => some .csv, "1", 2⟩
  hmac _ _ := ""
  request := reimportRequest

/-- The lineage row of the record. -/
def reimportLineage : Lineage.LineageRow where
  lineageId := "l1"
  seq := 1
  segmentId := 1
  eventType := "import"
  occurredAt := "now"
  actorRef := "user:1"
  sourceRef := "upload:csv:upload-2:0"
  targetRef := "t1:tenant_copy:1"
  operation := "created"
  schemaVersion := "1"
  derivationRef := some "j2"
  parentLineageRef := none
  correlationId := some "c-2"
  markerVersion := Lineage.Canonical.currentMarkerVersion
  prevMarker := ""
  integrityMarker := ""

/-- The calls of an import of the record under its operation key: the job it makes, the row that
the table has for the record and whether it is written over, the newest lineage row, and the
lineage row that it appends. -/
def importCalls (req : ImportRequest) (jobId : String) (existing : Option Columns)
    (changed : Bool) (prev : Option Lineage.LineageRow) (row : Lineage.LineageRow) :
    List (Event tenantSignature ServiceError) :=
  [⟨.initiate ⟨"user:1", "ImportRequested", "c-2", "success", "t1", some "upload-2"⟩, .ok ()⟩,
    ⟨.openSession, .ok ()⟩, ⟨.begin, .ok ()⟩, ⟨.getIdempotency req.operationKey, .ok none⟩,
    ⟨.uuid4, .ok jobId⟩, ⟨.getJob jobId, .ok none⟩,
    ⟨.putJob (jobRow req jobId "in_progress"), .ok ()⟩,
    ⟨.getIdempotency req.operationKey, .ok none⟩,
    ⟨.putIdempotency req.operationKey ⟨jobId, "in_progress", none⟩, .ok ()⟩, ⟨.commit, .ok ()⟩,
    ⟨.initiate ⟨"user:1", "ImportStarted", "c-2", "success", "t1", some "upload-2"⟩, .ok ()⟩,
    ⟨.readSource .csv req.source, .ok (SourceAdapter.csv.read req.source [] [importedRow "A"])⟩,
    ⟨.begin, .ok ()⟩, ⟨.latestCheckpoint jobId, .ok none⟩, ⟨.commit, .ok ()⟩, ⟨.begin, .ok ()⟩,
    ⟨.getRecord importedKey, .ok existing⟩]
    ++ (if changed then
        [⟨.putRecord importedKey ((importedRow "A").insert "record_id" (.text "1")), .ok ()⟩]
      else [])
    ++ [⟨.now, .ok "now"⟩, ⟨.lockChain, .ok ()⟩, ⟨.latestLineage, .ok prev⟩,
      ⟨.uuid4, .ok row.lineageId⟩, ⟨.currentVersion "secretstore/t/t1/chainkey", .ok "1"⟩,
      ⟨.resolve "secretstore/t/t1/chainkey" "1", .ok "key"⟩, ⟨.appendLineage row, .ok ()⟩,
      ⟨.now, .ok "now"⟩,
      ⟨.appendCheckpoint ⟨jobId, 1, 2, changed.toNat, "applied", "now"⟩, .ok ()⟩,
      ⟨.commit, .ok ()⟩]

/-- The calls of the import up to its commit, where the table has this row for the record and it
is written over. -/
def reimportCalls (existing : Option Columns) : List (Event tenantSignature ServiceError) :=
  importCalls reimportRequest "j2" existing true none reimportLineage

/-- A table with this row for the record. -/
def tableWith {ι : Type} (existing : Option Columns) : TableState ι where
  columns := plainColumns
  committed key := if key = importedKey then existing else none
  pending _ := []
  touched _ := none
  edited _ _ := false

/-- A program that gets these answers is at a place after them. -/
theorem after_of_replay {ι : Type} [DecidableEq ι] {run : ImportRun}
    {calls : List (Event tenantSignature ServiceError)} {steps : List (HistoryStep ι)} {i : ι}
    (hcalls : callsOf steps i = calls.reverse) (hreplay : (run.program.replay calls).isSome) :
  ∃ rest, run.program.After (callsOf steps i) rest
  := by
  obtain ⟨rest, hrest⟩ := Option.isSome_iff_exists.mp hreplay
  rw [hcalls]
  exact ⟨rest, .of_replay hrest⟩

/-- The import of the same upload under another operation key. -/
def laterImport : ImportRun :=
  { reimport with request := { reimportRequest with operationKey := "op-3" } }

def laterLineage : Lineage.LineageRow :=
  { reimportLineage with
    lineageId := "l2"
    seq := 2
    operation := "noop"
    derivationRef := some "j3" }

/-- The row of the record with a note of the tenant's. -/
def notedRow : Columns :=
  (importedRow "A").insert "notes" (.text "call back")

/-- The record is imported, the tenant adds a note to it, and another import then finds it as it
would write it. -/
def laterSteps : List (HistoryStep Bool) :=
  (reimportCalls none).map (.call false) ++ .edit importedKey (some notedRow)
    :: (importCalls laterImport.request "j3" (some notedRow) false (some reimportLineage)
      laterLineage).map (.call true)

/-- The theorem on two imports of a record with an edit between them, which is there at the
end. -/
theorem history_right_edited :
  (tableWith none).Along
      (TableState.Right fun i => (bif i then laterImport else reimport).request) laterSteps
    ∧ (laterSteps.foldlM TableState.next (tableWith none)).map (·.committed importedKey)
      = some (some notedRow)
  := by
  constructor
  · apply history_right fun i => bif i then laterImport else reimport
    · rw [Bool.forall_bool]
      have hfirst : callsOf laterSteps false = (reimportCalls none).reverse := rfl
      constructor
      · apply after_of_replay hfirst
        decide +kernel
      · apply after_of_replay (i := true) rfl
        decide +kernel
    · decide +kernel
  · decide +kernel

/-- The history of a record that was imported, that the tenant renamed, and that another import
then takes up. -/
def reimportSteps : List (HistoryStep Unit) :=
  .edit importedKey (some (importedRow "B"))
    :: (reimportCalls (some (importedRow "B"))).map (.call ())

/-- The import tells of the record as created, and overwrites the name that the tenant gave. -/
theorem history_wrong :
  (∀ i : Unit, ∃ rest, reimport.program.After (callsOf reimportSteps i) rest)
    ∧ (tableWith (some (importedRow "A"))).Along (fun _ _ => True) reimportSteps
    ∧ ¬ (tableWith (some (importedRow "A"))).Along (TableState.Right fun _ => reimportRequest)
      reimportSteps
  := by
  refine ⟨?_, ?_, ?_⟩
  · rintro ⟨⟩
    apply after_of_replay (i := ()) rfl
    decide +kernel
  · decide +kernel
  · intro hright
    have hmidst : reimportSteps = reimportSteps.take 25
        ++ .call () ⟨.appendLineage reimportLineage, .ok ()⟩ :: reimportSteps.drop 26 := rfl
    rw [hmidst] at hright
    obtain ⟨s, hs, t, ht, -, hlabel⟩ := hright.midst
    have hfound : ((reimportSteps.take 25).foldlM TableState.next
        (tableWith (some (importedRow "A")))).map (fun s => (s.touched ()).map (·.before.isSome))
          = some (some true) := by decide +kernel
    rw [hs, Option.map_some, ht] at hfound
    have hnone := hlabel.created.mp rfl
    rw [Option.map_some, hnone] at hfound
    cases hfound

end Reimport

end ImportService
