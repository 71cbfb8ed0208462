import SnackPortal.Program.Runs
import SnackPortal.ImportService.Service

/-!
# What an import reports

Every import starts with the event `ImportRequested`.  It ends with one terminal event where the
calls outside of the batches are answered, and the batch size is not zero where the source is
read; an exception of another call leaves the start without an end.  The state that is returned
is the one the row of the operation in the idempotency table tells afterwards, except where the
kind of the source is not supported: the import then fails without its row being told
(`import_reported_iff`).
-/

namespace ImportService

open Program TenantDatabase

/-! ### The row of an operation -/

/-- The row of one operation in the idempotency table: as committed, and as the open transaction
sees it. -/
structure RowState where
  committed : Option IdempotencyRow
  view : Option IdempotencyRow
deriving DecidableEq

/-- The row where no transaction has touched it. -/
def RowState.settled (row : Option IdempotencyRow) : RowState := ⟨row, row⟩

/-- What one call on the database does to the row of the operation `k`: a read tells what the
transaction sees, a commit that raises may have taken effect, and a statement that raises ends
its transaction without effect. -/
def RowStep (k : String) (s : RowState) : Event tenantSignature ServiceError → RowState → Prop
  | ⟨.getIdempotency k', .ok row⟩, s' => (k' = k → row = s.view) ∧ s' = s
  | ⟨.putIdempotency k' columns, .ok _⟩, s' =>
      s' = if k' = k then ⟨s.committed, some (columns.over k s.view)⟩ else s
  | ⟨.insertIdempotency k' columns, .ok _⟩, s' =>
      s' = if k' = k then ⟨s.committed, some (columns.over k s.view)⟩ else s
  | ⟨.commit, .ok _⟩, s' => s' = .settled s.view
  | ⟨.commit, .error _⟩, s' => s' = .settled s.view ∨ s' = .settled s.committed
  | ⟨.rollback, _⟩, s' => s' = .settled s.committed
  | ⟨.close, _⟩, s' => s' = .settled s.committed
  | ⟨op, .error _⟩, s' => s' = if op.kind = .statement then .settled s.committed else s
  | _, s' => s' = s

/-- The calls, one after the other, take the row from one state to another. -/
def Tracks (k : String) : RowState → List (Event tenantSignature ServiceError) → RowState → Prop
  | s, [], s' => s' = s
  | s, e :: events, s' => ∃ s₁, RowStep k s e s₁ ∧ Tracks k s₁ events s'

section Tracks

variable {k : String} {s s' : RowState} {events : List (Event tenantSignature ServiceError)}

theorem tracks_append {before after : List (Event tenantSignature ServiceError)} :
  Tracks k s (before ++ after) s' ↔ ∃ s₁, Tracks k s before s₁ ∧ Tracks k s₁ after s'
  := by
  induction before generalizing s with
  | nil =>
      constructor
      · exact fun h => ⟨s, rfl, h⟩
      · rintro ⟨_, rfl, h⟩
        apply h
  | cons e before ih =>
      constructor
      · rintro ⟨s₁, hstep, h⟩
        obtain ⟨s₂, hbefore, hafter⟩ := ih.mp h
        exact ⟨s₂, ⟨s₁, hstep, hbefore⟩, hafter⟩
      · rintro ⟨s₂, ⟨s₁, hstep, hbefore⟩, hafter⟩
        exact ⟨s₁, hstep, ih.mpr ⟨s₂, hbefore, hafter⟩⟩

/-- The call writes no row of the idempotency table. -/
def isRowWrite : TenantOp → Bool
  | .putIdempotency _ _ | .insertIdempotency _ _ => true
  | _ => false

theorem RowStep.quiet {row : Option IdempotencyRow} {e : Event tenantSignature ServiceError}
    (he : isRowWrite e.op = false) (h : RowStep k (.settled row) e s') :
  s' = .settled row
  := by
  obtain ⟨op, a⟩ := e
  cases a with
  | error e =>
      cases op with
      | commit => exact h.elim id id
      | putIdempotency _ _ | insertIdempotency _ _ => cases he
      | _ => exact h
  | ok a =>
      cases op with
      | getIdempotency _ => exact h.2
      | putIdempotency _ _ | insertIdempotency _ _ => cases he
      | _ => exact h

/-- Calls that do not write the row leave it, whatever transactions they open and end. -/
theorem Tracks.quiet {row : Option IdempotencyRow} (h : Tracks k (.settled row) events s')
    (hquiet : ∀ e ∈ events, isRowWrite e.op = false) :
  s' = .settled row
  := by
  induction events with
  | nil => apply h
  | cons e events ih =>
      obtain ⟨s₁, hstep, hrest⟩ := h
      obtain rfl := hstep.quiet (hquiet e List.mem_cons_self)
      apply ih hrest fun e' he' => hquiet e' (List.mem_cons_of_mem e he')

/-- An upsert on the idempotency table that returns has left the row with its columns. -/
theorem upsertIdempotency_tracks {columns : IdempotencyColumns} {b : Bool}
    (h : Runs (upsertIdempotency k columns) events (.ok b)) (htracks : Tracks k s events s') :
  s'.committed = s.committed ∧ ∃ row, s'.view = some row ∧ row.status = columns.status
  := by
  rcases runs_perform_bind.mp h with ⟨existing, rest, rfl, hrest⟩ | ⟨e, he, -⟩
  · obtain ⟨s₁, ⟨hview, hs₁⟩, htracks⟩ := htracks
    subst hs₁
    have hexisting := hview rfl
    split at hrest
    · rename_i hsame
      obtain ⟨rfl, -⟩ := hrest
      have hs' : s' = s₁ := htracks
      rw [hs']
      cases hrow : s₁.view with
      | none =>
          rw [hexisting, hrow] at hsame
          cases hsame
      | some row =>
          rw [hexisting, hrow] at hsame
          have hover : columns.over k (some row) = row := of_decide_eq_true hsame
          refine ⟨rfl, row, rfl, ?_⟩
          rw [← hover]
          rfl
    · rcases runs_perform_bind.mp hrest with ⟨_, rest, rfl, hpure⟩ | ⟨e, he, -⟩
      · obtain ⟨rfl, -⟩ := hpure
        obtain ⟨s₂, hput, hend⟩ := htracks
        have hs' : s' = ⟨s₁.committed, some (columns.over k s₁.view)⟩ :=
          Eq.trans hend (Eq.trans hput (if_pos rfl))
        rw [hs']
        exact ⟨rfl, _, rfl, rfl⟩
      · cases he
  · cases he

end Tracks

/-! ### The calls outside of the batches -/

/-- The calls that an import needs outside of its batches. -/
def isBookkeeping : TenantOp → Bool
  | .openSession | .begin | .commit | .rollback | .getJob _ | .putJob _ | .getIdempotency _
  | .putIdempotency _ _ | .latestCheckpoint _ | .readSource _ _ => true
  | _ => false

/-- The calls outside of the batches: the bookkeeping, the new ids and the audit. -/
def isOutside : TenantOp → Bool
  | .uuid4 | .initiate _ => true
  | op => isBookkeeping op

/-- What may come of a call: the audit sink works, a new id is always there, and no port raises
the private exception of the service. -/
def portAnswers : Event tenantSignature ServiceError → Prop
  | ⟨.initiate _, .error _⟩ | ⟨.uuid4, .error _⟩ => False
  | ⟨_, .error (.importFailed _ _)⟩ => False
  | _ => True

def PortsAnswer (events : List (Event tenantSignature ServiceError)) : Prop :=
  ∀ e ∈ events, portAnswers e

/-- A call of the bookkeeping is answered, and where it reads the source there is a batch
size. -/
def keepsGoing (svc : Service) (e : Event tenantSignature ServiceError) : Prop :=
  (isBookkeeping e.op = true → Answered e)
    ∧ ∀ adapter source, e.op = .readSource adapter source → svc.batchSize ≠ 0

def KeepsGoing (svc : Service) (events : List (Event tenantSignature ServiceError)) : Prop :=
  ∀ e ∈ events, keepsGoing svc e

/-- The exception is not the private one of the service. -/
def Foreign (e : ServiceError) : Prop :=
  ∀ code status, e ≠ .importFailed code status

section Outside

variable {svc : Service} {events before after : List (Event tenantSignature ServiceError)}

theorem portsAnswer_append :
  PortsAnswer (before ++ after) ↔ PortsAnswer before ∧ PortsAnswer after
  := List.forall_mem_append

theorem keepsGoing_append :
  KeepsGoing svc (before ++ after) ↔ KeepsGoing svc before ∧ KeepsGoing svc after
  := List.forall_mem_append

variable (svc) in
/-- A call that raises outside of the batches raises an exception of a port, and the import does
not keep going. -/
theorem raised_outside (hports : PortsAnswer events) (houtside : ∀ e ∈ events, isOutside e.op)
    {error : ServiceError} (hraised : ∃ e ∈ events, e.answer = .error error) :
  Foreign error ∧ ¬ KeepsGoing svc events
  := by
  obtain ⟨⟨op, a⟩, he, ha⟩ := hraised
  have ha : a = .error error := ha
  subst ha
  have hport := hports _ he
  constructor
  · rintro code status rfl
    cases op <;> exact hport
  · intro hkeeps
    have hbookkeeping : isBookkeeping op = true := by
      have hop := houtside _ he
      cases op with
      | uuid4 => exact hport.elim
      | initiate _ => exact hport.elim
      | _ => exact hop
    obtain ⟨a, ha⟩ := (hkeeps _ he).1 hbookkeeping
    cases ha

/-- Answered calls that read no source keep the import going. -/
theorem keepsGoing_of_answered (hanswered : ∀ e ∈ events, Answered e)
    (hread : ∀ e ∈ events, ∀ adapter source, e.op ≠ .readSource adapter source) :
  KeepsGoing svc events
  := fun e he => ⟨fun _ => hanswered e he, fun adapter source hop =>
    absurd hop (hread e he adapter source)⟩

theorem bookkeeping_of_batch {op : TenantOp} (h : inBatch op) :
  isBookkeeping op = false
  := by
  cases op <;> first | rfl | cases h

/-- The calls of a batch keep the import going, whatever comes of them. -/
theorem keepsGoing_of_batch (hbatch : ∀ e ∈ events, inBatch e.op) :
  KeepsGoing svc events
  := by
  intro e he
  have hbatchCall := hbatch e he
  constructor
  · intro hbookkeeping
    rw [bookkeeping_of_batch hbatchCall] at hbookkeeping
    cases hbookkeeping
  · intro adapter source hop
    rw [hop] at hbatchCall
    cases hbatchCall

theorem quiet_of_batch (hbatch : ∀ e ∈ events, inBatch e.op) :
  ∀ e ∈ events, isRowWrite e.op = false
  := by
  rintro ⟨op, a⟩ he
  have hop := hbatch _ he
  cases op with
  | putIdempotency _ _ | insertIdempotency _ _ => cases hop
  | _ => rfl

end Outside

/-! ### Going through a run -/

/-- The actions that start and end an import in the audit trail. -/
def importActions : List String := ["ImportRequested", "ImportCompleted", "ImportFailed"]

/-- The event starts an import. -/
def importStarts (event : AuditEvent) : Bool :=
  event.action == "ImportRequested"

/-- The event ends an import. -/
def importEnds (event : AuditEvent) : Bool :=
  event.action == "ImportCompleted" || event.action == "ImportFailed"

/-- The event a call hands to the audit sink. -/
def initiated : Event tenantSignature ServiceError → Option AuditEvent
  | ⟨.initiate event, .ok _⟩ => some event
  | _ => none

/-- The starts and ends of imports among the events of the calls. -/
def marks (events : List (Event tenantSignature ServiceError)) : List AuditEvent :=
  boundaries importStarts importEnds (collected initiated events)

/-- The calls are part of a run of the program, with answers that the ports may give, and take
the row of the operation `k` from one state to another. -/
structure Going {α : Type} (k : String) (s : RowState)
    (events : List (Event tenantSignature ServiceError)) (s' : RowState) (x : TenantProgram α)
    (r : Except ServiceError α) : Prop where
  run : x.Runs events r
  ports : PortsAnswer events
  tracks : Tracks k s events s'

/-- The calls up to `after` keep the import going and neither start nor end one. -/
def Passed (svc : Service) (events after : List (Event tenantSignature ServiceError)) : Prop :=
  ∃ before, events = before ++ after ∧ KeepsGoing svc before ∧ marks before = []

/-- The import ends with an exception of a port: it does not keep going, and nothing starts or
ends one. -/
def Stopped {α : Type} (svc : Service) (events : List (Event tenantSignature ServiceError))
    (r : Except ServiceError α) : Prop :=
  ∃ e, r = .error e ∧ Foreign e ∧ ¬ KeepsGoing svc events ∧ marks events = []

section Passed

variable {svc : Service} {events mid after : List (Event tenantSignature ServiceError)}

theorem marks_append (before after : List (Event tenantSignature ServiceError)) :
  marks (before ++ after) = marks before ++ marks after
  := by
  rw [marks, collected_append, boundaries_append]
  rfl

theorem Passed.refl :
  Passed svc events events
  := ⟨[], rfl, List.forall_mem_nil _, rfl⟩

theorem Passed.trans (h : Passed svc events mid) (h' : Passed svc mid after) :
  Passed svc events after
  := by
  obtain ⟨before, rfl, hkeeps, hmarks⟩ := h
  obtain ⟨before', rfl, hkeeps', hmarks'⟩ := h'
  use before ++ before', (List.append_assoc _ _ _).symm,
    keepsGoing_append.mpr ⟨hkeeps, hkeeps'⟩
  rw [marks_append, hmarks, hmarks', List.append_nil]

theorem Passed.keeps (h : Passed svc events after) :
  KeepsGoing svc events ↔ KeepsGoing svc after
  := by
  obtain ⟨before, rfl, hkeeps, -⟩ := h
  exact ⟨fun h => (keepsGoing_append.mp h).2, fun h => keepsGoing_append.mpr ⟨hkeeps, h⟩⟩

theorem Passed.marks (h : Passed svc events after) :
  ImportService.marks events = ImportService.marks after
  := by
  obtain ⟨before, rfl, -, hmarks⟩ := h
  rw [marks_append, hmarks, List.nil_append]

theorem Passed.stopped {α : Type} {r : Except ServiceError α} (h : Passed svc events after)
    (hstopped : Stopped svc after r) :
  Stopped svc events r
  := by
  obtain ⟨e, rfl, hforeign, hnot, hmarks⟩ := hstopped
  exact ⟨e, rfl, hforeign, fun hkeeps => hnot (h.keeps.mp hkeeps), h.marks.trans hmarks⟩

/-- The import keeps going up to some call from which on `P` holds, or it stops. -/
def Arrives {α : Type} (svc : Service) (events : List (Event tenantSignature ServiceError))
    (r : Except ServiceError α)
    (P : List (Event tenantSignature ServiceError) → Prop) : Prop :=
  (∃ after, Passed svc events after ∧ P after) ∨ Stopped svc events r

theorem Arrives.trans {α : Type} {r : Except ServiceError α}
    {P Q : List (Event tenantSignature ServiceError) → Prop} (h : Arrives svc events r P)
    (hP : ∀ after, P after → Arrives svc after r Q) :
  Arrives svc events r Q
  := by
  rcases h with ⟨mid, hpassed, hmid⟩ | hstopped
  · rcases hP mid hmid with ⟨after, hpassed', hafter⟩ | hstopped
    · left
      exact ⟨after, hpassed.trans hpassed', hafter⟩
    · right
      apply hpassed.stopped hstopped
  · right
    apply hstopped

theorem Arrives.mono {α : Type} {r : Except ServiceError α}
    {P Q : List (Event tenantSignature ServiceError) → Prop} (h : Arrives svc events r P)
    (hP : ∀ after, P after → Q after) :
  Arrives svc events r Q
  := by
  rcases h with ⟨after, hpassed, hafter⟩ | hstopped
  · left
    exact ⟨after, hpassed, hP after hafter⟩
  · right
    apply hstopped

/-- Events without those that start or end an import. -/
theorem marks_eq_nil (h : ∀ e ∈ events, ∀ event, initiated e = some event →
    event.action ∉ importActions) :
  ImportService.marks events = []
  := by
  apply List.filter_eq_nil_iff.mpr
  intro event hevent hmark
  obtain ⟨e, he, hinitiated⟩ := mem_collected.mp hevent
  apply h e he event hinitiated
  simp only [importStarts, importEnds, Bool.or_eq_true, beq_iff_eq] at hmark
  simp only [importActions, List.mem_cons, List.not_mem_nil, or_false]
  apply hmark

end Passed

/-! ### The parts of an import -/

/-- The calls on the tables of jobs, operations and checkpoints, and the new ids. -/
def isLedger : TenantOp → Bool
  | .begin | .commit | .rollback | .getJob _ | .putJob _ | .getIdempotency _
  | .putIdempotency _ _ | .latestCheckpoint _ | .uuid4 => true
  | _ => false

/-- A call of the ledger. -/
def onLedger (op : TenantOp) : Prop :=
  isLedger op = true

theorem perform_onLedger {op : TenantOp} (h : isLedger op = true) :
  (TenantDatabase.perform op).Calls onLedger
  := Calls.perform h

theorem outside_of_ledger {op : TenantOp} (h : onLedger op) :
  isOutside op = true
  := by
  cases op <;> first | rfl | cases h

theorem marks_of_ledger {events : List (Event tenantSignature ServiceError)}
    (h : ∀ e ∈ events, onLedger e.op) :
  marks events = []
  := by
  apply marks_eq_nil
  rintro ⟨op, a⟩ he event hinitiated
  have hop := h _ he
  cases op with
  | initiate _ => cases hop
  | _ => cases hinitiated

theorem marks_of_batch {events : List (Event tenantSignature ServiceError)}
    (h : ∀ e ∈ events, inBatch e.op) :
  marks events = []
  := by
  apply marks_eq_nil
  rintro ⟨op, a⟩ he event hinitiated
  have hop := h _ he
  cases op with
  | initiate event' =>
      cases a with
      | error _ => cases hinitiated
      | ok _ =>
          obtain rfl := Option.some.inj hinitiated
          have haction : event'.action = "LineageWritten" := beq_iff_eq.mp hop
          rw [haction]
          decide
  | _ => cases hinitiated

theorem upsertIdempotency_onLedger {operationKey : String} {columns : IdempotencyColumns} :
  (upsertIdempotency operationKey columns).Calls onLedger
  := by
  apply Calls.bind (perform_onLedger rfl)
  intro existing
  split
  · apply Calls.pure
  · apply Calls.bind (perform_onLedger rfl)
    intro _
    apply Calls.pure

theorem upsertIdempotency_straight {operationKey : String} {columns : IdempotencyColumns} :
  (upsertIdempotency operationKey columns).Straight
  := by
  apply Straight.bind Straight.perform
  intro existing
  split
  · apply Straight.pure
  · apply Straight.bind Straight.perform
    intro _
    apply Straight.pure

/-- A call of the ledger that writes no row of the idempotency table. -/
def besideRow (op : TenantOp) : Prop :=
  onLedger op ∧ isRowWrite op = false

theorem upsertJob_besideRow {row : JobRow} :
  (upsertJob row).Calls besideRow
  := by
  apply Calls.bind (Calls.perform ⟨rfl, rfl⟩)
  intro existing
  split
  · apply Calls.pure
  · apply Calls.bind (Calls.perform ⟨rfl, rfl⟩)
    intro _
    apply Calls.pure

theorem upsertJob_straight {row : JobRow} :
  (upsertJob row).Straight
  := by
  apply Straight.bind Straight.perform
  intro existing
  split
  · apply Straight.pure
  · apply Straight.bind Straight.perform
    intro _
    apply Straight.pure

theorem resumePoint_besideRow {jobId : String} :
  (resumePoint jobId).Calls besideRow
  := by
  apply Calls.bind (Calls.perform ⟨rfl, rfl⟩)
  intro _
  apply Calls.bind (Calls.perform ⟨rfl, rfl⟩)
  intro cp
  apply Calls.bind (Calls.perform ⟨rfl, rfl⟩)
  intro _
  apply Calls.pure

theorem resumePoint_straight {jobId : String} :
  (resumePoint jobId).Straight
  := by
  apply Straight.bind Straight.perform
  intro _
  apply Straight.bind Straight.perform
  intro cp
  apply Straight.bind Straight.perform
  intro _
  apply Straight.pure

section Parts

variable (svc : Service) {hmac : Lineage.Hmac} {req : ImportRequest} {k jobId : String}
  {row : Option IdempotencyRow} {s s' : RowState}
  {events : List (Event tenantSignature ServiceError)} {β : Type} {r : Except ServiceError β}

/-- A part of the bookkeeping, and what follows it: its calls are answered, or the import
stops. -/
theorem Going.ledger {α : Type} {x : TenantProgram α} {f : α → TenantProgram β}
    (h : Going k s events s' (x >>= f) r) (hx : x.Straight) (hcalls : x.Calls onLedger) :
  Arrives svc events r fun after => ∃ before a s₁, Runs x before (.ok a) ∧ Tracks k s before s₁
    ∧ Going k s₁ after s' (f a) r
  := by
  obtain ⟨hrun, hports, htracks⟩ := h
  rcases hx.runs_bind hrun with ⟨before, after, a, rfl, hbefore, hanswered, hafter⟩
    | ⟨error, rfl, hraises, hraised⟩
  · left
    have hledger := hcalls.of_runs hbefore
    obtain ⟨s₁, hs₁, htracks'⟩ := tracks_append.mp htracks
    refine ⟨after, ⟨before, rfl, ?_, marks_of_ledger hledger⟩, before, a, s₁, hbefore, hs₁,
      hafter, (portsAnswer_append.mp hports).2, htracks'⟩
    apply keepsGoing_of_answered hanswered
    intro e he adapter source hop
    have honLedger := hledger e he
    rw [hop] at honLedger
    cases honLedger
  · right
    have hledger := hcalls.of_runs hraises
    obtain ⟨hforeign, hnot⟩ := raised_outside svc hports
      (fun e he => outside_of_ledger (hledger e he)) hraised
    exact ⟨error, rfl, hforeign, hnot, marks_of_ledger hledger⟩

/-- The same of a part that does not write the row. -/
theorem Going.beside {α : Type} {x : TenantProgram α} {f : α → TenantProgram β}
    (h : Going k (.settled row) events s' (x >>= f) r) (hx : x.Straight)
    (hcalls : x.Calls besideRow) :
  Arrives svc events r fun after => ∃ a, Going k (.settled row) after s' (f a) r
  := by
  apply (h.ledger svc hx (hcalls.mono fun _ h => h.1)).mono
  rintro after ⟨before, a, s₁, hbefore, hquiet, hgoing⟩
  obtain rfl := hquiet.quiet fun e he => (hcalls.of_runs hbefore e he).2
  exact ⟨a, hgoing⟩

/-- One call of the ledger that does not write the row. -/
theorem Going.call {op : TenantOp} {f : op.Ans → TenantProgram β}
    (h : Going k (.settled row) events s' (TenantDatabase.perform op >>= f) r)
    (hop : isLedger op = true) (hrow : isRowWrite op = false) :
  Arrives svc events r fun after => ∃ a, Going k (.settled row) after s' (f a) r
  := h.beside svc Straight.perform (Calls.perform ⟨hop, hrow⟩)

/-- The row is recorded and committed, or the import stops. -/
theorem Going.record {columns : IdempotencyColumns} {f : TenantProgram β}
    (h : Going k s events s' (upsertIdempotency k columns >>= fun _ =>
      TenantDatabase.perform .commit >>= fun _ => f) r) :
  Arrives svc events r fun after => ∃ row', row'.status = columns.status
    ∧ Going k (.settled (some row')) after s' f r
  := by
  apply (h.ledger svc upsertIdempotency_straight upsertIdempotency_onLedger).trans
  rintro after ⟨_, _, s₁, hupsert, hput, hgoing⟩
  obtain ⟨-, row', hview, hstatus⟩ := upsertIdempotency_tracks hupsert hput
  apply (hgoing.ledger svc Straight.perform (perform_onLedger rfl)).mono
  rintro rest ⟨_, _, s₂, hcommit, hs₂, hgoing'⟩
  obtain rfl := runs_perform.mp hcommit
  obtain ⟨_, hstep, hend⟩ := hs₂
  have hs₂ : s₂ = .settled s₁.view := Eq.trans hend hstep
  rw [hs₂, hview] at hgoing'
  exact ⟨row', hstatus, hgoing'⟩

/-- How `_begin_job` returns where the row of the operation was `row`, and the row it leaves. -/
inductive Began (req : ImportRequest) (row : Option IdempotencyRow) :
    String × Bool × Option ImportStatus → IdempotencyRow → Prop
  | replayed (idem : IdempotencyRow) (hrow : row = some idem) (hstatus : idem.status = "applied") :
      Began req row (idem.jobId, false, some (replayStatus req idem)) idem
  | resumed (idem : IdempotencyRow) (hrow : row = some idem) (hstatus : idem.status ≠ "applied") :
      Began req row (idem.jobId, true, none) idem
  | opened (jobId : String) (row' : IdempotencyRow) (hrow : row = none)
      (hstatus : row'.status = "in_progress") : Began req row (jobId, false, none) row'

/-- The job is begun, or the import stops. -/
theorem Going.beginJob {f : String × Bool × Option ImportStatus → TenantProgram β}
    (h : Going req.operationKey (.settled row) events s' (beginJob req >>= f) r) :
  Arrives svc events r fun after => ∃ job row', Began req row job row'
    ∧ Going req.operationKey (.settled (some row')) after s' (f job) r
  := by
  rw [ImportService.beginJob, bind_assoc] at h
  apply (h.call svc rfl rfl).trans
  rintro after ⟨_, hread⟩
  rw [bind_assoc] at hread
  apply (hread.ledger svc Straight.perform (perform_onLedger rfl)).trans
  rintro after ⟨_, idem, s₁, hget, hs₁, hbegin⟩
  obtain rfl := runs_perform.mp hget
  obtain ⟨_, ⟨hview, hsame⟩, hend⟩ := hs₁
  have hs₁ : s₁ = .settled row := Eq.trans hend hsame
  have hidem : idem = row := hview rfl
  subst hs₁ hidem
  cases idem with
  | some idem =>
      rw [beginWith, takeUp, bind_assoc] at hbegin
      apply (hbegin.call svc rfl rfl).mono
      rintro after ⟨_, hgoing⟩
      split at hgoing
      · rename_i hstatus
        exact ⟨_, idem, .replayed idem rfl hstatus, hgoing⟩
      · rename_i hstatus
        exact ⟨_, idem, .resumed idem rfl hstatus, hgoing⟩
  | none =>
      rw [beginWith, openJob, bind_assoc] at hbegin
      apply (hbegin.call svc rfl rfl).trans
      rintro after ⟨jobId, hjob⟩
      rw [bind_assoc] at hjob
      apply (hjob.beside svc upsertJob_straight upsertJob_besideRow).trans
      rintro after ⟨_, hrecord⟩
      simp only [bind_assoc] at hrecord
      apply (hrecord.record svc).mono
      rintro after ⟨row', hstatus, hgoing⟩
      exact ⟨_, row', .opened jobId row' rfl hstatus, hgoing⟩

/-! ### The batches -/

/-- The failure is recorded in the row, and raised. -/
def Recorded (s' : RowState) (e : ServiceError) : Prop :=
  ∃ code status row', e = .importFailed code status ∧ status.state = .failed
    ∧ s' = .settled (some row') ∧ row'.status = "failed"

/-- A failed batch is recorded, or the import stops. -/
theorem Going.failBatch {applied noop : Nat} {r : Except ServiceError Nat}
    (h : Going req.operationKey (.settled row) events s'
      (Service.failBatch req jobId applied noop) r) :
  Arrives svc events r fun after => after = [] ∧ ∃ e, r = .error e ∧ Recorded s' e
  := by
  apply (h.call svc rfl rfl).trans
  rintro after ⟨_, hbegin⟩
  apply (hbegin.call svc rfl rfl).trans
  rintro after ⟨_, hrecord⟩
  apply (hrecord.record svc).mono
  rintro after ⟨row', hstatus, ⟨rfl, rfl⟩, -, htracks⟩
  exact ⟨rfl, _, rfl, _, _, row', rfl, rfl, htracks, hstatus⟩

theorem Stopped.error {α β : Type} {e : ServiceError}
    (h : Stopped svc events (.error e : Except ServiceError α)) :
  Stopped svc events (.error e : Except ServiceError β)
  := by
  obtain ⟨e', he, hstops⟩ := h
  obtain rfl := Except.error.inj he
  exact ⟨e, rfl, hstops⟩

/-- A batch is applied, or its failure is recorded, or the import stops. -/
theorem Going.batch {seq applied noop : Nat} {batch : List ImportRecord}
    {f : Nat → TenantProgram β}
    (h : Going req.operationKey (.settled row) events s'
      ((svc.applyOneBatch hmac req jobId seq batch).rescue
        (fun _ => Service.failBatch req jobId applied noop) >>= f) r) :
  Arrives svc events r fun after =>
    (∃ bApplied, Going req.operationKey (.settled row) after s' (f bApplied) r)
      ∨ after = [] ∧ ∃ e, r = .error e ∧ Recorded s' e
  := by
  obtain ⟨hrun, hports, htracks⟩ := h
  -- the calls of the batch itself, however it ends
  have hduring : ∀ {during rest : List (Event tenantSignature ServiceError)}
      {r' : Except ServiceError Nat},
      Runs (svc.applyOneBatch hmac req jobId seq batch) during r' → events = during ++ rest →
        Passed svc events rest ∧ PortsAnswer rest
          ∧ Tracks req.operationKey (.settled row) rest s' := by
    rintro during rest r' hbatch rfl
    have hcalls := applyOneBatch_inBatch.of_runs hbatch
    obtain ⟨s₁, hquiet, htracks'⟩ := tracks_append.mp htracks
    obtain rfl := hquiet.quiet (quiet_of_batch hcalls)
    exact ⟨⟨during, rfl, keepsGoing_of_batch hcalls, marks_of_batch hcalls⟩,
      (portsAnswer_append.mp hports).2, htracks'⟩
  rcases runs_bind.mp hrun with ⟨before, after, bApplied, rfl, hrescued, hafter⟩
    | ⟨e, rfl, hrescued⟩
  · obtain ⟨during, handling, r', rfl, hbatch, hhandling⟩ := runs_andThen.mp hrescued
    rw [List.append_assoc] at hduring
    obtain ⟨hpassed, hports', htracks'⟩ := hduring hbatch rfl
    cases r' with
    | ok bApplied' =>
        obtain ⟨rfl, hok⟩ := hhandling
        obtain rfl := Except.ok.inj hok
        left
        rw [List.append_nil]
        exact ⟨after, hpassed, .inl ⟨bApplied, hafter, hports', htracks'⟩⟩
    | error e =>
        -- a failure is raised again, so it is no result
        obtain ⟨s₁, htracksHandling, -⟩ := tracks_append.mp htracks'
        rcases Going.failBatch svc ⟨hhandling, (portsAnswer_append.mp hports').1, htracksHandling⟩
          with ⟨_, -, -, _, hr, -⟩ | ⟨_, hr, -⟩
        · cases hr
        · cases hr
  · obtain ⟨during, handling, r', rfl, hbatch, hhandling⟩ := runs_andThen.mp hrescued
    obtain ⟨hpassed, hports', htracks'⟩ := hduring hbatch rfl
    cases r' with
    | ok bApplied' => cases hhandling.2
    | error e' =>
        have hfail : Arrives svc (during ++ handling) (.error e : Except ServiceError Nat) _ :=
          Arrives.trans (.inl ⟨handling, hpassed, rfl⟩) (by
            rintro _ rfl
            apply Going.failBatch svc ⟨hhandling, hports', htracks'⟩)
        rcases hfail with ⟨after, hpassed', rfl, e₁, he₁, hrecorded⟩ | hstopped
        · left
          obtain rfl := Except.error.inj he₁
          exact ⟨[], hpassed', .inr ⟨rfl, e, rfl, hrecorded⟩⟩
        · right
          apply hstopped.error

/-- The batches are applied, or the failure of one is recorded, or the import stops. -/
theorem Going.applyFrom {startSeq seq applied noop : Nat} {bs : List (List ImportRecord)}
    {f : Nat × Nat → TenantProgram β}
    (h : Going req.operationKey (.settled row) events s'
      (svc.applyFrom hmac req jobId startSeq seq bs applied noop >>= f) r) :
  Arrives svc events r fun after =>
    (∃ counts, Going req.operationKey (.settled row) after s' (f counts) r)
      ∨ after = [] ∧ ∃ e, r = .error e ∧ Recorded s' e
  := by
  induction bs generalizing events seq applied noop with
  | nil =>
      left
      exact ⟨events, .refl, .inl ⟨(applied, noop), h⟩⟩
  | cons batch rest ih =>
      rw [Service.applyFrom] at h
      split at h
      · apply ih h
      · simp only [bind_assoc] at h
        apply (h.call svc rfl rfl).trans
        rintro after ⟨_, hbatch⟩
        apply (hbatch.batch svc).trans
        rintro after (⟨bApplied, hcommit⟩ | hrecorded)
        · apply (hcommit.call svc rfl rfl).trans
          rintro after ⟨_, hrest⟩
          apply ih hrest
        · left
          exact ⟨after, .refl, .inr hrecorded⟩

/-! ### The ends of an import -/

/-- The event of an import. -/
def importEvent (req : ImportRequest) (action outcome : String) : AuditEvent :=
  ⟨req.actorRef, action, req.correlationId, outcome, req.tenantId, some req.source.ref⟩

/-- The audit sink takes the event. -/
theorem Going.told {action outcome : String} {f : TenantProgram β}
    (h : Going k (.settled row) events s' (emitAudit req action outcome >>= fun _ => f) r) :
  ∃ rest, events = ⟨.initiate (importEvent req action outcome), .ok ()⟩ :: rest
    ∧ Going k (.settled row) rest s' f r
  := by
  obtain ⟨hrun, hports, htracks⟩ := h
  rcases runs_perform_bind.mp hrun with ⟨_, rest, rfl, hrest⟩ | ⟨e, rfl, rfl⟩
  · obtain ⟨_, hstep, htracks'⟩ := htracks
    rw [show _ = _ from hstep] at htracks'
    exact ⟨rest, rfl, hrest, (List.forall_mem_cons.mp hports).2, htracks'⟩
  · exact (hports _ (List.mem_singleton_self _)).elim

/-- An event that neither starts nor ends an import. -/
theorem Going.noted {action outcome : String} {f : TenantProgram β}
    (h : Going k (.settled row) events s' (emitAudit req action outcome >>= fun _ => f) r)
    (haction : action ∉ importActions) :
  Arrives svc events r fun after => Going k (.settled row) after s' f r
  := by
  obtain ⟨rest, rfl, hrest⟩ := h.told
  left
  refine ⟨rest, ⟨[_], rfl, ?_, ?_⟩, hrest⟩
  · apply keepsGoing_of_answered
    · simp [Answered]
    · simp
  · apply marks_eq_nil
    intro e he event hevent
    obtain rfl := List.mem_singleton.mp he
    obtain rfl := Option.some.inj hevent
    apply haction

/-- The kind of the source is supported, or the row of the operation tells how its import
ended. -/
def Supported (svc : Service) (req : ImportRequest) (row : Option IdempotencyRow) : Prop :=
  svc.sources req.source.kind = none →
    ∃ row', row = some row' ∧ row'.status ∈ ["applied", "failed"]

/-- How the body of an import ends where the row was `row` before: with the event that ends the
import, or with an exception for which there is none yet. -/
inductive Ended (svc : Service) (req : ImportRequest) (row : Option IdempotencyRow)
    (s' : RowState) :
    List (Event tenantSignature ServiceError) → Except ServiceError ImportStatus → Prop
  | completed (status : ImportStatus) (row' : IdempotencyRow) (outcome : String)
      (hrow : s' = .settled (some row'))
      (hstate : ImportState.ofStatus row'.status = status.state ↔ Supported svc req row) :
      Ended svc req row s' [⟨.initiate (importEvent req "ImportCompleted" outcome), .ok ()⟩]
        (.ok status)
  | failed (code : String) (status : ImportStatus) (row' : IdempotencyRow)
      (hrow : s' = .settled (some row'))
      (hstate : ImportState.ofStatus row'.status = status.state ↔ Supported svc req row) :
      Ended svc req row s' [] (.error (.importFailed code status))

/-- The counts are recorded, and the import completes, or it stops. -/
theorem Going.finalize {applied noop rejected : Nat} {r : Except ServiceError ImportStatus}
    (h : Going req.operationKey (.settled row) events s'
      (Service.finalize req jobId applied noop rejected) r)
    (hkind : svc.sources req.source.kind ≠ none) :
  Arrives svc events r fun after => Ended svc req row s' after r
  := by
  apply (h.call svc rfl rfl).trans
  rintro after ⟨_, hjob⟩
  apply (hjob.beside svc upsertJob_straight upsertJob_besideRow).trans
  rintro after ⟨_, hrecord⟩
  apply (hrecord.record svc).mono
  rintro after ⟨row', hstatus, hgoing⟩
  obtain ⟨rest, rfl, ⟨rfl, rfl⟩, -, htracks⟩ := hgoing.told
  apply Ended.completed _ row' "success" htracks
  constructor
  · exact fun _ hnone => absurd hnone hkind
  · intro _
    rw [hstatus]
    rfl

/-- A recorded failure ends the body. -/
theorem Recorded.ended {row : Option IdempotencyRow} {e : ServiceError}
    (h : Recorded s' e) (hkind : svc.sources req.source.kind ≠ none) :
  Ended svc req row s' [] (.error e)
  := by
  obtain ⟨code, status, row', rfl, hstate, hrow, hstatus⟩ := h
  apply Ended.failed code status row' hrow
  constructor
  · exact fun _ hnone => absurd hnone hkind
  · intro _
    rw [hstatus, hstate]
    rfl

/-- The batches are applied to the end, or the import stops; without a batch size it does. -/
theorem Going.applyBatches {valid : List ImportRecord} {startSeq rejected : Nat}
    {r : Except ServiceError ImportStatus} (hsize : svc.batchSize ≠ 0)
    (h : Going req.operationKey (.settled row) events s'
      (svc.applyBatches hmac req jobId valid startSeq >>= fun counts =>
        Service.finalize req jobId counts.1 counts.2 rejected) r)
    (hkind : svc.sources req.source.kind ≠ none) :
  Arrives svc events r fun after => Ended svc req row s' after r
  := by
  rw [Service.applyBatches, batches, if_neg hsize] at h
  apply (h.applyFrom svc).trans
  rintro after (⟨counts, hfinal⟩ | ⟨rfl, e, rfl, hrecorded⟩)
  · apply hfinal.finalize svc hkind
  · left
    exact ⟨[], .refl, hrecorded.ended svc hkind⟩

/-- Without a batch size the import stops once the source is read. -/
theorem Going.unsized {valid : List ImportRecord} {rejected : Nat}
    {r : Except ServiceError ImportStatus} (hsize : svc.batchSize = 0)
    (h : Going req.operationKey (.settled row) events s'
      (resumePoint jobId >>= fun startSeq =>
        svc.applyBatches hmac req jobId valid startSeq >>= fun counts =>
          Service.finalize req jobId counts.1 counts.2 rejected) r) :
  ∃ e, r = .error e ∧ Foreign e ∧ marks events = []
  := by
  obtain ⟨hrun, hports, -⟩ := h
  rcases resumePoint_straight.runs_bind hrun with ⟨before, after, startSeq, rfl, hbefore, -, hafter⟩
    | ⟨e, rfl, hraises, hraised⟩
  · rw [Service.applyBatches, batches, if_pos hsize] at hafter
    obtain ⟨rfl, rfl⟩ := runs_raise.mp hafter
    refine ⟨.valueError, rfl, fun _ _ => nofun, ?_⟩
    rw [List.append_nil]
    apply marks_of_ledger fun e he => (resumePoint_besideRow.of_runs hbefore e he).1
  · have hledger := fun e he => (resumePoint_besideRow.of_runs hraises e he).1
    refine ⟨e, rfl, ?_, marks_of_ledger hledger⟩
    apply (raised_outside svc hports
      (fun e he => outside_of_ledger (hledger e he)) hraised).1

/-- The import of a job that is not applied ends with its event or with a failure to surface, or
it stops. -/
theorem Going.proceed {row : IdempotencyRow} {resuming : Bool}
    {r : Except ServiceError ImportStatus} (hrow : row.status ≠ "applied")
    (h : Going req.operationKey (.settled (some row)) events s'
      (svc.proceed hmac req jobId resuming) r) :
  Arrives svc events r fun after => Ended svc req (some row) s' after r
  := by
  apply (h.noted svc (by cases resuming <;> decide)).trans
  intro after hcollect
  rw [Service.collect] at hcollect
  cases hkind : svc.sources req.source.kind with
  | none =>
      rw [hkind] at hcollect
      obtain ⟨⟨rfl, rfl⟩, -, htracks⟩ := hcollect
      left
      refine ⟨[], .refl, .failed _ _ row htracks ?_⟩
      have hsupported : Supported svc req (some row) ↔ row.status = "failed" := by
        simp [Supported, hkind, hrow]
      rw [hsupported, ImportState.ofStatus, if_neg hrow]
      split <;> simp [*, failedStatus]
  | some adapter =>
      have hsome : svc.sources req.source.kind ≠ none := by simp [hkind]
      rw [hkind] at hcollect
      simp only [bind_assoc] at hcollect
      obtain ⟨hrun, hports, htracks⟩ := hcollect
      rcases runs_perform_bind.mp hrun with ⟨raws, rest, rfl, hrest⟩ | ⟨e, rfl, rfl⟩
      · have hread : marks [⟨.readSource adapter req.source, .ok raws⟩] = [] := rfl
        obtain ⟨_, hstep, htracks'⟩ := htracks
        rw [show _ = _ from hstep] at htracks'
        rw [pure_bind] at hrest
        have hgoing := Going.mk hrest (List.forall_mem_cons.mp hports).2 htracks'
        by_cases hsize : svc.batchSize = 0
        · right
          obtain ⟨e, rfl, hforeign, hmarks⟩ := hgoing.unsized svc hsize
          refine ⟨e, rfl, hforeign, fun hkeeps => ?_, ?_⟩
          · apply (hkeeps _ List.mem_cons_self).2 adapter req.source rfl hsize
          · apply (marks_append [_] rest).trans
            rw [hread, hmarks, List.nil_append]
        · apply Arrives.trans (P := (· = rest))
          · left
            refine ⟨rest, ⟨[_], rfl, ?_, hread⟩, rfl⟩
            intro e he
            obtain rfl := List.mem_singleton.mp he
            exact ⟨fun _ => ⟨raws, rfl⟩, fun _ _ _ => hsize⟩
          · rintro _ rfl
            apply (hgoing.beside svc resumePoint_straight resumePoint_besideRow).trans
            rintro after ⟨startSeq, hbatches⟩
            apply hbatches.applyBatches svc hsize hsome
      · right
        have hraised := raised_outside svc hports
          (fun e he => by rw [List.mem_singleton.mp he]; rfl)
          ⟨_, List.mem_singleton_self _, rfl⟩
        exact ⟨e, rfl, hraised.1, hraised.2, rfl⟩

theorem Ended.of_supported {row row' : Option IdempotencyRow}
    {r : Except ServiceError ImportStatus} (h : Ended svc req row s' events r)
    (hiff : Supported svc req row ↔ Supported svc req row') :
  Ended svc req row' s' events r
  := by
  cases h with
  | completed status row₁ outcome hrow hstate =>
      exact .completed status row₁ outcome hrow (hstate.trans hiff)
  | failed code status row₁ hrow hstate =>
      exact .failed code status row₁ hrow (hstate.trans hiff)

/-- The body of an import ends with its event or with a failure to surface, or it stops. -/
theorem Going.importBody {r : Except ServiceError ImportStatus}
    (h : Going req.operationKey (.settled row) events s' (svc.importBody hmac req) r) :
  Arrives svc events r fun after => Ended svc req row s' after r
  := by
  apply (h.beginJob svc).trans
  rintro after ⟨job, row', hbegan, hgoing⟩
  cases hbegan with
  | replayed idem hrow hstatus =>
      obtain ⟨rest, rfl, ⟨rfl, rfl⟩, -, htracks⟩ := hgoing.told
      left
      refine ⟨_, .refl, .completed _ row' "replayed" htracks ?_⟩
      simp [ImportState.ofStatus, hstatus, Supported, hrow, replayStatus]
  | resumed idem hrow hstatus =>
      rw [hrow]
      apply hgoing.proceed svc hstatus
  | opened jobId row' hrow hstatus =>
      have hfresh : row'.status ≠ "applied" := by simp [hstatus]
      apply (hgoing.proceed svc hfresh).mono
      intro rest hended
      apply hended.of_supported
      simp [Supported, hrow, hstatus]

/-- The import has told its end, and what its row tells is the state it returns where the kind of
the source is supported, or the row told its end before. -/
def Told (svc : Service) (req : ImportRequest) (row : Option IdempotencyRow) (s' : RowState)
    (events : List (Event tenantSignature ServiceError)) (status : ImportStatus) : Prop :=
  ∃ action outcome row', action ∈ ["ImportCompleted", "ImportFailed"]
    ∧ marks events = [importEvent req action outcome] ∧ s' = .settled (some row')
    ∧ (ImportState.ofStatus row'.status = status.state ↔ Supported svc req row)

theorem surface_foreign {e : ServiceError} (h : Foreign e) :
  Service.surface req e = raise e
  := by
  cases e with
  | importFailed code status => exact (h code status rfl).elim
  | _ => rfl

/-- The guarded body of an import tells its end, or the import stops. -/
theorem Going.guarded {r : Except ServiceError ImportStatus}
    (h : Going req.operationKey (.settled row) events s'
      ((svc.importBody hmac req).rescue (Service.surface req)) r) :
  (KeepsGoing svc events ∧ ∃ status, r = .ok status ∧ Told svc req row s' events status)
    ∨ Stopped svc events r
  := by
  obtain ⟨hrun, hports, htracks⟩ := h
  obtain ⟨before, handling, r', rfl, hbody, hhandling⟩ := runs_andThen.mp hrun
  obtain ⟨hports₁, hports₂⟩ := portsAnswer_append.mp hports
  obtain ⟨s₁, hs₁, htracks'⟩ := tracks_append.mp htracks
  rcases (Going.mk hbody hports₁ hs₁).importBody svc with ⟨after, hpassed, hended⟩ | hstopped
  · cases hended with
    | completed status row' outcome hrow hstate =>
        obtain ⟨rfl, rfl⟩ := hhandling
        have hs' : s' = s₁ := htracks'
        rw [List.append_nil]
        left
        refine ⟨hpassed.keeps.mpr ?_, status, rfl, "ImportCompleted", outcome, row', by simp,
          hpassed.marks, hs'.trans hrow, hstate⟩
        apply keepsGoing_of_answered
        · simp [Answered]
        · simp
    | failed code status row' hrow hstate =>
        subst hrow
        obtain ⟨rest, rfl, ⟨rfl, rfl⟩, -, hs'⟩ := (Going.mk hhandling hports₂ htracks').told
        left
        refine ⟨keepsGoing_append.mpr ⟨hpassed.keeps.mpr (List.forall_mem_nil _), ?_⟩, status, rfl,
          "ImportFailed", "error:" ++ code, row', by simp, ?_, hs', hstate⟩
        · apply keepsGoing_of_answered
          · simp [Answered]
          · simp
        · rw [marks_append, hpassed.marks]
          rfl
  · obtain ⟨e, rfl, hforeign, hnot, hmarks⟩ := hstopped
    have hraise : Runs (Service.surface req e) handling r := hhandling
    rw [surface_foreign hforeign] at hraise
    obtain ⟨rfl, rfl⟩ := runs_raise.mp hraise
    rw [List.append_nil]
    right
    exact ⟨e, rfl, hforeign, hnot, hmarks⟩

end Parts

/-! ### The report of an import -/

/-- What `get_status` tells of the operation where its row is in the state `s`. -/
def Reports (req : ImportRequest) (s : RowState) (state : ImportState) : Prop :=
  ∀ correlationId events s' polled,
    Runs (getStatus req.tenantId req.operationKey correlationId) events (.ok polled) →
      Tracks req.operationKey s events s' →
        ∃ status : ImportStatus, polled = some status ∧ status.state = state

/-- The two events are of one import. -/
def sameImport (start last : AuditEvent) : Prop :=
  last.actorRef = start.actorRef ∧ last.correlationId = start.correlationId
    ∧ last.targetRef = start.targetRef ∧ last.sourceRef = start.sourceRef

/-- Every start of the import in the audit trail is followed by exactly one end of it, and where
the import returned, `get_status` tells its state afterwards. -/
def ImportReported (req : ImportRequest)
    (events : List (Event tenantSignature ServiceError)) (s' : RowState)
    (r : Except ServiceError ImportStatus) : Prop :=
  Paired importStarts importEnds sameImport (collected initiated events)
    ∧ ∀ status, r = .ok status → Reports req s' status.state

/-- The last call is the closing of the session, and raises. -/
def CloseRaises (events : List (Event tenantSignature ServiceError)) : Prop :=
  ∃ e, events.getLast? = some ⟨.close, .error e⟩

section Report

variable {req : ImportRequest} {row : Option IdempotencyRow} {s' : RowState}
  {events : List (Event tenantSignature ServiceError)}

/-- A poll that returns tells the row of the operation. -/
theorem getStatus_polls {k tenantId correlationId : String} {polled : Option ImportStatus}
    (h : Runs (getStatus tenantId k correlationId) events (.ok polled))
    (htracks : Tracks k (.settled row) events s') :
  polled = row.map (storedStatus tenantId correlationId)
  := by
  rcases runs_perform_bind.mp h with ⟨_, rest, rfl, hrest⟩ | ⟨_, he, -⟩
  · rcases runs_bind.mp hrest with ⟨before, _, idem, rfl, hfinally, rfl, hok⟩ | ⟨_, he, -⟩
    · obtain rfl := Except.ok.inj hok
      obtain ⟨during, r', answer, rfl, hread, hr⟩ := runs_finally_perform.mp hfinally
      cases answer with
      | error e => cases hr
      | ok _ =>
          obtain rfl : .ok idem = r' := hr
          rcases runs_perform_bind.mp hread with ⟨_, rest, rfl, hget⟩ | ⟨_, he, -⟩
          · rcases runs_perform_bind.mp hget with ⟨idem', rest, rfl, hcommit⟩ | ⟨_, he, -⟩
            · rcases runs_perform_bind.mp hcommit with ⟨_, rest, rfl, rfl, hidem⟩ | ⟨_, he, -⟩
              · obtain rfl := Except.ok.inj hidem
                obtain ⟨s₁, hopened, s₂, hbegun, s₃, ⟨hview, -⟩, -⟩ := htracks
                have hs₁ : s₁ = .settled row := hopened
                have hs₂ : s₂ = s₁ := hbegun
                rw [hs₂, hs₁] at hview
                rw [hview rfl]
                rfl
              · cases he
            · cases he
          · cases he
    · cases he
  · cases he

theorem reports_iff {state : ImportState} :
  Reports req (.settled row) state
    ↔ ∃ row', row = some row' ∧ ImportState.ofStatus row'.status = state
  := by
  constructor
  · intro h
    obtain ⟨status, hpolled, rfl⟩ := h ""
      [⟨.openSession, .ok ()⟩, ⟨.begin, .ok ()⟩, ⟨.getIdempotency req.operationKey, .ok row⟩,
        ⟨.commit, .ok ()⟩, ⟨.close, .ok ()⟩] (.settled row)
      (row.map (storedStatus req.tenantId ""))
      ⟨_, _, rfl, _, _, rfl, _, _, rfl, _, _, rfl, _, _, rfl, rfl, rfl⟩
      ⟨_, rfl, _, rfl, _, ⟨fun _ => rfl, rfl⟩, _, rfl, _, rfl, rfl⟩
    obtain ⟨row', rfl, rfl⟩ := Option.map_eq_some_iff.mp hpolled
    exact ⟨row', rfl, rfl⟩
  · rintro ⟨row', rfl, rfl⟩ correlationId events s' polled hrun htracks
    use storedStatus req.tenantId correlationId row'
    exact ⟨getStatus_polls hrun htracks, rfl⟩

variable (svc : Service) (hmac : Lineage.Hmac) (req) {r : Except ServiceError ImportStatus}

/-- The calls that open and close the session neither start nor end the import. -/
theorem marks_session {during : List (Event tenantSignature ServiceError)}
    {answer : Except ServiceError Unit} :
  marks (⟨.openSession, .ok ()⟩ :: (during ++ [⟨.close, answer⟩])) = marks during
  := by
  have hopen : marks [⟨.openSession, .ok ()⟩] = [] := rfl
  have hclose : marks [⟨.close, answer⟩] = [] := rfl
  rw [← List.singleton_append, marks_append, marks_append, hopen, hclose, List.append_nil,
    List.nil_append]

/-- The import keeps going in a session where it keeps going within. -/
theorem keepsGoing_session {during : List (Event tenantSignature ServiceError)}
    (answer : Except ServiceError Unit) :
  KeepsGoing svc (⟨.openSession, .ok ()⟩ :: (during ++ [⟨.close, answer⟩]))
    ↔ KeepsGoing svc during
  := by
  have hopen : keepsGoing svc ⟨.openSession, .ok ()⟩ := ⟨fun _ => ⟨(), rfl⟩, nofun⟩
  have hclose : keepsGoing svc ⟨.close, answer⟩ := ⟨nofun, nofun⟩
  simp only [KeepsGoing, List.forall_mem_cons, List.forall_mem_append, hopen, hclose, true_and,
    List.not_mem_nil, false_imp_iff, implies_true, and_true]

/-- An import tells its end and closes the session, or it stops. -/
theorem Going.startImport
    (h : Going req.operationKey (.settled row) events s' (svc.startImport hmac req) r) :
  ∃ rest, events = ⟨.initiate (importEvent req "ImportRequested" "success"), .ok ()⟩ :: rest
    ∧ (Stopped svc rest r
      ∨ KeepsGoing svc rest ∧ ∃ status, Told svc req row s' rest status
        ∧ (r = .ok status ∧ ¬ CloseRaises events ∨ (∃ e, r = .error e) ∧ CloseRaises events))
  := by
  obtain ⟨rest, rfl, hrun, hports, htracks⟩ := h.told
  use rest, rfl
  rcases runs_perform_bind.mp hrun with ⟨_, rest, rfl, hbody⟩ | ⟨e, rfl, rfl⟩
  · obtain ⟨during, r', answer, rfl, hguarded, rfl⟩ := runs_finally_perform.mp hbody
    obtain ⟨s₁, hopen, htracks⟩ := htracks
    obtain rfl : s₁ = .settled row := hopen
    obtain ⟨s₂, hs₂, s₃, hclose, hend⟩ := tracks_append.mp htracks
    obtain ⟨hports₁, hports₂⟩ := portsAnswer_append.mp (List.forall_mem_cons.mp hports).2
    have hlast : (⟨.initiate (importEvent req "ImportRequested" "success"), .ok ()⟩
        :: ⟨.openSession, .ok ()⟩ :: (during ++ [⟨.close, answer⟩])).getLast?
          = some (⟨.close, answer⟩ : Event tenantSignature ServiceError) := by
      rw [← List.cons_append, ← List.cons_append, List.getLast?_concat]
    rcases (Going.mk hguarded hports₁ hs₂).guarded svc with
      ⟨hkeeps, status, rfl, action, outcome, row', haction, hmarks, rfl, hstate⟩
      | ⟨e, rfl, hforeign, hnot, hmarks⟩
    · right
      have hs' : s' = .settled (some row') := Eq.trans hend hclose
      refine ⟨(keepsGoing_session svc answer).mpr hkeeps, status,
        ⟨action, outcome, row', haction, marks_session.trans hmarks, hs', hstate⟩, ?_⟩
      cases answer with
      | ok _ =>
          left
          use rfl
          rintro ⟨e, he⟩
          rw [hlast] at he
          cases he
      | error e =>
          right
          exact ⟨⟨e, rfl⟩, e, hlast⟩
    · left
      have hstopped := fun h => hnot ((keepsGoing_session svc answer).mp h)
      cases answer with
      | ok _ => exact ⟨e, rfl, hforeign, hstopped, marks_session.trans hmarks⟩
      | error e' =>
          refine ⟨e', rfl, ?_, hstopped, marks_session.trans hmarks⟩
          rintro code status rfl
          apply hports₂ _ (List.mem_singleton_self _)
  · left
    have hraised := raised_outside svc hports
      (fun e he => by rw [List.mem_singleton.mp he]; rfl) ⟨_, List.mem_singleton_self _, rfl⟩
    exact ⟨e, rfl, hraised.1, hraised.2, rfl⟩

/-- An import is reported where it keeps going and its source is of a supported kind, its row
told its end before, or the closing of its session raises. -/
theorem import_reported_iff {events : List (Event tenantSignature ServiceError)} {s' : RowState}
    {r : Except ServiceError ImportStatus} (row : Option IdempotencyRow)
    (hrun : Runs (svc.startImport hmac req) events r) (hports : PortsAnswer events)
    (htracks : Tracks req.operationKey (.settled row) events s') :
  ImportReported req events s' r
    ↔ KeepsGoing svc events ∧ (Supported svc req row ∨ CloseRaises events)
  := by
  obtain ⟨rest, rfl, hend⟩ := Going.startImport req svc hmac ⟨hrun, hports, htracks⟩
  generalize hstart : importEvent req "ImportRequested" "success" = start at *
  have hstarts : importStarts start := by rw [← hstart]; rfl
  have hboundaries : boundaries importStarts importEnds
      (collected initiated (⟨.initiate start, .ok ()⟩ :: rest)) = start :: marks rest := by
    apply (marks_append [⟨.initiate start, .ok ()⟩] rest).trans
    rw [← hstart]
    rfl
  have hkeeps : KeepsGoing svc (⟨.initiate start, .ok ()⟩ :: rest) ↔ KeepsGoing svc rest := by
    have hrequested : keepsGoing svc ⟨.initiate start, .ok ()⟩ := ⟨nofun, nofun⟩
    simp only [KeepsGoing, List.forall_mem_cons, hrequested, true_and]
  rcases hend with ⟨e, rfl, -, hnot, hmarks⟩ | ⟨hkeepsRest, status, htold, hclosed⟩
  · constructor
    · rintro ⟨hpaired, -⟩
      rw [hmarks] at hboundaries
      exact (not_paired_of_single hboundaries hstarts hpaired).elim
    · rintro ⟨hkeeps', -⟩
      exact (hnot (hkeeps.mp hkeeps')).elim
  · obtain ⟨action, outcome, row', haction, hmarks, rfl, hstate⟩ := htold
    rw [hmarks] at hboundaries
    have hpaired : Paired importStarts importEnds sameImport
        (collected initiated (⟨.initiate start, .ok ()⟩ :: rest)) := by
      apply paired_of_pair start (importEvent req action outcome) hboundaries
      · simpa [importEnds, importEvent] using haction
      · rcases List.mem_pair.mp haction with rfl | rfl <;> rfl
      · rw [← hstart]
        exact ⟨rfl, rfl, rfl, rfl⟩
    rcases hclosed with ⟨rfl, hclosed⟩ | ⟨⟨e, rfl⟩, hclosed⟩
    · have hreports : Reports req (.settled (some row')) status.state ↔ Supported svc req row := by
        rw [reports_iff, ← hstate]
        simp
      constructor
      · rintro ⟨-, hreport⟩
        exact ⟨hkeeps.mpr hkeepsRest, .inl (hreports.mp (hreport status rfl))⟩
      · rintro ⟨-, hsupported | hraises⟩
        · use hpaired
          intro status' hstatus
          obtain rfl := Except.ok.inj hstatus
          apply hreports.mpr hsupported
        · exact (hclosed hraises).elim
    · constructor
      · intro _
        exact ⟨hkeeps.mpr hkeepsRest, .inr hclosed⟩
      · intro _
        exact ⟨hpaired, nofun⟩

end Report

section Unread

/-- An upload that nobody imported before. -/
def uploadRequest : ImportRequest where
  tenantId := "t1"
  source := ⟨.csv, "upload-1", some "record_id\n1", none⟩
  operationKey := "op-1"
  correlationId := "c-1"
  actorRef := "user:1"
  naturalKeyField := "record_id"
  targetTable := "tenant_copy"

/-- A service with these adapters. -/
def uploadService (sources : SourceKind → Option SourceAdapter) : Service :=
  ⟨⟨"secretstore/t", true, false⟩, sources, "1", 2⟩

/-- The calls of the import up to its start, where it opens the job `j1`. -/
def callsToStart : List (Event tenantSignature ServiceError) :=
  [⟨.initiate (importEvent uploadRequest "ImportRequested" "success"), .ok ()⟩,
    ⟨.openSession, .ok ()⟩, ⟨.begin, .ok ()⟩, ⟨.getIdempotency "op-1", .ok none⟩,
    ⟨.uuid4, .ok "j1"⟩, ⟨.getJob "j1", .ok none⟩,
    ⟨.putJob (jobRow uploadRequest "j1" "in_progress"), .ok ()⟩,
    ⟨.getIdempotency "op-1", .ok none⟩,
    ⟨.putIdempotency "op-1" ⟨"j1", "in_progress", none⟩, .ok ()⟩, ⟨.commit, .ok ()⟩,
    ⟨.initiate (importEvent uploadRequest "ImportStarted" "success"), .ok ()⟩]

/-- The row that the calls leave. -/
def startedRow : IdempotencyRow :=
  (⟨"j1", "in_progress", none⟩ : IdempotencyColumns).over "op-1" none

theorem callsToStart_tracks :
  Tracks "op-1" (.settled none) callsToStart (.settled (some startedRow))
  := ⟨_, rfl, _, rfl, _, rfl, _, ⟨fun _ => rfl, rfl⟩, _, rfl, _, rfl, _, rfl, _,
    ⟨fun _ => rfl, rfl⟩, _, rfl, _, rfl, _, rfl, rfl⟩

/-- The source cannot be read. -/
def unreadCalls : List (Event tenantSignature ServiceError) :=
  callsToStart ++ [⟨.readSource .csv uploadRequest.source, .error .port⟩, ⟨.close, .ok ()⟩]

/-- The kind of the source is not supported. -/
def unsupportedCalls : List (Event tenantSignature ServiceError) :=
  callsToStart
    ++ [⟨.initiate (importEvent uploadRequest "ImportFailed" "error:unsupported_source"), .ok ()⟩,
      ⟨.close, .ok ()⟩]

theorem unsupportedCalls_run :
  Runs ((uploadService fun _ => none).startImport (fun _ _ => "") uploadRequest) unsupportedCalls
    (.ok (failedStatus uploadRequest "unknown" 0 0 0))
  := by
  apply Runs.of_replay
  decide

theorem unsupportedCalls_tracks :
  Tracks "op-1" (.settled none) unsupportedCalls (.settled (some startedRow))
  := tracks_append.mpr ⟨_, callsToStart_tracks, _, rfl, _, rfl, rfl⟩

/-- The theorem on the import of an unsupported kind: it fails, and its row goes on saying that
it is in progress. -/
theorem import_reported_iff_unsupported :
  ImportReported uploadRequest unsupportedCalls (.settled (some startedRow))
      (.ok (failedStatus uploadRequest "unknown" 0 0 0))
    ↔ KeepsGoing (uploadService fun _ => none) unsupportedCalls
      ∧ (Supported (uploadService fun _ => none) uploadRequest none ∨ CloseRaises unsupportedCalls)
  := import_reported_iff uploadRequest (uploadService fun _ => none) (fun _ _ => "") none
    unsupportedCalls_run (by simp [PortsAnswer, unsupportedCalls, callsToStart, portAnswers])
    unsupportedCalls_tracks

/-- An import whose source cannot be read starts and does not end. -/
theorem import_unreported :
  Runs ((uploadService fun _ => some .csv).startImport (fun _ _ => "") uploadRequest) unreadCalls
      (.error .port)
    ∧ PortsAnswer unreadCalls
    ∧ Tracks "op-1" (.settled none) unreadCalls (.settled (some startedRow))
    ∧ ¬ ImportReported uploadRequest unreadCalls (.settled (some startedRow)) (.error .port)
  := by
  refine ⟨?_, ?_, ?_, ?_⟩
  · apply Runs.of_replay
    decide
  · simp [PortsAnswer, unreadCalls, callsToStart, portAnswers]
  · exact tracks_append.mpr ⟨_, callsToStart_tracks, _, rfl, _, rfl, rfl⟩
  · rintro ⟨hpaired, -⟩
    have hboundaries : boundaries importStarts importEnds (collected initiated unreadCalls)
        = [importEvent uploadRequest "ImportRequested" "success"] := rfl
    apply not_paired_of_single hboundaries rfl hpaired

end Unread

end ImportService
