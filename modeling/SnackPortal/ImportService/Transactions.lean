import SnackPortal.ImportService.Resumption
import SnackPortal.TenantDatabase.Committing

/-!
# The transactions of an import

What an import commits, whatever else works on the tenant database and wherever the import
fails: its opening, then whole batches in order, each with the lineage rows of all its records
and its checkpoint, and at the end the mark of the failure or the record of its counts.  A batch
that fails leaves nothing.
-/

namespace ImportService

open Lineage (Hmac LineageEmit LineageIntent LineageRow)
open Machine TenantDatabase Discipline

/-! ### What an import commits -/

/-- The changes of the upsert of a record: its row, as the columns take it, where it is written. -/
def upserted (columns : ColumnTypes) (req : ImportRequest) (record : ImportRecord)
    (changed : Bool) : List Change :=
  if changed then
    [.putRecord (recordKey req record) (columns.taken (recordKey req record)
      (recordRow req record))]
  else
    []

section Commits

variable (chainKey : String) (svc : Service) (hmac : Hmac) (req : ImportRequest)
  (columns : ColumnTypes)

/-- The changes of the records, of which `applied` were written: those whose row, in the tables
that the import sees at their turn, does not carry them. -/
inductive RecordsApplied (Sees : Tables → Prop) (jobId : String) :
    List ImportRecord → Nat → List Change → Prop where
  | nil : RecordsApplied Sees jobId [] 0 []
  | snoc {records : List ImportRecord} {applied : Nat} {ws : List Change}
      (h : RecordsApplied Sees jobId records applied ws) (record : ImportRecord) {d d' : Tables}
      (hd : Sees d) {changed : Bool} (hchanged : changed = !CarriedIn (tenantSchema.applyAll ws d)
        (recordKey req record) (recordRow req record))
      {ws' : List Change} (hws' : ws' = ws ++ upserted columns req record changed)
      (hd' : Sees d') {occurredAt lineageId : String} {row : LineageRow}
      (hrow : LineageEmit.row hmac chainKey (Lineage.latest (tenantSchema.applyAll ws' d').lineage)
        lineageId (svc.importIntent req jobId occurredAt record changed) = .ok row) :
      RecordsApplied Sees jobId (records ++ [record]) (if changed then applied + 1 else applied)
        (ws' ++ [.appendLineage row])

/-- The changes of a whole batch: those of its records, and its checkpoint. -/
def BatchApplied (Sees : Tables → Prop) (jobId : String) (seq : Nat) (batch : List ImportRecord)
    (applied : Nat) (ws : List Change) : Prop :=
  ∃ records updatedAt, RecordsApplied chainKey svc hmac req columns Sees jobId batch applied records
    ∧ ws = records ++ [.appendCheckpoint ⟨jobId, seq, seq * svc.batchSize.toNat, applied,
      "applied", updatedAt⟩]

/-- How far an import is: at which batch and with which counts, once it has read its source. -/
inductive Stage where
  | requested
  | opened (jobId : String)
  | importing (jobId : String) (raws : List RawRecord) (seq applied noop : Nat)
  | ended

/-- The batch with the number `seq`. -/
def batchAt (size : Int) (valid : List ImportRecord) (seq : Nat) : Option (List ImportRecord) :=
  (batches size valid).bind fun bs => bs[seq - 1]?

/-- The adapter of the source can yield these records. -/
def Yields (raws : List RawRecord) : Prop :=
  ∃ adapter views rows, svc.sources req.source.kind = some adapter
    ∧ raws = adapter.read req.source views rows

variable {ι : Type} [DecidableEq ι] (d₀ : Tables) (i : ι) (all : List (ι × List Change))

/-- The commits of an import up to a stage, the latest first, on tables that were `d₀` before all
the commits. -/
inductive Commits : Stage → List (List Change) → Prop where
  | nothing : Commits .requested []
  | replay {d : Tables} {row : IdempotencyRow} (hd : Seen d₀ i all [] d)
      (hrow : d.idempotency.lookup req.operationKey = some row) (happlied : row.status = "applied") :
      Commits .ended [[]]
  | takeUp {d : Tables} {row : IdempotencyRow} (hd : Seen d₀ i all [] d)
      (hrow : d.idempotency.lookup req.operationKey = some row) (hstatus : row.status ≠ "applied") :
      Commits (.opened row.jobId) [[]]
  | openJob {d : Tables} (hd : Seen d₀ i all [] d)
      (hnone : d.idempotency.lookup req.operationKey = none) {jobId : String}
      {ws ws' : List Change} (hjob : AtMost [] (.putJob (jobRow req jobId "in_progress")) ws)
      (hidem : AtMost ws (.putIdempotency req.operationKey ⟨jobId, "in_progress", none⟩) ws') :
      Commits (.opened jobId) [ws']
  | resume {jobId : String} {cs : List (List Change)} (h : Commits (.opened jobId) cs)
      {raws : List RawRecord} (hraws : Yields svc req raws) {d : Tables} (hd : Seen d₀ i all cs d) :
      Commits (.importing jobId raws (nextSeq d jobId) 0 0) ([] :: cs)
  | batch {jobId : String} {raws : List RawRecord} {seq applied noop : Nat}
      {cs : List (List Change)} (h : Commits (.importing jobId raws seq applied noop) cs)
      {batch : List ImportRecord} {bApplied : Nat} {ws : List Change}
      (hbatch : batchAt svc.batchSize (validateAll req.naturalKeyField raws).1 seq = some batch)
      (hws : BatchApplied chainKey svc hmac req d₀.columns (Seen d₀ i all cs) jobId seq batch
        bApplied ws) :
      Commits (.importing jobId raws (seq + 1) (applied + bApplied)
        (noop + (batch.length - bApplied))) (ws :: cs)
  | fail {jobId : String} {raws : List RawRecord} {seq applied noop : Nat}
      {cs : List (List Change)} (h : Commits (.importing jobId raws seq applied noop) cs)
      {ws : List Change}
      (hbatch : (batchAt svc.batchSize (validateAll req.naturalKeyField raws).1 seq).isSome)
      (hidem : AtMost [] (.putIdempotency req.operationKey ⟨jobId, "failed", none⟩) ws) :
      Commits .ended (ws :: cs)
  | finish {jobId : String} {raws : List RawRecord} {seq applied noop : Nat}
      {cs : List (List Change)} (h : Commits (.importing jobId raws seq applied noop) cs)
      {bs : List (List ImportRecord)}
      (hbs : batches svc.batchSize (validateAll req.naturalKeyField raws).1 = some bs)
      (hlast : bs.length < seq) {ws ws' : List Change}
      (hjob : AtMost [] (.putJob (jobRow req jobId "applied")) ws)
      (hidem : AtMost ws (.putIdempotency req.operationKey ⟨jobId, "applied",
        some (applied, noop, (validateAll req.naturalKeyField raws).2)⟩) ws') :
      Commits .ended (ws' :: cs)

variable {chainKey svc hmac req columns d₀ i all} {jobId : String}

theorem RecordsApplied.mono {Sees Sees' : Tables → Prop} {records : List ImportRecord}
    {applied : Nat} {ws : List Change}
    (h : RecordsApplied chainKey svc hmac req columns Sees jobId records applied ws)
    (hsees : ∀ d, Sees d → Sees' d) :
  RecordsApplied chainKey svc hmac req columns Sees' jobId records applied ws
  := by
  induction h with
  | nil => apply RecordsApplied.nil
  | snoc _ record hd hchanged hws' hd' hrow ih =>
      exact ih.snoc record (hsees _ hd) hchanged hws' (hsees _ hd') hrow

theorem BatchApplied.mono {Sees Sees' : Tables → Prop} {seq : Nat} {batch : List ImportRecord}
    {applied : Nat} {ws : List Change}
    (h : BatchApplied chainKey svc hmac req columns Sees jobId seq batch applied ws)
    (hsees : ∀ d, Sees d → Sees' d) :
  BatchApplied chainKey svc hmac req columns Sees' jobId seq batch applied ws
  := by
  obtain ⟨records, updatedAt, happlied, hws⟩ := h
  exact ⟨records, updatedAt, happlied.mono hsees, hws⟩

/-- Later commits of other sessions leave the commits of an import what they are. -/
theorem Commits.mono {all' : List (ι × List Change)} {stage : Stage} {cs : List (List Change)}
    (h : Commits chainKey svc hmac req d₀ i all stage cs) (hall : all <:+ all') :
  Commits chainKey svc hmac req d₀ i all' stage cs
  := by
  induction h with
  | nothing => apply Commits.nothing
  | replay hd hrow happlied => exact .replay (hd.mono hall) hrow happlied
  | takeUp hd hrow hstatus => exact .takeUp (hd.mono hall) hrow hstatus
  | openJob hd hnone hjob hidem => exact .openJob (hd.mono hall) hnone hjob hidem
  | resume _ hraws hd ih => exact ih.resume hraws (hd.mono hall)
  | batch _ hbatch hws ih => exact ih.batch hbatch (hws.mono fun _ hd => hd.mono hall)
  | fail _ hbatch hidem ih => exact ih.fail hbatch hidem
  | finish _ hbs hlast hjob hidem ih => exact ih.finish hbs hlast hjob hidem

end Commits

/-! ### The discipline of an import -/

/-- Where an import is: its stage, its commits so far, and tables that it has seen since. -/
structure Position where
  stage : Stage
  commits : List (List Change)
  seen : List Tables

section Programs

variable (chainKey : String) (svc : Service) (hmac : Hmac) (req : ImportRequest) (d₀ : Tables)
  {ι : Type} [DecidableEq ι] (i : ι)

/-- The commits of an import at its position. -/
def positions : Staging ι Position where
  Holds all p cs := cs = p.commits ∧ (∀ d ∈ p.seen, Seen d₀ i all cs d)
    ∧ Commits chainKey svc hmac req d₀ i all p.stage cs
  mono hall h := ⟨h.1, fun d hd => (h.2.1 d hd).mono hall, h.2.2.mono hall⟩

/-- The discipline of the import. -/
abbrev importing : Discipline (tenantDatabase chainKey ι) :=
  committing chainKey d₀ (positions chainKey svc hmac req d₀ i) i

/-- The import is at the position, and `ws` is under way. -/
abbrev At (p : Position) (ws : List Change) (s : TenantState ι) : Prop :=
  Reached (positions chainKey svc hmac req d₀ i) i p ws s

/-- The import is at the stage with its commits, whatever it has seen and has under way. -/
def Halted (stage : Stage) (cs : List (List Change)) (_ : ServiceError) (s : TenantState ι) :
    Prop :=
  ∃ seen ws, At chainKey svc hmac req d₀ i ⟨stage, cs, seen⟩ ws s

variable {chainKey svc hmac req d₀ i} {p : Position} {ws : List Change}

theorem Halted.stable {stage : Stage} {cs : List (List Change)} (e : ServiceError) :
  (importing chainKey svc hmac req d₀ i).Stable i
    (Halted chainKey svc hmac req d₀ i stage cs e)
  := by
  intro s s' hsees ⟨seen, ws, h⟩
  exact ⟨seen, ws, Reached.stable s s' hsees h⟩

/-- The records are applied under way, as the tables that were seen have it. -/
def Applying (chainKey : String) (svc : Service) (hmac : Hmac) (req : ImportRequest) (d₀ : Tables)
    (i : ι) (jobId : String) (stage : Stage) (cs : List (List Change))
    (records : List ImportRecord) (applied : Nat) (s : TenantState ι) : Prop :=
  ∃ seen ws, RecordsApplied chainKey svc hmac req d₀.columns (· ∈ seen) jobId records applied ws
    ∧ At chainKey svc hmac req d₀ i ⟨stage, cs, seen⟩ ws s

variable {jobId : String} {stage : Stage} {cs : List (List Change)}

theorem Applying.stable {records : List ImportRecord} {applied : Nat} :
  (importing chainKey svc hmac req d₀ i).Stable i
    (Applying chainKey svc hmac req d₀ i jobId stage cs records applied)
  := by
  intro s s' hsees ⟨seen, ws, happlied, hreached⟩
  exact ⟨seen, ws, happlied, Reached.stable s s' hsees hreached⟩

/-- What an import has reached when it has begun: its job, unless it replays a status. -/
def Begun (chainKey : String) (svc : Service) (hmac : Hmac) (req : ImportRequest) (d₀ : Tables)
    (i : ι) : String × Bool × Option ImportStatus → TenantState ι → Prop
  | (jobId, _, none), s => ∃ cs, At chainKey svc hmac req d₀ i ⟨.opened jobId, cs, []⟩ [] s
  | (_, _, some _), _ => True

end Programs

end ImportService
