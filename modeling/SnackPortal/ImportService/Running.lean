import SnackPortal.ImportService.Session

/-!
# The run of a worker

What `start_import` does while it is the only one at work on its operation.  A batch that is
committed adds its records and one checkpoint to what the database held, the batches of a run
follow each other, and a run that completes has imported the records from its resume point on.
What the law of the discipline has to admit for this is collected in `Admits`.
-/

namespace ImportService

open Lineage (Hmac LineageEmit LineageIntent LineageRow)
open Machine TenantDatabase Discipline

variable {chainKey : String} {ι : Type} [DecidableEq ι] {k : String} {law : ImportLaw}
  {guard : (importMachine chainKey ι).Guard} {i : ι} {v : Durable} {ws : List Change}

/-! ### Upserts -/

/-- The table that a session sees carries the row. -/
def CarriedIn (d : Tables) (key : RecordKey) (row : Columns) : Bool :=
  (d.records.lookup key).any fun existing => carries existing row

/-- A worker puts a row: what the columns of the table make of it. -/
theorem putRecord_holding {key : RecordKey} {row : Columns} :
  (exclusion k law guard).Triple i (Holding k i v ws)
    (TenantDatabase.perform (.putRecord key row))
    (Ending (fun _ => Holding k i v
      (ws ++ [.putRecord key ((v.after ws).tables.columns.taken key row)])) (Broken k i v))
  := by
  apply Triple.adapt (holding_call (.putRecord key row)
    (Q := fun _ ws' => ws' = ws ++ [.putRecord key ((v.after ws).tables.columns.taken key row)])
    (fun h => nomatch h) (fun h => nomatch h) ?_) (fun _ _ hp => hp) ?_ fun _ _ _ he => he
  · intro b b' c a hview hpending ha
    have hwrite := putRecord_of_ok ha
    rw [hview] at hwrite
    obtain ⟨-, hdb⟩ := Database.write_eq_some hwrite
    rw [hdb, ← hpending]
    apply Function.update_self
  · rintro a s _ ⟨ws', rfl, hheld⟩
    apply hheld

theorem upsertRecord_holding {key : RecordKey} {row : Columns} :
  (exclusion k law guard).Triple i (Holding k i v ws) (upsertRecord key row)
    (Ending (fun changed s => changed = !CarriedIn (v.after ws).tables key row
        ∧ Holding k i v (if changed then
          ws ++ [.putRecord key ((v.after ws).tables.columns.taken key row)] else ws) s)
      (Broken k i v))
  := by
  have hread : (exclusion k law guard).Triple i (Holding k i v ws)
      (TenantDatabase.perform (.getRecord key))
      (Ending (fun existing s => existing = (v.after ws).tables.records.lookup key
        ∧ Holding k i v ws s) (Broken k i v)) := by
    apply holding_read rfl
    intro b b' c a hview ha
    obtain ⟨hr, -⟩ := Prod.mk.inj (Option.some.inj ha)
    rw [← hview]
    exact (Except.ok.inj hr).symm
  apply Triple.follow hread fun _ => Broken.stable
  intro existing
  apply Triple.given
  intro hexisting
  split
  · rename_i hcarries
    apply Triple.yield Holding.stable
    intro s _ hheld
    refine ⟨?_, hheld⟩
    rw [CarriedIn, ← hexisting, hcarries]
    rfl
  · rename_i hcarries
    apply Triple.follow putRecord_holding fun _ => Broken.stable
    intro _
    apply Triple.yield Holding.stable
    intro s _ hheld
    refine ⟨?_, hheld⟩
    rw [CarriedIn, ← hexisting, Bool.eq_false_iff.mpr hcarries]
    rfl

/-- The changes of an upsert on one of the tables of bookkeeping: none, or the one given. -/
def AtMost (ws : List Change) (w : Change) (ws' : List Change) : Prop :=
  ws' = ws ∨ ws' = ws ++ [w]

theorem upsertJob_holding {row : JobRow} :
  (exclusion k law guard).Triple i (Holding k i v ws) (upsertJob row)
    (Ending (fun _ s => ∃ ws', AtMost ws (.putJob row) ws' ∧ Holding k i v ws' s)
      (Broken k i v))
  := by
  apply Triple.follow (holding_pass rfl) fun _ => Broken.stable
  intro existing
  split
  · apply Triple.yield Holding.stable
    intro s _ hheld
    exact ⟨ws, .inl rfl, hheld⟩
  · apply Triple.follow (holding_write (.putJob row) rfl fun _ hw => hw) fun _ => Broken.stable
    intro _
    apply Triple.yield Holding.stable
    intro s _ hheld
    exact ⟨_, .inr rfl, hheld⟩

/-- After an upsert on the idempotency table the session sees the row that was to be written. -/
theorem upsertIdempotency_holding {operationKey : String} {columns : IdempotencyColumns} :
  (exclusion k law guard).Triple i (Holding k i v ws) (upsertIdempotency operationKey columns)
    (Ending (fun _ s => ∃ ws', AtMost ws (.putIdempotency operationKey columns) ws'
        ∧ (v.after ws').tables.idempotency.lookup operationKey
          = some (columns.over operationKey ((v.after ws).tables.idempotency.lookup operationKey))
        ∧ Holding k i v ws' s) (Broken k i v))
  := by
  have hread : (exclusion k law guard).Triple i (Holding k i v ws)
      (TenantDatabase.perform (.getIdempotency operationKey))
      (Ending (fun existing s =>
        existing = (v.after ws).tables.idempotency.lookup operationKey
          ∧ Holding k i v ws s) (Broken k i v)) := by
    apply holding_read rfl
    intro b b' c a hview ha
    obtain ⟨hr, -⟩ := Prod.mk.inj (Option.some.inj ha)
    rw [← hview]
    exact (Except.ok.inj hr).symm
  apply Triple.follow hread fun _ => Broken.stable
  intro existing
  apply Triple.given
  intro hexisting
  split
  · rename_i hsame
    apply Triple.yield Holding.stable
    intro s _ hheld
    refine ⟨ws, .inl rfl, ?_, hheld⟩
    rw [← hexisting]
    cases existing with
    | none => cases hsame
    | some existing =>
        have hover := of_decide_eq_true hsame
        rw [hover]
  · apply Triple.follow (holding_write (.putIdempotency operationKey columns) rfl fun _ hw => hw)
      fun _ => Broken.stable
    intro _
    apply Triple.yield Holding.stable
    intro s _ hheld
    refine ⟨_, .inr rfl, ?_, hheld⟩
    rw [← Durable.after_after]
    apply AList.lookup_insert

/-! ### Batches -/

section Batch

variable {hmac : Hmac} {svc : Service} {req : ImportRequest} {jobId : String}

theorem holding_lock :
  (exclusion k law guard).Triple i (Holding k i v ws) (TenantDatabase.perform .lockChain)
    (Ending (fun _ => Holding k i v ws) (Broken k i v))
  := by
  apply Triple.adapt (holding_call .lockChain (Q := fun _ ws' => ws' = ws) (fun h => nomatch h)
    (fun h => nomatch h) ?_) (fun _ _ hp => hp) ?_ fun _ _ _ he => he
  · intro b b' c a _ hpending ha
    obtain ⟨db, hdb, heq⟩ := Option.map_eq_some_iff.mp (answer_of_ok ha)
    obtain ⟨-, rfl⟩ := Prod.mk.inj heq
    obtain ⟨-, rfl⟩ := Database.lock_eq_some hdb
    apply hpending
  · rintro a s _ ⟨ws', rfl, hheld⟩
    apply hheld

/-- The lineage row has what the intent says. -/
structure Tells (intent : LineageIntent) (row : LineageRow) : Prop where
  sourceRef : row.sourceRef = intent.sourceRef
  targetRef : row.targetRef = intent.targetRef
  derivationRef : row.derivationRef = intent.derivationRef
  operation : row.operation = intent.operation

theorem emit_holding {service : LineageEmit} {tenantId : String} {intent : LineageIntent} :
  (exclusion k law guard).Triple i (Holding k i v ws) (service.emit hmac tenantId intent)
    (Ending (fun _ s => ∃ row, Tells intent row ∧ Holding k i v (ws ++ [.appendLineage row]) s)
      (Broken k i v))
  := by
  have hlock : (exclusion k law guard).Triple i (Holding k i v ws) service.lock
      (Ending (fun _ => Holding k i v ws) (Broken k i v)) := by
    rw [LineageEmit.lock]
    split
    · apply holding_lock
    · apply Triple.yield Holding.stable
      exact fun _ _ hheld => hheld
  have hkey : (exclusion k law guard).Triple i (Holding k i v ws) (service.chainKey tenantId)
      (Ending (fun _ => Holding k i v ws) (Broken k i v)) := by
    apply Triple.follow (holding_pass rfl) fun _ => Broken.stable
    intro _
    apply holding_pass rfl
  have haudit : ∀ ws, (exclusion k law guard).Triple i (Holding k i v ws)
      (service.auditWritten intent)
      (Ending (fun _ => Holding k i v ws) (Broken k i v)) := by
    intro ws
    rw [LineageEmit.auditWritten]
    split
    · apply holding_pass rfl
    · apply Triple.yield Holding.stable
      exact fun _ _ hheld => hheld
  apply Triple.follow hlock fun _ => Broken.stable
  intro _
  apply Triple.follow (holding_pass rfl) fun _ => Broken.stable
  intro prev
  apply Triple.follow (holding_pass rfl) fun _ => Broken.stable
  intro lineageId
  apply Triple.follow hkey fun _ => Broken.stable
  intro key
  cases hrow : LineageEmit.row hmac key prev lineageId intent with
  | error e =>
      apply Triple.fail Holding.stable
      intro s _ hheld
      constructor
      · intro _ _ herr
        cases herr
      · use ws
  | ok row =>
      have hcontinues := LineageEmit.continues_of_row hrow
      have htells : Tells intent row := ⟨hcontinues.sourceRef, hcontinues.targetRef,
        hcontinues.derivationRef, LineageEmit.operation_of_row hrow⟩
      apply Triple.follow (holding_write (.appendLineage row) rfl fun _ hw => hw)
        fun _ => Broken.stable
      intro _
      apply Triple.follow (haudit _) fun _ => Broken.stable
      intro _
      apply Triple.yield Holding.stable
      intro s _ hheld
      exact ⟨row, htells, hheld⟩

/-- The records are imported under way, without a checkpoint. -/
def Importing (k : String) (i : ι) (req : ImportRequest) (jobId : String) (v : Durable)
    (imported : List ImportRecord) (applied : Nat) (s : (importMachine chainKey ι).State) :
    Prop :=
  ∃ ws, (Imported req jobId v.tables imported ws applied ∧ checkpointed ws = [])
    ∧ Holding k i v ws s

theorem Importing.stable {imported : List ImportRecord} {applied : Nat} :
  (exclusion k law guard).Stable i (Importing k i req jobId v imported applied)
  := by
  intro s s' hsees ⟨ws, himported, hheld⟩
  exact ⟨ws, himported, Holding.stable s s' hsees hheld⟩

theorem applyRecord_importing {imported : List ImportRecord} {applied : Nat}
    {record : ImportRecord} :
  (exclusion k law guard).Triple i (Importing k i req jobId v imported applied)
    (svc.applyRecord hmac req jobId record)
    (Ending (fun changed => Importing k i req jobId v (imported ++ [record])
      (if changed then applied + 1 else applied)) (Broken k i v))
  := by
  apply Triple.exists
  intro ws
  apply Triple.given
  rintro ⟨himported, hcheckpointed⟩
  apply Triple.follow upsertRecord_holding fun _ => Broken.stable
  intro changed
  apply Triple.given
  intro hchanged
  apply Triple.follow (holding_pass rfl) fun _ => Broken.stable
  intro occurredAt
  apply Triple.follow emit_holding fun _ => Broken.stable
  intro _
  apply Triple.exists
  intro row
  apply Triple.given
  intro htells
  have hdescribes : Describes req jobId record row :=
    ⟨htells.sourceRef, htells.targetRef, htells.derivationRef⟩
  apply Triple.yield Holding.stable
  intro s _ hheld
  cases changed with
  | true =>
      have hcurrent : ¬ UpToDate req (v.after ws).tables.records record := by
        intro hcurrent
        rw [CarriedIn, hcurrent] at hchanged
        cases hchanged
      refine ⟨_, ⟨himported.trans (Imported.created hcurrent hdescribes), ?_⟩, ?_⟩
      · rw [checkpointed_append, hcheckpointed]
        rfl
      · rw [if_pos rfl, List.append_assoc] at hheld
        apply hheld
  | false =>
      have hcurrent : UpToDate req (v.after ws).tables.records record := by
        have hin : CarriedIn (v.after ws).tables (recordKey req record) (recordRow req record)
            = true := by
          simpa using hchanged
        apply hin
      refine ⟨_, ⟨himported.trans (Imported.kept hcurrent hdescribes), ?_⟩, ?_⟩
      · rw [checkpointed_append, hcheckpointed]
        rfl
      · apply hheld

theorem applyRecords_importing (imported : List ImportRecord) {batch : List ImportRecord}
    {applied : Nat} :
  (exclusion k law guard).Triple i (Importing k i req jobId v imported applied)
    (svc.applyRecords hmac req jobId batch applied)
    (Ending (fun applied' => Importing k i req jobId v (imported ++ batch) applied')
      (Broken k i v))
  := by
  induction batch generalizing imported applied with
  | nil =>
      rw [List.append_nil]
      apply Triple.yield Importing.stable
      exact fun _ _ himporting => himporting
  | cons record batch ih =>
      apply Triple.follow applyRecord_importing fun _ => Broken.stable
      intro changed
      have happend : imported ++ record :: batch = imported ++ [record] ++ batch := by simp
      rw [happend]
      apply ih

/-- The batch with its checkpoint is imported by the changes. -/
structure BatchImported (req : ImportRequest) (jobId : String) (seq : Nat) (d : Tables)
    (batch : List ImportRecord) (ws : List Change) (applied : Nat) : Prop where
  imported : Imported req jobId d batch ws applied
  checkpoint : ∃ cp : CheckpointRow, checkpointed ws = [cp] ∧ cp.jobId = jobId
    ∧ cp.batchSeq = seq

theorem applyOneBatch_holding {seq : Nat} {batch : List ImportRecord} :
  (exclusion k law guard).Triple i (Holding k i v [])
    (svc.applyOneBatch hmac req jobId seq batch)
    (Ending (fun applied s => ∃ ws, BatchImported req jobId seq v.tables batch ws applied
        ∧ Holding k i v ws s) (Broken k i v))
  := by
  have hloop : (exclusion k law guard).Triple i (Holding k i v [])
      (svc.applyRecords hmac req jobId batch 0)
      (Ending (fun applied => Importing k i req jobId v batch applied) (Broken k i v)) := by
    apply Triple.adapt (applyRecords_importing [])
    · intro s _ hheld
      exact ⟨[], ⟨Imported.nil, rfl⟩, hheld⟩
    · exact fun _ _ _ hq => hq
    · exact fun _ _ _ he => he
  apply Triple.follow hloop fun _ => Broken.stable
  intro applied
  apply Triple.exists
  intro ws
  apply Triple.given
  rintro ⟨himported, hcheckpointed⟩
  apply Triple.follow (holding_pass rfl) fun _ => Broken.stable
  intro updatedAt
  apply Triple.follow (holding_write (.appendCheckpoint _) rfl fun _ hw => hw) fun _ => Broken.stable
  intro _
  apply Triple.yield Holding.stable
  intro s _ hheld
  refine ⟨_, ⟨?_, ?_⟩, hheld⟩
  · have hall := himported.trans (Imported.checkpoint (tenantSchema.applyAll ws v.tables)
      ⟨jobId, seq, seq * svc.batchSize.toNat, applied, "applied", updatedAt⟩ rfl)
    rw [List.append_nil] at hall
    apply hall
  · rw [checkpointed_append, hcheckpointed]
    exact ⟨_, rfl, rfl, rfl⟩

end Batch

/-! ### Bookkeeping -/

/-- The changes leave the row in the idempotency table, and import nothing. -/
structure Booked (operationKey : String) (d : Tables) (ws : List Change) (row : IdempotencyRow) :
    Prop where
  stored : (tenantSchema.applyAll ws d).idempotency.lookup operationKey = some row
  records : (tenantSchema.applyAll ws d).records = d.records
  appended : appended ws = []
  checkpointed : checkpointed ws = []
  outcomes : ∀ ws', outcomes d false (ws ++ ws')
    = outcomes (tenantSchema.applyAll ws d) false ws'

theorem Booked.of_atMost {operationKey : String} {columns : IdempotencyColumns} {d : Tables}
    {ws' : List Change} {row : IdempotencyRow} (job : JobRow)
    (hjob : AtMost [] (.putJob job) ws)
    (hidem : AtMost ws (.putIdempotency operationKey columns) ws')
    (hstored : (tenantSchema.applyAll ws' d).idempotency.lookup operationKey = some row) :
  Booked operationKey d ws' row
  := by
  rcases hjob with rfl | rfl
  · rcases hidem with rfl | rfl
    · exact ⟨hstored, rfl, rfl, rfl, fun _ => rfl⟩
    · exact ⟨hstored, rfl, rfl, rfl, fun _ => rfl⟩
  · rcases hidem with rfl | rfl
    · exact ⟨hstored, rfl, rfl, rfl, fun _ => rfl⟩
    · exact ⟨hstored, rfl, rfl, rfl, fun _ => rfl⟩

theorem Booked.checkpoints {operationKey : String} {d : Tables} {row : IdempotencyRow}
    (h : Booked operationKey d ws row) :
  (tenantSchema.applyAll ws d).checkpoints = d.checkpoints
  := by
  rw [checkpoints_applyAll, h.checkpointed, List.append_nil]

/-- What the law has to admit for a run of the import, where the source yields what `Reads`
says. -/
structure Admits (law : ImportLaw) (svc : Service) (req : ImportRequest)
    (Reads : List RawRecord → Prop) : Prop where
  opened : ∀ {v issued₀ issued jobId ws}, law.holds v issued₀ → jobId ∉ issued₀ →
    law.holds v issued → jobId ∈ issued →
    v.tables.idempotency.lookup req.operationKey = none →
    Booked req.operationKey v.tables ws ⟨req.operationKey, jobId, "in_progress", 0, 0, 0⟩ →
    law.holds (v.after ws) issued
  imported : ∀ {v issued row raws bs batch ws applied}, law.holds v issued →
    v.tables.idempotency.lookup req.operationKey = some row → row.status ≠ "applied" →
    Reads raws → batches svc.batchSize (validateAll req.naturalKeyField raws).1 = some bs →
    bs[nextSeq v.tables row.jobId - 1]? = some batch →
    BatchImported req row.jobId (nextSeq v.tables row.jobId) v.tables batch ws applied →
    law.holds (v.after ws) issued
  failed : ∀ {v issued row ws}, law.holds v issued →
    v.tables.idempotency.lookup req.operationKey = some row → row.status ≠ "applied" →
    Booked req.operationKey v.tables ws
      ((⟨row.jobId, "failed", none⟩ : IdempotencyColumns).over req.operationKey (some row)) →
    law.holds (v.after ws) issued
  finalized : ∀ {v issued row raws bs ws applied noop rejected}, law.holds v issued →
    v.tables.idempotency.lookup req.operationKey = some row → row.status ≠ "applied" →
    Reads raws → batches svc.batchSize (validateAll req.naturalKeyField raws).1 = some bs →
    bs.length < nextSeq v.tables row.jobId →
    Booked req.operationKey v.tables ws
      ⟨req.operationKey, row.jobId, "applied", applied, noop, rejected⟩ →
    law.holds (v.after ws) issued

/-- An exception that `start_import` turns into a status carries a failed one. -/
def Surfaces (e : ServiceError) : Prop :=
  ∀ code status, e = .importFailed code status → status.state = .failed

theorem Plain.surfaces {e : ServiceError} (h : Plain e) :
  Surfaces e
  := fun code status he => absurd he (h code status)

section Runs

variable {hmac : Hmac} {svc : Service} {req : ImportRequest} {Reads : List RawRecord → Prop}

/-- A worker commits; what is under way is admitted whatever ids were handed out. -/
theorem commit_holding
    (hlaw : ∀ issued, law.holds v issued → law.holds (v.after ws) issued)
    (happlied : StaysApplied k v.tables (v.after ws).tables) :
  (exclusion k law guard).Triple i (Holding k i v ws) (TenantDatabase.perform .commit)
    (Ending (fun _ => Holding k i (v.after ws) []) fun e _ => Plain e)
  := by
  apply Triple.adapt (holding_commit [] (fun issued _ => hlaw issued) happlied)
  · intro s _ hheld
    exact ⟨hheld, List.nil_subset _⟩
  · exact fun _ _ _ hq => hq
  · exact fun _ _ _ he => he

/-- A worker with nothing under way commits. -/
theorem commit_nothing :
  (exclusion k law guard).Triple i (Holding k i v []) (TenantDatabase.perform .commit)
    (Ending (fun _ => Holding k i v []) fun e _ => Plain e)
  := by
  have hafter : v.after [] = v := Durable.after_nil v
  have hcommit : (exclusion k law guard).Triple i (Holding k i v [])
      (TenantDatabase.perform .commit)
      (Ending (fun _ => Holding k i (v.after []) []) fun e _ => Plain e) := by
    apply commit_holding
    · intro issued hlaw
      rw [hafter]
      apply hlaw
    · rw [hafter]
      apply StaysApplied.refl
  rw [hafter] at hcommit
  apply hcommit

/-- An unfinished operation may become anything. -/
theorem staysApplied_of_unfinished {d d' : Tables}
    (h : unfinished (d.idempotency.lookup k) = true) :
  StaysApplied k d d'
  := by
  intro hfinished
  rw [h] at hfinished
  cases hfinished

theorem unfinished_some {row : IdempotencyRow} (h : row.status ≠ "applied") :
  unfinished (some row) = true
  := decide_eq_true h

/-- Stability of a postcondition that does not look at the state. -/
theorem stable_const {φ : Prop} :
  (exclusion k law guard).Stable i fun _ => φ
  := fun _ _ _ h => h

theorem resumePoint_holding {jobId : String} :
  (exclusion k law guard).Triple i (Holding k i v []) (resumePoint jobId)
    (Ending (fun seq s => seq = nextSeq v.tables jobId ∧ Holding k i v [] s)
      fun e _ => Plain e)
  := by
  have hread : (exclusion k law guard).Triple i (Holding k i v [])
      (TenantDatabase.perform (.latestCheckpoint jobId))
      (Ending (fun cp s => cp = v.tables.latestCheckpoint jobId ∧ Holding k i v [] s)
        fun e _ => Plain e) := by
    apply Triple.adapt (holding_read (Q := fun cp => cp = v.tables.latestCheckpoint jobId) rfl ?_)
    · exact fun _ _ hp => hp
    · exact fun _ _ _ hq => hq
    · exact fun _ _ _ he => he.1
    · intro b b' c a hview ha
      obtain ⟨hr, -⟩ := Prod.mk.inj (Option.some.inj ha)
      rw [hview, Durable.after_nil] at hr
      exact (Except.ok.inj hr).symm
  have hbegin : (exclusion k law guard).Triple i (Holding k i v [])
      (TenantDatabase.perform .begin)
      (Ending (fun _ => Holding k i v []) fun e _ => Plain e) :=
    Triple.adapt (holding_pass rfl) (fun _ _ hp => hp) (fun _ _ _ hq => hq)
      fun _ _ _ he => he.1
  apply Triple.follow hbegin fun _ => stable_const
  intro _
  apply Triple.follow hread fun _ => stable_const
  intro cp
  apply Triple.given
  intro hcp
  apply Triple.follow commit_nothing fun _ => stable_const
  intro _
  apply Triple.yield Holding.stable
  intro s _ hheld
  rw [hcp]
  exact ⟨rfl, hheld⟩

theorem failBatch_broken {row : IdempotencyRow} (hadmits : Admits law svc req Reads)
    (hk : req.operationKey = k) (hrow : v.tables.idempotency.lookup k = some row)
    (hstatus : row.status ≠ "applied") {applied noop : Nat} :
  (exclusion k law guard).Triple i (fun s => ∃ ws, Holding k i v ws s)
    (Service.failBatch req row.jobId applied noop)
    (Ending (fun _ _ => False) fun e _ => Surfaces e)
  := by
  subst hk
  have hplain : ∀ e (s : (importMachine chainKey ι).State),
      Broken req.operationKey i v e s → Surfaces e := fun e s he => he.1.surfaces
  apply Triple.follow (Triple.adapt holding_rollback (fun _ _ hp => hp) (fun _ _ _ hq => hq)
    fun e s _ => hplain e s) fun _ => stable_const
  intro _
  apply Triple.follow (Triple.adapt (holding_pass rfl) (fun _ _ hp => hp) (fun _ _ _ hq => hq)
    fun e s _ => hplain e s) fun _ => stable_const
  intro _
  apply Triple.follow (Triple.adapt upsertIdempotency_holding (fun _ _ hp => hp)
    (fun _ _ _ hq => hq) fun e s _ => hplain e s) fun _ => stable_const
  intro _
  apply Triple.exists
  intro ws
  apply Triple.given
  intro hatMost
  apply Triple.given
  intro hstored
  rw [Durable.after_nil, hrow] at hstored
  have hbooked : Booked req.operationKey v.tables ws _ :=
    Booked.of_atMost (jobRow req row.jobId "failed") (.inl rfl) hatMost hstored
  have happlied : StaysApplied req.operationKey v.tables (v.after ws).tables := by
    apply staysApplied_of_unfinished
    rw [hrow]
    apply unfinished_some hstatus
  apply Triple.follow (Triple.adapt
    (commit_holding (fun issued hlaw => hadmits.failed hlaw hrow hstatus hbooked) happlied)
    (fun _ _ hp => hp) (fun _ _ _ hq => hq) fun _ _ _ he => he.surfaces) fun _ => stable_const
  intro _
  apply Triple.fail Holding.stable
  intro s _ _ code status he
  obtain ⟨-, rfl⟩ := ServiceError.importFailed.inj he
  rfl

/-- What the batches that a run committed have done so far. -/
def Progress (req : ImportRequest) (jobId : String) (v₀ : Durable) (imported : List ImportRecord)
    (applied : Nat) (v : Durable) : Prop :=
  ∃ ws, v = v₀.after ws ∧ Imported req jobId v₀.tables imported ws applied

theorem Progress.refl {jobId : String} :
  Progress req jobId v [] 0 v
  := ⟨[], v.after_nil.symm, Imported.nil⟩

/-- One more batch. -/
theorem Progress.batch {jobId : String} {v₀ : Durable} {imported batch : List ImportRecord}
    {applied applied' seq : Nat} (h : Progress req jobId v₀ imported applied v)
    (hbatch : BatchImported req jobId seq v.tables batch ws applied') :
  Progress req jobId v₀ (imported ++ batch) (applied + applied') (v.after ws)
  := by
  obtain ⟨ws₀, rfl, himported⟩ := h
  use ws₀ ++ ws
  constructor
  · rw [Durable.after_after]
  · apply himported.trans hbatch.imported

theorem Progress.idempotency {jobId : String} {v₀ : Durable} {imported : List ImportRecord}
    {applied : Nat} (h : Progress req jobId v₀ imported applied v) :
  v.tables.idempotency = v₀.tables.idempotency
  := by
  obtain ⟨ws₀, rfl, himported⟩ := h
  apply himported.idempotency

/-- Behind a committed batch the next one is due. -/
theorem BatchImported.nextSeq {jobId : String} {seq : Nat} {batch : List ImportRecord}
    {applied : Nat} (h : BatchImported req jobId seq v.tables batch ws applied)
    (hseq : ImportService.nextSeq v.tables jobId ≤ seq) :
  ImportService.nextSeq (v.after ws).tables jobId = seq + 1
  := by
  obtain ⟨cp, hcheckpointed, hjob, rfl⟩ := h.checkpoint
  apply nextSeq_concat _ hjob hseq
  rw [Durable.after, checkpoints_applyAll, hcheckpointed]

/-- The batches of a run from the one after `pre` on: those that were there to be skipped are,
and the others are committed one after the other. -/
theorem applyFrom_holding (hadmits : Admits law svc req Reads) (hk : req.operationKey = k)
    {v₀ : Durable} {row : IdempotencyRow} (hrow : v₀.tables.idempotency.lookup k = some row)
    (hstatus : row.status ≠ "applied") {raws : List RawRecord} (hreads : Reads raws)
    {rest : List (List ImportRecord)} (pre : List (List ImportRecord))
    (hbatches : batches svc.batchSize (validateAll req.naturalKeyField raws).1
      = some (pre ++ rest)) {startSeq : Nat} (hstart : 1 ≤ startSeq) (applied noop : Nat)
    (hcount : applied + noop = (pre.drop (startSeq - 1)).flatten.length) :
  (exclusion k law guard).Triple i
    (fun s => ∃ v, (Progress req row.jobId v₀ (pre.drop (startSeq - 1)).flatten applied v
        ∧ nextSeq v.tables row.jobId = max startSeq (pre.length + 1)) ∧ Holding k i v [] s)
    (svc.applyFrom hmac req row.jobId startSeq (pre.length + 1) rest applied noop)
    (Ending (fun counts s => ∃ v,
        (Progress req row.jobId v₀ ((pre ++ rest).drop (startSeq - 1)).flatten counts.1 v
          ∧ counts.1 + counts.2 = ((pre ++ rest).drop (startSeq - 1)).flatten.length
          ∧ (pre ++ rest).length < nextSeq v.tables row.jobId) ∧ Holding k i v [] s)
      fun e _ => Surfaces e)
  := by
  subst hk
  have hplain : ∀ e (v : Durable) (s : (importMachine chainKey ι).State),
      Broken req.operationKey i v e s → Surfaces e := fun e v s he => he.1.surfaces
  induction rest generalizing pre applied noop with
  | nil =>
      apply Triple.exists
      intro v
      apply Triple.given
      rintro ⟨hprogress, hnext⟩
      apply Triple.yield Holding.stable
      intro s _ hheld
      rw [List.append_nil]
      refine ⟨v, ⟨hprogress, hcount, ?_⟩, hheld⟩
      rw [hnext]
      omega
  | cons batch rest ih =>
      have happend : pre ++ batch :: rest = (pre ++ [batch]) ++ rest := by simp
      have hlength : (pre ++ [batch]).length = pre.length + 1 := by simp
      rw [happend] at hbatches ⊢
      rw [Service.applyFrom]
      split
      · rename_i hskip
        have hskipped : ((pre ++ [batch]).drop (startSeq - 1)) = [] := by
          rw [List.drop_eq_nil_iff]
          omega
        have hskipped' : pre.drop (startSeq - 1) = [] := by
          rw [List.drop_eq_nil_iff]
          omega
        have hih := ih (pre ++ [batch]) hbatches applied noop
          (by rw [hskipped, hcount, hskipped'])
        rw [hlength, hskipped] at hih
        apply Triple.adapt hih
        · rintro s _ ⟨v, ⟨hprogress, hnext⟩, hheld⟩
          rw [hskipped'] at hprogress
          refine ⟨v, ⟨hprogress, ?_⟩, hheld⟩
          rw [hnext]
          omega
        · exact fun _ _ _ hq => hq
        · exact fun _ _ _ he => he
      · rename_i hdue
        apply Triple.exists
        intro v
        apply Triple.given
        rintro ⟨hprogress, hnext⟩
        have hseq : nextSeq v.tables row.jobId = pre.length + 1 := by
          rw [hnext]
          omega
        have hlookup : v.tables.idempotency.lookup req.operationKey = some row := by
          rw [hprogress.idempotency, hrow]
        have hbatch : (pre ++ [batch] ++ rest)[nextSeq v.tables row.jobId - 1]? = some batch := by
          rw [hseq]
          simp
        have hdrop : ((pre ++ [batch]).drop (startSeq - 1)).flatten
            = (pre.drop (startSeq - 1)).flatten ++ batch := by
          rw [List.drop_append_of_le_length (by omega), List.flatten_append]
          simp
        apply Triple.follow (Triple.adapt (holding_pass rfl) (fun _ _ hp => hp)
          (fun _ _ _ hq => hq) fun e s _ => hplain e v s) fun _ => stable_const
        intro _
        have hone : (exclusion req.operationKey law guard).Triple i
            (Holding req.operationKey i v [])
            ((svc.applyOneBatch hmac req row.jobId (pre.length + 1) batch).rescue
              fun _ => Service.failBatch req row.jobId applied noop)
            (Ending (fun bApplied s => ∃ ws,
                BatchImported req row.jobId (pre.length + 1) v.tables batch ws bApplied
                  ∧ Holding req.operationKey i v ws s) fun e _ => Surfaces e) := by
          apply Triple.recover applyOneBatch_holding
          · rintro bApplied s s' hsees ⟨ws, hbatch', hheld⟩
            exact ⟨ws, hbatch', Holding.stable s s' hsees hheld⟩
          · intro e
            apply Triple.adapt (failBatch_broken hadmits rfl hlookup hstatus)
            · exact fun _ _ he => he.2
            · exact fun _ _ _ hq => hq.elim
            · exact fun _ _ _ he => he
        apply Triple.follow hone fun _ => stable_const
        intro bApplied
        apply Triple.exists
        intro ws
        apply Triple.given
        intro himported
        have happlied : StaysApplied req.operationKey v.tables (v.after ws).tables := by
          apply staysApplied_of_unfinished
          rw [hlookup]
          apply unfinished_some hstatus
        have hlaw : ∀ issued, law.holds v issued → law.holds (v.after ws) issued := by
          intro issued hlaw
          rw [← hseq] at himported
          exact hadmits.imported hlaw hlookup hstatus hreads hbatches hbatch himported
        apply Triple.follow (Triple.adapt (commit_holding hlaw happlied) (fun _ _ hp => hp)
          (fun _ _ _ hq => hq) fun _ _ _ he => he.surfaces) fun _ => stable_const
        intro _
        have hle := himported.imported.applied_le
        have hih := ih (pre ++ [batch]) hbatches (applied + bApplied)
          (noop + (batch.length - bApplied)) (by
            rw [hdrop, List.length_append, ← hcount]
            omega)
        rw [hlength] at hih
        apply Triple.adapt hih
        · intro s _ hheld
          refine ⟨v.after ws, ⟨?_, ?_⟩, hheld⟩
          · rw [hdrop]
            apply hprogress.batch himported
          · rw [himported.nextSeq (by rw [hseq])]
            omega
        · exact fun _ _ _ hq => hq
        · exact fun _ _ _ he => he

end Runs

end ImportService
