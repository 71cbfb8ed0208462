import SnackPortal.ImportService.Running

/-!
# Runs of an operation

A run of `start_import` from its beginning to its end, under the discipline of one worker at a
time.  It finds its operation applied and replays what is stored; or it takes up the recorded job
or opens one, and then it completes, fails in a batch, or raises.  A run that completes has
imported the records of the batches from its resume point on, and has stored its counts.
-/

namespace ImportService

open Lineage (Hmac)
open Machine TenantDatabase Discipline

variable {chainKey : String} {ι : Type} [DecidableEq ι] {k : String} {law : ImportLaw}
  {guard : (importMachine chainKey ι).Guard} {i : ι} {v : Durable} {ws : List Change}
  {hmac : Hmac} {svc : Service} {req : ImportRequest} {Reads : List RawRecord → Prop}

/-! ### The operation -/

/-- The number of the batch at which a run of the operation starts. -/
def resumeSeq (d : Tables) (operationKey : String) : Nat :=
  match d.idempotency.lookup operationKey with
  | some row => nextSeq d row.jobId
  | none => 1

/-- What the beginning of a run does to what the database held when the operation was found
unfinished: the job is recorded from then on. -/
inductive Entered (operationKey jobId : String) (v : Durable) : Durable → Prop where
  | resumed {row : IdempotencyRow} (hrow : v.tables.idempotency.lookup operationKey = some row)
      (hstatus : row.status ≠ "applied") (hjob : row.jobId = jobId) :
      Entered operationKey jobId v v
  | opened {ws : List Change} (hnone : v.tables.idempotency.lookup operationKey = none)
      (hbooked : Booked operationKey v.tables ws
        ⟨operationKey, jobId, "in_progress", 0, 0, 0⟩)
      (hfresh : ∀ cp ∈ v.tables.checkpoints, cp.jobId ≠ jobId) :
      Entered operationKey jobId v (v.after ws)

/-- What the run knows of its job when it begins. -/
theorem Entered.job {operationKey jobId : String} {v v' : Durable}
    (h : Entered operationKey jobId v v') :
  ∃ row, v'.tables.idempotency.lookup operationKey = some row ∧ row.status ≠ "applied"
    ∧ row.jobId = jobId
  := by
  cases h with
  | resumed hrow hstatus hjob => exact ⟨_, hrow, hstatus, hjob⟩
  | opened _ hbooked _ =>
      have hstatus : "in_progress" ≠ "applied" := by decide
      exact ⟨_, hbooked.stored, hstatus, rfl⟩

/-- The beginning of a run imports nothing. -/
theorem Entered.keeps {operationKey jobId : String} {v v' : Durable}
    (h : Entered operationKey jobId v v') :
  ∃ ws, v' = v.after ws ∧ v'.tables.records = v.tables.records ∧ appended ws = []
    ∧ checkpointed ws = []
    ∧ (∀ ws', outcomes v.tables false (ws ++ ws') = outcomes v'.tables false ws')
    ∧ nextSeq v'.tables jobId = resumeSeq v.tables operationKey
  := by
  cases h with
  | resumed hrow hstatus hjob =>
      subst hjob
      refine ⟨[], v.after_nil.symm, rfl, rfl, rfl, fun _ => rfl, ?_⟩
      rw [resumeSeq, hrow]
  | @opened ws hnone hbooked hfresh =>
      refine ⟨ws, rfl, hbooked.records, hbooked.appended, hbooked.checkpointed,
        hbooked.outcomes, ?_⟩
      rw [resumeSeq, hnone]
      apply nextSeq_fresh
      intro cp hcp
      rw [Durable.after, hbooked.checkpoints] at hcp
      apply hfresh cp hcp

/-- What `_begin_job` returns: a status to replay, or the job that the run has entered. -/
def BeganWith (k : String) (req : ImportRequest) (i : ι) (v : Durable) :
    String × Bool × Option ImportStatus → (importMachine chainKey ι).State → Prop
  | (_, _, some status), s =>
      ∃ row, status = replayStatus req row ∧ Passive k i v s ∧ Stored k row s
  | (jobId, _, none), s =>
      ∃ v₀ v', (((∀ j : ι, j = i) → v₀ = v) ∧ Entered k jobId v₀ v') ∧ Holding k i v' [] s

theorem BeganWith.stable {job : String × Bool × Option ImportStatus} :
  (exclusion k law guard).Stable i (BeganWith k req i v job)
  := by
  intro s s' hsees h
  obtain ⟨jobId, resuming, replay⟩ := job
  cases replay with
  | some status =>
      obtain ⟨row, hreplay, hpassive, hstored⟩ := h
      exact ⟨row, hreplay, Passive.stable s s' hsees hpassive, hstored.evolves hsees.evolve⟩
  | none =>
      obtain ⟨v₀, v', hentered, hheld⟩ := h
      exact ⟨v₀, v', hentered, Holding.stable s s' hsees hheld⟩

/-- The ids that were handed out stay so, while the state develops. -/
theorem issued_evolves {ids : List String} {s s' : (importMachine chainKey ι).State}
    (h : Develops k s s') (hids : ids ⊆ s.base.issued) :
  ids ⊆ s'.base.issued
  := fun _ ha => h.issued (hids ha)

/-- What comes behind an exception within a transaction. -/
theorem plainly {α : Type} {x : TenantProgram α}
    {P : (importMachine chainKey ι).State → Prop}
    {Q : α → (importMachine chainKey ι).State → Prop}
    (h : (exclusion k law guard).Triple i P x (Ending Q (Broken k i v))) :
  (exclusion k law guard).Triple i P x (Ending Q fun e _ => Plain e)
  := Triple.adapt h (fun _ _ hp => hp) (fun _ _ _ hq => hq) fun _ _ _ he => he.1

theorem openJob_began (hadmits : Admits law svc req Reads) (hk : req.operationKey = k)
    {v₀ : Durable} (hlone : (∀ j : ι, j = i) → v₀ = v)
    (hnone : v₀.tables.idempotency.lookup k = none) :
  (exclusion k law guard).Triple i (Holding k i v₀ []) (openJob req)
    (Ending (BeganWith k req i v) fun e _ => Plain e)
  := by
  subst hk
  apply Triple.follow (plainly holding_uuid4) fun _ => stable_const
  intro jobId
  apply Triple.given
  intro ⟨issued₀, hlaw₀, hnew⟩
  have hfresh : ∀ cp ∈ v₀.tables.checkpoints, cp.jobId ≠ jobId := by
    rintro cp hcp rfl
    apply hnew
    apply law.fresh hlaw₀ cp hcp
  have hjobs : (exclusion req.operationKey law guard).Triple i
      (fun s => Holding req.operationKey i v₀ [] s ∧ [jobId] ⊆ s.base.issued)
      (upsertJob (jobRow req jobId "in_progress"))
      (Ending (fun _ s => ∃ ws, AtMost [] (.putJob (jobRow req jobId "in_progress")) ws
        ∧ (Holding req.operationKey i v₀ ws s ∧ [jobId] ⊆ s.base.issued))
        fun e _ => Plain e) := by
    apply Triple.adapt (Triple.retain (fun _ _ => issued_evolves) (plainly upsertJob_holding))
    · exact fun _ _ hp => hp
    · rintro _ s _ ⟨⟨ws, hjob, hheld⟩, hids⟩
      exact ⟨ws, hjob, hheld, hids⟩
    · exact fun _ _ _ he => he
  apply Triple.follow hjobs fun _ => stable_const
  intro _
  apply Triple.exists
  intro ws₁
  apply Triple.given
  intro hjob
  have hidems : (exclusion req.operationKey law guard).Triple i
      (fun s => Holding req.operationKey i v₀ ws₁ s ∧ [jobId] ⊆ s.base.issued)
      (upsertIdempotency req.operationKey ⟨jobId, "in_progress", none⟩)
      (Ending (fun _ s => ∃ ws, Booked req.operationKey v₀.tables ws
          ⟨req.operationKey, jobId, "in_progress", 0, 0, 0⟩
        ∧ (Holding req.operationKey i v₀ ws s ∧ [jobId] ⊆ s.base.issued))
        fun e _ => Plain e) := by
    apply Triple.adapt
      (Triple.retain (fun _ _ => issued_evolves) (plainly upsertIdempotency_holding))
    · exact fun _ _ hp => hp
    · rintro _ s _ ⟨⟨ws, hidem, hstored, hheld⟩, hids⟩
      have hbefore : (v₀.after ws₁).tables.idempotency.lookup req.operationKey = none := by
        rcases hjob with rfl | rfl
        · apply hnone
        · apply hnone
      rw [hbefore] at hstored
      exact ⟨ws, Booked.of_atMost _ hjob hidem hstored, hheld, hids⟩
    · exact fun _ _ _ he => he
  apply Triple.follow hidems fun _ => stable_const
  intro _
  apply Triple.exists
  intro ws
  apply Triple.given
  intro hbooked
  have happlied : StaysApplied req.operationKey v₀.tables (v₀.after ws).tables := by
    apply staysApplied_of_unfinished
    rw [hnone]
    rfl
  have hlaw : ∀ issued, [jobId] ⊆ issued → law.holds v₀ issued →
      law.holds (v₀.after ws) issued := by
    intro issued hids hlaw
    apply hadmits.opened hlaw₀ hnew hlaw (hids List.mem_cons_self) hnone hbooked
  apply Triple.follow (holding_commit [jobId] hlaw happlied) fun _ => stable_const
  intro _
  apply Triple.yield Holding.stable
  intro s _ hheld
  exact ⟨v₀, _, ⟨hlone, .opened hnone hbooked hfresh⟩, hheld⟩

theorem beginJob_began (hadmits : Admits law svc req Reads) (hk : req.operationKey = k) :
  (exclusion k law guard).Triple i (fun s => Waiting k i s ∧ Settled i v s) (beginJob req)
    (Ending (BeganWith k req i v) fun e _ => Plain e)
  := by
  have hbegin : (exclusion k law guard).Triple i (fun s => Waiting k i s ∧ Settled i v s)
      (TenantDatabase.perform .begin)
      (Ending (fun _ s => Waiting k i s ∧ Settled i v s) fun e _ => Plain e) :=
    Triple.adapt
      (waiting_call .begin (fun _ hw => hw) (fun _ => rfl) (fun _ => rfl) fun _ => rfl)
      (fun _ _ hp => hp) (fun _ _ _ hq => hq) fun _ _ _ he => he.1
  subst hk
  apply Triple.follow hbegin fun _ => stable_const
  intro _
  apply Triple.follow waiting_find fun _ => stable_const
  intro idem s hs hfound
  rcases hfound with ⟨hidem, v', hlone, hlookup, hheld⟩ | ⟨row, rfl, hidle, hstored⟩
  · cases idem with
    | none => apply openJob_began hadmits rfl hlone hlookup s hs hheld
    | some row =>
        have hstatus : row.status ≠ "applied" := of_decide_eq_true hidem
        have hresume : (exclusion req.operationKey law guard).Triple i
            (Holding req.operationKey i v' []) (takeUp req row)
            (Ending (BeganWith req.operationKey req i v) fun e _ => Plain e) := by
          apply Triple.follow commit_nothing fun _ => stable_const
          intro _
          rw [if_neg hstatus]
          apply Triple.yield Holding.stable
          intro s _ hheld
          exact ⟨v', v', ⟨hlone, .resumed hlookup hstatus rfl⟩, hheld⟩
        apply hresume s hs hheld
  · have hreplay : (exclusion req.operationKey law guard).Triple i
        (fun s => Passive req.operationKey i v s ∧ Stored req.operationKey row s)
        (takeUp req row) (Ending (BeganWith req.operationKey req i v) fun e _ => Plain e) := by
      apply Triple.follow (Triple.retain (fun _ _ => Stored.evolves)
        (passive_call .commit (fun _ hw => hw) (fun _ => rfl) fun _ => rfl)) fun _ => stable_const
      intro _
      rw [if_pos hstored.1]
      apply Triple.yield
      · intro s s' hsees ⟨hpassive, hstored⟩
        exact ⟨Passive.stable s s' hsees hpassive, hstored.evolves hsees.evolve⟩
      · rintro s _ ⟨hpassive, hstored⟩
        exact ⟨row, rfl, hpassive, hstored⟩
    apply hreplay s hs ⟨hidle, hstored⟩

/-- What the source yielded to the thread. -/
def Collected (svc : Service) (req : ImportRequest) (Reads : List RawRecord → Prop) (i : ι)
    (raws : List RawRecord) (s : (importMachine chainKey ι).State) : Prop :=
  Reads raws ∧ ∃ adapter, svc.sources req.source.kind = some adapter
    ∧ Known i ⟨.readSource adapter req.source, .ok raws⟩ s

theorem Collected.evolves {raws : List RawRecord} {s s' : (importMachine chainKey ι).State}
    (h : Develops k s s') (hcollected : Collected svc req Reads i raws s) :
  Collected svc req Reads i raws s'
  := by
  obtain ⟨hreads, adapter, hadapter, hknown⟩ := hcollected
  exact ⟨hreads, adapter, hadapter, hknown.evolves h⟩

/-- What the condition on calls says of the reads of a source. -/
def Sourced (guard : (importMachine chainKey ι).Guard) (i : ι) (req : ImportRequest)
    (Reads : List RawRecord → Prop) : Prop :=
  ∀ s (adapter : SourceAdapter) c, guard s i (.readSource adapter req.source) c →
    Reads (adapter.read req.source c.views c.rows)

theorem collect_holding (hguard : Sourced guard i req Reads) :
  (exclusion k law guard).Triple i (Holding k i v []) (svc.collect req)
    (Ending (fun collected s => ∃ raws, collected = validateAll req.naturalKeyField raws
        ∧ (Holding k i v [] s ∧ Collected svc req Reads i raws s)) fun e _ => Surfaces e)
  := by
  rw [Service.collect]
  split
  · apply Triple.fail Holding.stable
    intro s _ _ code status he
    obtain ⟨-, rfl⟩ := ServiceError.importFailed.inj he
    rfl
  · rename_i adapter hadapter
    apply Triple.follow (Triple.adapt (holding_readSource fun s c => hguard s adapter c)
      (fun _ _ hp => hp) (fun _ _ _ hq => hq) fun _ _ _ he => he.1.surfaces)
      fun _ => stable_const
    intro raws
    apply Triple.yield
    · intro s s' hsees ⟨hreads, hheld, hknown⟩
      exact ⟨hreads, Holding.stable s s' hsees hheld, hknown.evolves hsees.evolve⟩
    · rintro s _ ⟨hreads, hheld, hknown⟩
      exact ⟨raws, rfl, hheld, hreads, adapter, hadapter, hknown⟩

theorem finalize_holding (hadmits : Admits law svc req Reads) (hk : req.operationKey = k)
    {row : IdempotencyRow} (hrow : v.tables.idempotency.lookup k = some row)
    (hstatus : row.status ≠ "applied") {raws : List RawRecord} (hreads : Reads raws)
    {bs : List (List ImportRecord)}
    (hbatches : batches svc.batchSize (validateAll req.naturalKeyField raws).1 = some bs)
    (hdone : bs.length < nextSeq v.tables row.jobId) (applied noop rejected : Nat) :
  (exclusion k law guard).Triple i (Holding k i v [])
    (Service.finalize req row.jobId applied noop rejected)
    (Ending (fun status s => ∃ ws,
        (status = ⟨row.jobId, req.tenantId, .applied, applied, noop, rejected, "",
            req.correlationId, false⟩
          ∧ Booked k v.tables ws ⟨k, row.jobId, "applied", applied, noop, rejected⟩)
        ∧ Holding k i (v.after ws) [] s) fun e _ => Plain e)
  := by
  subst hk
  apply Triple.follow (plainly (holding_pass rfl)) fun _ => stable_const
  intro _
  apply Triple.follow (plainly upsertJob_holding) fun _ => stable_const
  intro _
  apply Triple.exists
  intro ws₁
  apply Triple.given
  intro hjob
  apply Triple.follow (plainly upsertIdempotency_holding) fun _ => stable_const
  intro _
  apply Triple.exists
  intro ws
  apply Triple.given
  intro hidem
  apply Triple.given
  intro hstored
  have hbooked : Booked req.operationKey v.tables ws
      ⟨req.operationKey, row.jobId, "applied", applied, noop, rejected⟩ :=
    Booked.of_atMost _ hjob hidem hstored
  have happlied : StaysApplied req.operationKey v.tables (v.after ws).tables := by
    apply staysApplied_of_unfinished
    rw [hrow]
    apply unfinished_some hstatus
  have hlaw : ∀ issued, law.holds v issued → law.holds (v.after ws) issued :=
    fun issued hlaw =>
      hadmits.finalized hlaw hrow hstatus hreads hbatches hdone hbooked
  apply Triple.follow (commit_holding hlaw happlied) fun _ => stable_const
  intro _
  apply Triple.follow (plainly (holding_pass rfl)) fun _ => stable_const
  intro _
  apply Triple.yield Holding.stable
  intro s _ hheld
  exact ⟨ws, ⟨rfl, hbooked⟩, hheld⟩

/-- What a run that completes has done to what the database held when it found the operation
unfinished: it has imported the records of the batches from its resume point on. -/
structure Completed (svc : Service) (req : ImportRequest) (raws : List RawRecord)
    (v v' : Durable) (bs : List (List ImportRecord)) (ws : List Change) (status : ImportStatus) :
    Prop where
  unfinished : unfinished (v.tables.idempotency.lookup req.operationKey) = true
  batches : batches svc.batchSize (validateAll req.naturalKeyField raws).1 = some bs
  after : v' = v.after ws
  records : v'.tables.records
    = ((bs.drop (resumeSeq v.tables req.operationKey - 1)).flatten).foldl
      (importRecord req v.tables.columns) v.tables.records
  lineage : List.Forall₂ (Describes req status.importId)
    (bs.drop (resumeSeq v.tables req.operationKey - 1)).flatten (appended ws)
  checkpointed : ∀ cp ∈ checkpointed ws, cp.jobId = status.importId
  applied : (turns req v.tables.columns v.tables.records
    (bs.drop (resumeSeq v.tables req.operationKey - 1)).flatten).countP
      (fun turn => ¬ UpToDate req turn.1 turn.2) = status.appliedCount
  outcomes : ∀ ws', outcomes v.tables false (ws ++ ws')
    = (turns req v.tables.columns v.tables.records
        (bs.drop (resumeSeq v.tables req.operationKey - 1)).flatten).map
          (changesTable req v.tables.columns)
      ++ outcomes v'.tables false ws'
  count : status.appliedCount + status.noopCount
    = (bs.drop (resumeSeq v.tables req.operationKey - 1)).flatten.length
  rejected : status.rejectedCount = (validateAll req.naturalKeyField raws).2
  stored : v'.tables.idempotency.lookup req.operationKey
    = some ⟨req.operationKey, status.importId, "applied", status.appliedCount, status.noopCount,
      status.rejectedCount⟩
  status : status = ⟨status.importId, req.tenantId, .applied, status.appliedCount,
    status.noopCount, status.rejectedCount, "", req.correlationId, false⟩

theorem Completed.of_steps {v₀ v₁ v₂ : Durable} {jobId : String} {raws : List RawRecord}
    {bs : List (List ImportRecord)} {ws : List Change} {applied noop : Nat}
    (hentered : Entered req.operationKey jobId v₀ v₁)
    (hbatches : ImportService.batches svc.batchSize (validateAll req.naturalKeyField raws).1
      = some bs)
    (hprogress : Progress req jobId v₁
      (bs.drop (resumeSeq v₀.tables req.operationKey - 1)).flatten applied v₂)
    (hcount : applied + noop = (bs.drop (resumeSeq v₀.tables req.operationKey - 1)).flatten.length)
    (hbooked : Booked req.operationKey v₂.tables ws
      ⟨req.operationKey, jobId, "applied", applied, noop, (validateAll req.naturalKeyField raws).2⟩) :
  ∃ ws', Completed svc req raws v₀ (v₂.after ws) bs ws'
    ⟨jobId, req.tenantId, .applied, applied, noop, (validateAll req.naturalKeyField raws).2, "",
      req.correlationId, false⟩
  := by
  have hunfinished : ImportService.unfinished (v₀.tables.idempotency.lookup req.operationKey)
      = true := by
    cases hentered with
    | resumed hrow hstatus hjob =>
        rw [hrow]
        apply unfinished_some hstatus
    | opened hnone _ _ =>
        rw [hnone]
        rfl
  obtain ⟨ws₁, rfl, hrecords, happended, hcheckpointed, houtcomes, -⟩ := hentered.keeps
  obtain ⟨ws₂, rfl, himported⟩ := hprogress
  have hcolumns : (v₀.after ws₁).tables.columns = v₀.tables.columns := columns_applyAll
  use ws₁ ++ ws₂ ++ ws
  constructor
  · apply hunfinished
  · apply hbatches
  · rw [Durable.after_after, Durable.after_after, List.append_assoc]
  · rw [← hrecords, ← hcolumns]
    exact hbooked.records.trans himported.records
  · rw [appended_append, appended_append, happended, hbooked.appended, List.append_nil]
    apply himported.lineage
  · intro cp hcp
    rw [checkpointed_append, checkpointed_append, hcheckpointed, hbooked.checkpointed,
      List.append_nil] at hcp
    apply himported.checkpointed cp hcp
  · rw [← hrecords, ← hcolumns]
    apply himported.applied
  · intro ws'
    rw [← hrecords, ← hcolumns, List.append_assoc, List.append_assoc, houtcomes,
      himported.outcomes]
    apply congrArg
    apply hbooked.outcomes
  · apply hcount
  · rfl
  · apply hbooked.stored
  · rfl

/-! ### Whole runs -/

/-- How a call of `start_import` returns. -/
inductive Outcome (k : String) (svc : Service) (req : ImportRequest)
    (Reads : List RawRecord → Prop) (i : ι) (v : Durable) :
    ImportStatus → (importMachine chainKey ι).State → Prop where
  | replayed {row : IdempotencyRow} {s : (importMachine chainKey ι).State}
      (hpassive : Passive k i v s) (hstored : Stored k row s) :
      Outcome k svc req Reads i v (replayStatus req row) s
  | completed {raws : List RawRecord} {v₀ v' : Durable} {bs : List (List ImportRecord)}
      {ws : List Change} {status : ImportStatus} {s : (importMachine chainKey ι).State}
      (hlone : (∀ j : ι, j = i) → v₀ = v) (hcompleted : Completed svc req raws v₀ v' bs ws status)
      (hsettled : Settled i v' s) (hcollected : Collected svc req Reads i raws s)
      (hstored : Stored k ⟨k, status.importId, "applied", status.appliedCount, status.noopCount,
        status.rejectedCount⟩ s) :
      Outcome k svc req Reads i v status s
  | failed {status : ImportStatus} {s : (importMachine chainKey ι).State}
      (hfailed : status.state = .failed) : Outcome k svc req Reads i v status s

theorem Outcome.stable {status : ImportStatus} :
  (exclusion k law guard).Stable i (Outcome k svc req Reads i v status)
  := by
  intro s s' hsees h
  cases h with
  | replayed hpassive hstored =>
      exact .replayed (Passive.stable s s' hsees hpassive) (hstored.evolves hsees.evolve)
  | completed hlone hcompleted hsettled hcollected hstored =>
      exact .completed hlone hcompleted (Settled.stable s s' hsees hsettled)
        (hcollected.evolves hsees.evolve) (hstored.evolves hsees.evolve)
  | failed hfailed => exact .failed hfailed

/-- All batches of a run. -/
theorem applyBatches_holding (hadmits : Admits law svc req Reads) (hk : req.operationKey = k)
    {row : IdempotencyRow} (hrow : v.tables.idempotency.lookup k = some row)
    (hstatus : row.status ≠ "applied") {raws : List RawRecord} (hreads : Reads raws) :
  (exclusion k law guard).Triple i (Holding k i v [])
    (svc.applyBatches hmac req row.jobId (validateAll req.naturalKeyField raws).1
      (nextSeq v.tables row.jobId))
    (Ending (fun counts s => ∃ bs v',
        (batches svc.batchSize (validateAll req.naturalKeyField raws).1 = some bs
          ∧ Progress req row.jobId v (bs.drop (nextSeq v.tables row.jobId - 1)).flatten counts.1 v'
          ∧ counts.1 + counts.2 = (bs.drop (nextSeq v.tables row.jobId - 1)).flatten.length
          ∧ bs.length < nextSeq v'.tables row.jobId) ∧ Holding k i v' [] s)
      fun e _ => Surfaces e)
  := by
  rw [Service.applyBatches]
  cases hbatches : batches svc.batchSize (validateAll req.naturalKeyField raws).1 with
  | none =>
      apply Triple.fail Holding.stable
      intro s _ _ code status he
      cases he
  | some bs =>
      apply Triple.adapt (applyFrom_holding hadmits hk hrow hstatus hreads [] hbatches
        nextSeq_pos 0 0 (by simp))
      · intro s _ hheld
        have hnext : nextSeq v.tables row.jobId = max (nextSeq v.tables row.jobId) 1 := by
          rw [max_eq_left nextSeq_pos]
        rw [List.drop_nil]
        exact ⟨v, ⟨Progress.refl, hnext⟩, hheld⟩
      · rintro counts s _ ⟨v', ⟨hprogress, hcount, hdone⟩, hheld⟩
        exact ⟨bs, v', ⟨rfl, hprogress, hcount, hdone⟩, hheld⟩
      · exact fun _ _ _ he => he

theorem proceed_outcome (hadmits : Admits law svc req Reads) (hk : req.operationKey = k)
    (hguard : Sourced guard i req Reads) {jobId : String} {resuming : Bool} {v₀ v₁ : Durable}
    (hlone : (∀ j : ι, j = i) → v₀ = v) (hentered : Entered k jobId v₀ v₁) :
  (exclusion k law guard).Triple i (Holding k i v₁ []) (svc.proceed hmac req jobId resuming)
    (Ending (Outcome k svc req Reads i v) fun e _ => Surfaces e)
  := by
  subst hk
  obtain ⟨row, hrow, hstatus, rfl⟩ := hentered.job
  obtain ⟨-, -, -, -, -, -, hseq⟩ := hentered.keeps
  have hplain : ∀ {α : Type} {x : TenantProgram α}
      {P : (importMachine chainKey ι).State → Prop}
      {Q : α → (importMachine chainKey ι).State → Prop},
      (exclusion req.operationKey law guard).Triple i P x (Ending Q fun e _ => Plain e) →
      (exclusion req.operationKey law guard).Triple i P x (Ending Q fun e _ => Surfaces e) :=
    fun h => Triple.adapt h (fun _ _ hp => hp) (fun _ _ _ hq => hq) fun _ _ _ he => he.surfaces
  have hevolves : ∀ raws (s s' : (importMachine chainKey ι).State),
      (exclusion req.operationKey law guard).evolve s s' →
      Collected svc req Reads i raws s → Collected svc req Reads i raws s' :=
    fun raws s s' hevolve hcollected => hcollected.evolves hevolve
  apply Triple.follow (hplain (plainly (holding_pass rfl))) fun _ => stable_const
  intro _
  apply Triple.follow (collect_holding hguard) fun _ => stable_const
  intro collected
  apply Triple.exists
  intro raws
  apply Triple.given
  rintro rfl
  apply Triple.follow (hplain (Triple.retain (hevolves raws) resumePoint_holding))
    fun _ => stable_const
  intro startSeq s hs ⟨⟨hstart, hheld⟩, hcollected⟩
  have hreads := hcollected.1
  subst hstart
  have hrest : (exclusion req.operationKey law guard).Triple i
      (fun s => Holding req.operationKey i v₁ [] s ∧ Collected svc req Reads i raws s)
      (svc.applyBatches hmac req row.jobId (validateAll req.naturalKeyField raws).1
          (nextSeq v₁.tables row.jobId)
        >>= fun counts => Service.finalize req row.jobId counts.1 counts.2
          (validateAll req.naturalKeyField raws).2)
      (Ending (Outcome req.operationKey svc req Reads i v) fun e _ => Surfaces e) := by
    apply Triple.follow (Triple.retain (hevolves raws)
      (applyBatches_holding hadmits rfl hrow hstatus hreads)) fun _ => stable_const
    intro counts s hs ⟨⟨bs, v₂, ⟨hbatches, hprogress, hcount, hdone⟩, hheld⟩, hcollected⟩
    have hrow₂ : v₂.tables.idempotency.lookup req.operationKey = some row := by
      rw [hprogress.idempotency, hrow]
    have hfinal : (exclusion req.operationKey law guard).Triple i _ _ _ :=
      Triple.retain (hevolves raws) (hplain (finalize_holding hadmits rfl hrow₂ hstatus hreads
        hbatches hdone counts.1 counts.2 (validateAll req.naturalKeyField raws).2))
    apply (hfinal s hs ⟨hheld, hcollected⟩).mono
    rintro (e | status) s' _ hend
    · apply hend
    · obtain ⟨⟨ws, ⟨rfl, hbooked⟩, hheld'⟩, hcollected'⟩ := hend
      rw [hseq] at hprogress hcount
      obtain ⟨ws', hcompleted⟩ := Completed.of_steps hentered hbatches hprogress hcount hbooked
      have hstored : Stored req.operationKey ⟨req.operationKey, row.jobId, "applied", counts.1,
          counts.2, (validateAll req.naturalKeyField raws).2⟩ s' := by
        use rfl
        have hcommitted : s'.base.db.committed = _ := congrArg Durable.tables hheld'.durable
        rw [hcommitted]
        apply hbooked.stored
      exact .completed hlone hcompleted hheld'.settled hcollected' hstored
  apply hrest s hs ⟨hheld, hcollected⟩

theorem replayOr_outcome (hadmits : Admits law svc req Reads) (hk : req.operationKey = k)
    (hguard : Sourced guard i req Reads) (job : String × Bool × Option ImportStatus) :
  (exclusion k law guard).Triple i (BeganWith k req i v job) (svc.replayOr hmac req job)
    (Ending (Outcome k svc req Reads i v) fun e _ => Surfaces e)
  := by
  obtain ⟨jobId, resuming, replay⟩ := job
  cases replay with
  | none =>
      rintro s hs ⟨v₀, v₁, ⟨hlone, hentered⟩, hheld⟩
      apply proceed_outcome hadmits hk hguard hlone hentered s hs hheld
  | some status =>
      apply Triple.exists
      intro row
      apply Triple.given
      rintro rfl
      have haudit : (exclusion k law guard).Triple i
          (fun s => Passive k i v s ∧ Stored k row s)
          (emitAudit req "ImportCompleted" "replayed")
          (Ending (fun _ s => Passive k i v s ∧ Stored k row s)
            fun e _ => Plain e) :=
        Triple.retain (fun _ _ => Stored.evolves) (passive_call (.initiate _) (fun _ hw => hw)
          (fun _ => rfl) fun _ => rfl)
      apply Triple.follow (Triple.adapt haudit (fun _ _ hp => hp) (fun _ _ _ hq => hq)
        fun _ _ _ he => he.surfaces) fun _ => stable_const
      intro _
      apply Triple.yield
      · intro s s' hsees ⟨hpassive, hstored⟩
        exact ⟨Passive.stable s s' hsees hpassive, hstored.evolves hsees.evolve⟩
      · intro s _ ⟨hpassive, hstored⟩
        exact .replayed hpassive hstored

/-- A call that any thread may make at any time. -/
theorem free_call (op : TenantOp) (hop : ∀ w, ¬ op.Makes w) (hcommit : op ≠ .commit)
    (hfinds : ∀ r, findsUnfinished k ⟨op, r⟩ = false) :
  (exclusion k law guard).Triple i (fun _ => True) (TenantDatabase.perform op)
    (Ending (fun _ _ => True) fun e _ => Plain e)
  := by
  apply Triple.perform stable_const
  · rintro (e | a)
    · apply stable_const
    · apply stable_const
  · intro s c r s' hinv _ _ ha
    have hsteps : (exclusion k law guard).Steps i s s' := by
      cases hwork : working k s.journal i with
      | true => exact steps_working guard hinv hwork ha hcommit
      | false => exact (Idle.call guard hinv hwork ha hop (hfinds r)).1
    use hsteps
    cases r with
    | error e => exact plain_of_answer ha
    | ok a => trivial

/-- The handler returns a failed status. -/
theorem surface_outcome (e : ServiceError) (he : Surfaces e) :
  (exclusion k law guard).Triple i (fun _ => True) (Service.surface req e)
    (Ending (Outcome k svc req Reads i v) fun _ _ => True)
  := by
  cases e with
  | importFailed code status =>
      have haudit : (exclusion k law guard).Triple i (fun _ => True)
          (emitAudit req "ImportFailed" ("error:" ++ code))
          (Ending (fun _ _ => True) fun e _ => Plain e) :=
        free_call (.initiate _) (fun _ hw => hw) (fun h => nomatch h) fun _ => rfl
      apply Triple.follow (Triple.adapt haudit (fun _ _ hp => hp) (fun _ _ _ hq => hq)
        fun _ _ _ _ => trivial) fun _ => stable_const
      intro _
      apply Triple.yield stable_const
      intro s _ _
      exact .failed (he code status rfl)
  | _ => exact Triple.fail stable_const fun _ _ _ => trivial

theorem close_outcome {status : ImportStatus} :
  (exclusion k law guard).Triple i (Outcome k svc req Reads i v status)
    (TenantDatabase.perform .close)
    (Ending (fun _ => Outcome k svc req Reads i v status) fun _ _ => True)
  := by
  have hclose : ∀ v, (exclusion k law guard).Triple i (Settled i v)
      (TenantDatabase.perform .close) (Ending (fun _ => Settled i v) fun e _ => Plain e) :=
    fun v => settled_call .close (fun _ hw => hw) (fun h => nomatch h) fun _ => rfl
  intro s hs h
  cases h with
  | replayed hpassive hstored =>
      have hpass : (exclusion k law guard).Triple i (Passive k i v)
          (TenantDatabase.perform .close) (Ending (fun _ => Passive k i v) fun e _ => Plain e) :=
        passive_call .close (fun _ hw => hw) (fun _ => rfl) fun _ => rfl
      have hrule := Triple.retain (fun _ _ => Stored.evolves) hpass s hs ⟨hpassive, hstored⟩
      apply hrule.mono
      rintro (e | _) s' _ hend
      · trivial
      · exact .replayed hend.1 hend.2
  | @completed raws v₀ v' bs ws status s hlone hcompleted hsettled hcollected hstored =>
      have hrule := Triple.retain (fun _ _ => Stored.evolves)
        (Triple.retain (fun _ _ => Collected.evolves) (hclose v')) s hs
        ⟨⟨hsettled, hcollected⟩, hstored⟩
      apply hrule.mono
      rintro (e | _) s' _ hend
      · trivial
      · exact .completed hlone hcompleted hend.1.1 hend.1.2 hend.2
  | failed hfailed =>
      have hrule : (exclusion k law guard).Triple i (fun _ => True)
          (TenantDatabase.perform .close) (Ending (fun _ _ => True) fun e _ => Plain e) :=
        free_call .close (fun _ hw => hw) (fun h => nomatch h) fun _ => rfl
      apply (hrule s hs trivial).mono
      rintro (e | _) s' _ hend
      · trivial
      · exact .failed hfailed

/-- A thread that has closed its session is not at work. -/
theorem close_idle :
  (exclusion k law guard).Triple i (fun _ => True) (TenantDatabase.perform .close)
    fun _ => Idle k i
  := by
  apply Triple.perform stable_const
  · exact fun _ => Idle.stable
  · intro s c r s' hinv _ _ ha
    constructor
    · cases hwork : working k s.journal i with
      | true => exact steps_working guard hinv hwork ha fun h => nomatch h
      | false => exact (Idle.call guard hinv hwork ha (fun _ hw => hw) rfl).1
    · rw [Idle, journal_of_answer ha]
      apply working_close

/-- A call of `start_import`, from the beginning of its thread on. -/
theorem startImport_outcome (hadmits : Admits law svc req Reads) (hk : req.operationKey = k)
    (hguard : Sourced guard i req Reads) :
  (exclusion k law guard).Triple i (fun s => Waiting k i s ∧ Settled i v s)
    (svc.startImport hmac req)
    (Ending (fun status s => Outcome k svc req Reads i v status s ∧ Idle k i s)
      fun _ => Idle k i)
  := by
  have hwaiting : ∀ op : TenantOp, (∀ w, ¬ op.Makes w) →
      (∀ r, findsUnfinished k ⟨op, r⟩ = false) → (∀ r, closes ⟨op, r⟩ = false) →
      (∀ r, readsSource ⟨op, r⟩ = false) →
      (exclusion k law guard).Triple i (fun s => Waiting k i s ∧ Settled i v s)
        (TenantDatabase.perform op)
        (Ending (fun _ s => Waiting k i s ∧ Settled i v s) fun _ => Idle k i) :=
    fun op hop hfinds hcloses hreads =>
      Triple.adapt (waiting_call op hop hfinds hcloses hreads) (fun _ _ hp => hp)
        (fun _ _ _ hq => hq) fun _ _ _ he => he.2
  have hbody : (exclusion k law guard).Triple i (fun s => Waiting k i s ∧ Settled i v s)
      ((svc.importBody hmac req).rescue (Service.surface req))
      (Ending (Outcome k svc req Reads i v) fun _ _ => True) := by
    have hrun : (exclusion k law guard).Triple i (fun s => Waiting k i s ∧ Settled i v s)
        (svc.importBody hmac req)
        (Ending (Outcome k svc req Reads i v) fun e _ => Surfaces e) := by
      apply Triple.follow (Triple.adapt (beginJob_began hadmits hk) (fun _ _ hp => hp)
        (fun _ _ _ hq => hq) fun _ _ _ he => he.surfaces) fun _ => stable_const
      intro job
      apply replayOr_outcome hadmits hk hguard
    apply Triple.recover hrun fun _ => Outcome.stable
    intro e s hs he
    apply surface_outcome e he s hs trivial
  apply Triple.follow
    (hwaiting (.initiate _) (fun _ hw => hw) (fun _ => rfl) (fun _ => rfl) fun _ => rfl)
    fun _ => Idle.stable
  intro _
  apply Triple.follow
    (hwaiting .openSession (fun _ hw => hw) (fun _ => rfl) (fun _ => rfl) fun _ => rfl)
    fun _ => Idle.stable
  intro _
  apply Triple.andThen hbody
  rintro (e | status)
  · apply Triple.andThen close_idle
    rintro (e' | _)
    · exact Triple.fail Idle.stable fun _ _ h => h
    · exact Triple.fail Idle.stable fun _ _ h => h
  · have hclose : (exclusion k law guard).Triple i
        (fun s => Outcome k svc req Reads i v status s ∧ True) (TenantDatabase.perform .close)
        fun r s => Ending (fun _ => Outcome k svc req Reads i v status) (fun _ _ => True) r s
          ∧ Idle k i s :=
      Triple.and close_outcome close_idle
    apply Triple.andThen (hclose.mono (fun _ _ h => ⟨h, trivial⟩) fun _ _ _ h => h)
    rintro (e' | _)
    · apply Triple.fail
      · intro s s' hsees h
        exact ⟨h.1, Idle.stable s s' hsees h.2⟩
      · exact fun _ _ h => h.2
    · apply Triple.yield
      · intro s s' hsees h
        exact ⟨Outcome.stable s s' hsees h.1, Idle.stable s s' hsees h.2⟩
      · exact fun _ _ h => h

/-! ### Status -/

/-- What `get_status` returns of a row. -/
def Polled (k : String) (i : ι) (v : Durable) (idem : Option IdempotencyRow)
    (s : (importMachine chainKey ι).State) : Prop :=
  ((∀ j : ι, j = i) → idem = v.tables.idempotency.lookup k) ∧ Settled i v s

theorem readIdempotency_polled :
  (exclusion k law guard).Triple i (fun s => Waiting k i s ∧ Settled i v s) (readIdempotency k)
    (Ending (Polled k i v) fun e _ => Plain e)
  := by
  have hstable : ∀ idem, (exclusion k law guard).Stable i (Polled k i v idem) := by
    intro idem s s' hsees ⟨hidem, hsettled⟩
    exact ⟨hidem, Settled.stable s s' hsees hsettled⟩
  apply Triple.follow (Triple.adapt
    (waiting_call .begin (fun _ hw => hw) (fun _ => rfl) (fun _ => rfl) fun _ => rfl)
    (fun _ _ hp => hp) (fun _ _ _ hq => hq) fun _ _ _ he => he.1) fun _ => stable_const
  intro _
  apply Triple.follow waiting_find fun _ => stable_const
  intro idem s hs hfound
  rcases hfound with ⟨-, v', hlone, hlookup, hheld⟩ | ⟨row, rfl, hpassive, hstored⟩
  · have hcommit : (exclusion k law guard).Triple i (Holding k i v' [])
        (TenantDatabase.perform .commit >>= fun _ => pure idem)
        (Ending (Polled k i v) fun e _ => Plain e) := by
      apply Triple.follow commit_nothing fun _ => stable_const
      intro _
      apply Triple.yield Holding.stable
      intro s _ hheld
      constructor
      · intro h
        rw [← hlone h, hlookup]
      · intro h
        rw [← hlone h, hheld.durable]
    apply hcommit s hs hheld
  · have hcommit : (exclusion k law guard).Triple i (fun s => Passive k i v s ∧ Stored k row s)
        (TenantDatabase.perform .commit >>= fun _ => pure (some row))
        (Ending (Polled k i v) fun e _ => Plain e) := by
      apply Triple.follow (Triple.retain (fun _ _ => Stored.evolves)
        (passive_call .commit (fun _ hw => hw) (fun _ => rfl) fun _ => rfl)) fun _ => stable_const
      intro _
      apply Triple.yield
      · intro s s' hsees ⟨hpassive, hstored⟩
        exact ⟨Passive.stable s s' hsees hpassive, hstored.evolves hsees.evolve⟩
      · intro s _ ⟨hpassive, hstored⟩
        refine ⟨?_, hpassive.settled⟩
        intro h
        have hcommitted : s.base.db.committed = v.tables :=
          congrArg Durable.tables (hpassive.settled h)
        rw [← hcommitted, hstored.2]
    apply hcommit s hs ⟨hpassive, hstored⟩

/-- A call of `get_status`, from the beginning of its thread on. -/
theorem getStatus_polled {tenantId correlationId : String} :
  (exclusion k law guard).Triple i (fun s => Waiting k i s ∧ Settled i v s)
    (getStatus tenantId k correlationId)
    (Ending (fun status s => (∃ idem, status = idem.map (storedStatus tenantId correlationId)
        ∧ Polled k i v idem s) ∧ Idle k i s) fun _ => Idle k i)
  := by
  have hstable : ∀ idem, (exclusion k law guard).Stable i fun s =>
      Polled k i v idem s ∧ Idle k i s := by
    intro idem s s' hsees ⟨⟨hidem, hsettled⟩, hidle⟩
    exact ⟨⟨hidem, Settled.stable s s' hsees hsettled⟩, Idle.stable s s' hsees hidle⟩
  have hread : (exclusion k law guard).Triple i (fun s => Waiting k i s ∧ Settled i v s)
      ((readIdempotency k).finally_ (TenantDatabase.perform .close))
      (Ending (fun idem s => Polled k i v idem s ∧ Idle k i s) fun _ => Idle k i) := by
    apply Triple.andThen readIdempotency_polled
    rintro (e | idem)
    · apply Triple.andThen (close_idle.mono (fun _ _ _ => trivial) fun _ _ _ h => h)
      rintro (e' | _)
      · exact Triple.fail Idle.stable fun _ _ h => h
      · exact Triple.fail Idle.stable fun _ _ h => h
    · apply Triple.given
      intro hidem
      have hclose : (exclusion k law guard).Triple i (fun s => Settled i v s ∧ True)
          (TenantDatabase.perform .close)
          fun r s => Ending (fun _ => Settled i v) (fun e _ => Plain e) r s ∧ Idle k i s :=
        Triple.and (settled_call .close (fun _ hw => hw) (fun h => nomatch h) fun _ => rfl)
          close_idle
      apply Triple.andThen (hclose.mono (fun _ _ h => ⟨h, trivial⟩) fun _ _ _ h => h)
      rintro (e' | _)
      · apply Triple.fail
        · intro s s' hsees h
          exact ⟨h.1, Idle.stable s s' hsees h.2⟩
        · exact fun _ _ h => h.2
      · apply Triple.yield
        · intro s s' hsees h
          exact ⟨Settled.stable s s' hsees h.1, Idle.stable s s' hsees h.2⟩
        · exact fun _ _ h => ⟨⟨hidem, h.1⟩, h.2⟩
  apply Triple.follow (Triple.adapt
    (waiting_call .openSession (fun _ hw => hw) (fun _ => rfl) (fun _ => rfl) fun _ => rfl)
    (fun _ _ hp => hp) (fun _ _ _ hq => hq) fun _ _ _ he => he.2) fun _ => Idle.stable
  intro _
  apply Triple.follow hread fun _ => Idle.stable
  intro idem
  apply Triple.yield (hstable idem)
  intro s _ ⟨hpolled, hidle⟩
  exact ⟨⟨idem, rfl, hpolled⟩, hidle⟩

end ImportService
