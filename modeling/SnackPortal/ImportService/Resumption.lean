import SnackPortal.ImportService.Alone
import Mathlib.Data.Bool.Count

/-!
# One call after the other

The calls of `start_import` under one operation key, one after the other, each to its ending or
to a crash, with any sources, any contents and any batch sizes.  A call that completes the
operation leaves the rows of the batches that it skipped as the table had them, so what the table
carries in the end depends on what it carried before (`resumed_exact`); and the counts that it
stores are those of this one call, so they are right only where no batch was committed before
(`counts_exact`).
-/

namespace ImportService

open Lineage (Hmac)
open Machine Program TenantDatabase Discipline

/-! ### The law of counts -/

/-- The jobs have ids that were handed out, a run starts with the first batch exactly where no
record was imported yet, and what a run does to the tables of before counts as it is. -/
structure Counted (d₀ : Tables) (k : String) (v : Durable) (issued : List String) : Prop where
  checkpoints : ∀ cp ∈ v.tables.checkpoints, cp.jobId ∈ issued
  job : ∀ row, v.tables.idempotency.lookup k = some row → row.jobId ∈ issued
  counts : resumeSeq v.tables k = 1 ↔ appended v.changes = []
  outcomes : ∀ ws, outcomes d₀ false (v.changes ++ ws)
    = outcomes d₀ false v.changes ++ outcomes v.tables false ws

/-- The law of counts, for a history that began with the tables `d₀`. -/
def countLaw (d₀ : Tables) (k : String) : ImportLaw where
  holds := Counted d₀ k
  mono _ h := ⟨fun cp hcp => List.mem_cons_of_mem _ (h.checkpoints cp hcp),
    fun row hrow => List.mem_cons_of_mem _ (h.job row hrow), h.counts, h.outcomes⟩
  fresh h := h.checkpoints

section Counted

variable {d₀ : Tables} {k : String} {v : Durable} {issued : List String} {ws : List Change}
  {row row' : IdempotencyRow}

theorem resumeSeq_of_lookup {d : Tables} (h : d.idempotency.lookup k = some row) :
  resumeSeq d k = nextSeq d row.jobId
  := by
  rw [resumeSeq, h]

/-- Bookkeeping for a recorded job keeps the law. -/
theorem Counted.booked (h : Counted d₀ k v issued) (hrow : v.tables.idempotency.lookup k = some row)
    (hbooked : Booked k v.tables ws row') (hjob : row'.jobId = row.jobId) :
  Counted d₀ k (v.after ws) issued
  := by
  have hstored : (v.after ws).tables.idempotency.lookup k = some row' := hbooked.stored
  have hcheckpoints : (v.after ws).tables.checkpoints = v.tables.checkpoints :=
    hbooked.checkpoints
  constructor
  · rw [hcheckpoints]
    apply h.checkpoints
  · intro row'' hrow''
    rw [hstored] at hrow''
    obtain rfl := Option.some.inj hrow''
    rw [hjob]
    apply h.job row hrow
  · have hcounts := h.counts
    rw [resumeSeq_of_lookup hrow] at hcounts
    rw [resumeSeq_of_lookup hstored, hjob, nextSeq_congr hcheckpoints, hcounts, Durable.after,
      appended_append, hbooked.appended, List.append_nil]
  · apply outcomes_append [] h.outcomes hbooked.outcomes

/-- The bookkeeping for a new job keeps the law. -/
theorem Counted.opened (h : Counted d₀ k v issued) (hnone : v.tables.idempotency.lookup k = none)
    (hbooked : Booked k v.tables ws row') (hjob : row'.jobId ∈ issued)
    (hfresh : ∀ cp ∈ v.tables.checkpoints, cp.jobId ≠ row'.jobId) :
  Counted d₀ k (v.after ws) issued
  := by
  have hstored : (v.after ws).tables.idempotency.lookup k = some row' := hbooked.stored
  have hcheckpoints : (v.after ws).tables.checkpoints = v.tables.checkpoints :=
    hbooked.checkpoints
  constructor
  · rw [hcheckpoints]
    apply h.checkpoints
  · intro row'' hrow''
    rw [hstored] at hrow''
    obtain rfl := Option.some.inj hrow''
    apply hjob
  · have hcounts := h.counts
    have hseq : resumeSeq v.tables k = 1 := by
      rw [resumeSeq, hnone]
    rw [hseq] at hcounts
    have hnext : nextSeq (v.after ws).tables row'.jobId = 1 := by
      rw [nextSeq_congr hcheckpoints]
      apply nextSeq_fresh hfresh
    rw [resumeSeq_of_lookup hstored, hnext, hcounts, Durable.after, appended_append,
      hbooked.appended, List.append_nil]
  · apply outcomes_append [] h.outcomes hbooked.outcomes

/-- The law of counts admits every run. -/
theorem countLaw_admits (svc : Service) (req : ImportRequest) :
  Admits (countLaw d₀ req.operationKey) svc req fun _ => True
  := by
  constructor
  · intro v issued₀ issued jobId ws hlaw₀ hnew hlaw hissued hnone hbooked
    apply Counted.opened hlaw hnone hbooked hissued
    rintro cp hcp rfl
    apply hnew
    apply hlaw₀.checkpoints cp hcp
  · intro v issued row raws bs batch ws applied hlaw hrow _ _ hbatches hbatch himported
    have hlookup : (v.after ws).tables.idempotency.lookup req.operationKey = some row := by
      rw [Durable.after, himported.imported.idempotency, hrow]
    obtain ⟨cp, hcheckpointed, hjob, hseq⟩ := himported.checkpoint
    constructor
    · rw [Durable.after, checkpoints_applyAll, hcheckpointed]
      intro cp' hcp'
      rcases List.mem_append.mp hcp' with hold | hnew
      · apply hlaw.checkpoints cp' hold
      · obtain rfl := List.mem_singleton.mp hnew
        rw [hjob]
        apply hlaw.job row hrow
    · intro row' hrow'
      rw [hlookup] at hrow'
      obtain rfl := Option.some.inj hrow'
      apply hlaw.job row hrow
    · have hnext := himported.nextSeq (v := v) le_rfl
      have hpos : 1 ≤ nextSeq v.tables row.jobId := nextSeq_pos
      have hlength := himported.imported.lineage.length_eq
      have hbatch : 0 < batch.length := by
        apply List.length_pos_of_ne_nil
        apply batch_ne_nil hbatches (List.mem_of_getElem? hbatch)
      rw [resumeSeq_of_lookup hlookup, hnext, Durable.after, appended_append,
        ← List.length_eq_zero_iff, List.length_append]
      omega
    · apply outcomes_append _ hlaw.outcomes himported.imported.outcomes
  · intro v issued row ws hlaw hrow _ hbooked
    apply Counted.booked hlaw hrow hbooked rfl
  · intro v issued row raws bs ws applied noop rejected hlaw hrow _ _ _ _ hbooked
    apply Counted.booked hlaw hrow hbooked rfl

end Counted

/-! ### Histories -/

/-- A database on which the operation key was not used yet, with nothing under way. -/
structure Unused (k : String) (s : TenantState Unit) : Prop where
  quiet : s.db = .quiet s.db.committed
  fresh : s.db.committed.idempotency.lookup k = none
  checkpoints : ∀ cp ∈ s.db.committed.checkpoints, cp.jobId ∈ s.issued

theorem Unused.restful {k : String} {s : TenantState Unit} (h : Unused k s) :
  Restful k (countLaw s.db.committed k) s
  := by
  have hpending : s.db.pending () = [] := by
    rw [h.quiet]
    rfl
  have hchanges : s.db.changes = [] := by
    rw [h.quiet]
    rfl
  use hpending
  constructor
  · apply h.checkpoints
  · intro row hrow
    rw [h.fresh] at hrow
    cases hrow
  · rw [hchanges, resumeSeq, h.fresh]
    exact ⟨fun _ => rfl, fun _ => rfl⟩
  · intro ws
    rw [hchanges]
    rfl

/-- The states of a database after calls of `start_import` and `get_status` under the operation
key, one after the other. -/
inductive Operated (chainKey : String) (hmac : Hmac) (k : String) (s₀ : TenantState Unit) :
    TenantState Unit → Prop where
  | start : Operated chainKey hmac k s₀ s₀
  | imported {s s' : TenantState Unit} (h : Operated chainKey hmac k s₀ s) (svc : Service)
      {req : ImportRequest} (hk : req.operationKey = k)
      {r : Option (Except ServiceError ImportStatus)}
      {events : List (Event tenantSignature ServiceError)}
      (hrun : Ran chainKey (svc.startImport hmac req) s r events s') :
      Operated chainKey hmac k s₀ s'
  | polled {s s' : TenantState Unit} (h : Operated chainKey hmac k s₀ s)
      (tenantId correlationId : String) {r : Option (Except ServiceError (Option ImportStatus))}
      {events : List (Event tenantSignature ServiceError)}
      (hrun : Ran chainKey (getStatus tenantId k correlationId) s r events s') :
      Operated chainKey hmac k s₀ s'

section Histories

variable {chainKey : String} {hmac : Hmac} {k : String} {s₀ s s' : TenantState Unit} {d₀ : Tables}

/-- Between the calls of a history nothing is under way, the law holds, and an operation that is
applied stays so. -/
theorem Operated.restful (h : Operated chainKey hmac k s₀ s)
    (hrest : Restful k (countLaw d₀ k) s₀) :
  Restful k (countLaw d₀ k) s ∧ StaysApplied k s₀.db.committed s.db.committed
  := by
  induction h with
  | start => exact ⟨hrest, StaysApplied.refl⟩
  | imported _ svc hk hrun ih =>
      subst hk
      obtain ⟨hrest', happlied⟩ := ih
      obtain ⟨hrest'', happlied', -⟩ := hrun.outcome (countLaw_admits svc _) hrest'
      exact ⟨hrest'', happlied.trans happlied'⟩
  | polled _ tenantId correlationId hrun ih =>
      obtain ⟨hrest', happlied⟩ := ih
      obtain ⟨hrest'', happlied', -⟩ := hrun.polled hrest'
      exact ⟨hrest'', happlied.trans happlied'⟩

/-- The records of the batches from one number on. -/
def resumed (batchSize : Int) (seq : Nat) (valid : List ImportRecord) : List ImportRecord :=
  (((batches batchSize valid).getD []).drop (seq - 1)).flatten

/-- A call that reads its source and returns 'applied' has completed the operation. -/
theorem Ran.completed {svc : Service} {req : ImportRequest} {status : ImportStatus}
    {events : List (Event tenantSignature ServiceError)} {adapter : SourceAdapter}
    {raws : List RawRecord} (hrest : Restful req.operationKey (countLaw d₀ req.operationKey) s)
    (hrun : Ran chainKey (svc.startImport hmac req) s (some (.ok status)) events s')
    (happlied : status.state = .applied)
    (hread : ⟨.readSource adapter req.source, .ok raws⟩ ∈ events) :
  ∃ bs ws, Completed svc req raws ⟨s.db.committed, s.db.changes⟩ ⟨s'.db.committed, s'.db.changes⟩
    bs ws status
  := by
  obtain ⟨-, -, hreturned⟩ := hrun.outcome (countLaw_admits svc req) hrest
  obtain ⟨t, rfl, rfl, houtcome⟩ := hreturned status rfl
  cases houtcome with
  | replayed hpassive _ =>
      have hunread := hpassive.unread
      rw [List.any_eq_false] at hunread
      exact absurd rfl (hunread _ hread)
  | @completed raws' v₀ v' bs ws status _ hlone hcompleted hsettled hcollected _ =>
      obtain ⟨-, adapter', -, hknown⟩ := hcollected
      have hsame := hrun.reads_eq hread hknown rfl rfl
      obtain ⟨rfl, hraws⟩ : adapter = adapter' ∧ raws = raws' := by
        cases hsame
        exact ⟨rfl, rfl⟩
      subst hraws
      have hstart := hlone fun _ => rfl
      have hend : durable t = v' := hsettled fun _ => rfl
      subst hstart hend
      exact ⟨bs, ws, hcompleted⟩
  | failed hfailed =>
      rw [happlied] at hfailed
      cases hfailed

/-- Whatever crashes, failures and changes of sources and batch sizes came before: the call that
completes the operation leaves the last valid record of each natural key that it read in the
tenant table, if and only if the table carried those before whose key no record of the batches
from the resume point on has. -/
theorem resumed_exact {svc : Service} {req : ImportRequest} {status : ImportStatus}
    {events : List (Event tenantSignature ServiceError)} {adapter : SourceAdapter}
    {raws : List RawRecord} (hunused : Unused req.operationKey s₀)
    (hhistory : Operated chainKey hmac req.operationKey s₀ s)
    (hrun : Ran chainKey (svc.startImport hmac req) s (some (.ok status)) events s')
    (happlied : status.state = .applied)
    (hread : ⟨.readSource adapter req.source, .ok raws⟩ ∈ events) :
  (∀ naturalKey record,
      lastOf naturalKey (validateAll req.naturalKeyField raws).1 = some record →
      Carried req s.db.committed.columns s'.db.committed.records record)
    ↔ ∀ naturalKey record,
      lastOf naturalKey (validateAll req.naturalKeyField raws).1 = some record →
      (∀ other ∈ resumed svc.batchSize (resumeSeq s.db.committed req.operationKey)
        (validateAll req.naturalKeyField raws).1, other.naturalKey ≠ naturalKey) →
      Carried req s.db.committed.columns s.db.committed.records record
  := by
  obtain ⟨hrest, -⟩ := hhistory.restful hunused.restful
  obtain ⟨bs, ws, hcompleted⟩ := hrun.completed hrest happlied hread
  have hrecords : s'.db.committed.records = _ := hcompleted.records
  rw [hrecords, resumed, hcompleted.batches]
  apply carried_iff_of_suffix
  apply suffix_of_batches hcompleted.batches

/-! ### Counts -/

/-- The counts of a status are those of the records that were read, and of the records of the
operation that have changed the tables, which were `d` before, and have not. -/
structure CountsRight (valid : List ImportRecord) (rejected : Nat) (d : Tables)
    (ws : List Change) (status : ImportStatus) : Prop where
  valid : status.appliedCount + status.noopCount = valid.length
  rejected : status.rejectedCount = rejected
  changed : status.appliedCount = (outcomes d false ws).count true
  unchanged : status.noopCount = (outcomes d false ws).count false

/-- The statuses of a completed operation: what the call that completed it returned, and what
later calls return of it. -/
inductive Reported (chainKey : String) (hmac : Hmac) (k : String) (status : ImportStatus)
    (s : TenantState Unit) : ImportStatus → Prop where
  | completed : Reported chainKey hmac k status s status
  | replayed {s' s'' : TenantState Unit} (h : Operated chainKey hmac k s s') (svc : Service)
      {req : ImportRequest} (hk : req.operationKey = k) {reported : ImportStatus}
      {events : List (Event tenantSignature ServiceError)}
      (hrun : Ran chainKey (svc.startImport hmac req) s' (some (.ok reported)) events s'')
      (happlied : reported.state = .applied) : Reported chainKey hmac k status s reported
  | polled {s' s'' : TenantState Unit} (h : Operated chainKey hmac k s s')
      (tenantId correlationId : String) {reported : ImportStatus}
      {events : List (Event tenantSignature ServiceError)}
      (hrun : Ran chainKey (getStatus tenantId k correlationId) s' (some (.ok (some reported)))
        events s'') : Reported chainKey hmac k status s reported

/-- Later calls return the counts that the call that completed the operation has stored. -/
theorem Reported.counts {status reported : ImportStatus} {row : IdempotencyRow}
    (hrest : Restful k (countLaw d₀ k) s)
    (hrow : s.db.committed.idempotency.lookup k = some row) (happlied : row.status = "applied")
    (hcounts : (row.applied, row.noop, row.rejected)
      = (status.appliedCount, status.noopCount, status.rejectedCount))
    (h : Reported chainKey hmac k status s reported) :
  (reported.appliedCount, reported.noopCount, reported.rejectedCount)
    = (status.appliedCount, status.noopCount, status.rejectedCount)
  := by
  have hfinished : unfinished (s.db.committed.idempotency.lookup k) = false := by
    rw [hrow]
    simp [unfinished, happlied]
  have hlater : ∀ {s'}, Operated chainKey hmac k s s' → Restful k (countLaw d₀ k) s'
      ∧ s'.db.committed.idempotency.lookup k = some row
      ∧ unfinished (s'.db.committed.idempotency.lookup k) = false := by
    intro s' hoperated
    obtain ⟨hrest', hstays⟩ := hoperated.restful hrest
    refine ⟨hrest', (hstays hfinished).trans hrow, ?_⟩
    rw [hstays hfinished, hfinished]
  cases h with
  | completed => rfl
  | replayed hoperated svc hk hrun hstate =>
      subst hk
      obtain ⟨hrest', hrow', hfinished'⟩ := hlater hoperated
      obtain ⟨-, hstays, hreturned⟩ := hrun.outcome (countLaw_admits svc _) hrest'
      obtain ⟨t, rfl, -, houtcome⟩ := hreturned reported rfl
      cases houtcome with
      | @replayed row' _ hpassive hstored =>
          have hlookup := (hstays hfinished').trans hrow'
          rw [hstored.2] at hlookup
          obtain rfl := Option.some.inj hlookup
          rw [← hcounts]
          rfl
      | completed hlone hcompleted _ _ _ =>
          have hunfinished := hcompleted.unfinished
          rw [hlone fun _ => rfl] at hunfinished
          rw [hunfinished] at hfinished'
          cases hfinished'
      | failed hfailed =>
          rw [hstate] at hfailed
          cases hfailed
  | polled hoperated tenantId correlationId hrun =>
      obtain ⟨hrest', hrow', -⟩ := hlater hoperated
      obtain ⟨-, -, hreturned⟩ := hrun.polled hrest'
      have hstatus := hreturned _ rfl
      rw [hrow'] at hstatus
      obtain rfl := Option.some.inj hstatus
      rw [← hcounts]
      rfl

/-- The counts of a run that completes come to the number of the records that it read, if and only
if it has imported them all. -/
theorem Completed.length_iff {svc : Service} {req : ImportRequest} {raws : List RawRecord}
    {v v' : Durable} {bs : List (List ImportRecord)} {ws : List Change} {status : ImportStatus}
    (h : Completed svc req raws v v' bs ws status) (hfirst : resumeSeq v.tables req.operationKey = 1) :
  (status.appliedCount + status.noopCount = (validateAll req.naturalKeyField raws).1.length
      ↔ 0 < svc.batchSize ∨ (validateAll req.naturalKeyField raws).1 = [])
    ∧ (0 < svc.batchSize ∨ (validateAll req.naturalKeyField raws).1 = [] →
      (bs.drop (resumeSeq v.tables req.operationKey - 1)).flatten
        = (validateAll req.naturalKeyField raws).1)
  := by
  have hcount := h.count
  have hbatches := h.batches
  simp only [hfirst, Nat.sub_self, List.drop_zero] at hcount ⊢
  rw [hcount]
  rcases lt_trichotomy svc.batchSize 0 with hneg | hzero | hpos
  · rw [batches_neg hneg] at hbatches
    obtain rfl := Option.some.inj hbatches
    have hnot : ¬ 0 < svc.batchSize := by omega
    rw [List.flatten_nil, List.length_nil, eq_comm, List.length_eq_zero_iff]
    simp only [hnot, false_or, true_and]
    exact Eq.symm
  · rw [hzero] at hbatches
    cases hbatches
  · have hall := flatten_drop_batches hpos hbatches 0
    rw [List.drop_zero, Nat.zero_mul, List.drop_zero] at hall
    rw [hall]
    exact ⟨⟨fun _ => .inl hpos, fun _ => rfl⟩, fun _ => rfl⟩

/-- Whatever came before: the counts that the call which completes the operation returns and
stores, and that every later call returns, are right if and only if the call started with the
first batch, has imported all records that it read, and has missed no row. -/
theorem counts_exact {svc : Service} {req : ImportRequest} {status : ImportStatus}
    {events : List (Event tenantSignature ServiceError)} {adapter : SourceAdapter}
    {raws : List RawRecord} (hunused : Unused req.operationKey s₀)
    (hhistory : Operated chainKey hmac req.operationKey s₀ s)
    (hrun : Ran chainKey (svc.startImport hmac req) s (some (.ok status)) events s')
    (happlied : status.state = .applied)
    (hread : ⟨.readSource adapter req.source, .ok raws⟩ ∈ events) {reported : ImportStatus}
    (hreported : Reported chainKey hmac req.operationKey status s' reported) :
  CountsRight (validateAll req.naturalKeyField raws).1 (validateAll req.naturalKeyField raws).2
      s₀.db.committed s'.db.changes reported
    ↔ resumeSeq s.db.committed req.operationKey = 1
      ∧ (0 < svc.batchSize ∨ (validateAll req.naturalKeyField raws).1 = [])
      ∧ ∀ turn ∈ turns req s.db.committed.columns s.db.committed.records
          (validateAll req.naturalKeyField raws).1,
        ¬ Missed req s.db.committed.columns turn
  := by
  obtain ⟨hrest, -⟩ := hhistory.restful hunused.restful
  obtain ⟨hrest', -, -⟩ := hrun.outcome (countLaw_admits svc req) hrest
  obtain ⟨bs, ws, hcompleted⟩ := hrun.completed hrest happlied hread
  have hcounts := hreported.counts hrest' hcompleted.stored rfl rfl
  simp only [Prod.mk.injEq] at hcounts
  obtain ⟨happliedCount, hnoopCount, hrejectedCount⟩ := hcounts
  have hchanges : s'.db.changes = s.db.changes ++ ws := congrArg Durable.changes hcompleted.after
  have hbefore : resumeSeq s.db.committed req.operationKey = 1 ↔ appended s.db.changes = [] :=
    hrest.lawful.counts
  set imported := (bs.drop (resumeSeq s.db.committed req.operationKey - 1)).flatten with himported
  set ts := turns req s.db.committed.columns s.db.committed.records imported with hts
  have houtcomes : outcomes s₀.db.committed false s'.db.changes
      = outcomes s₀.db.committed false s.db.changes
        ++ ts.map (changesTable req s.db.committed.columns) := by
    have hlaw := hrest.lawful.outcomes ws
    have hrun := hcompleted.outcomes []
    rw [List.append_nil, outcomes, List.append_nil] at hrun
    rw [hchanges, hlaw, hrun]
  have hcountApplied : ts.countP (fun turn => ¬ UpToDate req turn.1 turn.2)
      = status.appliedCount := hcompleted.applied
  have hcount : status.appliedCount + status.noopCount = imported.length := hcompleted.count
  have hchanged : (ts.map (changesTable req s.db.committed.columns)).count true
      = ts.countP (changesTable req s.db.committed.columns) := by
    rw [List.count, List.countP_map]
    apply List.countP_congr
    simp
  have hlength : (ts.map (changesTable req s.db.committed.columns)).length = imported.length := by
    rw [List.length_map, length_turns]
  have htotal := List.count_true_add_count_false (outcomes s₀.db.committed false s'.db.changes)
  constructor
  · intro hright
    have hvalid := hright.valid
    have hright₁ := hright.changed
    have hright₂ := hright.unchanged
    rw [houtcomes] at hright₁ hright₂ htotal
    rw [List.length_append, hlength, length_outcomes] at htotal
    have hfirst : resumeSeq s.db.committed req.operationKey = 1 := by
      rw [hbefore, ← List.length_eq_zero_iff]
      omega
    obtain ⟨hsize, hall⟩ := hcompleted.length_iff hfirst
    have hwhole := hsize.mp (by rw [← hvalid, happliedCount, hnoopCount])
    refine ⟨hfirst, hwhole, ?_⟩
    rw [← hall hwhole, ← countP_turns, hcountApplied, ← hchanged]
    have hnone : outcomes s₀.db.committed false s.db.changes = [] := by
      rw [← List.length_eq_zero_iff, length_outcomes, hbefore.mp hfirst, List.length_nil]
    rw [hnone, List.nil_append] at hright₁
    rw [← hright₁, happliedCount]
  · rintro ⟨hfirst, hwhole, hmissed⟩
    obtain ⟨hsize, hall⟩ := hcompleted.length_iff hfirst
    have hvalid := hsize.mpr hwhole
    have hnone : outcomes s₀.db.committed false s.db.changes = [] := by
      rw [← List.length_eq_zero_iff, length_outcomes, hbefore.mp hfirst, List.length_nil]
    rw [← hall hwhole, ← countP_turns, hcountApplied, ← hchanged] at hmissed
    rw [houtcomes, hnone, List.nil_append, hlength, ← hcount, hmissed] at htotal
    constructor
    · rw [happliedCount, hnoopCount, hvalid]
    · rw [hrejectedCount, hcompleted.rejected]
    · rw [houtcomes, hnone, List.nil_append, hmissed, happliedCount]
    · rw [houtcomes, hnone, List.nil_append, hnoopCount]
      omega

end Histories

/-! ### A crash and a resumption -/

/-- The rows of an upload. -/
def sampleRows : List Columns :=
  [[⟨"record_id", .text "1"⟩, ⟨"display_name", .text "A"⟩].toAList,
    [⟨"record_id", .text "2"⟩, ⟨"display_name", .text "B"⟩].toAList]

/-- The request to import the upload. -/
def sampleRequest : ImportRequest where
  tenantId := "t1"
  source := ⟨.csv, "upload-1", some "record_id,display_name\n1,A\n2,B", none⟩
  operationKey := "op-1"
  correlationId := "c-1"
  actorRef := "user:1"
  naturalKeyField := "record_id"
  targetTable := "tenant_copy"

/-- The service, with batches of a size. -/
def sampleService (batchSize : Int) : Service :=
  ⟨⟨"secretstore/t", true, false⟩, fun kind => if kind = .csv then some .csv else none, "1",
    batchSize⟩

/-- Nothing below looks at the markers. -/
def sampleHmac : Hmac := fun _ _ => ""

/-- A database without rows. -/
def sampleStart : TenantState Unit :=
  ⟨.quiet ⟨[], ∅, ∅, ∅, [], plainColumns⟩, [], 1⟩

/-- The call under way on a database. -/
def sampleImport (batchSize : Int) (s : TenantState Unit) :
    (importMachine "key" Unit).Config ImportStatus :=
  alone "key" s ((sampleService batchSize).startImport sampleHmac sampleRequest)

/-- Calls that do not fail, with these texts from the outside world. -/
def sampleCalls (texts : List String) : List (Move Unit TenantChoice) :=
  texts.map fun text => .call () ⟨false, text, [], sampleRows, none⟩

/-- The calls of a batch with one record. -/
def sampleBatch (lineageId : String) : List (Move Unit TenantChoice) :=
  sampleCalls ["", "", "", "2026-01-01T00:00:00+00:00", "", "", lineageId, "1", "", "",
    "2026-01-01T00:00:00+00:00", "", ""]

/-- The calls of a run before its first batch, where it opens a job. -/
def sampleOpening : List (Move Unit TenantChoice) :=
  sampleCalls ["", "", "", "", "000000000000000000000000000000a1", "", "", "", "", "", "", "",
    "", "", ""]

/-- The calls of a run before its first batch, where it resumes a job. -/
def sampleResuming : List (Move Unit TenantChoice) :=
  sampleCalls ["", "", "", "", "", "", "", "", "", ""]

/-- The calls of a run behind its last batch. -/
def sampleClosing : List (Move Unit TenantChoice) :=
  sampleCalls ["", "", "", "", "", "", "", ""]

/-- The database behind a first call with batches of one record, which crashes behind its first
batch. -/
def sampleCrashed : Option (TenantState Unit) :=
  (((sampleImport 1 sampleStart).run (anyCall _)
      (sampleOpening ++ sampleBatch "000000000000000000000000000000b1")).bind
    fun cfg => cfg.step (.drop ())).map (·.state.base)

theorem sampleStart_unused :
  Unused sampleRequest.operationKey sampleStart
  := by
  constructor
  · rfl
  · rfl
  · intro cp hcp
    cases hcp

theorem operated_of_sampleCrashed {check : TenantState Unit → Bool}
    (h : sampleCrashed.any check = true) :
  ∃ s, Operated "key" sampleHmac sampleRequest.operationKey sampleStart s ∧ check s = true
  := by
  obtain ⟨s, hs, hcheck⟩ := (Option.any_eq_true _ _).mp h
  obtain ⟨cfg, hcrash, hcfg⟩ := Option.map_eq_some_iff.mp hs
  obtain ⟨before, hbefore, hdrop⟩ := Option.bind_eq_some_iff.mp hcrash
  subst hcfg
  have hran : Ran "key" ((sampleService 1).startImport sampleHmac sampleRequest) sampleStart none
      _ cfg.state.base := .crashed (Reaches.of_run hbefore) hdrop
  exact ⟨cfg.state.base, .imported .start (sampleService 1) rfl hran, hcheck⟩

/-- The source that an event has read. -/
def sourceRead : Event tenantSignature ServiceError →
    Option (SourceAdapter × SourceDescriptor × List RawRecord)
  | ⟨.readSource adapter descriptor, .ok raws⟩ => some (adapter, descriptor, raws)
  | _ => none

theorem mem_of_sourceRead {events : List (Event tenantSignature ServiceError)}
    {adapter : SourceAdapter} {descriptor : SourceDescriptor} {raws : List RawRecord}
    (h : (adapter, descriptor, raws) ∈ events.filterMap sourceRead) :
  ⟨.readSource adapter descriptor, .ok raws⟩ ∈ events
  := by
  obtain ⟨⟨op, r⟩, he, hread⟩ := List.mem_filterMap.mp h
  cases op with
  | readSource adapter' descriptor' =>
      cases r with
      | error e => cases hread
      | ok raws' =>
          cases hread
          apply he
  | _ => cases hread

/-- With these moves the call ends 'applied', having read its source, and a check succeeds of what
it read, what it returned and the database behind it. -/
def sampleCompletes (batchSize : Int) (moves : List (Move Unit TenantChoice))
    (check : List RawRecord → ImportStatus → TenantState Unit → Bool) (s : TenantState Unit) :
    Bool :=
  ((sampleImport batchSize s).run (anyCall _) moves).any fun cfg =>
    (cfg.returned ()).any fun status => decide (status.state = .applied)
      && ((historyOf () cfg.state.journal).filterMap sourceRead).any fun (_, descriptor, raws) =>
        decide (descriptor = sampleRequest.source) && check raws status cfg.state.base

theorem ran_of_sampleCompletes {batchSize : Int} {moves : List (Move Unit TenantChoice)}
    {check : List RawRecord → ImportStatus → TenantState Unit → Bool} {s : TenantState Unit}
    (h : sampleCompletes batchSize moves check s = true) :
  ∃ s' status events adapter raws,
    Ran "key" ((sampleService batchSize).startImport sampleHmac sampleRequest) s
      (some (.ok status)) events s'
    ∧ status.state = .applied
    ∧ ⟨.readSource adapter sampleRequest.source, .ok raws⟩ ∈ events
    ∧ check raws status s' = true
  := by
  obtain ⟨cfg, hcfg, h⟩ := (Option.any_eq_true _ _).mp h
  obtain ⟨status, hstatus, h⟩ := (Option.any_eq_true _ _).mp h
  obtain ⟨happlied, h⟩ := (Bool.and_eq_true _ _).mp h
  obtain ⟨⟨adapter, descriptor, raws⟩, hread, h⟩ := List.any_eq_true.mp h
  obtain ⟨hsource, hcheck⟩ := (Bool.and_eq_true _ _).mp h
  obtain rfl := of_decide_eq_true hsource
  exact ⟨cfg.state.base, status, _, adapter, raws,
    .ended (Reaches.of_run hcfg) (Config.returned_eq_some.mp hstatus),
    of_decide_eq_true happlied, mem_of_sourceRead hread, hcheck⟩

/-- The calls of a resumed run that imports the second record. -/
def sampleSecond : List (Move Unit TenantChoice) :=
  sampleResuming ++ sampleBatch "000000000000000000000000000000b2" ++ sampleClosing

/-- The calls of a run that imports both records. -/
def sampleBoth : List (Move Unit TenantChoice) :=
  sampleOpening ++ sampleBatch "000000000000000000000000000000b1"
    ++ sampleBatch "000000000000000000000000000000b2" ++ sampleClosing

/-- A resumption with larger batches skips a record: the operation ends 'applied', and the second
record is not in the table. -/
theorem resumed_skips :
  ∃ s s' status events adapter raws naturalKey record,
    Unused sampleRequest.operationKey sampleStart
    ∧ Operated "key" sampleHmac sampleRequest.operationKey sampleStart s
    ∧ Ran "key" ((sampleService 2).startImport sampleHmac sampleRequest) s (some (.ok status))
      events s'
    ∧ status.state = .applied
    ∧ ⟨.readSource adapter sampleRequest.source, .ok raws⟩ ∈ events
    ∧ lastOf naturalKey (validateAll sampleRequest.naturalKeyField raws).1 = some record
    ∧ ¬ Carried sampleRequest s.db.committed.columns s'.db.committed.records record
  := by
  have hruns : sampleCrashed.any (fun s => sampleCompletes 2 (sampleResuming ++ sampleClosing)
      (fun raws _ s' => (lastOf "2" (validateAll sampleRequest.naturalKeyField raws).1).any
        fun record => !decide (Carried sampleRequest s.db.committed.columns
          s'.db.committed.records record)) s) = true := by
    decide +kernel
  obtain ⟨s, hhistory, hcompletes⟩ := operated_of_sampleCrashed hruns
  obtain ⟨s', status, events, adapter, raws, hrun, happlied, hread, hcheck⟩ :=
    ran_of_sampleCompletes hcompletes
  obtain ⟨record, hlast, hnot⟩ := (Option.any_eq_true _ _).mp hcheck
  rw [Bool.not_eq_true', decide_eq_false_iff_not] at hnot
  exact ⟨s, s', status, events, adapter, raws, "2", record, sampleStart_unused, hhistory, hrun,
    happlied, hread, hlast, hnot⟩

/-- A resumption with batches of the same size imports both records. -/
theorem resumed_exact_sample :
  ∃ s s' status events adapter raws,
    Operated "key" sampleHmac sampleRequest.operationKey sampleStart s
    ∧ Ran "key" ((sampleService 1).startImport sampleHmac sampleRequest) s (some (.ok status))
      events s'
    ∧ ⟨.readSource adapter sampleRequest.source, .ok raws⟩ ∈ events
    ∧ ∀ naturalKey record,
      lastOf naturalKey (validateAll sampleRequest.naturalKeyField raws).1 = some record →
      Carried sampleRequest s.db.committed.columns s'.db.committed.records record
  := by
  have hruns : sampleCrashed.any (fun s => sampleCompletes 1 sampleSecond (fun raws _ _ => decide <|
      ∀ record ∈ (validateAll sampleRequest.naturalKeyField raws).1,
        record.naturalKey ∉ (resumed 1 (resumeSeq s.db.committed sampleRequest.operationKey)
          (validateAll sampleRequest.naturalKeyField raws).1).map ImportRecord.naturalKey →
        Carried sampleRequest s.db.committed.columns s.db.committed.records record) s)
      = true := by
    decide +kernel
  obtain ⟨s, hhistory, hcompletes⟩ := operated_of_sampleCrashed hruns
  obtain ⟨s', status, events, adapter, raws, hrun, happlied, hread, hcheck⟩ :=
    ran_of_sampleCompletes hcompletes
  have hcarried := of_decide_eq_true hcheck
  have hbefore : ∀ naturalKey record,
      lastOf naturalKey (validateAll sampleRequest.naturalKeyField raws).1 = some record →
      (∀ other ∈ resumed 1 (resumeSeq s.db.committed sampleRequest.operationKey)
        (validateAll sampleRequest.naturalKeyField raws).1, other.naturalKey ≠ naturalKey) →
      Carried sampleRequest s.db.committed.columns s.db.committed.records record := by
    intro naturalKey record hlast hnone
    have hmem := List.mem_of_find?_eq_some hlast
    have hkey := List.find?_some hlast
    rw [List.mem_reverse] at hmem
    apply hcarried record hmem
    intro hin
    obtain ⟨other, hother, hsame⟩ := List.mem_map.mp hin
    apply hnone other hother
    rw [hsame]
    apply of_decide_eq_true hkey
  exact ⟨s, s', status, events, adapter, raws, hhistory, hrun, hread,
    (resumed_exact sampleStart_unused hhistory hrun happlied hread).mpr hbefore⟩

/-- A resumption returns the counts of its own batches, and none of those before. -/
theorem resumed_miscounts :
  ∃ s s' status events adapter raws,
    Unused sampleRequest.operationKey sampleStart
    ∧ Operated "key" sampleHmac sampleRequest.operationKey sampleStart s
    ∧ Ran "key" ((sampleService 1).startImport sampleHmac sampleRequest) s (some (.ok status))
      events s'
    ∧ status.state = .applied
    ∧ ⟨.readSource adapter sampleRequest.source, .ok raws⟩ ∈ events
    ∧ status.appliedCount + status.noopCount
      ≠ (validateAll sampleRequest.naturalKeyField raws).1.length
  := by
  have hruns : sampleCrashed.any (sampleCompletes 1 sampleSecond fun raws status _ => decide <|
      status.appliedCount + status.noopCount
        ≠ (validateAll sampleRequest.naturalKeyField raws).1.length) = true := by
    decide +kernel
  obtain ⟨s, hhistory, hcompletes⟩ := operated_of_sampleCrashed hruns
  obtain ⟨s', status, events, adapter, raws, hrun, happlied, hread, hcheck⟩ :=
    ran_of_sampleCompletes hcompletes
  exact ⟨s, s', status, events, adapter, raws, sampleStart_unused, hhistory, hrun, happlied,
    hread, of_decide_eq_true hcheck⟩

/-- A first call that imports both records returns the counts of both. -/
theorem counts_exact_sample :
  ∃ s' status events adapter raws,
    Ran "key" ((sampleService 1).startImport sampleHmac sampleRequest) sampleStart
      (some (.ok status)) events s'
    ∧ ⟨.readSource adapter sampleRequest.source, .ok raws⟩ ∈ events
    ∧ CountsRight (validateAll sampleRequest.naturalKeyField raws).1
      (validateAll sampleRequest.naturalKeyField raws).2 sampleStart.db.committed s'.db.changes
      status
  := by
  have hruns : sampleCompletes 1 sampleBoth (fun raws _ _ => decide <|
      ∀ record ∈ (validateAll sampleRequest.naturalKeyField raws).1,
        ∀ column ∈ (recordRow sampleRequest record).entries,
          (plainColumns sampleRequest.targetTable column.1 column.2).eq column.2 = true)
      sampleStart = true := by
    decide +kernel
  obtain ⟨s', status, events, adapter, raws, hrun, happlied, hread, hcheck⟩ :=
    ran_of_sampleCompletes hruns
  have hmissed : ∀ turn ∈ turns sampleRequest plainColumns sampleStart.db.committed.records
      (validateAll sampleRequest.naturalKeyField raws).1,
      ¬ Missed sampleRequest plainColumns turn := by
    intro turn hturn
    apply not_missed_of_equal
    apply of_decide_eq_true hcheck turn.2 (mem_of_mem_turns hturn)
  exact ⟨s', status, events, adapter, raws, hrun, hread,
    (counts_exact sampleStart_unused .start hrun happlied hread .completed).mpr
      ⟨rfl, .inl (by decide), hmissed⟩⟩

end ImportService
