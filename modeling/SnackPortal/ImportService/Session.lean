import SnackPortal.ImportService.Exclusion

/-!
# Calls of a worker

What each call of `start_import` does under the discipline of one worker at a time, as a rule:
before the thread finds its operation unfinished, while it is at work, and after.
-/

namespace ImportService

open Machine TenantDatabase Discipline

variable {chainKey : String} {ι : Type} [DecidableEq ι] {k : String} {law : ImportLaw}
  {guard : (importMachine chainKey ι).Guard} {i : ι}

/-! ### At work -/

/-- The thread is at work: the database holds `v` for good, and `ws` is under way. -/
structure Holding (k : String) (i : ι) (v : Durable) (ws : List Change)
    (s : (importMachine chainKey ι).State) : Prop where
  working : working k s.journal i = true
  durable : durable s = v
  pending : s.base.db.pending i = ws

/-- The exception is not the one that `start_import` turns into a status. -/
def Plain (e : ServiceError) : Prop :=
  ∀ code status, e ≠ .importFailed code status

/-- The thread is at work, and an exception has come up. -/
def Broken (k : String) (i : ι) (v : Durable) (e : ServiceError)
    (s : (importMachine chainKey ι).State) : Prop :=
  Plain e ∧ ∃ ws, Holding k i v ws s

section Holding

variable {v : Durable} {ws : List Change}

theorem Holding.stable :
  (exclusion k law guard).Stable i (Holding k i v ws)
  := by
  intro s s' hsees h
  constructor
  · rw [working_eq_of_own hsees.own]
    apply h.working
  · rw [durable_eq_of_own (.inl h.working) hsees.own]
    apply h.durable
  · have hpending : s'.base.db.pending i = s.base.db.pending i :=
      congrArg Own.pending hsees.own
    rw [hpending, h.pending]

theorem Holding.stable_exists :
  (exclusion k law guard).Stable i fun s => ∃ ws, Holding k i v ws s
  := by
  intro s s' hsees ⟨ws, h⟩
  exact ⟨ws, Holding.stable s s' hsees h⟩

theorem Broken.stable {e : ServiceError} :
  (exclusion k law guard).Stable i (Broken k i v e)
  := by
  intro s s' hsees ⟨he, h⟩
  exact ⟨he, Holding.stable_exists s s' hsees h⟩

/-- What the session of a worker sees. -/
theorem Holding.view {s : (importMachine chainKey ι).State} (h : Holding k i v ws s) :
  s.base.view i = (v.after ws).tables
  := by
  have hcommitted : s.base.db.committed = v.tables := congrArg Durable.tables h.durable
  rw [TenantState.view, Database.view, h.pending, hcommitted]
  rfl

theorem plain_of_answer {op : TenantOp} {c : TenantChoice} {e : ServiceError}
    {s s' : (importMachine chainKey ι).State}
    (ha : (importMachine chainKey ι).answer i op c s = some (.error e, s')) :
  Plain e
  := by
  intro code status he
  rcases error_of_answer (journaled_answer ha).1 with h | h
  · rw [h] at he
    cases he
  · rw [h] at he
    cases he

/-- A call of a worker but a commit or a close. -/
theorem Holding.call (guard : (importMachine chainKey ι).Guard) {op : TenantOp} {c : TenantChoice}
    {r : Except ServiceError op.Ans} {s s' : (importMachine chainKey ι).State}
    (hinv : Orderly k law s) (h : Holding k i v ws s)
    (ha : (importMachine chainKey ι).answer i op c s = some (r, s'))
    (hcommit : op ≠ .commit) (hclose : op ≠ .close) :
  (exclusion k law guard).Steps i s s' ∧ Holding k i v (s'.base.db.pending i) s'
  := by
  have hsteps := steps_working guard hinv h.working ha hcommit
  refine ⟨hsteps, ?_, ?_, rfl⟩
  · rw [journal_of_answer ha]
    apply working_call h.working hclose
  · rcases durable_of_answer ha with hsame | ⟨hop, -⟩
    · rw [hsame, h.durable]
    · exact absurd hop hcommit

/-- A call of a worker, by what it answers and what it leaves under way. -/
theorem holding_call (op : TenantOp) (hcommit : op ≠ .commit) (hclose : op ≠ .close)
    {Q : op.Ans → List Change → Prop}
    (h : ∀ (b b' : TenantState ι) c a, b.view i = (v.after ws).tables →
      b.db.pending i = ws → (tenantDatabase chainKey ι).answer i op c b = some (.ok a, b') →
      Q a (b'.db.pending i)) :
  (exclusion k law guard).Triple i (Holding k i v ws) (TenantDatabase.perform op)
    (Ending (fun a s => ∃ ws', Q a ws' ∧ Holding k i v ws' s) (Broken k i v))
  := by
  apply Triple.perform Holding.stable
  · rintro (e | a)
    · apply Broken.stable
    · intro s s' hsees ⟨ws', hq, hheld⟩
      exact ⟨ws', hq, Holding.stable s s' hsees hheld⟩
  · intro s c r s' hinv hheld _ ha
    obtain ⟨hsteps, hheld'⟩ := hheld.call guard hinv ha hcommit hclose
    use hsteps
    cases r with
    | error e => exact ⟨plain_of_answer ha, _, hheld'⟩
    | ok a => exact ⟨_, h _ _ c a hheld.view hheld.pending (journaled_answer ha).1, hheld'⟩

/-- A call of a worker that only reads. -/
theorem holding_read {op : TenantOp} (hop : op.reads = true) {Q : op.Ans → Prop}
    (h : ∀ (b b' : TenantState ι) c a, b.view i = (v.after ws).tables →
      b.answer chainKey i c op = some (.ok a, b') → Q a) :
  (exclusion k law guard).Triple i (Holding k i v ws) (TenantDatabase.perform op)
    (Ending (fun a s => Q a ∧ Holding k i v ws s) (Broken k i v))
  := by
  have hcommit : op ≠ .commit := by
    rintro rfl
    cases hop
  have hclose : op ≠ .close := by
    rintro rfl
    cases hop
  apply Triple.adapt (holding_call op (Q := fun a ws' => ws' = ws ∧ Q a) hcommit hclose ?_)
    (fun _ _ hp => hp) ?_ fun _ _ _ he => he
  · intro b b' c a hview hpending ha
    rw [db_of_reads hop ha]
    exact ⟨hpending, h b b' c a hview (answer_of_ok ha)⟩
  · rintro a s _ ⟨ws', ⟨rfl, hq⟩, hheld⟩
    exact ⟨hq, hheld⟩

/-- A call of a worker whose answer does not matter. -/
theorem holding_pass {op : TenantOp} (hop : op.reads = true) :
  (exclusion k law guard).Triple i (Holding k i v ws) (TenantDatabase.perform op)
    (Ending (fun _ => Holding k i v ws) (Broken k i v))
  := by
  apply Triple.adapt (holding_read (Q := fun _ => True) hop fun _ _ _ _ _ _ => trivial)
  · exact fun _ _ hp => hp
  · exact fun _ _ _ hq => hq.2
  · exact fun _ _ _ he => he

/-- A change of a worker. -/
theorem holding_write (op : TenantOp) {w : Change} (hw : op.Makes w)
    (hunique : ∀ w', op.Makes w' → w' = w) :
  (exclusion k law guard).Triple i (Holding k i v ws) (TenantDatabase.perform op)
    (Ending (fun _ => Holding k i v (ws ++ [w])) (Broken k i v))
  := by
  have hcommit : op ≠ .commit := by
    rintro rfl
    cases hw
  have hclose : op ≠ .close := by
    rintro rfl
    cases hw
  apply Triple.adapt (holding_call op (Q := fun _ ws' => ws' = ws ++ [w]) hcommit hclose ?_)
    (fun _ _ hp => hp) ?_ fun _ _ _ he => he
  · intro b b' c a _ hpending ha
    obtain ⟨w', hw', hwrite⟩ := write_of_ok hw ha
    obtain rfl := hunique w' hw'
    obtain ⟨-, hdb⟩ := Database.write_eq_some hwrite
    rw [hdb, ← hpending]
    apply Function.update_self
  · rintro a s _ ⟨ws', rfl, hheld⟩
    apply hheld

/-- A worker takes back what is under way. -/
theorem holding_rollback :
  (exclusion k law guard).Triple i (fun s => ∃ ws, Holding k i v ws s)
    (TenantDatabase.perform .rollback)
    (Ending (fun _ => Holding k i v []) (Broken k i v))
  := by
  apply Triple.exists
  intro ws
  apply Triple.perform Holding.stable
  · rintro (e | a)
    · apply Broken.stable
    · apply Holding.stable
  · intro s c r s' hinv hheld _ ha
    obtain ⟨hsteps, hheld'⟩ := hheld.call guard hinv ha (fun h => nomatch h)
      fun h => nomatch h
    use hsteps
    rw [pending_of_ending rfl (journaled_answer ha).1] at hheld'
    cases r with
    | error e => exact ⟨plain_of_answer ha, _, hheld'⟩
    | ok a => exact hheld'

/-- A worker commits what the law admits; `ids` are ids that were handed out. -/
theorem holding_commit (ids : List String)
    (hlaw : ∀ issued, ids ⊆ issued → law.holds v issued → law.holds (v.after ws) issued)
    (happlied : StaysApplied k v.tables (v.after ws).tables) :
  (exclusion k law guard).Triple i (fun s => Holding k i v ws s ∧ ids ⊆ s.base.issued)
    (TenantDatabase.perform .commit)
    (Ending (fun _ => Holding k i (v.after ws) []) fun e _ => Plain e)
  := by
  apply Triple.perform
  · intro s s' hsees ⟨hheld, hids⟩
    exact ⟨Holding.stable s s' hsees hheld, fun _ ha => hsees.evolve.issued (hids ha)⟩
  · rintro (e | a)
    · exact fun _ _ _ he => he
    · apply Holding.stable
  · intro s c r s' hinv ⟨hheld, hids⟩ _ ha
    have hlawful := hinv.lawful
    rw [hheld.durable] at hlawful
    constructor
    · apply steps_commit hinv hheld.working ha
      · rw [hheld.durable, hheld.pending]
        apply hlaw _ hids hlawful
      · rw [hheld.durable, hheld.pending]
        apply happlied
    · cases r with
      | error e => exact plain_of_answer ha
      | ok a =>
          have hanswer := answer_of_ok (journaled_answer ha).1
          obtain ⟨-, hbase⟩ := Prod.mk.inj (Option.some.inj hanswer)
          constructor
          · rw [journal_of_answer ha]
            apply working_call hheld.working
            rintro ⟨⟩
          · rw [durable, ← hbase]
            simp only
            rw [Database.changes_commit]
            change Durable.mk (Database.view _ _ _) _ = _
            rw [← hheld.durable, ← hheld.pending]
            rfl
          · apply pending_of_ending rfl (journaled_answer ha).1

/-- A worker takes a new id: no checkpoint of the law has it. -/
theorem holding_uuid4 :
  (exclusion k law guard).Triple i (Holding k i v ws) (TenantDatabase.perform .uuid4)
    (Ending (fun a s => (∃ issued, law.holds v issued ∧ a ∉ issued)
        ∧ Holding k i v ws s ∧ [a] ⊆ s.base.issued) (Broken k i v))
  := by
  apply Triple.perform Holding.stable
  · rintro (e | a)
    · apply Broken.stable
    · intro s s' hsees ⟨hnew, hheld, hids⟩
      exact ⟨hnew, Holding.stable s s' hsees hheld, fun _ ha => hsees.evolve.issued (hids ha)⟩
  · intro s c r s' hinv hheld _ ha
    obtain ⟨hsteps, hheld'⟩ := hheld.call guard hinv ha (fun h => nomatch h)
      fun h => nomatch h
    use hsteps
    cases r with
    | error e => exact ⟨plain_of_answer ha, _, hheld'⟩
    | ok a =>
        obtain ⟨hnew, hissued⟩ := uuid4_of_ok (journaled_answer ha).1
        have hlawful := hinv.lawful
        rw [hheld.durable] at hlawful
        refine ⟨⟨_, hlawful, hnew⟩, ?_, ?_⟩
        · rw [db_of_reads rfl (journaled_answer ha).1, hheld.pending] at hheld'
          apply hheld'
        · rw [hissued]
          intro a' ha'
          obtain rfl := List.mem_singleton.mp ha'
          apply List.mem_cons_self

/-- The event is in the history of the thread. -/
def Known (i : ι) (e : Event tenantSignature ServiceError)
    (s : (importMachine chainKey ι).State) : Prop :=
  e ∈ historyOf i s.journal

/-- The history of a thread only grows. -/
theorem historyOf_suffix {js js' : List (Entry tenantSignature ServiceError ι)}
    (h : js <:+ js') :
  historyOf i js <:+ historyOf i js'
  := by
  obtain ⟨new, rfl⟩ := h
  induction new with
  | nil => apply List.suffix_refl
  | cons entry new ih =>
      cases entry with
      | drop j => apply ih
      | call j op r =>
          rw [List.cons_append, historyOf]
          split
          · apply ih.trans
            apply List.suffix_cons
          · apply ih

/-- What happened is known from then on. -/
theorem Known.evolves {e : Event tenantSignature ServiceError}
    {s s' : (importMachine chainKey ι).State} (h : Develops k s s') (he : Known i e s) :
  Known i e s'
  := (historyOf_suffix h.journal).subset he

/-- A worker reads the source. -/
theorem holding_readSource {adapter : SourceAdapter} {descriptor : SourceDescriptor}
    {Reads : List RawRecord → Prop}
    (hguard : ∀ s c, guard s i (.readSource adapter descriptor) c →
      Reads (adapter.read descriptor c.views c.rows)) :
  (exclusion k law guard).Triple i (Holding k i v ws)
    (TenantDatabase.perform (.readSource adapter descriptor))
    (Ending (fun raws s => Reads raws ∧ Holding k i v ws s
        ∧ Known i ⟨.readSource adapter descriptor, .ok raws⟩ s) (Broken k i v))
  := by
  apply Triple.perform Holding.stable
  · rintro (e | a)
    · apply Broken.stable
    · intro s s' hsees ⟨hreads, hheld, hknown⟩
      exact ⟨hreads, Holding.stable s s' hsees hheld, hknown.evolves hsees.evolve⟩
  · intro s c r s' hinv hheld hg ha
    obtain ⟨hsteps, hheld'⟩ := hheld.call guard hinv ha (fun h => nomatch h)
      fun h => nomatch h
    use hsteps
    cases r with
    | error e => exact ⟨plain_of_answer ha, _, hheld'⟩
    | ok raws =>
        have hanswer := answer_of_ok (journaled_answer ha).1
        obtain ⟨hraws, -⟩ := Prod.mk.inj (Option.some.inj hanswer)
        obtain rfl := Except.ok.inj hraws
        refine ⟨hguard s c hg.2, ?_, ?_⟩
        · rw [db_of_reads rfl (journaled_answer ha).1, hheld.pending] at hheld'
          apply hheld'
        · rw [Known, journal_of_answer ha,
            history_call_self]
          apply List.mem_cons_self

end Holding

/-! ### Before and after -/

/-- The database holds `v` for good, where there are no other threads. -/
def Settled (i : ι) (v : Durable) (s : (importMachine chainKey ι).State) : Prop :=
  (∀ j, j = i) → durable s = v

/-- The thread is not at work. -/
def Idle (k : String) (i : ι) (s : (importMachine chainKey ι).State) : Prop :=
  working k s.journal i = false

/-- The thread has not found its operation unfinished, nor read a source or closed its session,
and it runs. -/
structure Waiting (k : String) (i : ι) (s : (importMachine chainKey ι).State) : Prop where
  idle : Idle k i s
  unclosed : (historyOf i s.journal).any closes = false
  unread : (historyOf i s.journal).any readsSource = false
  live : s.journal.any (isDrop i) = false

/-- The thread is not at work and has read no source. -/
structure Passive (k : String) (i : ι) (v : Durable) (s : (importMachine chainKey ι).State) :
    Prop where
  idle : Idle k i s
  unread : (historyOf i s.journal).any readsSource = false
  settled : Settled i v s

section Idle

variable {v : Durable}

theorem Holding.settled {ws : List Change} {s : (importMachine chainKey ι).State}
    (h : Holding k i v ws s) :
  Settled i v s
  := fun _ => h.durable

theorem Settled.stable :
  (exclusion k law guard).Stable i (Settled i v)
  := by
  intro s s' hsees h hlone
  rw [durable_eq_of_own (.inr hlone) hsees.own, h hlone]

theorem Idle.stable :
  (exclusion k law guard).Stable i (Idle k i)
  := by
  intro s s' hsees h
  rw [Idle, working_eq_of_own hsees.own]
  apply h

theorem Waiting.stable :
  (exclusion k law guard).Stable i (Waiting k i)
  := by
  intro s s' hsees h
  have hhistory : historyOf i s'.journal = historyOf i s.journal :=
    congrArg Own.history hsees.own
  have hdropped : s'.journal.any (isDrop i) = s.journal.any (isDrop i) :=
    congrArg Own.dropped hsees.own
  constructor
  · apply Idle.stable s s' hsees h.idle
  · rw [hhistory]
    apply h.unclosed
  · rw [hhistory]
    apply h.unread
  · rw [hdropped]
    apply h.live

theorem Passive.stable :
  (exclusion k law guard).Stable i (Passive k i v)
  := by
  intro s s' hsees h
  have hhistory : historyOf i s'.journal = historyOf i s.journal :=
    congrArg Own.history hsees.own
  constructor
  · apply Idle.stable s s' hsees h.idle
  · rw [hhistory]
    apply h.unread
  · apply Settled.stable s s' hsees h.settled

/-- A call of a thread that is not at work, other than a read of its operation. -/
theorem Idle.call (guard : (importMachine chainKey ι).Guard) {op : TenantOp} {c : TenantChoice}
    {r : Except ServiceError op.Ans} {s s' : (importMachine chainKey ι).State}
    (hinv : Orderly k law s) (h : Idle k i s)
    (ha : (importMachine chainKey ι).answer i op c s = some (r, s'))
    (hop : ∀ w, ¬ op.Makes w) (hfinds : findsUnfinished k ⟨op, r⟩ = false) :
  (exclusion k law guard).Steps i s s' ∧ durable s' = durable s ∧ Idle k i s'
  := by
  obtain ⟨hsteps, hsame, -⟩ := steps_idle guard hinv h ha hop fun hfound => by
    rw [hfinds] at hfound
    cases hfound
  refine ⟨hsteps, hsame, ?_⟩
  rw [Idle]
  by_contra hwork
  rw [Bool.not_eq_false, journal_of_answer ha] at hwork
  rcases working_of_call hwork with hwork | hfound
  · rw [Idle, hwork] at h
    cases h
  · rw [hfinds] at hfound
    cases hfound

/-- A call of a thread that is not at work, as a rule. -/
theorem passive_call (op : TenantOp) (hop : ∀ w, ¬ op.Makes w)
    (hfinds : ∀ r, findsUnfinished k ⟨op, r⟩ = false)
    (hreads : ∀ r, readsSource ⟨op, r⟩ = false) :
  (exclusion k law guard).Triple i (Passive k i v) (TenantDatabase.perform op)
    (Ending (fun _ => Passive k i v) fun e _ => Plain e)
  := by
  apply Triple.perform Passive.stable
  · rintro (e | a)
    · exact fun _ _ _ he => he
    · apply Passive.stable
  · intro s c r s' hinv hpassive _ ha
    obtain ⟨hsteps, hsame, hidle'⟩ := hpassive.idle.call guard hinv ha hop (hfinds r)
    use hsteps
    cases r with
    | error e => exact plain_of_answer ha
    | ok a =>
        constructor
        · apply hidle'
        · rw [journal_of_answer ha, history_call_self, List.any_cons, hreads, Bool.false_or]
          apply hpassive.unread
        · intro hlone
          rw [hsame, hpassive.settled hlone]

/-- A call of a thread before it looks for its operation. -/
theorem waiting_call (op : TenantOp) (hop : ∀ w, ¬ op.Makes w)
    (hfinds : ∀ r, findsUnfinished k ⟨op, r⟩ = false) (hcloses : ∀ r, closes ⟨op, r⟩ = false)
    (hreads : ∀ r, readsSource ⟨op, r⟩ = false) :
  (exclusion k law guard).Triple i (fun s => Waiting k i s ∧ Settled i v s)
    (TenantDatabase.perform op)
    (Ending (fun _ s => Waiting k i s ∧ Settled i v s) fun e s => Plain e ∧ Idle k i s)
  := by
  have hstable : (exclusion k law guard).Stable i fun s => Waiting k i s ∧ Settled i v s := by
    intro s s' hsees ⟨hwaiting, hsettled⟩
    exact ⟨Waiting.stable s s' hsees hwaiting, Settled.stable s s' hsees hsettled⟩
  apply Triple.perform hstable
  · rintro (e | a)
    · intro s s' hsees ⟨he, hidle⟩
      exact ⟨he, Idle.stable s s' hsees hidle⟩
    · apply hstable
  · intro s c r s' hinv ⟨hwaiting, hsettled⟩ _ ha
    obtain ⟨hsteps, hsame, hidle'⟩ :=
      hwaiting.idle.call guard hinv ha hop (hfinds r)
    use hsteps
    cases r with
    | error e => exact ⟨plain_of_answer ha, hidle'⟩
    | ok a =>
        constructor
        · constructor
          · apply hidle'
          · rw [journal_of_answer ha, history_call_self,
              List.any_cons, hcloses, Bool.false_or]
            apply hwaiting.unclosed
          · rw [journal_of_answer ha, history_call_self, List.any_cons, hreads, Bool.false_or]
            apply hwaiting.unread
          · rw [journal_of_answer ha, List.any_cons]
            apply hwaiting.live
        · intro hlone
          rw [hsame, hsettled hlone]

/-- The idempotency table has the row, which says that the operation is applied. -/
def Stored (k : String) (row : IdempotencyRow) (s : (importMachine chainKey ι).State) : Prop :=
  row.status = "applied" ∧ s.base.db.committed.idempotency.lookup k = some row

/-- An applied operation stays as it is stored. -/
theorem Stored.evolves {row : IdempotencyRow} {s s' : (importMachine chainKey ι).State}
    (h : Develops k s s') (hstored : Stored k row s) :
  Stored k row s'
  := by
  obtain ⟨hstatus, hrow⟩ := hstored
  have hfinished : unfinished (s.base.db.committed.idempotency.lookup k) = false := by
    rw [hrow]
    simp [unfinished, hstatus]
  exact ⟨hstatus, (h.applied hfinished).trans hrow⟩

/-- What a thread finds when it looks for its operation: it is at work, or the operation is
applied. -/
def Found (k : String) (i : ι) (v : Durable) (idem : Option IdempotencyRow)
    (s : (importMachine chainKey ι).State) : Prop :=
  (unfinished idem = true ∧ ∃ v', ((∀ j : ι, j = i) → v' = v)
      ∧ v'.tables.idempotency.lookup k = idem ∧ Holding k i v' [] s)
    ∨ ∃ row, idem = some row ∧ Passive k i v s ∧ Stored k row s

theorem Found.stable {idem : Option IdempotencyRow} :
  (exclusion k law guard).Stable i (Found k i v idem)
  := by
  intro s s' hsees h
  rcases h with ⟨hidem, v', hlone, hlookup, hheld⟩ | ⟨row, hrow, hpassive, hstored⟩
  · left
    exact ⟨hidem, v', hlone, hlookup, Holding.stable s s' hsees hheld⟩
  · right
    exact ⟨row, hrow, Passive.stable s s' hsees hpassive, hstored.evolves hsees.evolve⟩

/-- The look of a thread for its operation. -/
theorem waiting_find :
  (exclusion k law guard).Triple i (fun s => Waiting k i s ∧ Settled i v s)
    (TenantDatabase.perform (.getIdempotency k))
    (Ending (Found k i v) fun e _ => Plain e)
  := by
  have hstable : (exclusion k law guard).Stable i fun s => Waiting k i s ∧ Settled i v s := by
    intro s s' hsees ⟨hwaiting, hsettled⟩
    exact ⟨Waiting.stable s s' hsees hwaiting, Settled.stable s s' hsees hsettled⟩
  apply Triple.perform hstable
  · rintro (e | a)
    · exact fun _ _ _ he => he
    · apply Found.stable
  · intro s c r s' hinv ⟨hwaiting, hsettled⟩ ⟨hserial, _⟩ ha
    have hpending : s.base.db.pending i = [] := hinv.idle i hwaiting.idle
    cases r with
    | error e =>
        obtain ⟨hsteps, -, -⟩ := hwaiting.idle.call guard hinv ha
          (fun _ hw => hw) rfl
        exact ⟨hsteps, plain_of_answer ha⟩
    | ok idem =>
        have hview : s.base.view i = s.base.db.committed := by
          rw [TenantState.view, Database.view, hpending]
          rfl
        have hfault : c.fault = false := by
          by_contra hfault
          rw [Bool.not_eq_false] at hfault
          obtain ⟨hbase, -⟩ := journaled_answer ha
          simp only [hfault, if_true] at hbase
          cases hbase
        have hanswer := answer_of_ok (journaled_answer ha).1
        obtain ⟨hidem, hbase⟩ := Prod.mk.inj (Option.some.inj hanswer)
        have hlookup : s.base.db.committed.idempotency.lookup k = idem := by
          rw [← hview]
          exact Except.ok.inj hidem
        cases hfinds : unfinished idem with
        | true =>
            have halone : ∀ j, j ≠ i → working k s.journal j = false := by
              apply hserial rfl hfault
              rw [hview, hlookup]
              apply hfinds
            obtain ⟨hsteps, hsame, hpending'⟩ := steps_idle guard hinv hwaiting.idle ha
              (fun _ hw => hw) fun _ => halone
            use hsteps
            left
            refine ⟨hfinds, durable s, hsettled, hlookup, ?_, hsame, hpending'⟩
            have hfound : findsUnfinished k ⟨.getIdempotency k, .ok idem⟩ = true :=
              findsUnfinished_iff.mpr ⟨idem, rfl, hfinds⟩
            rw [working, journal_of_answer ha,
              history_call_self, List.any_cons,
              List.any_cons, List.any_cons, hfound, hwaiting.unclosed, hwaiting.live]
            rfl
        | false =>
            have hnot : findsUnfinished k ⟨.getIdempotency k, .ok idem⟩ = false := by
              rw [findsUnfinished, hfinds, Bool.and_false]
            obtain ⟨hsteps, hsame, hidle'⟩ := hwaiting.idle.call guard hinv ha
              (fun _ hw => hw) hnot
            use hsteps
            right
            cases idem with
            | none => cases hfinds
            | some row =>
                refine ⟨row, rfl, ⟨hidle', ?_, ?_⟩, ?_, ?_⟩
                · rw [journal_of_answer ha, history_call_self, List.any_cons]
                  apply hwaiting.unread
                · intro hlone
                  rw [hsame, hsettled hlone]
                · simpa [unfinished] using hfinds
                · have hcommitted : s'.base.db.committed = s.base.db.committed :=
                    congrArg Durable.tables hsame
                  rw [hcommitted, hlookup]

/-- A call that neither changes nor commits nor looks for the operation, at any time. -/
theorem settled_call (op : TenantOp) (hop : ∀ w, ¬ op.Makes w) (hcommit : op ≠ .commit)
    (hfinds : ∀ r, findsUnfinished k ⟨op, r⟩ = false) :
  (exclusion k law guard).Triple i (Settled i v) (TenantDatabase.perform op)
    (Ending (fun _ => Settled i v) fun e _ => Plain e)
  := by
  apply Triple.perform Settled.stable
  · rintro (e | a)
    · exact fun _ _ _ he => he
    · apply Settled.stable
  · intro s c r s' hinv hsettled _ ha
    have hsame : durable s' = durable s := by
      rcases durable_of_answer ha with h | ⟨h, -⟩
      · apply h
      · exact absurd h hcommit
    have hsteps : (exclusion k law guard).Steps i s s' := by
      cases hwork : working k s.journal i with
      | true => exact steps_working guard hinv hwork ha hcommit
      | false => exact (Idle.call guard hinv hwork ha hop (hfinds r)).1
    use hsteps
    cases r with
    | error e => exact plain_of_answer ha
    | ok a =>
        intro hlone
        rw [hsame, hsettled hlone]

end Idle

end ImportService
