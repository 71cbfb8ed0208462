import SnackPortal.Lineage.Emit
import SnackPortal.Lineage.Verification
import SnackPortal.Program.Discipline

/-!
# The committed chain

Sessions of one tenant extend its chain while others do the same, and any of them can abort.
What each session sees of the lineage table is a chain, because two of them never have rows
under way at once: both would hold the number that comes next.  A writer that read the head
before another session committed builds a row whose number is taken, and the table refuses it.
So the committed table is a chain in every run (`committed_chained`).
-/

namespace Lineage

open TenantDatabase

variable {ι : Type} [DecidableEq ι] {hmac : Hmac} {key : String}

/-! ### The invariant -/

/-- The locks are in order, the committed rows are a chain, and so are the rows that any
session sees. -/
structure InOrder (hmac : Hmac) (key : String) (db : Database Tables Change Key ι) : Prop where
  locks : db.Consistent tenantSchema
  committed : Chained hmac key db.committed.lineage
  seen : ∀ i, Chained hmac key (db.committed.lineage ++ appended (db.pending i))

namespace InOrder

variable {db db' : Database Tables Change Key ι}

omit [DecidableEq ι] in
theorem quiet {d : Tables} (h : Chained hmac key d.lineage) :
  InOrder hmac key (.quiet d : Database Tables Change Key ι)
  := by
  constructor
  · apply Database.Consistent.quiet
  · apply h
  · intro i
    simp only [Database.quiet, appended_nil, List.append_nil]
    apply h

omit [DecidableEq ι] in
/-- The session that has rows under way holds the number that comes next. -/
theorem holds_next (h : InOrder hmac key db) {i : ι} (hi : appended (db.pending i) ≠ []) :
  (.lineageSeq (1 + db.committed.lineage.length), i) ∈ db.holders
  := by
  obtain ⟨row, rows, hrows⟩ := List.exists_cons_of_ne_nil hi
  have hseen := h.seen i
  rw [hrows] at hseen
  have hseq := (Linked.append_iff.mp hseen).2.1
  have hpending : .appendLineage row ∈ db.pending i := by
    apply mem_appended.mp
    rw [hrows]
    apply List.mem_cons_self
  rw [← hseq]
  apply h.locks.locked i _ hpending
  apply List.mem_cons_self

omit [DecidableEq ι] in
/-- Two sessions do not both have rows under way. -/
theorem alone (h : InOrder hmac key db) {i j : ι} (hij : j ≠ i) :
  appended (db.pending i) = [] ∨ appended (db.pending j) = []
  := by
  by_cases hi : appended (db.pending i) = []
  · exact .inl hi
  · right
    by_contra hj
    apply hij
    apply h.locks.exclusive _ j i (h.holds_next hj) (h.holds_next hi)

theorem lock (h : InOrder hmac key db) {i : ι} {k : Key} (hk : db.lock i k = some db') :
  InOrder hmac key db'
  := by
  have hlocks := h.locks.lock hk
  obtain ⟨-, rfl⟩ := Database.lock_eq_some hk
  exact ⟨hlocks, h.committed, h.seen⟩

/-- A session whose transaction ends without effect sees the committed rows. -/
theorem rollback (h : InOrder hmac key db) (i : ι) :
  InOrder hmac key (db.rollback i)
  := by
  constructor
  · apply h.locks.rollback
  · apply h.committed
  · intro j
    by_cases hji : j = i
    · subst hji
      simp only [Database.rollback, Function.update_self, appended_nil, List.append_nil]
      apply h.committed
    · simp only [Database.rollback, Function.update_of_ne hji]
      apply h.seen

theorem abort (h : InOrder hmac key db) (i : ι) :
  InOrder hmac key (db.abort i)
  := by
  have hroll := h.rollback i
  exact ⟨h.locks.abort i, hroll.committed, hroll.seen⟩

/-- A change that keeps the rows its session sees a chain. -/
theorem write (h : InOrder hmac key db) {i : ι} {w : Change}
    (hchained : ∀ row, w = .appendLineage row →
      Chained hmac key ((db.view tenantSchema i).lineage ++ [row]))
    (hw : db.write tenantSchema i w = some db') :
  InOrder hmac key db'
  := by
  have hlocks := h.locks.write hw
  obtain ⟨-, rfl⟩ := Database.write_eq_some hw
  constructor
  · apply hlocks
  · apply h.committed
  · intro j
    dsimp only
    by_cases hji : j = i
    · subst hji
      rw [Function.update_self, appended_append]
      cases w with
      | appendLineage row =>
          have hrow := hchained row rfl
          rw [Database.view, lineage_applyAll, List.append_assoc] at hrow
          apply hrow
      | putRecord _ _ | putJob _ | putIdempotency _ _ | appendCheckpoint _ =>
          simp only [appended, List.filterMap_cons, Change.lineageRow, List.filterMap_nil,
            List.append_nil]
          apply h.seen
    · rw [Function.update_of_ne hji]
      apply h.seen

/-- The rows of a session become the committed rows; no other session had rows under way. -/
theorem commit (h : InOrder hmac key db) (i : ι) :
  InOrder hmac key (db.commit tenantSchema i)
  := by
  have hcommitted : (db.view tenantSchema i).lineage
      = db.committed.lineage ++ appended (db.pending i) := lineage_applyAll
  constructor
  · apply h.locks.commit
  · simp only [Database.commit, hcommitted]
    apply h.seen
  · intro j
    simp only [Database.commit, Database.rollback, hcommitted]
    by_cases hji : j = i
    · subst hji
      rw [Function.update_self, appended_nil, List.append_nil]
      apply h.seen
    · rw [Function.update_of_ne hji]
      rcases h.alone hji with hi | hj
      · rw [hi, List.append_nil]
        apply h.seen
      · rw [hj, List.append_nil]
        apply h.seen

/-- A call keeps the order, where an insert of a lineage row extends the rows its session
sees. -/
theorem effect (h : InOrder hmac key db) {i : ι} {op : TenantOp} (heffect : Effect i op db db')
    (hchained : ∀ row, op.Makes (.appendLineage row) →
      Chained hmac key ((db.view tenantSchema i).lineage ++ [row])) :
  InOrder hmac key db'
  := by
  cases heffect with
  | none => apply h
  | lock k hk => apply h.lock hk
  | write w hmakes hw =>
      apply h.write _ hw
      rintro row rfl
      apply hchained row hmakes
  | rollback => apply h.rollback
  | abort => apply h.abort
  | commit _ => apply h.commit

end InOrder

/-! ### The discipline -/

/-- The committed rows only grow. -/
def Grows (s s' : TenantState ι) : Prop :=
  s.db.committed.lineage <+: s'.db.committed.lineage

/-- The committed rows after a call. -/
theorem grows_of_effect {i : ι} {op : TenantOp} {s s' : TenantState ι}
    (h : Effect i op s.db s'.db) :
  Grows s s'
  := by
  rcases h.committed with ⟨hcommitted, -⟩ | ⟨-, hcommit⟩
  · use []
    rw [List.append_nil, hcommitted]
  · rw [Grows, hcommit]
    use appended (s.db.pending i)
    apply lineage_applyAll.symm

/-- What the sessions of a tenant may rely on: the chain is in order, the committed rows only
grow, and a session's pending changes are its own. -/
def appending (hmac : Hmac) (key : String) (ι : Type) [DecidableEq ι] :
    Discipline (tenantDatabase key ι) where
  guard := Machine.anyCall _
  inv s := InOrder hmac key s.db
  evolve := Grows
  Own := List Change
  own i s := s.db.pending i
  evolve_refl _ := List.prefix_rfl
  evolve_trans h h' := h.trans h'
  drop_inv i _ h := h.rollback i
  drop_evolve _ _ _ := List.prefix_rfl
  drop_own _ _ _ _ hij := Function.update_of_ne hij _ _

/-- What a call may change. -/
theorem appending_steps {i : ι} {op : TenantOp} {s s' : TenantState ι}
    (h : Effect i op s.db s'.db) (hinv : InOrder hmac key s'.db) :
  (appending hmac key ι).Steps i s s'
  := by
  constructor
  · apply hinv
  · apply grows_of_effect h
  · intro j hij
    apply h.pending_of_ne hij

/-- Every call but the insert of a lineage row keeps the discipline. -/
theorem appending_call {i : ι} {op : TenantOp} (hop : ∀ row, op ≠ .appendLineage row)
    {c : TenantChoice} {r : Except ServiceError op.Ans} {s s' : TenantState ι}
    (hinv : InOrder hmac key s.db)
    (h : (tenantDatabase key ι).answer i op c s = some (r, s')) :
  (appending hmac key ι).Steps i s s'
  := by
  have heffect := effect_of_answer h
  apply appending_steps heffect
  apply hinv.effect heffect
  intro row hmakes
  exfalso
  cases op with
  | appendLineage row' => apply hop row' rfl
  | putJob _ | putIdempotency _ _ | appendCheckpoint _ | insertJob _
  | insertIdempotency _ _ => cases hmakes
  | putRecord _ _ | insertCopy _ =>
      obtain ⟨_, hmakes⟩ := hmakes
      cases hmakes
  | _ => apply hmakes

/-! ### The writers -/

/-- The head that the session read; rows may have been committed since. -/
def HeadRead (hmac : Hmac) (key : String) (i : ι) (prev : Option LineageRow)
    (s : TenantState ι) : Prop :=
  ∃ front, front <+: s.db.committed.lineage
    ∧ Chained hmac key (front ++ appended (s.db.pending i))
    ∧ latest (front ++ appended (s.db.pending i)) = prev

theorem HeadRead.stable {i : ι} {prev : Option LineageRow} :
  (appending hmac key ι).Stable i (HeadRead hmac key i prev)
  := by
  intro s s' hsees ⟨front, hfront, hhead⟩
  use front, hfront.trans hsees.evolve
  have hpending : s'.db.pending i = s.db.pending i := hsees.own
  rw [hpending]
  apply hhead

/-- A session reads the head of the rows it sees. -/
theorem triple_latestLineage {i : ι} :
  (appending hmac key ι).Triple i (fun _ => True) (perform .latestLineage)
    (Discipline.Returns fun prev => HeadRead hmac key i prev)
  := by
  apply Discipline.Triple.perform Discipline.Stable.true
  · rintro (e | prev)
    · apply Discipline.Stable.true
    · apply HeadRead.stable
  · intro s c r s' hinv _ _ ha
    use appending_call (by simp) hinv ha
    cases r with
    | error e => trivial
    | ok prev =>
        obtain ⟨hprev, rfl⟩ := Prod.mk.inj (Option.some.inj (answer_of_ok ha))
        use s.db.committed.lineage, List.prefix_rfl, hinv.seen i
        rw [← Except.ok.inj hprev, TenantState.view, Database.view, lineage_applyAll]

/-- A call that only reads keeps the head that was read. -/
theorem triple_reads {i : ι} {prev : Option LineageRow} {op : TenantOp}
    (hop : op.reads = true) :
  (appending hmac key ι).Triple i (HeadRead hmac key i prev) (perform op)
    (Discipline.Returns fun _ => HeadRead hmac key i prev)
  := by
  apply Discipline.Triple.perform HeadRead.stable
  · rintro (e | a)
    · apply Discipline.Stable.true
    · apply HeadRead.stable
  · intro s c r s' hinv hhead _ ha
    constructor
    · apply appending_call _ hinv ha
      rintro row rfl
      cases hop
    · cases r with
      | error e => trivial
      | ok a =>
          simp only [Discipline.Returns, HeadRead, db_of_reads hop ha]
          apply hhead

/-- A row that was inserted has a number and an id that its session did not see. -/
theorem new_of_append {i : ι} {row : LineageRow} {c : TenantChoice} {s s' : TenantState ι}
    (h : (tenantDatabase key ι).answer i (.appendLineage row) c s = some (.ok (), s')) :
  ∀ r ∈ (s.view i).lineage, r.seq ≠ row.seq ∧ r.lineageId ≠ row.lineageId
  := by
  rcases TenantState.write_cases (answer_of_ok h) with ⟨hadmits, -, -⟩ | ⟨-, hr, -⟩
  · apply Tables.new_of_admitsLineage _ hadmits
  · cases hr

/-- The row that a writer built from the head it read is refused, or it extends the chain: its
number is free only if nothing was committed since. -/
theorem triple_appendLineage {i : ι} {prev : Option LineageRow} {row : LineageRow}
    {lineageId : String} {intent : LineageIntent}
    (hrow : row.Continues hmac key prev lineageId intent) :
  (appending hmac key ι).Triple i (HeadRead hmac key i prev) (perform (.appendLineage row))
    fun _ _ => True
  := by
  apply Discipline.Triple.perform HeadRead.stable
  · intro r
    apply Discipline.Stable.true
  · rintro s c r s' hinv ⟨front, ⟨grown, hgrown⟩, hchained, hhead⟩ _ ha
    refine ⟨?_, trivial⟩
    have heffect := effect_of_answer ha
    apply appending_steps heffect
    cases r with
    | error e =>
        simp only [db_of_error ha]
        apply hinv.abort
    | ok a =>
        apply hinv.effect heffect
        rintro row' hmakes
        obtain rfl := Change.appendLineage.inj hmakes
        have hnew := new_of_append ha
        have hview : (s.db.view tenantSchema i).lineage
            = front ++ grown ++ appended (s.db.pending i) := by
          rw [Database.view, lineage_applyAll, hgrown]
        have hseen : Chained hmac key (front ++ grown ++ appended (s.db.pending i)) := by
          rw [hgrown]
          apply hinv.seen
        have hseq : row'.seq = (front ++ appended (s.db.pending i)).length + 1 := by
          rw [hrow.seq, ← hhead, hchained.head.1]
        have hnone : grown = [] := by
          apply hchained.grown hseen
          intro other hother
          rw [← hseq]
          rw [← hview] at hother
          apply (hnew other hother).1
        rw [hview, hnone, List.append_nil]
        apply hchained.append
        rw [hhead]
        apply hrow

/-- A call that is not the insert of a lineage row. -/
theorem lawful_call {i : ι} {op : TenantOp} (hop : ∀ row, op ≠ .appendLineage row) :
  (appending hmac key ι).Lawful i (perform op)
  := by
  apply Discipline.Triple.perform Discipline.Stable.true
  · rintro (e | a)
    · apply Discipline.Stable.true
    · apply Discipline.Stable.true
  · intro s c r s' hinv _ _ ha
    use appending_call hop hinv ha
    cases r with
    | error e => trivial
    | ok a => trivial

/-- The key that `LineageEmit` signs with. -/
theorem triple_chainKey {i : ι} {service : LineageEmit} {tenantId : String}
    {prev : Option LineageRow} :
  (appending hmac key ι).Triple i (HeadRead hmac key i prev) (service.chainKey tenantId)
    (Discipline.Returns fun chainKey s => chainKey = key ∧ HeadRead hmac key i prev s)
  := by
  apply Discipline.Triple.seq (triple_reads rfl)
  intro version
  apply Discipline.Triple.perform HeadRead.stable
  · rintro (e | chainKey)
    · apply Discipline.Stable.true
    · intro s s' hsees ⟨hkey, hhead⟩
      exact ⟨hkey, HeadRead.stable s s' hsees hhead⟩
  · intro s c r s' hinv hhead _ ha
    use appending_call (by simp) hinv ha
    cases r with
    | error e => trivial
    | ok chainKey =>
        obtain ⟨hkey, rfl⟩ := Prod.mk.inj (Option.some.inj (answer_of_ok ha))
        exact ⟨(Except.ok.inj hkey).symm, hhead⟩

/-- `LineageEmit.emit` keeps the chain in order. -/
theorem LineageEmit.emit_lawful {i : ι} {service : LineageEmit} {tenantId : String}
    {intent : LineageIntent} :
  (appending hmac key ι).Lawful i (service.emit hmac tenantId intent)
  := by
  have hlock : (appending hmac key ι).Lawful i service.lock := by
    rw [lock]
    split
    · apply lawful_call (by simp)
    · apply Discipline.Lawful.pure
  have haudit : (appending hmac key ι).Lawful i (service.auditWritten intent) := by
    rw [auditWritten]
    split
    · apply lawful_call (by simp)
    · apply Discipline.Lawful.pure
  apply Discipline.Triple.seq hlock
  intro _
  apply Discipline.Triple.seq triple_latestLineage
  intro prev
  apply Discipline.Triple.seq (triple_reads rfl)
  intro lineageId
  apply Discipline.Triple.seq triple_chainKey
  intro chainKey
  apply Discipline.Triple.given
  rintro rfl
  obtain ⟨row, hrow, hcontinues⟩ := row_continues hmac chainKey prev
    lineageId intent
  rw [hrow]
  apply Discipline.Triple.andThen (triple_appendLineage hcontinues)
  rintro (e | _)
  · apply Discipline.Triple.throw
  · apply Discipline.Triple.seq haudit
    intro _
    apply Discipline.Lawful.pure

/-- `PostgresImportStore._append_lineage` keeps the chain in order. -/
theorem PostgresImportStore.appendLineage_lawful {i : ι} {intent : LineageIntent} :
  (appending hmac key ι).Lawful i (appendLineage hmac key.toUTF8 intent)
  := by
  apply Discipline.Triple.seq triple_latestLineage
  intro head
  apply Discipline.Triple.seq (triple_reads rfl)
  intro lineageId
  obtain ⟨row, hrow, hcontinues⟩ := LineageEmit.row_continues hmac key head
    lineageId intent
  rw [lineageRow_eq, hrow]
  apply Discipline.Triple.andThen (triple_appendLineage hcontinues)
  rintro (e | _)
  · apply Discipline.Triple.throw
  · apply Discipline.Lawful.pure

/-- Whatever writes the chain through the two writers keeps it in order. -/
theorem Appender.lawful {i : ι} {α : Type} {x : TenantProgram α} (hx : Appender hmac key x) :
  (appending hmac key ι).Lawful i x
  := by
  induction hx with
  | ret r =>
      cases r with
      | ok a => apply Discipline.Lawful.pure
      | error e => apply Discipline.Lawful.raise
  | call hop _ ih =>
      apply Discipline.Triple.andThen (lawful_call hop)
      intro r
      apply (ih r).triple
  | resolveLineageKey tenantRef _ ih =>
      intro s hinv _ s' hsees c r s'' _ ha
      have hsteps : (appending hmac key ι).Steps i s' s'' := by
        apply appending_call _ hsees.inv ha
        simp
      use hsteps
      apply ih r _ s'' hsteps.inv trivial
      rintro chainKey rfl
      obtain ⟨hkey, -⟩ := Prod.mk.inj (Option.some.inj (answer_of_ok ha))
      exact (Except.ok.inj hkey).symm
  | emit service tenantId intent _ ih =>
      apply Discipline.Triple.andThen LineageEmit.emit_lawful
      intro r
      apply (ih r).triple
  | appendLineage intent _ ih =>
      apply Discipline.Triple.andThen PostgresImportStore.appendLineage_lawful
      intro r
      apply (ih r).triple

/-! ### Runs -/

/-- In a linked list of rows each row names the marker of the row before it. -/
theorem Linked.prevMarker_getElem {n : Int} {prev : String} {rows : List LineageRow}
    (h : Linked hmac key n prev rows) {k : Nat} (hk : k + 1 < rows.length) :
  rows[k + 1].prevMarker = rows[k].integrityMarker
  := by
  induction rows generalizing n prev k with
  | nil => cases hk
  | cons row rows ih =>
      obtain ⟨-, -, -, -, hrows⟩ := h
      rw [List.getElem_cons_succ]
      cases k with
      | zero =>
          cases rows with
          | nil => exact absurd hk (by simp)
          | cons row' rows => apply hrows.2.1
      | succ k =>
          rw [List.getElem_cons_succ]
          apply ih hrows

/-- The session of a thread that writes the chain through the two writers keeps the discipline. -/
theorem Appender.safe {α : Type} {i : ι} {x : TenantProgram α} (hx : Appender hmac key x)
    {s : TenantState ι} (hs : InOrder hmac key s.db) :
  (appending hmac key ι).Safe i (Discipline.Returns fun _ _ => True) x s
  := by
  apply hx.lawful
  · exact hs
  · trivial

/-- Any number of sessions whose programs write the chain only through the two writers, with
any other calls in between, any interleaving, any failures and any sessions that end early:
the committed rows are numbered from one without a gap, the first names no marker and each
further one the marker of the row before it, and they verify under the key. -/
theorem committed_chained {α : Type} {tables : Tables} (htables : tables.lineage = [])
    {threads : ι → Option (TenantProgram α)}
    (hthreads : ∀ i x, threads i = some x → Appender hmac key x)
    {cfg : (tenantDatabase key ι).Config α}
    (h : Machine.Reaches (Machine.anyCall _)
      (⟨⟨.quiet tables, [], 0⟩, threads⟩ : (tenantDatabase key ι).Config α) cfg)
    {rows : List LineageRow} (hrows : cfg.state.db.committed.lineage = rows) :
  (∀ k (hk : k < rows.length), rows[k].seq = k + 1)
    ∧ (∀ row ∈ rows.head?, row.prevMarker = "")
    ∧ (∀ k (hk : k + 1 < rows.length), rows[k + 1].prevMarker = rows[k].integrityMarker)
    ∧ ∀ scanPage tenantId maxRecords, ∃ rep,
      verify hmac key scanPage tenantId maxRecords rows = some rep ∧ rep.ok = true
        ∧ (0 < scanPage → maxRecords = none → rep.scanned = rows.length)
  := by
  have hstart : InOrder hmac key (.quiet tables : Database Tables Change Key ι) := by
    apply InOrder.quiet
    rw [htables]
    apply Chained.nil
  have hinv := (Discipline.Safe.reaches (D := appending hmac key ι) h hstart
    fun i x hx => (hthreads i x hx).safe hstart).1
  have hchained : Chained hmac key rows := hrows ▸ hinv.committed
  refine ⟨?_, ?_, ?_, ?_⟩
  · intro k hk
    rw [hchained.seq_getElem hk]
    omega
  · intro row hrow
    obtain ⟨others, rfl⟩ := List.head?_eq_some_iff.mp hrow
    apply hchained.2.1
  · intro k hk
    apply hchained.prevMarker_getElem hk
  · intro scanPage tenantId maxRecords
    apply verify_chained hchained

/-- The verifier reads page after page while the sessions go on.  However the pages fall between
their commits, it finds nothing, and where it asks for all rows it scans those that were committed
at one of its reads. -/
theorem committed_verifies {α : Type} {tables : Tables} (htables : tables.lineage = [])
    {threads : ι → Option (TenantProgram α)}
    (hthreads : ∀ i x, threads i = some x → Appender hmac key x)
    {cfgs : Nat → (tenantDatabase key ι).Config α}
    (hfirst : Machine.Reaches (Machine.anyCall _)
      (⟨⟨.quiet tables, [], 0⟩, threads⟩ : (tenantDatabase key ι).Config α) (cfgs 0))
    (hnext : ∀ n, Machine.Reaches (Machine.anyCall _) (cfgs n) (cfgs (n + 1)))
    {scanPage fuel : Nat} {tenantId : String} {maxRecords : Option Nat} {rep : VerificationReport}
    (hrep : verifyReads hmac key scanPage tenantId maxRecords
      (fun n => (cfgs n).state.db.committed.lineage) fuel = some rep) :
  rep.ok = true
    ∧ (0 < scanPage → maxRecords = none →
      ∃ n, rep.scanned = (cfgs n).state.db.committed.lineage.length)
  := by
  have hstart : InOrder hmac key (.quiet tables : Database Tables Change Key ι) := by
    apply InOrder.quiet
    rw [htables]
    apply Chained.nil
  have hsafe : ∀ n, InOrder hmac key (cfgs n).state.db ∧ ∀ i x, (cfgs n).threads i = some x →
      (appending hmac key ι).Safe i (Discipline.Returns fun _ _ => True) x (cfgs n).state := by
    intro n
    induction n with
    | zero =>
        obtain ⟨hinv, -, hsafe⟩ := Discipline.Safe.reaches (D := appending hmac key ι) hfirst hstart
          fun i x hx => (hthreads i x hx).safe hstart
        exact ⟨hinv, hsafe⟩
    | succ n ih =>
        obtain ⟨hinv, -, hsafe⟩ := Discipline.Safe.reaches (hnext n) ih.1 ih.2
        exact ⟨hinv, hsafe⟩
  have hgrow : ∀ n, (cfgs n).state.db.committed.lineage
      <+: (cfgs (n + 1)).state.db.committed.lineage := by
    intro n
    apply (Discipline.Safe.reaches (hnext n) (hsafe n).1 (hsafe n).2).2.1
  apply verifyReads_chained (fun _ => List.Perm.refl _) (fun n => (hsafe n).1.committed) hgrow hrep

/-- The intent of an import. -/
def copyIntent (sourceRef targetRef : String) : LineageIntent where
  eventType := "import"
  occurredAt := "2026-01-01T00:00:00+00:00"
  actorRef := "user1"
  sourceRef := sourceRef
  targetRef := targetRef
  operation := "created"
  schemaVersion := "1"
  derivationRef := some "job1"
  parentLineageRef := none
  correlationId := some "c"

/-- HMAC-SHA256 under the key `chainkey` of the contents that the run below signs, which are
told by their lengths. -/
def raceHmac : Hmac := fun _ message =>
  match message.size with
  | 111 => "aa2bf4e4d711ae26038a7c085d6cc1b0b892d5ebfbe274b411eddf10b072144f"
  | 113 => "59c0a841d0ccde9eac052ed40a6b2b0f0996518c972c85e7042fd5c959e565b1"
  | _ => "deeb60522534b0715cd2c687a2639a0cebd36fe0bc5909f92d4ca17fcbb00817"

/-- Two sessions: one that emits a row, and an importer that starts over where its row is
refused. -/
def raceThreads : Fin 2 → Option (TenantProgram Unit)
  | 0 => some do
      let _ ← LineageEmit.emit ⟨"lineage", true, false⟩ raceHmac "t1"
        (copyIntent "g:1" "t1:tenant_copy:1")
      perform .commit
  | 1 => some do
      let _ ← (importing.rescue fun _ => do
        let _ ← perform .rollback
        importing)
      perform .commit
where
  importing := PostgresImportStore.appendLineage raceHmac "chainkey".toUTF8
    (copyIntent "g:12" "t1:tenant_copy:12")

/-- A call that does not fail, where the outside world has the text for it. -/
def callWith (text : String) (i : Fin 2) : Move (Fin 2) TenantChoice :=
  .call i ⟨false, text, [], [], none⟩

/-- Both read the head of the empty chain; the row that comes second is refused, and the
session of that row reads the head again. -/
def raceMoves : List (Move (Fin 2) TenantChoice) :=
  [callWith "" 0, callWith "" 0, callWith "" 1,
    callWith "1f3c5b7a9d2e4f60817263544f3e2d1c" 1, callWith "0b0e7a52c3f14d0f9d3a6d5f7c2b1a90" 0,
    callWith "" 0, callWith "" 0, callWith "" 0, callWith "" 0, callWith "" 1, callWith "" 1,
    callWith "" 1, callWith "9a8b7c6d5e4f30211203f4e5d6c7b8a9" 1, callWith "" 1, callWith "" 1]

/-- The sessions before the race, on a database without rows. -/
def raceStart : (tenantDatabase "chainkey" (Fin 2)).Config Unit :=
  ⟨⟨.quiet ⟨[], ∅, ∅, ∅, [], plainColumns⟩, [], 0⟩, raceThreads⟩

/-- After the race both rows are committed, and what is committed verifies. -/
theorem committed_chained_race :
  ∃ cfg, Machine.Reaches (Machine.anyCall _) raceStart cfg
    ∧ cfg.state.db.committed.lineage.map LineageRow.seq = [1, 2]
    ∧ ∃ rep, verify raceHmac "chainkey" 1 "t1" none cfg.state.db.committed.lineage = some rep
      ∧ rep.ok = true ∧ rep.scanned = 2
  := by
  have hrun : (raceStart.run (Machine.anyCall _) raceMoves).map
      (fun cfg => cfg.state.db.committed.lineage.map LineageRow.seq) = some [1, 2] := by
    decide +kernel
  obtain ⟨cfg, hcfg, hseq⟩ := Machine.Reaches.of_map_run hrun
  have hcommit : Appender raceHmac "chainkey" (perform .commit) := by
    apply Appender.of_calls
    apply Program.Calls.perform
    simp
  have hrollback : Appender raceHmac "chainkey" (perform .rollback) := by
    apply Appender.of_calls
    apply Program.Calls.perform
    simp
  have hthreads : ∀ i x, raceThreads i = some x → Appender raceHmac "chainkey" x := by
    intro i x hx
    match i with
    | 0 =>
        obtain rfl := Option.some.inj hx
        apply Appender.of_emit.bind
        intro _
        apply hcommit
    | 1 =>
        obtain rfl := Option.some.inj hx
        apply Appender.bind
        · apply Appender.of_appendLineage.rescue
          intro _
          apply hrollback.bind
          intro _
          apply Appender.of_appendLineage
        · intro _
          apply hcommit
  obtain ⟨-, -, -, hverify⟩ := committed_chained rfl hthreads hcfg rfl
  obtain ⟨rep, hrep, hok, hscanned⟩ := hverify 1 "t1" none
  use cfg, hcfg, hseq, rep, hrep, hok
  rw [hscanned Nat.one_pos rfl, ← List.length_map LineageRow.seq, hseq]
  rfl

end Lineage
