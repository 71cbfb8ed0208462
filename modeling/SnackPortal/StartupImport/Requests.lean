import SnackPortal.StartupImport.Replay

/-!
# The requests

Each step of `import_startup` under the discipline of the importer, and what follows for every
run of any number of requests.
-/

namespace StartupImport

open Lineage (Hmac LineageRow LineageIntent)
open SnackPortal2 (composeRecordRef)
open TenantDatabase

variable {ι : Type} [DecidableEq ι] {hmac : Hmac} {digest : String → String} {tenantRef : String}
  {sources : ι → String} {key : String} {i : ι}

/-! ### Calls -/

/-- A call that only reads keeps what is known of the database. -/
theorem triple_reads {P : TenantDb ι → Prop}
    (hP : (importing digest tenantRef sources key).Stable i fun s => P s.db) {op : TenantOp}
    (hop : op.reads = true) :
  (importing digest tenantRef sources key).Triple i (fun s => P s.db) (perform op)
    (Discipline.Returns fun _ s => P s.db)
  := by
  apply Discipline.Triple.perform hP
  · intro r
    cases r with
    | error e => apply Discipline.Stable.true
    | ok a => apply hP
  · intro s c r s' hinv hp _ ha
    constructor
    · apply importing_call _ hinv _ ha
      · rintro rfl
        cases hop
      · intro w hw
        exact absurd hw (not_makes_of_reads hop)
    · cases r with
      | error e => trivial
      | ok a =>
          simp only [Discipline.Returns, db_of_reads hop ha]
          apply hp

/-- A call that ends no transaction with effect and makes no change. -/
theorem lawful_call {op : TenantOp} (hop : op ≠ .commit) (hmakes : ∀ w, ¬ op.Makes w) :
  (importing digest tenantRef sources key).Lawful i (perform op)
  := by
  apply Discipline.Triple.perform Discipline.Stable.true
  · intro r
    cases r with
    | error e => apply Discipline.Stable.true
    | ok a => apply Discipline.Stable.true
  · intro s c r s' hinv _ _ ha
    constructor
    · apply importing_call hop hinv _ ha
      intro w hw
      exact absurd hw (hmakes w)
    · cases r with
      | error e => trivial
      | ok a => trivial

/-- The lock of the importer is held after it was taken. -/
theorem triple_lockImport :
  (importing digest tenantRef sources key).Triple i (fun s => Idle i s.db) (perform .lockImport)
    (Discipline.Returns fun _ s => Idle i s.db ∧ (.importLock, i) ∈ s.db.holders)
  := by
  apply Discipline.Triple.perform Idle.stable
  · intro r
    cases r with
    | error e => apply Discipline.Stable.true
    | ok a =>
        intro s s' hsees ⟨hidle, hheld⟩
        obtain ⟨-, -, hlock⟩ := owned_of_sees hsees
        exact ⟨Idle.stable s s' hsees hidle, (hlock hheld).1⟩
  · intro s c r s' hinv hidle _ ha
    constructor
    · apply importing_call (by simp) hinv _ ha
      intro w hw
      cases hw
    · cases r with
      | error e => trivial
      | ok a =>
          obtain ⟨db, hdb, heq⟩ := Option.map_eq_some_iff.mp (answer_of_ok ha)
          obtain ⟨-, rfl⟩ := Database.lock_eq_some hdb
          obtain ⟨-, rfl⟩ := Prod.mk.inj heq
          exact ⟨⟨hidle.pending, hidle.fresh⟩, List.mem_cons_self⟩

/-- A change that was made is under way. -/
theorem Writing.write {src : String} {ws : List Change} {w : Change} {db db' : TenantDb ι}
    (h : Writing digest tenantRef src i ws db) (hw : db.write tenantSchema i w = some db') :
  Writing digest tenantRef src i (ws ++ [w]) db'
  := by
  obtain ⟨-, rfl⟩ := Database.write_eq_some hw
  constructor
  · dsimp only
    rw [Function.update_self, h.pending]
  · apply h.fresh
  · apply List.mem_append_right _ h.lock
  · apply h.absent

/-- A statement that makes one change. -/
theorem triple_write {src : String} {ws : List Change} (op : TenantOp) (w : Change)
    (hop : op ≠ .commit) (hw : op.Makes w) (hmakes : ∀ w', op.Makes w' → w' = w) :
  (importing digest tenantRef sources key).Triple i
    (fun s => Writing digest tenantRef src i ws s.db) (perform op)
    (Discipline.Returns fun _ s => Writing digest tenantRef src i (ws ++ [w]) s.db)
  := by
  apply Discipline.Triple.perform Writing.stable
  · intro r
    cases r with
    | error e => apply Discipline.Stable.true
    | ok a => apply Writing.stable
  · intro s c r s' hinv hwriting _ ha
    constructor
    · apply importing_call hop hinv (fun _ _ => hwriting.lock) ha
    · cases r with
      | error e => trivial
      | ok a =>
          obtain ⟨w', hw', hwrite⟩ := write_of_ok hw ha
          obtain rfl := hmakes w' hw'
          apply hwriting.write hwrite

/-! ### The probe -/

/-- What the probe finds, where the session has no changes under way. -/
theorem triple_existing {P : TenantDb ι → Prop} {Q : Option ImportRecord → TenantDb ι → Prop}
    (hP : (importing digest tenantRef sources key).Stable i fun s => P s.db)
    (hQ : ∀ found, (importing digest tenantRef sources key).Stable i fun s => Q found s.db)
    (hidle : ∀ db, P db → db.pending i = [])
    (hsome : ∀ db record, P db →
      Present digest tenantRef (sources i) record db.committed → Q (some record) db)
    (hnone : ∀ db, P db → Absent digest tenantRef (sources i) db.committed → Q none db) :
  (importing digest tenantRef sources key).Triple i (fun s => P s.db)
    (PostgresImportStore.existing tenantRef (operationKey digest tenantRef (sources i)))
    (Discipline.Returns fun found s => Q found s.db)
  := by
  apply Discipline.Triple.andThen (Q := Discipline.Returns fun row (s : TenantState ι) =>
    Q (Option.map (PostgresImportStore.recordOf tenantRef) row) s.db)
  · apply Discipline.Triple.perform hP
    · intro r
      cases r with
      | error e => apply Discipline.Stable.true
      | ok row => apply hQ
    · intro s c r s' hinv hp _ ha
      constructor
      · apply importing_call (by simp) hinv _ ha
        intro w hw
        cases hw
      · cases r with
        | error e => trivial
        | ok row =>
            obtain ⟨hrow, rfl⟩ := Prod.mk.inj (Option.some.inj (answer_of_ok ha))
            have hview : s.view i = s.db.committed := by
              rw [TenantState.view, Database.view, hidle s.db hp, Schema.applyAll_nil]
            rw [hview] at hrow
            obtain rfl := Except.ok.inj hrow
            have hsettled : Settled digest tenantRef (sources i) s.db.committed := by
              rcases hinv.recorded i with ⟨habsent, -⟩ | ⟨hpresent, -⟩
              · exact .inl habsent
              · exact .inr hpresent
            simp only [Discipline.Returns]
            rcases hsettled.of_existing with ⟨record, hfound, hpresent⟩ | ⟨hfound, habsent⟩
            · rw [hfound]
              apply hsome s.db record hp hpresent
            · rw [hfound]
              apply hnone s.db hp habsent
  · intro r
    cases r with
    | error e => apply Discipline.Triple.throw
    | ok row =>
        apply Discipline.Triple.ok (hQ _)
        intro s _ hq
        apply hq

/-! ### Connections -/

/-- A transaction around a body: where the body returns, what it leaves is committed. -/
theorem triple_withConnection {α : Type} {P : TenantDb ι → Prop} {body : TenantProgram α}
    {Q R : α → TenantDb ι → Prop}
    (hP : (importing digest tenantRef sources key).Stable i fun s => P s.db)
    (hR : ∀ a, (importing digest tenantRef sources key).Stable i fun s => R a s.db)
    (hbody : (importing digest tenantRef sources key).Triple i (fun s => P s.db) body
      (Discipline.Returns fun a s => Q a s.db))
    (hcommit : ∀ a, (importing digest tenantRef sources key).Triple i (fun s => Q a s.db)
      (perform .commit) (Discipline.Returns fun _ s => R a s.db))
    (hclose : ∀ a db, R a db → R a (db.rollback i)) :
  (importing digest tenantRef sources key).Triple i (fun s => P s.db) (withConnection body)
    (Discipline.Returns fun a s => R a s.db)
  := by
  apply Discipline.Triple.seq (triple_reads hP rfl)
  intro _
  apply Discipline.Triple.andThen hbody
  intro r
  cases r with
  | ok a =>
      apply Discipline.Triple.seq (hcommit a)
      intro _
      apply Discipline.Triple.seq (Q := fun _ (s : TenantState ι) => R a s.db)
      · apply Discipline.Triple.perform (hR a)
        · intro r
          cases r with
          | error e => apply Discipline.Stable.true
          | ok _ => apply hR
        · intro s c r s' hinv hr _ ha
          constructor
          · apply importing_call (by simp) hinv _ ha
            intro w hw
            cases hw
          · cases r with
            | error e => trivial
            | ok _ =>
                obtain ⟨-, rfl⟩ := Prod.mk.inj (Option.some.inj (answer_of_ok ha))
                apply hclose a s.db hr
      · intro _
        apply Discipline.Triple.ok (hR a)
        intro s _ hr
        apply hr
  | error e =>
      have hrollback : (importing digest tenantRef sources key).Lawful i
          ((perform .rollback).rescue fun _ => pure ()) := by
        apply Discipline.Lawful.rescue
        · apply lawful_call (by simp) (fun _ => id)
        · intro _
          apply Discipline.Lawful.pure
      apply Discipline.Triple.seq hrollback.triple
      intro _
      apply Discipline.Triple.seq (lawful_call (by simp) (fun _ => id))
      intro _
      apply Discipline.Triple.throw

/-- A commit, where every source stays recorded. -/
theorem triple_commit {P R : TenantDb ι → Prop}
    (hP : (importing digest tenantRef sources key).Stable i fun s => P s.db)
    (hR : (importing digest tenantRef sources key).Stable i fun s => R s.db)
    (h : ∀ db, Orderly digest tenantRef sources db → P db →
      (∀ j, Recorded digest tenantRef (sources j) (db.view tenantSchema i)
        ((i, db.pending i) :: db.commits))
      ∧ Kept digest tenantRef sources db (db.commit tenantSchema i)
      ∧ R (db.commit tenantSchema i)) :
  (importing digest tenantRef sources key).Triple i (fun s => P s.db) (perform .commit)
    (Discipline.Returns fun _ s => R s.db)
  := by
  apply Discipline.Triple.perform hP
  · intro r
    cases r with
    | error e => apply Discipline.Stable.true
    | ok _ => apply hR
  · intro s c r s' hinv hp _ ha
    cases r with
    | error e =>
        have hs : s'.db = s.db.rollback i := db_of_error ha
        refine ⟨?_, trivial⟩
        have heffect : Effect i .rollback s.db s'.db := hs ▸ .rollback
        apply importing_effect (by simp) hinv _ heffect
        intro w hw
        cases hw
    | ok _ =>
        obtain ⟨-, rfl⟩ := Prod.mk.inj (Option.some.inj (answer_of_ok ha))
        obtain ⟨hrecorded, hkept, hr⟩ := h s.db hinv hp
        exact ⟨importing_commit hinv rfl hrecorded hkept, hr⟩

/-- A commit of no changes keeps what is known of the database. -/
theorem commit_nothing {db : TenantDb ι} (h : Orderly digest tenantRef sources db)
    (hidle : db.pending i = []) :
  (∀ j, Recorded digest tenantRef (sources j) (db.view tenantSchema i)
      ((i, db.pending i) :: db.commits))
    ∧ Kept digest tenantRef sources db (db.commit tenantSchema i)
    ∧ (db.commit tenantSchema i).committed = db.committed
    ∧ (db.commit tenantSchema i).commits = (i, []) :: db.commits
  := by
  have hview : db.view tenantSchema i = db.committed := by
    rw [Database.view, hidle, Schema.applyAll_nil]
  have hwriters : ∀ src, writers src ((i, []) :: db.commits) = writers src db.commits :=
    fun src => writers_cons_of_none rfl
  refine ⟨?_, ?_, ?_, ?_⟩
  · intro j
    rw [hview, hidle, Recorded, hwriters]
    apply h.recorded
  · intro j record hpresent
    simp only [Database.commit, hview, hidle, hwriters]
    exact ⟨hpresent, trivial⟩
  · apply hview
  · simp only [Database.commit, hidle]

theorem Idle.commit {db : TenantDb ι} (h : Idle i db) :
  Idle i (db.commit tenantSchema i)
  := by
  constructor
  · apply Function.update_self
  · intro c hc hci
    simp only [Database.commit, h.pending] at hc
    rcases List.mem_cons.mp hc with rfl | hc
    · rfl
    · apply h.fresh c hc hci

theorem Idle.rollback {db : TenantDb ι} (h : Idle i db) :
  Idle i (db.rollback i)
  := by
  constructor
  · apply Function.update_self
  · apply h.fresh

/-- `find_existing`. -/
theorem triple_findExisting :
  (importing digest tenantRef sources key).Triple i (fun s => Idle i s.db)
    (PostgresImportStore.findExisting tenantRef (operationKey digest tenantRef (sources i)))
    (Discipline.Returns fun found s =>
      Probed digest tenantRef (sources i) i found s.db)
  := by
  apply Discipline.Triple.seq (triple_reads Idle.stable rfl)
  intro _
  apply Discipline.Triple.seq (triple_reads Idle.stable rfl)
  intro _
  apply triple_withConnection Idle.stable (fun _ => Probed.stable)
    (Q := fun found db => Probed digest tenantRef (sources i) i found db)
  · apply triple_existing Idle.stable (fun _ => Probed.stable)
    · intro db hidle
      apply hidle.pending
    · intro db record hidle hpresent
      use hidle
      intro record' hrecord'
      obtain rfl := Option.some.inj hrecord'
      apply hpresent
    · intro db hidle _
      use hidle
      intro record hrecord
      cases hrecord
  · intro found
    apply triple_commit Probed.stable Probed.stable
    intro db horderly ⟨hidle, hfound⟩
    obtain ⟨hrecorded, hkept, hcommitted, -⟩ := commit_nothing horderly hidle.pending
    use hrecorded, hkept, hidle.commit
    rw [hcommitted]
    apply hfound
  · intro found db ⟨hidle, hfound⟩
    use hidle.rollback
    apply hfound

/-! ### The write -/

variable (digest tenantRef) in
/-- What a request is about to commit: nothing, where it found the record of an import, or the
rows of an import with its record. -/
inductive Ready (src : String) (i : ι) : ImportRecord × Bool → TenantDb ι → Prop where
  | replay {record : ImportRecord} {db : TenantDb ι} (hidle : Idle i db)
      (hpresent : Present digest tenantRef src record db.committed) :
      Ready src i (record, true) db
  | rows {source : GlobalSourceRecord} {id : Nat} {row : LineageRow}
      {attribution : ImportAttribution} {db : TenantDb ι} (hsrc : source.recordRef = src)
      (hsource : row.sourceRef = source.recordRef)
      (hderivation : row.derivationRef = some (operationKey digest tenantRef source.recordRef))
      (htarget : row.targetRef = composeRecordRef tenantRef "startups" id.repr)
      (hwriting : Writing digest tenantRef src i (importRows tenantRef
        (operationKey digest tenantRef source.recordRef) source id row attribution) db) :
      Ready src i (⟨operationKey digest tenantRef source.recordRef,
        composeRecordRef tenantRef "startups" id.repr,
        composeRecordRef tenantRef "lineage" row.lineageId⟩, false) db

theorem Ready.stable {result : ImportRecord × Bool} :
  (importing digest tenantRef sources key).Stable i fun s =>
    Ready digest tenantRef (sources i) i result s.db
  := by
  intro s s' hsees h
  cases h with
  | replay hidle hpresent =>
      apply Ready.replay
      · apply Idle.stable s s' hsees hidle
      · apply (hsees.evolve i _ hpresent).1
  | rows hsrc hsource hderivation htarget hwriting =>
      apply Ready.rows hsrc hsource hderivation htarget
      apply Writing.stable s s' hsees hwriting

/-- `_write_copy`. -/
theorem triple_writeCopy {src : String} {source : GlobalSourceRecord} :
  (importing digest tenantRef sources key).Triple i
    (fun s => Writing digest tenantRef src i [] s.db)
    (PostgresImportStore.writeCopy tenantRef source)
    (Discipline.Returns fun targetRef s => ∃ id : Nat,
      targetRef = composeRecordRef tenantRef "startups" id.repr
        ∧ Writing digest tenantRef src i
          [.putRecord (copyKey source.recordRef) (copyColumns source id)] s.db)
  := by
  have hstable : ∀ text : Nat → Prop, (importing digest tenantRef sources key).Stable i fun s =>
      ∃ id : Nat, text id ∧ Writing digest tenantRef src i
        [.putRecord (copyKey source.recordRef) (copyColumns source id)] s.db := by
    intro text s s' hsees ⟨id, htext, hwriting⟩
    exact ⟨id, htext, Writing.stable s s' hsees hwriting⟩
  apply Discipline.Triple.seq (Q := fun answer (s : TenantState ι) => ∃ id : Nat,
    answer = id.repr ∧ Writing digest tenantRef src i
      [.putRecord (copyKey source.recordRef) (copyColumns source id)] s.db)
  · apply Discipline.Triple.perform Writing.stable
    · intro r
      cases r with
      | error e => apply Discipline.Stable.true
      | ok answer => apply hstable fun id => answer = id.repr
    · intro s c r s' hinv hwriting _ ha
      constructor
      · apply importing_call (by simp) hinv (fun _ _ => hwriting.lock) ha
      · cases r with
        | error e => trivial
        | ok answer =>
            obtain ⟨id, hid, hwrite⟩ := insertCopy_of_ok ha
            exact ⟨id, hid, hwriting.write hwrite⟩
  · intro answer
    apply Discipline.Triple.ok (hstable fun id => answer = id.repr)
    rintro s _ ⟨id, rfl, hwriting⟩
    exact ⟨id, rfl, hwriting⟩

/-- `_append_lineage`. -/
theorem triple_appendLineage {src : String} {ws : List Change} {chainKey : ByteArray}
    {intent : LineageIntent} :
  (importing digest tenantRef sources key).Triple i
    (fun s => Writing digest tenantRef src i ws s.db)
    (Lineage.PostgresImportStore.appendLineage hmac chainKey intent)
    (Discipline.Returns fun lineageId s => ∃ row : LineageRow, (row.lineageId = lineageId
      ∧ row.sourceRef = intent.sourceRef ∧ row.targetRef = intent.targetRef
      ∧ row.derivationRef = intent.derivationRef)
      ∧ Writing digest tenantRef src i (ws ++ [.appendLineage row]) s.db)
  := by
  apply Discipline.Triple.seq (triple_reads Writing.stable rfl)
  intro head
  apply Discipline.Triple.seq (triple_reads Writing.stable rfl)
  intro lineageId
  obtain ⟨row, hrow, hlineageId, hintent⟩ :=
    Lineage.PostgresImportStore.lineageRow_intent hmac chainKey head lineageId intent
  rw [hrow]
  apply Discipline.Triple.seq (triple_write (.appendLineage row) _ (by simp) rfl fun _ h => h)
  intro _
  apply Discipline.Triple.ok Writing.stable
  intro s _ hwriting
  exact ⟨row, ⟨rfl, hintent⟩, hwriting⟩

/-- The four writes of an import. -/
theorem triple_writeRows {source : GlobalSourceRecord} {attribution : ImportAttribution}
    {chainKey : ByteArray} {schemaVersion : String} (hsrc : source.recordRef = sources i) :
  (importing digest tenantRef sources key).Triple i
    (fun s => Writing digest tenantRef (sources i) i [] s.db)
    (PostgresImportStore.writeRows hmac chainKey schemaVersion tenantRef
      (operationKey digest tenantRef (sources i)) source attribution)
    (Discipline.Returns fun result s => Ready digest tenantRef (sources i) i result s.db)
  := by
  rw [← hsrc]
  apply Discipline.Triple.seq triple_writeCopy
  intro targetRef
  apply Discipline.Triple.exists
  intro id
  apply Discipline.Triple.given
  intro htarget
  apply Discipline.Triple.seq (triple_reads Writing.stable rfl)
  intro occurredAt
  apply Discipline.Triple.seq triple_appendLineage
  intro lineageId
  apply Discipline.Triple.exists
  intro row
  apply Discipline.Triple.given
  rintro ⟨rfl, hsource, hrowTarget, hderivation⟩
  apply Discipline.Triple.seq
  · apply Discipline.Triple.seq
    · apply triple_write (.insertJob _) _ (by simp) rfl fun _ h => h
    · intro _
      apply triple_write (.insertIdempotency _ _) _ (by simp) rfl fun _ h => h
  · intro _
    apply Discipline.Triple.ok Writing.stable
    intro s _ hwriting
    rw [htarget]
    apply Ready.rows rfl hsource hderivation
    · rw [hrowTarget, ← htarget]
      rfl
    · apply hwriting

variable (digest tenantRef) in
/-- What a request comes to by the record it has found under the lock. -/
def Begun (src : String) (i : ι) (found : Option ImportRecord) (db : TenantDb ι) : Prop :=
  match found with
  | some record => Ready digest tenantRef src i (record, true) db
  | none => Writing digest tenantRef src i [] db

/-- `write_import`, before its transaction ends. -/
theorem triple_writeUnless {source : GlobalSourceRecord} {attribution : ImportAttribution}
    {chainKey : ByteArray} {schemaVersion : String} (hsrc : source.recordRef = sources i) :
  (importing digest tenantRef sources key).Triple i
    (fun s => Idle i s.db ∧ (.importLock, i) ∈ s.db.holders)
    (do
      let replayed ← PostgresImportStore.existing tenantRef
        (operationKey digest tenantRef (sources i))
      PostgresImportStore.writeUnless hmac chainKey schemaVersion tenantRef
        (operationKey digest tenantRef (sources i)) source attribution replayed)
    (Discipline.Returns fun result s => Ready digest tenantRef (sources i) i result s.db)
  := by
  have hlocked : (importing digest tenantRef sources key).Stable i fun s =>
      Idle i s.db ∧ (.importLock, i) ∈ s.db.holders := by
    intro s s' hsees ⟨hidle, hheld⟩
    obtain ⟨-, -, hlock⟩ := owned_of_sees hsees
    exact ⟨Idle.stable s s' hsees hidle, (hlock hheld).1⟩
  apply Discipline.Triple.seq (Q := fun found (s : TenantState ι) =>
    Begun digest tenantRef (sources i) i found s.db)
  · apply triple_existing (P := fun db => Idle i db ∧ (.importLock, i) ∈ db.holders)
      (Q := fun found db => Begun digest tenantRef (sources i) i found db) hlocked
    · intro found
      cases found with
      | some record => apply Ready.stable
      | none => apply Writing.stable
    · rintro db ⟨hidle, _⟩
      apply hidle.pending
    · rintro db record ⟨hidle, _⟩ hpresent
      apply Ready.replay hidle hpresent
    · rintro db ⟨hidle, hheld⟩ habsent
      exact ⟨hidle.pending, hidle.fresh, hheld, habsent⟩
  · intro found
    cases found with
    | some record =>
        apply Discipline.Triple.ok Ready.stable
        intro s _ hready
        apply hready
    | none =>
        apply Discipline.Triple.seq (triple_reads Writing.stable rfl)
        intro holds
        cases holds with
        | true => apply Discipline.Triple.throw
        | false => apply triple_writeRows hsrc

/-- What was ready is committed: the rows of the import, by this session, or nothing. -/
theorem Ready.commit (hinj : Set.InjOn (operationKey digest tenantRef) (Set.range sources))
    {result : ImportRecord × Bool} {db : TenantDb ι}
    (horderly : Orderly digest tenantRef sources db)
    (h : Ready digest tenantRef (sources i) i result db) :
  (∀ j, Recorded digest tenantRef (sources j) (db.view tenantSchema i)
      ((i, db.pending i) :: db.commits))
    ∧ Kept digest tenantRef sources db (db.commit tenantSchema i)
    ∧ Imported digest tenantRef (sources i) i result (db.commit tenantSchema i)
  := by
  cases h with
  | replay hidle hpresent =>
      obtain ⟨hrecorded, hkept, hcommitted, hcommits⟩ := commit_nothing horderly hidle.pending
      use hrecorded, hkept
      constructor
      · rw [hcommitted]
        apply hpresent
      · have hnot : i ∉ writers (sources i) (db.commit tenantSchema i).commits :=
          not_mem_writers hidle.commit.fresh
        constructor
        · intro hfalse
          cases hfalse
        · intro hwriters
          exfalso
          apply hnot
          rw [hwriters]
          apply List.mem_cons_self
  | @rows source id row attribution _ hsrc hsource hderivation htarget hwriting =>
      have habsent : Absent digest tenantRef source.recordRef db.committed :=
        hsrc ▸ hwriting.absent
      have hpresent := habsent.import hsource hderivation htarget attribution
      have hview : db.view tenantSchema i = tenantSchema.applyAll (importRows tenantRef
          (operationKey digest tenantRef source.recordRef) source id row attribution)
          db.committed := by
        rw [Database.view, hwriting.pending]
      rw [← hview] at hpresent
      have hnone : writers source.recordRef db.commits = [] := by
        rcases horderly.recorded i with ⟨-, hnone⟩ | ⟨⟨record, hrecord⟩, -⟩
        · rw [hsrc, hnone]
        · exact absurd hrecord hwriting.absent.not_present
      have hmine : writers source.recordRef ((i, db.pending i) :: db.commits) = [i] := by
        rw [writers_cons_of_any, hnone]
        rw [hwriting.pending]
        simp [importRows, copies]
      have hothers : ∀ j, sources j ≠ source.recordRef →
          SameFor digest tenantRef (sources j) db.committed (db.view tenantSchema i)
            ∧ writers (sources j) ((i, db.pending i) :: db.commits)
              = writers (sources j) db.commits := by
        intro j hj
        constructor
        · rw [hview]
          apply importRows_sameFor hj _ hsource hderivation
          intro hkey
          apply hj
          apply hinj (Set.mem_range_self j) (hsrc ▸ Set.mem_range_self i) hkey
        · apply writers_cons_of_none
          rw [hwriting.pending]
          simp [importRows, copies, copyKey, hj.symm]
      refine ⟨?_, ?_, ?_⟩
      · intro j
        by_cases hj : sources j = source.recordRef
        · rw [hj]
          exact .inr ⟨⟨_, hpresent⟩, by rw [hmine]; apply le_refl⟩
        · obtain ⟨hsame, hwriters⟩ := hothers j hj
          rw [Recorded, hwriters]
          apply (horderly.recorded j).imp
          · rintro ⟨habsent', hnone'⟩
            exact ⟨hsame.absent habsent', hnone'⟩
          · rintro ⟨⟨record, hrecord⟩, hone⟩
            exact ⟨⟨record, hsame.present hrecord⟩, hone⟩
      · intro j record hrecord
        have hj : sources j ≠ source.recordRef := by
          intro hj
          rw [hj] at hrecord
          apply habsent.not_present hrecord
        obtain ⟨hsame, hwriters⟩ := hothers j hj
        exact ⟨hsame.present hrecord, hwriters⟩
      · rw [← hsrc]
        exact ⟨hpresent, iff_of_true rfl hmine⟩

/-- The directory returns only the record it was asked for. -/
theorem triple_readDirectory {sourceRef : String} :
  (importing digest tenantRef sources key).Triple i (fun s => Idle i s.db)
    (perform (.readDirectory sourceRef))
    (Discipline.Returns fun found s =>
      (∀ source ∈ found, source.recordRef = sourceRef) ∧ Idle i s.db)
  := by
  apply Discipline.Triple.perform Idle.stable
  · intro r
    cases r with
    | error e => apply Discipline.Stable.true
    | ok found =>
        intro s s' hsees ⟨hfound, hidle⟩
        exact ⟨hfound, Idle.stable s s' hsees hidle⟩
  · intro s c r s' hinv hidle _ ha
    constructor
    · apply importing_call (by simp) hinv _ ha
      intro w hw
      cases hw
    · cases r with
      | error e => trivial
      | ok found =>
          obtain ⟨hfound, rfl⟩ := Prod.mk.inj (Option.some.inj (answer_of_ok ha))
          obtain rfl := Except.ok.inj hfound
          refine ⟨?_, hidle⟩
          intro source hsource
          apply of_decide_eq_true (Option.mem_filter_iff.mp hsource).2

theorem Imported.rollback {src : String} {result : ImportRecord × Bool} {db : TenantDb ι}
    (h : Imported digest tenantRef src i result db) :
  Imported digest tenantRef src i result (db.rollback i)
  := h

/-- `import_startup`. -/
theorem triple_importStartup
    (hinj : Set.InjOn (operationKey digest tenantRef) (Set.range sources))
    {context : RequestContext} (hcontext : context.tenantContext = some tenantRef) :
  (importing digest tenantRef sources key).Triple i (fun s => Idle i s.db)
    (ImportService.importStartup hmac digest context (sources i))
    (Discipline.Returns fun result s =>
      Imported digest tenantRef (sources i) i result s.db)
  := by
  have hwrite : ∀ source : GlobalSourceRecord, source.recordRef = sources i →
      (importing digest tenantRef sources key).Triple i (fun s => Idle i s.db)
        (PostgresImportStore.writeImport hmac tenantRef
          (operationKey digest tenantRef (sources i)) source
          ⟨context.principalRef, context.correlationId⟩)
        (Discipline.Returns fun result s =>
          Imported digest tenantRef (sources i) i result s.db) := by
    intro source hsrc
    apply Discipline.Triple.seq (triple_reads Idle.stable rfl)
    intro chainKey
    apply Discipline.Triple.seq (triple_reads Idle.stable rfl)
    intro schemaVersion
    apply triple_withConnection Idle.stable (fun _ => Imported.stable)
      (Q := fun result db => Ready digest tenantRef (sources i) i result db)
    · apply Discipline.Triple.seq triple_lockImport
      intro _
      apply triple_writeUnless hsrc
    · intro result
      apply triple_commit Ready.stable Imported.stable
      intro db horderly hready
      apply hready.commit hinj horderly
    · intro result db himported
      apply himported.rollback
  rw [ImportService.importStartup, hcontext]
  by_cases hempty : tenantRef = ""
  · rw [Option.filter_some_neg (by simpa using hempty)]
    apply Discipline.Triple.throw
  · rw [Option.filter_some_pos (by simpa using hempty)]
    apply Discipline.Triple.seq triple_findExisting
    intro found
    cases found with
    | some record =>
        apply Discipline.Triple.ok Probed.stable
        rintro s _ ⟨hidle, hfound⟩
        use hfound record rfl
        constructor
        · intro hfalse
          cases hfalse
        · intro hwriters
          exfalso
          apply not_mem_writers hidle.fresh
          rw [hwriters]
          apply List.mem_cons_self
    | none =>
        apply Discipline.Triple.seq
        · apply triple_readDirectory.conseq
          · rintro s _ ⟨hidle, _⟩
            apply hidle
          · intro found s _ hfound
            apply hfound
        · intro found
          apply Discipline.Triple.given
          intro hfound
          cases found with
          | none => apply Discipline.Triple.throw
          | some source => apply hwrite source (hfound source rfl)

/-! ### Runs -/

/-- Any number of requests of one tenant, with any interleaving, any failures and any requests
that end early: every source has all rows of one import or none, its copy was committed at most
once, and a request that succeeded returned the record of the import of its source, which was
its own commit exactly where it is not a replay. -/
theorem import_settled {contexts : ι → RequestContext}
    (hcontexts : ∀ i, (contexts i).tenantContext = some tenantRef)
    (hinj : Set.InjOn (operationKey digest tenantRef) (Set.range sources))
    {tables : Tables} (htables : ∀ i, Settled digest tenantRef (sources i) tables)
    {issued : List String} {nextId : Nat}
    {cfg : (tenantDatabase key ι).Config (ImportRecord × Bool)}
    (h : Machine.Reaches (Machine.anyCall _)
      (⟨⟨.quiet tables, issued, nextId⟩, fun i =>
        some (ImportService.importStartup hmac digest (contexts i) (sources i))⟩ :
          (tenantDatabase key ι).Config (ImportRecord × Bool)) cfg) :
  (∀ i, Settled digest tenantRef (sources i) cfg.state.db.committed
      ∧ (writers (sources i) cfg.state.db.commits).length ≤ 1)
    ∧ ∀ i record replayed, cfg.returned i = some (record, replayed) →
      Present digest tenantRef (sources i) record cfg.state.db.committed
        ∧ (replayed = false ↔ writers (sources i) cfg.state.db.commits = [i])
  := by
  have hstart : Orderly digest tenantRef sources (.quiet tables : TenantDb ι) := by
    constructor
    · apply Database.Consistent.quiet
    · intro i hi
      exact absurd rfl hi
    · intro j
      rcases htables j with habsent | hpresent
      · exact .inl ⟨habsent, rfl⟩
      · exact .inr ⟨hpresent, Nat.zero_le 1⟩
  have hsafe : ∀ i x, some (ImportService.importStartup hmac digest (contexts i) (sources i))
      = some x → (importing digest tenantRef sources key).Safe i
        (Discipline.Returns fun result s =>
          Imported digest tenantRef (sources i) i result s.db) x
        ⟨.quiet tables, issued, nextId⟩ := by
    intro i x hx
    obtain rfl := Option.some.inj hx
    apply triple_importStartup hinj (hcontexts i)
    · exact hstart
    · constructor
      · rfl
      · intro c hc
        cases hc
  constructor
  · intro i
    have hinv := (Discipline.Safe.reaches (D := importing digest tenantRef sources key) h hstart
      hsafe).1
    have hrecorded := hinv.recorded i
    rcases hrecorded with ⟨habsent, hnone⟩ | ⟨hpresent, hone⟩
    · exact ⟨.inl habsent, by rw [hnone]; apply Nat.zero_le⟩
    · exact ⟨.inr hpresent, hone⟩
  · intro i record replayed hi
    have hended := Discipline.Safe.ending (D := importing digest tenantRef sources key)
      (Q := fun i => Discipline.Returns fun result s =>
        Imported digest tenantRef (sources i) i result s.db) h hstart hsafe
      (Machine.Config.returned_eq_some.mp hi)
    apply hended

/-- SHA-256 of the two contents that are digested below. -/
def sampleDigest (text : String) : String :=
  if text = "t1\x00g-1" then
    "ae3a980043de7fe3904c65b3ea56b9f924f5c92d84c1c5220d14775e6a0ed1c1"
  else
    "fa993860daa65b682f0ec4d38361df329ce299d795ae42243ec1d74ad7067384"

/-- HMAC-SHA256 of the one content that is signed below. -/
def sampleHmac : Hmac := fun _ _ =>
  "79ad6f8c2f5ec56b61dec09f8a82a7aacaa067884eb57e9c92eba5c8d2722584"

/-- The sources of three requests: two of them are for the same one. -/
def sampleSources : Fin 3 → String
  | 0 => "g-1"
  | 1 => "g-1"
  | 2 => "g-2"

/-- The start of the three requests, on a database without rows. -/
def sampleRequests : (tenantDatabase "chainkey" (Fin 3)).Config (ImportRecord × Bool) :=
  ⟨⟨.quiet ⟨[], ∅, ∅, ∅, [], plainColumns⟩, [], 1⟩, fun i =>
    some (ImportService.importStartup sampleHmac sampleDigest ⟨some "t1", "user1", some "c"⟩
      (sampleSources i))⟩

/-- Calls of one request, where the outside world has these texts for them. -/
def answers (n : Nat) (texts : List String) : List (Move (Fin 3) TenantChoice) :=
  ((List.finRange 3)[n]?).toList.flatMap fun i =>
    texts.map fun text => .call i ⟨false, text, [], [], some ⟨"g-1", "Acme", []⟩⟩

/-- Two requests probe before either writes; the one that comes second waits for the lock and
finds the import of the other. -/
def sampleMoves : List (Move (Fin 3) TenantChoice) :=
  answers 0 ["", "3", "", "", "", ""] ++ answers 1 ["", "3", "", "", "", ""]
    ++ answers 0 ["", "", "3", "", "", "", "", "", "2026-01-01T00:00:00+00:00", "",
      "0b0e7a52c3f14d0f9d3a6d5f7c2b1a90", "", "", "", "", ""]
    ++ answers 1 ["", "", "3", "", "", "", "", ""]

/-- The record that both requests return. -/
def sampleRecord : ImportRecord :=
  ⟨"imp-ae3a980043de7fe3904c65b3ea56b9f9", "ref:t1:startups:1",
    "ref:t1:lineage:0b0e7a52c3f14d0f9d3a6d5f7c2b1a90"⟩

/-- Both requests return the record of the one import, and the second one's is a replay. -/
theorem import_settled_replayed :
  ∃ cfg : (tenantDatabase "chainkey" (Fin 3)).Config (ImportRecord × Bool),
    cfg.returned 0 = some (sampleRecord, false) ∧ cfg.returned 1 = some (sampleRecord, true)
      ∧ Present sampleDigest "t1" "g-1" sampleRecord cfg.state.db.committed
      ∧ writers "g-1" cfg.state.db.commits = [0] ∧ writers "g-1" cfg.state.db.commits ≠ [1]
  := by
  have hrun : (sampleRequests.run (Machine.anyCall _) sampleMoves).map (fun cfg =>
      (cfg.returned 0, cfg.returned 1))
        = some (some (sampleRecord, false), some (sampleRecord, true)) := by
    decide +kernel
  obtain ⟨cfg, hcfg, hreturned⟩ := Machine.Reaches.of_map_run hrun
  obtain ⟨hfirst, hsecond⟩ := Prod.mk.inj hreturned
  have hinj : Set.InjOn (operationKey sampleDigest "t1") (Set.range sampleSources) := by
    rintro _ ⟨i, rfl⟩ _ ⟨j, rfl⟩
    revert i j
    decide +kernel
  obtain ⟨-, himported⟩ := import_settled (fun _ => rfl) hinj
    (fun i => .inl ⟨rfl, rfl, rfl, rfl, rfl⟩) hcfg
  obtain ⟨hpresent, hcommitted⟩ := himported 0 _ _ hfirst
  obtain ⟨-, hreplayed⟩ := himported 1 _ _ hsecond
  refine ⟨cfg, hfirst, hsecond, hpresent, ?_, ?_⟩
  · apply hcommitted.mp rfl
  · intro hwriters
    cases hreplayed.mpr hwriters

end StartupImport
