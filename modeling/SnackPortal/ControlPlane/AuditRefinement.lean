import SnackPortal.ControlPlane.AuditIngest

/-!
# Appends in one step

Every run of the services and the edges on a table stands for a run on a store that appends in one
step: the rows, the requests and the responses are the same, and so is what every service does.
An append that puts its row takes place at the commit, also where the commit fails and took
effect; one that finds its key taken takes place at the end of its transaction, the row that it
found being still there; and any other fails without effect.
-/

namespace ControlPlane.AuditStores

open AppendOnce (held Fresh)
open Machine (Stands Matched)

variable {ρ κ τ : Type}

/-- What is left of the handling of a request: an append, the response, and further requests. -/
def answering (parse : List UInt8 → Option ρ) (append : ρ → AuditProgram ρ κ τ AppendResult)
    (n message : ℕ) (x : AuditProgram ρ κ τ AppendResult) : AuditProgram ρ κ τ Unit :=
  (x.andThen fun r => (pure (responseTo r) : AuditProgram ρ κ τ Response)) >>= fun response => do
    perform (.respond message response)
    serve parse append n

/-- What is left of the handling of a request with a response. -/
def respondWith (parse : List UInt8 → Option ρ) (append : ρ → AuditProgram ρ κ τ AppendResult)
    (n message : ℕ) (response : Response) : AuditProgram ρ κ τ Unit := do
  perform (.respond message response)
  serve parse append n

/-- The calls of the transport. -/
def AuditOp.transports : AuditOp ρ → Bool
  | .post _ | .await _ | .receive | .respond _ _ => true
  | _ => false

/-- The calls of a service. -/
def AuditOp.posts : AuditOp ρ → Bool
  | .post _ | .await _ => true
  | _ => false

theorem AuditOp.transports_of_posts {op : AuditOp ρ} (h : op.posts) :
  op.transports
  := by
  cases op with
  | post _ | await _ => rfl
  | receive | respond _ _ | cursor | insert _ | select _ | commit | rollback | append _ => cases h

/-! ## The transport -/

section Transport

theorem mem_of_lookup {α β : Type} [BEq α] [LawfulBEq α] {a : α} {b : β} {entries : List (α × β)}
    (h : entries.lookup a = some b) :
  (a, b) ∈ entries
  := by
  obtain ⟨front, back, rfl, -⟩ := List.lookup_eq_some_iff.mp h
  apply List.mem_append_right
  apply List.mem_cons_self

variable {n n' : Network} {c : AuditChoice}

theorem answer_post {raw : List UInt8} {r : Except AuditError ℕ}
    (h : @Network.answer ρ κ τ n c (.post raw) = some (r, n')) :
  r = .ok n.sent.length ∧ n' = { n with sent := (n.sent.length, raw) :: n.sent }
    ∨ r = .error (.transport .unavailable) ∧ n' = n
  := by
  rw [Network.answer] at h
  split at h
  · obtain ⟨rfl, rfl⟩ := Prod.mk.inj (Option.some.inj h)
    exact .inl ⟨rfl, rfl⟩
  · obtain ⟨rfl, rfl⟩ := Prod.mk.inj (Option.some.inj h)
    exact .inr ⟨rfl, rfl⟩

theorem answer_await {message : ℕ} {r : Except AuditError Response}
    (h : @Network.answer ρ κ τ n c (.await message) = some (r, n')) :
  n' = n ∧ (r = .error (.transport .unavailable)
    ∨ ∃ response, r = .ok response ∧ (message, response) ∈ n.responses)
  := by
  rw [Network.answer] at h
  split at h
  · obtain ⟨response, hresponse, heq⟩ := Option.map_eq_some_iff.mp h
    obtain ⟨rfl, rfl⟩ := Prod.mk.inj heq
    exact ⟨rfl, .inr ⟨response, rfl, mem_of_lookup hresponse⟩⟩
  · obtain ⟨rfl, rfl⟩ := Prod.mk.inj (Option.some.inj h)
    exact ⟨rfl, .inl rfl⟩

theorem answer_receive {r : Except AuditError (ℕ × List UInt8)}
    (h : @Network.answer ρ κ τ n c .receive = some (r, n')) :
  n'.sent = n.sent ∧ n'.responses = n.responses ∧ ∃ request ∈ n.sent, r = .ok request
  := by
  rw [Network.answer] at h
  split at h
  · cases h
  · obtain ⟨raw, hraw, heq⟩ := Option.map_eq_some_iff.mp h
    obtain ⟨rfl, rfl⟩ := Prod.mk.inj heq
    exact ⟨rfl, rfl, (c.message, raw), mem_of_lookup hraw, rfl⟩

end Transport

variable {ι : Type} [DecidableEq ι] [DecidableEq κ] [DecidableEq τ]

/-! ## What a call does -/

section Calls

variable {store : AuditStore ρ κ τ} {i : ι} {c : AuditChoice} {s s' : AuditState κ τ ι}

/-- The call of a session left the committed rows and the transport, and its own rows, if it had
any, are gone. -/
structure Settled (i : ι) (s s' : AuditState κ τ ι) : Prop where
  db : s'.db = s.db ∧ s.db.pending i = [] ∨ s'.db = s.db.abort i ∨ s'.db = s.db.rollback i
  connections : ∀ j, j ≠ i → s'.connections j = s.connections j
  network : s'.network = s.network

/-- What the call of a session leaves of the others. -/
structure Advance (i : ι) (s s' : AuditState κ τ ι) : Prop where
  committed : s.db.committed <+: s'.db.committed
  pending : ∀ j, j ≠ i → s'.db.pending j = s.db.pending j
  aborted : ∀ j, j ≠ i → s'.db.aborted j = s.db.aborted j
  connections : ∀ j, j ≠ i → s'.connections j = s.connections j

omit [DecidableEq κ] [DecidableEq τ] in
theorem Settled.refl (hidle : s.db.pending i = []) :
  Settled i s s
  := ⟨.inl ⟨rfl, hidle⟩, fun _ _ => rfl, rfl⟩

omit [DecidableEq κ] [DecidableEq τ] in
theorem Settled.abort :
  Settled i s (s.abort i)
  := ⟨.inr (.inl rfl), fun _ _ => rfl, rfl⟩

omit [DecidableEq κ] [DecidableEq τ] in
theorem Settled.lose :
  Settled i s (s.lose i)
  := ⟨.inr (.inr rfl), fun _ hji => Function.update_of_ne hji _ _, rfl⟩

omit [DecidableEq κ] [DecidableEq τ] in
theorem Settled.rollback :
  Settled i s { s with db := s.db.rollback i }
  := ⟨.inr (.inr rfl), fun _ _ => rfl, rfl⟩

omit [DecidableEq κ] [DecidableEq τ] in
/-- A session without rows that opens its connection. -/
theorem Settled.connect (hidle : s.db.pending i = []) (connection : Connection) :
  Settled i s { s with connections := Function.update s.connections i connection }
  := ⟨.inl ⟨rfl, hidle⟩, fun _ hji => Function.update_of_ne hji _ _, rfl⟩

omit [DecidableEq κ] [DecidableEq τ] in
theorem Settled.idle (h : Settled i s s') :
  s'.db.pending i = []
  := by
  rcases h.db with ⟨heq, hidle⟩ | heq | heq
  · rw [heq, hidle]
  · rw [heq]
    apply Function.update_self
  · rw [heq]
    apply Function.update_self

omit [DecidableEq κ] [DecidableEq τ] in
theorem Settled.committed (h : Settled i s s') :
  s'.db.committed = s.db.committed
  := by
  rcases h.db with ⟨heq, -⟩ | heq | heq
  · rw [heq]
  · apply congrArg Database.committed heq
  · apply congrArg Database.committed heq

omit [DecidableEq κ] [DecidableEq τ] in
theorem Settled.advance (h : Settled i s s') :
  Advance i s s'
  := by
  constructor
  · rw [h.committed]
  · intro j hji
    rcases h.db with ⟨heq, -⟩ | heq | heq
    · rw [heq]
    · rw [heq]
      apply Function.update_of_ne hji
    · rw [heq]
      apply Function.update_of_ne hji
  · intro j hji
    rcases h.db with ⟨heq, -⟩ | heq | heq
    · rw [heq]
    · rw [heq, Database.abort, Database.rollback]
      dsimp only
      rw [Function.update_of_ne hji]
    · rw [heq]
      apply Function.update_of_ne hji
  · apply h.connections

omit [DecidableEq τ] in
theorem Settled.fresh (h : Settled i s s') (hfresh : Fresh StoredRow.id s.db) :
  Fresh StoredRow.id s'.db
  := by
  rcases h.db with ⟨heq, -⟩ | heq | heq
  · rwa [heq]
  · rw [heq]
    apply hfresh.abort
  · rw [heq]
    apply hfresh.rollback

omit [DecidableEq τ] in
/-- A session that puts a row leaves the others. -/
theorem Advance.write {row : StoredRow κ τ} {db' : Database (List (StoredRow κ τ)) _ κ ι}
    (h : s.db.write (AppendOnce.schema StoredRow.id) i row = some db') :
  Advance i s { s with db := db' }
  := by
  obtain ⟨hcommitted, haborted, hpending⟩ := AppendOnce.write_frame h
  constructor
  · rw [hcommitted]
  · intro j hji
    rw [hpending]
    apply Function.update_of_ne hji
  · intro j _
    rw [haborted]
  · exact fun _ _ => rfl

omit [DecidableEq κ] [DecidableEq τ] in
/-- A statement of a session without rows fails and leaves none, or it runs. -/
theorem statement_cases {α : Type} {fate : Fate} {r : Except AuditError α}
    {run : Option (Except AuditError α × AuditState κ τ ι)} (hidle : s.db.pending i = [])
    (h : s.statement i fate run = some (r, s')) :
  r = .error .failure ∧ Settled i s s'
    ∨ s.connections i = .up ∧ s.db.aborted i = false ∧ run = some (r, s')
  := by
  unfold AuditState.statement at h
  split at h
  · rename_i hup
    split at h
    · split at h
      · left
        obtain ⟨rfl, rfl⟩ := Prod.mk.inj (Option.some.inj h)
        exact ⟨rfl, .abort⟩
      · rename_i haborted
        right
        exact ⟨hup, Bool.eq_false_iff.mpr haborted, h⟩
    · left
      obtain ⟨rfl, rfl⟩ := Prod.mk.inj (Option.some.inj h)
      exact ⟨rfl, .abort⟩
    · left
      obtain ⟨rfl, rfl⟩ := Prod.mk.inj (Option.some.inj h)
      exact ⟨rfl, .lose⟩
    · left
      obtain ⟨rfl, rfl⟩ := Prod.mk.inj (Option.some.inj h)
      exact ⟨rfl, .lose⟩
  · left
    obtain ⟨rfl, rfl⟩ := Prod.mk.inj (Option.some.inj h)
    exact ⟨rfl, .refl hidle⟩

omit [DecidableEq τ] in
/-- The cursor of a session without rows. -/
theorem answer_cursor {r : Except AuditError Unit} (hidle : s.db.pending i = [])
    (h : s.answer store i c .cursor = some (r, s')) :
  (r = .ok () ∨ r = .error .failure) ∧ Settled i s s'
  := by
  rw [AuditState.answer] at h
  split at h
  · split at h
    · obtain ⟨rfl, rfl⟩ := Prod.mk.inj (Option.some.inj h)
      exact ⟨.inl rfl, .connect hidle .up⟩
    · obtain ⟨rfl, rfl⟩ := Prod.mk.inj (Option.some.inj h)
      exact ⟨.inr rfl, .refl hidle⟩
  · obtain ⟨rfl, rfl⟩ := Prod.mk.inj (Option.some.inj h)
    exact ⟨.inl rfl, .refl hidle⟩
  · obtain ⟨rfl, rfl⟩ := Prod.mk.inj (Option.some.inj h)
    exact ⟨.inr rfl, .refl hidle⟩

omit [DecidableEq τ] in
/-- The insert of a session without rows, in a transaction that did not fail: the database takes
no row of the record, or the insert finds a row, or it puts its own. -/
theorem insert_cases {record : ρ} {r : Except AuditError Bool} (hidle : s.db.pending i = [])
    (h : (match store.rowOf record with
      | none => some (.error .failure, s.abort i)
      | some row =>
          (AppendOnce.insert StoredRow.id s.db i row).map fun (inserted, db) =>
            (.ok inserted, { s with db := db })) = some (r, s')) :
  store.rowOf record = none ∧ r = .error .failure ∧ s' = s.abort i
    ∨ (∃ row stored, store.rowOf record = some row
        ∧ held StoredRow.id row.id s.db.committed = some stored ∧ r = .ok false ∧ s' = s)
    ∨ ∃ row db', store.rowOf record = some row
        ∧ held StoredRow.id row.id s.db.committed = none
        ∧ s.db.write (AppendOnce.schema StoredRow.id) i row = some db'
        ∧ r = .ok true ∧ s' = { s with db := db' }
  := by
  split at h
  · rename_i hrow
    obtain ⟨rfl, rfl⟩ := Prod.mk.inj (Option.some.inj h)
    exact .inl ⟨hrow, rfl, rfl⟩
  · rename_i row hrow
    obtain ⟨⟨inserted, db'⟩, hinsert, heq⟩ := Option.map_eq_some_iff.mp h
    obtain ⟨rfl, rfl⟩ := Prod.mk.inj heq
    rcases AppendOnce.insert_eq_some hidle hinsert with
      ⟨rfl, rfl, stored, hstored⟩ | ⟨rfl, hnone, hwrite⟩
    · exact .inr (.inl ⟨row, stored, hrow, hstored, rfl, rfl⟩)
    · exact .inr (.inr ⟨row, db', hrow, hnone, hwrite, rfl, rfl⟩)

omit [DecidableEq τ] in
/-- The insert of a session without rows: it fails, it finds a row, or it puts its own. -/
theorem answer_insert {record : ρ} {r : Except AuditError Bool} (hidle : s.db.pending i = [])
    (h : s.answer store i c (.insert record) = some (r, s')) :
  r = .error .failure ∧ Settled i s s'
    ∨ (∃ row stored, store.rowOf record = some row
        ∧ held StoredRow.id row.id s.db.committed = some stored ∧ r = .ok false ∧ s' = s)
    ∨ ∃ row db', store.rowOf record = some row
        ∧ held StoredRow.id row.id s.db.committed = none
        ∧ s.connections i = .up ∧ s.db.aborted i = false
        ∧ s.db.write (AppendOnce.schema StoredRow.id) i row = some db'
        ∧ r = .ok true ∧ s' = { s with db := db' }
  := by
  rw [AuditState.answer] at h
  rcases statement_cases hidle h with hfailed | ⟨hup, haborted, hrun⟩
  · left
    apply hfailed
  · rcases insert_cases hidle hrun with ⟨-, rfl, rfl⟩ | hfound |
      ⟨row, db', hrow, hnone, hwrite, hr, hs'⟩
    · exact .inl ⟨rfl, .abort⟩
    · exact .inr (.inl hfound)
    · exact .inr (.inr ⟨row, db', hrow, hnone, hup, haborted, hwrite, hr, hs'⟩)

omit [DecidableEq τ] in
/-- The select of a session without rows, of a key that is taken, in a transaction that did not
fail: it finds the row, and the driver loads it or does not. -/
theorem select_cases {record : ρ} {row stored : StoredRow κ τ}
    {r : Except AuditError (Option (StoredRow κ τ))} (hidle : s.db.pending i = [])
    (hrow : store.rowOf record = some row)
    (hstored : held StoredRow.id row.id s.db.committed = some stored)
    (h : (match store.idInput (store.id record) with
      | none => some (.error .failure, s.abort i)
      | some k =>
          match held StoredRow.id k (s.db.view (AppendOnce.schema StoredRow.id) i) with
          | none => some (.ok none, s)
          | some row =>
              if store.loads row.occurredAt then some (.ok (some row), s)
              else some (.error .failure, s)) = some (r, s')) :
  r = .error .failure ∧ s' = s ∧ store.loads stored.occurredAt = false
    ∨ r = .ok (some stored) ∧ s' = s ∧ store.loads stored.occurredAt
  := by
  rw [(AuditStore.rowOf_eq_some hrow).1] at h
  dsimp only at h
  rw [AppendOnce.view_schema, hidle, List.append_nil, hstored] at h
  dsimp only at h
  split at h
  · rename_i hloads
    obtain ⟨rfl, rfl⟩ := Prod.mk.inj (Option.some.inj h)
    exact .inr ⟨rfl, rfl, hloads⟩
  · rename_i hloads
    obtain ⟨rfl, rfl⟩ := Prod.mk.inj (Option.some.inj h)
    exact .inl ⟨rfl, rfl, Bool.eq_false_iff.mpr hloads⟩

omit [DecidableEq τ] in
/-- The select of a session without rows, of a key that is taken: it fails, or it finds the row
and the driver loads it. -/
theorem answer_select {record : ρ} {row stored : StoredRow κ τ}
    {r : Except AuditError (Option (StoredRow κ τ))} (hidle : s.db.pending i = [])
    (hrow : store.rowOf record = some row)
    (hstored : held StoredRow.id row.id s.db.committed = some stored)
    (h : s.answer store i c (.select (store.id record)) = some (r, s')) :
  r = .error .failure ∧ Settled i s s'
    ∨ r = .ok (some stored) ∧ s' = s ∧ store.loads stored.occurredAt
  := by
  rw [AuditState.answer] at h
  rcases statement_cases hidle h with hfailed | ⟨-, -, hrun⟩
  · left
    apply hfailed
  · rcases select_cases hidle hrow hstored hrun with ⟨rfl, rfl, -⟩ | hfound
    · exact .inl ⟨rfl, .refl hidle⟩
    · exact .inr hfound

omit [DecidableEq τ] in
/-- The rollback of a session without rows. -/
theorem answer_rollback {r : Except AuditError Unit} (hidle : s.db.pending i = [])
    (h : s.answer store i c .rollback = some (r, s')) :
  (r = .ok () ∨ r = .error .failure) ∧ Settled i s s'
  := by
  rw [AuditState.answer] at h
  split at h
  · split at h
    · obtain ⟨rfl, rfl⟩ := Prod.mk.inj (Option.some.inj h)
      exact ⟨.inl rfl, .connect hidle .up⟩
    · obtain ⟨rfl, rfl⟩ := Prod.mk.inj (Option.some.inj h)
      exact ⟨.inr rfl, .refl hidle⟩
  · split at h
    · obtain ⟨rfl, rfl⟩ := Prod.mk.inj (Option.some.inj h)
      exact ⟨.inl rfl, .rollback⟩
    · obtain ⟨rfl, rfl⟩ := Prod.mk.inj (Option.some.inj h)
      exact ⟨.inr rfl, .lose⟩
  · obtain ⟨rfl, rfl⟩ := Prod.mk.inj (Option.some.inj h)
    exact ⟨.inr rfl, .refl hidle⟩

/-- The commit of a session took effect. -/
structure Committed (i : ι) (s s' : AuditState κ τ ι) : Prop where
  committed : s'.db.committed = s.db.committed ++ s.db.pending i
  idle : s'.db.pending i = []
  fresh : Fresh StoredRow.id s.db → Fresh StoredRow.id s'.db
  advance : Advance i s s'
  network : s'.network = s.network

omit [DecidableEq τ] in
/-- The commit, where the state after it is that of a database that committed. -/
theorem Committed.of_commit
    (hdb : s'.db = s.db.commit (AppendOnce.schema StoredRow.id) i
      ∨ s'.db = (s.db.commit (AppendOnce.schema StoredRow.id) i).rollback i)
    (hconnections : ∀ j, j ≠ i → s'.connections j = s.connections j)
    (hnetwork : s'.network = s.network) :
  Committed i s s'
  := by
  have hcommitted : s'.db.committed = s.db.committed ++ s.db.pending i := by
    have hview : s.db.view (AppendOnce.schema StoredRow.id) i
        = s.db.committed ++ s.db.pending i := AppendOnce.view_schema i
    rw [← hview]
    rcases hdb with hdb | hdb
    · apply congrArg Database.committed hdb
    · apply congrArg Database.committed hdb
  constructor
  · apply hcommitted
  · rcases hdb with hdb | hdb
    · rw [hdb]
      apply Function.update_self
    · rw [hdb]
      apply Function.update_self
  · intro hfresh
    rcases hdb with hdb | hdb
    · rw [hdb]
      apply hfresh.commit
    · rw [hdb]
      apply (hfresh.commit i).rollback
  · constructor
    · rw [hcommitted]
      apply List.prefix_append
    · intro j hji
      rcases hdb with hdb | hdb
      · rw [hdb]
        apply Function.update_of_ne hji
      · rw [hdb, Database.rollback, Database.commit, Database.rollback]
        dsimp only
        rw [Function.update_of_ne hji, Function.update_of_ne hji]
    · intro j hji
      rcases hdb with hdb | hdb
      · rw [hdb]
        apply Function.update_of_ne hji
      · rw [hdb, Database.rollback, Database.commit, Database.rollback]
        dsimp only
        rw [Function.update_of_ne hji, Function.update_of_ne hji]
    · apply hconnections
  · apply hnetwork

omit [DecidableEq τ] in
/-- The commit of a session with rows, in a transaction that did not fail: it takes effect, and
may fail all the same, or it fails without effect. -/
theorem answer_commit {r : Except AuditError Unit} (hup : s.connections i = .up)
    (haborted : s.db.aborted i = false)
    (h : s.answer store i c .commit = some (r, s')) :
  (r = .ok () ∨ r = .error .failure) ∧ Committed i s s'
    ∨ r = .error .failure ∧ Settled i s s'
  := by
  rw [AuditState.answer, if_pos hup] at h
  split at h
  · rw [if_neg (by rw [haborted]; decide)] at h
    obtain ⟨rfl, rfl⟩ := Prod.mk.inj (Option.some.inj h)
    exact .inl ⟨.inl rfl, .of_commit (.inl rfl) (fun _ _ => rfl) rfl⟩
  · obtain ⟨rfl, rfl⟩ := Prod.mk.inj (Option.some.inj h)
    exact .inr ⟨rfl, .rollback⟩
  · obtain ⟨rfl, rfl⟩ := Prod.mk.inj (Option.some.inj h)
    exact .inr ⟨rfl, .lose⟩
  · obtain ⟨rfl, rfl⟩ := Prod.mk.inj (Option.some.inj h)
    exact .inl ⟨.inr rfl,
      .of_commit (.inr rfl) (fun _ hji => Function.update_of_ne hji _ _) rfl⟩

end Calls

/-! ## The stages of an edge -/

/-- What is left of a transaction that was ended, with whether the row that it found matches. -/
def replied (isMatch : Bool) : AuditProgram ρ κ τ AppendResult :=
  if isMatch then
    return .duplicateMatch
  else
    Program.raise .conflict

/-- What is left of a transaction that found a row, or none. -/
def AuditStore.replaying (store : AuditStore ρ κ τ) (record : ρ)
    (stored : Option (StoredRow κ τ)) : AuditProgram ρ κ τ AppendResult := do
  perform .rollback
  replied (stored.any (store.replayMatches · record))

/-- What is left of a transaction behind its insert. -/
def AuditStore.inserted (store : AuditStore ρ κ τ) (record : ρ) (inserted : Bool) :
    AuditProgram ρ κ τ AppendResult := do
  if inserted then
    perform .commit
    return .inserted
  else
    let stored ← perform (.select (store.id record))
    store.replaying record stored

/-- What is left of a transaction with its connection. -/
def AuditStore.inserting (store : AuditStore ρ κ τ) (record : ρ) :
    AuditProgram ρ κ τ AppendResult := do
  let inserted ← perform (.insert record)
  store.inserted record inserted

/-- Where an edge is, with what stands for it on a store that appends in one step. -/
inductive Stage (store : AuditStore ρ κ τ) (parse : List UInt8 → Option ρ) (i : ι)
    (s : AuditState κ τ ι) : AuditProgram ρ κ τ Unit → AuditProgram ρ κ τ Unit → Prop where
  | serving (n : ℕ) (hidle : s.db.pending i = []) :
      Stage store parse i s (serve parse store.appendAudit n) (serve parse store.appendAtOnce n)
  | responding (n message : ℕ) (response : Response) (hidle : s.db.pending i = []) :
      Stage store parse i s (respondWith parse store.appendAudit n message response)
        (respondWith parse store.appendAtOnce n message response)
  | asking (n message : ℕ) (record : ρ) (hidle : s.db.pending i = []) :
      Stage store parse i s
        (answering parse store.appendAudit n message ((store.transact record).rescue closing))
        (answering parse store.appendAtOnce n message (perform (.append record)))
  | inserting (n message : ℕ) (record : ρ) (hidle : s.db.pending i = []) :
      Stage store parse i s
        (answering parse store.appendAudit n message ((store.inserting record).rescue closing))
        (answering parse store.appendAtOnce n message (perform (.append record)))
  | committing (n message : ℕ) (record : ρ) (row : StoredRow κ τ)
      (hrow : store.rowOf record = some row) (hpending : s.db.pending i = [row])
      (hup : s.connections i = .up) (haborted : s.db.aborted i = false) :
      Stage store parse i s
        (answering parse store.appendAudit n message
          ((store.inserted record true).rescue closing))
        (answering parse store.appendAtOnce n message (perform (.append record)))
  | selecting (n message : ℕ) (record : ρ) (row stored : StoredRow κ τ)
      (hrow : store.rowOf record = some row) (hidle : s.db.pending i = [])
      (hstored : held StoredRow.id row.id s.db.committed = some stored) :
      Stage store parse i s
        (answering parse store.appendAudit n message
          ((store.inserted record false).rescue closing))
        (answering parse store.appendAtOnce n message (perform (.append record)))
  | replaying (n message : ℕ) (record : ρ) (row stored : StoredRow κ τ)
      (hrow : store.rowOf record = some row) (hidle : s.db.pending i = [])
      (hstored : held StoredRow.id row.id s.db.committed = some stored)
      (hloads : store.loads stored.occurredAt) :
      Stage store parse i s
        (answering parse store.appendAudit n message
          ((store.replaying record (some stored)).rescue closing))
        (answering parse store.appendAtOnce n message (perform (.append record)))
  | failed (n message : ℕ) (hidle : s.db.pending i = []) :
      Stage store parse i s
        (answering parse store.appendAudit n message (closing .failure))
        (answering parse store.appendAtOnce n message (Program.raise .failure))
  | ended (r : Except AuditError Unit) :
      Stage store parse i s (.ret r) (.ret r)

/-- The states of the two machines agree. -/
structure Agree (s : AuditState κ τ ι) (s₂ : AtomicState κ τ) : Prop where
  fresh : Fresh StoredRow.id s.db
  log : s₂.log = s.db.committed
  network : s₂.network = s.network

section Stages

variable {store : AuditStore ρ κ τ} {parse : List UInt8 → Option ρ} {i : ι}
  {s s' : AuditState κ τ ι} {s₂ : AtomicState κ τ}

omit [DecidableEq τ] in
theorem Settled.agree (h : Settled i s s') (hagree : Agree s s₂) :
  Agree s' s₂
  := by
  constructor
  · apply h.fresh hagree.fresh
  · rw [hagree.log, h.committed]
  · rw [hagree.network, h.network]

omit [DecidableEq ι] in
/-- An edge stays where it is while another one calls. -/
theorem Stage.frame {j : ι} {x y : AuditProgram ρ κ τ Unit} (hji : j ≠ i)
    (hadvance : Advance i s s') (h : Stage store parse j s x y) :
  Stage store parse j s' x y
  := by
  have hpending := hadvance.pending j hji
  cases h with
  | serving n hidle => apply Stage.serving n (hpending.trans hidle)
  | responding n message response hidle =>
      apply Stage.responding n message response (hpending.trans hidle)
  | asking n message record hidle => apply Stage.asking n message record (hpending.trans hidle)
  | inserting n message record hidle =>
      apply Stage.inserting n message record (hpending.trans hidle)
  | committing n message record row hrow hown hup haborted =>
      apply Stage.committing n message record row hrow (hpending.trans hown)
      · rw [hadvance.connections j hji, hup]
      · rw [hadvance.aborted j hji, haborted]
  | selecting n message record row stored hrow hidle hstored =>
      apply Stage.selecting n message record row stored hrow (hpending.trans hidle)
      apply AppendOnce.held_of_prefix hstored hadvance.committed
  | replaying n message record row stored hrow hidle hstored hloads =>
      apply Stage.replaying n message record row stored hrow (hpending.trans hidle) _ hloads
      apply AppendOnce.held_of_prefix hstored hadvance.committed
  | failed n message hidle => apply Stage.failed n message (hpending.trans hidle)
  | ended r => apply Stage.ended r

/-- What a call of an edge does: it is matched, and leaves the other edges where they are. -/
def Steps (store : AuditStore ρ κ τ) (parse : List UInt8 → Option ρ) (i : ι)
    (s s' : AuditState κ τ ι) (s₂ : AtomicState κ τ) (x y : AuditProgram ρ κ τ Unit) : Prop :=
  Matched (M := auditDatabase store ι) (N := atomicStore store ι) Agree (Stage store parse) i s'
      s₂ x y
    ∧ Advance i s s'

/-- The edge goes on alone. -/
theorem Settled.alone (h : Settled i s s') (hagree : Agree s s₂) {x y : AuditProgram ρ κ τ Unit}
    (hstage : Stage store parse i s' x y) :
  Steps store parse i s s' s₂ x y
  := ⟨.inl ⟨h.agree hagree, hstage⟩, h.advance⟩

/-- The append takes place with the call, with this answer and these rows. -/
theorem Steps.append {n message : ℕ} {record : ρ} {x : AuditProgram ρ κ τ Unit} (c : AuditChoice)
    (log : List (StoredRow κ τ)) {r : Except AuditError AppendResult}
    (ha : s₂.answer store c (.append record) = some (r, { s₂ with log := log }))
    (hagree : Agree s' { s₂ with log := log }) (hadvance : Advance i s s')
    (hstage : Stage store parse i s' x (answering parse store.appendAtOnce n message (.ret r))) :
  Steps store parse i s s' s₂ x
    (answering parse store.appendAtOnce n message (perform (.append record)))
  := by
  constructor
  · right
    exact ⟨.append record, fun r => answering parse store.appendAtOnce n message (.ret r), c, r,
      _, rfl, ha, hagree, hstage⟩
  · apply hadvance

/-- The append fails without effect. -/
theorem Settled.fails (h : Settled i s s') (hagree : Agree s s₂) (n message : ℕ) (record : ρ) :
  Steps store parse i s s' s₂ (answering parse store.appendAudit n message (closing .failure))
    (answering parse store.appendAtOnce n message (perform (.append record)))
  := by
  apply Steps.append ⟨.fails, 0⟩ s₂.log rfl (h.agree hagree) h.advance
  apply Stage.failed n message h.idle

/-- The append takes place at the commit, which may fail all the same. -/
theorem Committed.steps {n message : ℕ} {record : ρ} {row : StoredRow κ τ}
    (h : Committed i s s') (hagree : Agree s s₂) (hrow : store.rowOf record = some row)
    (hpending : s.db.pending i = [row]) {x : AuditProgram ρ κ τ Unit}
    {r : Except AuditError AppendResult} (hr : r = .ok .inserted ∨ r = .error .failure)
    (hstage : Stage store parse i s' x (answering parse store.appendAtOnce n message (.ret r))) :
  Steps store parse i s s' s₂ x
    (answering parse store.appendAtOnce n message (perform (.append record)))
  := by
  have hnone : held StoredRow.id row.id s₂.log = none := by
    rw [hagree.log]
    apply hagree.fresh.fresh i row
    rw [hpending]
    apply List.mem_singleton_self
  have happend : store.append record s₂.log = (.ok .inserted, s₂.log ++ [row]) := by
    rw [AuditStore.append, hrow]
    dsimp only
    rw [hnone]
  have hagree' : Agree s' { s₂ with log := s₂.log ++ [row] } := by
    constructor
    · apply h.fresh hagree.fresh
    · rw [h.committed, hpending, hagree.log]
    · rw [h.network, ← hagree.network]
  rcases hr with rfl | rfl
  · apply Steps.append ⟨.works, 0⟩ _ _ hagree' h.advance hstage
    rw [AtomicState.answer, happend]
  · apply Steps.append ⟨.lostAfter, 0⟩ _ _ hagree' h.advance hstage
    rw [AtomicState.answer, happend]

/-- The append takes place at the end of the transaction that found a row. -/
theorem Settled.replayed {n message : ℕ} {record : ρ} {row stored : StoredRow κ τ}
    (h : Settled i s s') (hagree : Agree s s₂) (hrow : store.rowOf record = some row)
    (hstored : held StoredRow.id row.id s.db.committed = some stored)
    (hloads : store.loads stored.occurredAt) {x : AuditProgram ρ κ τ Unit}
    {r : Except AuditError AppendResult}
    (hr : r = if store.replayMatches stored record then .ok .duplicateMatch else .error .conflict)
    (hstage : Stage store parse i s' x (answering parse store.appendAtOnce n message (.ret r))) :
  Steps store parse i s s' s₂ x
    (answering parse store.appendAtOnce n message (perform (.append record)))
  := by
  have happend : store.append record s₂.log = (r, s₂.log) := by
    rw [AuditStore.append, hrow]
    dsimp only
    rw [hagree.log, hstored]
    dsimp only
    rw [if_pos hloads, hr]
    split <;> rfl
  apply Steps.append ⟨.works, 0⟩ s₂.log _ (h.agree hagree) h.advance hstage
  rw [AtomicState.answer, happend]

omit [DecidableEq τ] in
/-- A call of the transport asks the network. -/
theorem AuditState.answer_of_transports {op : AuditOp ρ} (hop : op.transports)
    (s : AuditState κ τ ι) (c : AuditChoice) :
  s.answer store i c op = (s.network.answer c op).map fun a => (a.1, { s with network := a.2 })
  := by
  cases op with
  | post _ | await _ | receive | respond _ _ => rfl
  | cursor | insert _ | select _ | commit | rollback | append _ => cases hop

/-- A call of the transport asks the network, of the store that appends at once too. -/
theorem AtomicState.answer_of_transports {op : AuditOp ρ} (hop : op.transports)
    (s : AtomicState κ τ) (c : AuditChoice) :
  s.answer store c op = (s.network.answer c op).map fun a => (a.1, { s with network := a.2 })
  := by
  cases op with
  | post _ | await _ | receive | respond _ _ => rfl
  | cursor | insert _ | select _ | commit | rollback | append _ => cases hop

omit [DecidableEq τ] in
/-- A call of the transport leaves the database and the connections. -/
theorem AuditState.answer_network {op : AuditOp ρ} (hop : op.transports) {c : AuditChoice}
    {r : Except AuditError (op.Ans κ τ)} (ha : s.answer store i c op = some (r, s')) :
  s.network.answer c op = some (r, s'.network) ∧ s' = { s with network := s'.network }
  := by
  rw [AuditState.answer_of_transports hop] at ha
  obtain ⟨⟨r', n⟩, hn, heq⟩ := Option.map_eq_some_iff.mp ha
  obtain ⟨rfl, rfl⟩ := Prod.mk.inj heq
  exact ⟨hn, rfl⟩

/-- A call of the transport is answered alike by the two machines. -/
theorem answer_transports {op : AuditOp ρ} (hop : op.transports) {c : AuditChoice}
    {r : Except AuditError (op.Ans κ τ)} (hagree : Agree s s₂)
    (ha : s.answer store i c op = some (r, s')) :
  s₂.answer store c op = some (r, { s₂ with network := s'.network })
    ∧ s' = { s with network := s'.network }
  := by
  obtain ⟨hn, hs'⟩ := AuditState.answer_network hop ha
  constructor
  · rw [AtomicState.answer_of_transports hop, hagree.network, hn]
    rfl
  · apply hs'

omit [DecidableEq ι] [DecidableEq τ] in
/-- A call of the transport leaves the database. -/
theorem Agree.transport (hagree : Agree s s₂) (hs' : s' = { s with network := s'.network }) :
  Agree s' { s₂ with network := s'.network } ∧ Advance i s s'
  := by
  rw [hs']
  constructor
  · exact ⟨hagree.fresh, hagree.log, rfl⟩
  · exact ⟨List.prefix_refl _, fun _ _ => rfl, fun _ _ => rfl, fun _ _ => rfl⟩

/-- Both sides make the same call of the transport. -/
theorem Steps.transport {op : AuditOp ρ} (hop : op.transports) {c : AuditChoice}
    {r : Except AuditError (op.Ans κ τ)} (hagree : Agree s s₂)
    (ha : s.answer store i c op = some (r, s')) {x : AuditProgram ρ κ τ Unit}
    {k : Except AuditError (op.Ans κ τ) → AuditProgram ρ κ τ Unit}
    (hstage : Stage store parse i s' x (k r)) :
  Steps store parse i s s' s₂ x (.call op k)
  := by
  obtain ⟨ha₂, hs'⟩ := answer_transports hop hagree ha
  obtain ⟨hagree', hadvance⟩ := hagree.transport hs' (i := i)
  constructor
  · right
    exact ⟨op, k, c, r, _, rfl, ha₂, hagree', hstage⟩
  · apply hadvance

omit [DecidableEq ι] in
/-- An edge that was handed a request. -/
theorem Stage.handed (n message : ℕ) (raw : List UInt8) (hidle : s.db.pending i = []) :
  Stage store parse i s
    (ingest parse store.appendAudit raw >>= fun response =>
      respondWith parse store.appendAudit n message response)
    (ingest parse store.appendAtOnce raw >>= fun response =>
      respondWith parse store.appendAtOnce n message response)
  := by
  rw [ingest, ingest]
  cases parse raw with
  | none => apply Stage.responding n message _ hidle
  | some record =>
      dsimp only
      rw [AuditStore.appendAudit, AuditStore.appendAtOnce]
      split
      · apply Stage.asking n message record hidle
      · apply Stage.responding n message _ hidle

/-- Every call of an edge is matched. -/
theorem Stage.step (hagree : Agree s s₂) {op : AuditOp ρ} {c : AuditChoice}
    {k : Except AuditError (op.Ans κ τ) → AuditProgram ρ κ τ Unit}
    {x y : AuditProgram ρ κ τ Unit} (h : Stage store parse i s x y) (hx : x = .call op k)
    {r : Except AuditError (op.Ans κ τ)} (ha : s.answer store i c op = some (r, s')) :
  Steps store parse i s s' s₂ (k r) y
  := by
  cases h with
  | serving n hidle =>
      cases n with
      | zero => cases hx
      | succ n =>
          cases hx
          apply Steps.transport rfl hagree ha
          obtain ⟨-, hs'⟩ := answer_transports rfl hagree ha
          have hidle' : s'.db.pending i = [] := by
            rw [hs', hidle]
          cases r with
          | error e => apply Stage.ended
          | ok request => apply Stage.handed n request.1 request.2 hidle'
  | responding n message response hidle =>
      cases hx
      apply Steps.transport rfl hagree ha
      obtain ⟨-, hs'⟩ := answer_transports rfl hagree ha
      cases r with
      | error e => apply Stage.ended
      | ok _ =>
          apply Stage.serving n
          rw [hs', hidle]
  | asking n message record hidle =>
      cases hx
      obtain ⟨rfl | rfl, hsettled⟩ := answer_cursor hidle ha
      · apply hsettled.alone hagree
        apply Stage.inserting n message record hsettled.idle
      · apply hsettled.fails hagree
  | inserting n message record hidle =>
      cases hx
      rcases answer_insert hidle ha with ⟨rfl, hsettled⟩ |
        ⟨row, stored, hrow, hstored, rfl, rfl⟩ |
        ⟨row, db', hrow, hnone, hup, haborted, hwrite, rfl, rfl⟩
      · apply hsettled.fails hagree
      · apply (Settled.refl hidle).alone hagree
        apply Stage.selecting n message record row stored hrow hidle hstored
      · obtain ⟨hcommitted, haborted', hpending⟩ := AppendOnce.write_frame hwrite
        constructor
        · left
          constructor
          · constructor
            · apply hagree.fresh.write hnone hwrite
            · rw [hagree.log, hcommitted]
            · apply hagree.network
          · apply Stage.committing (s := { s with db := db' }) n message record row hrow
            · rw [hpending, Function.update_self, hidle]
              rfl
            · apply hup
            · rw [haborted', haborted]
        · apply Advance.write hwrite
  | committing n message record row hrow hpending hup haborted =>
      cases hx
      rcases answer_commit hup haborted ha with ⟨rfl | rfl, hcommitted⟩ | ⟨rfl, hsettled⟩
      · apply hcommitted.steps hagree hrow hpending (.inl rfl)
        apply Stage.responding n message _ hcommitted.idle
      · apply hcommitted.steps hagree hrow hpending (.inr rfl)
        apply Stage.failed n message hcommitted.idle
      · apply hsettled.fails hagree
  | selecting n message record row stored hrow hidle hstored =>
      cases hx
      rcases answer_select hidle hrow hstored ha with ⟨rfl, hsettled⟩ | ⟨rfl, rfl, hloads⟩
      · apply hsettled.fails hagree
      · apply (Settled.refl hidle).alone hagree
        apply Stage.replaying n message record row stored hrow hidle hstored hloads
  | replaying n message record row stored hrow hidle hstored hloads =>
      cases hx
      obtain ⟨rfl | rfl, hsettled⟩ := answer_rollback hidle ha
      · have hstage : Stage store parse i s'
            (answering parse store.appendAudit n message
              ((replied (store.replayMatches stored record)).rescue closing))
            (answering parse store.appendAtOnce n message
              (.ret (if store.replayMatches stored record then .ok .duplicateMatch
                else .error .conflict))) := by
          cases store.replayMatches stored record with
          | true => apply Stage.responding n message _ hsettled.idle
          | false => apply Stage.responding n message _ hsettled.idle
        apply hsettled.replayed hagree hrow hstored hloads rfl hstage
      · apply hsettled.fails hagree
  | failed n message hidle =>
      cases hx
      obtain ⟨-, hsettled⟩ := answer_rollback hidle ha
      apply hsettled.alone hagree
      cases r with
      | error e => apply Stage.responding n message _ hsettled.idle
      | ok _ => apply Stage.responding n message _ hsettled.idle
  | ended r => cases hx

end Stages

/-! ## The system -/

section System

variable {E W : Type} [DecidableEq E] [DecidableEq W]

/-- The program uses nothing but the transport. -/
def Transports (x : AuditProgram ρ κ τ Unit) : Prop :=
  x.Calls fun op => AuditOp.transports op

/-- A service does the same on both sides, and an edge is at some stage. -/
def Related (store : AuditStore ρ κ τ) (parse : List UInt8 → Option ρ) :
    (i : E ⊕ W) → AuditState κ τ (E ⊕ W) → AuditProgram ρ κ τ Unit → AuditProgram ρ κ τ Unit →
      Prop
  | .inl _, _, x, y => y = x ∧ Transports x
  | .inr w, s, x, y => Stage store parse (.inr w) s x y

variable {store : AuditStore ρ κ τ} {parse : List UInt8 → Option ρ}

omit [DecidableEq κ] [DecidableEq τ] in
theorem post_calls (raw : List UInt8) :
  (post raw : AuditProgram ρ κ τ Unit).Calls fun op => AuditOp.posts op
  := by
  apply Program.Calls.bind
  · apply Program.Calls.perform
    rfl
  · intro message
    apply Program.Calls.bind
    · apply Program.Calls.perform
      rfl
    · intro response
      trivial

omit [DecidableEq κ] [DecidableEq τ] in
theorem bounded_calls (raw : List UInt8) :
  (bounded raw : AuditProgram ρ κ τ Unit).Calls fun op => AuditOp.posts op
  := by
  apply Program.Calls.rescue (post_calls raw)
  intro first
  split
  · apply post_calls
  · apply Program.Calls.raise

omit [DecidableEq κ] [DecidableEq τ] in
/-- A service posts and waits, and does nothing else. -/
theorem emit_calls (emission : Emission) :
  (emission.emit : AuditProgram ρ κ τ Unit).Calls fun op => AuditOp.posts op
  := by
  rw [Emission.emit]
  split
  · apply Program.Calls.rescue (bounded_calls emission.raw)
    intro last
    split
    · apply Program.Calls.pure
    · apply Program.Calls.raise
  · apply bounded_calls
  · apply bounded_calls

omit [DecidableEq E] [DecidableEq W] in
theorem Related.frame {i j : E ⊕ W} (hji : j ≠ i) {s s' : AuditState κ τ (E ⊕ W)}
    (hadvance : Advance i s s') {x y : AuditProgram ρ κ τ Unit}
    (h : Related store parse j s x y) :
  Related store parse j s' x y
  := by
  cases j with
  | inl e => apply h
  | inr w => apply Stage.frame hji hadvance h

/-- Every call of a service or an edge is matched. -/
theorem Related.step {i : E ⊕ W} {s s' : AuditState κ τ (E ⊕ W)} {s₂ : AtomicState κ τ}
    (hagree : Agree s s₂) {op : AuditOp ρ} {c : AuditChoice}
    {k : Except AuditError (op.Ans κ τ) → AuditProgram ρ κ τ Unit} {y : AuditProgram ρ κ τ Unit}
    (h : Related store parse i s (.call op k) y) {r : Except AuditError (op.Ans κ τ)}
    (ha : s.answer store i c op = some (r, s')) :
  Matched (M := auditDatabase store (E ⊕ W)) (N := atomicStore store (E ⊕ W)) Agree
      (Related store parse) i s' s₂ (k r) y
    ∧ Advance i s s'
  := by
  cases i with
  | inl e =>
      obtain ⟨rfl, hop, hrest⟩ := h
      obtain ⟨ha₂, hs'⟩ := answer_transports hop hagree ha
      obtain ⟨hagree', hadvance⟩ := hagree.transport hs' (i := .inl e)
      constructor
      · right
        exact ⟨op, k, c, r, _, rfl, ha₂, hagree', rfl, hrest r⟩
      · apply hadvance
  | inr w =>
      obtain ⟨hmatched, hadvance⟩ := Stage.step hagree h rfl ha
      exact ⟨hmatched, hadvance⟩

/-- A run on the database from a configuration that has one to stand for it stands for a run from
there on a store that appends in one step. -/
theorem continued {start cfg : (auditDatabase store (E ⊕ W)).Config Unit}
    {start' : (atomicStore store (E ⊕ W)).Config Unit}
    (h : Machine.Reaches (auditDatabase store (E ⊕ W)).anyCall start cfg)
    (hstart : Stands Agree (Related store parse) start start') :
  ∃ cfg', Machine.Reaches (atomicStore store (E ⊕ W)).anyCall start' cfg'
    ∧ Stands Agree (Related store parse) cfg cfg'
  := by
  apply h.simulated hstart
  · intro i op k y c r s s' s₂ hagree hrelated ha
    obtain ⟨hmatched, hadvance⟩ := Related.step hagree hrelated ha
    constructor
    · apply hmatched
    · intro j hji x z hother
      apply hother.frame hji hadvance
  · intro i s s₂ hagree
    have hsettled : Settled i s { s with db := s.db.rollback i } := .rollback
    constructor
    · apply hsettled.agree hagree
    · intro j hji x z hother
      apply hother.frame hji hsettled.advance

/-- Every run on the database stands for one on a store that appends in one step. -/
theorem simulated (emissions : E → Emission) (rounds : W → ℕ) (log : List (StoredRow κ τ))
    {cfg : (auditDatabase store (E ⊕ W)).Config Unit}
    (h : Machine.Reaches (auditDatabase store (E ⊕ W)).anyCall
      (system store parse emissions rounds log) cfg) :
  ∃ cfg', Machine.Reaches (atomicStore store (E ⊕ W)).anyCall
      (atomicSystem store parse emissions rounds log) cfg'
    ∧ Stands Agree (Related store parse) cfg cfg'
  := by
  apply continued h
  constructor
  · exact ⟨.quiet log, rfl, rfl⟩
  · intro i x hx
    cases i with
    | inl e =>
        obtain rfl := Option.some.inj hx
        exact ⟨_, rfl, rfl, (emit_calls (emissions e)).mono fun _ => AuditOp.transports_of_posts⟩
    | inr w =>
        obtain rfl := Option.some.inj hx
        use serve parse store.appendAtOnce (rounds w), rfl
        apply Stage.serving (rounds w) rfl

end System

/-- Every run of any services and edges on the table has the rows, the requests, the responses
and the services of a run in which every append is one step. -/
def AppendsAtOnce (store : AuditStore ρ κ τ) (parse : List UInt8 → Option ρ) : Prop :=
  ∀ (E W : Type) [DecidableEq E] [DecidableEq W] (emissions : E → Emission) (rounds : W → ℕ)
    (log : List (StoredRow κ τ)) (cfg : (auditDatabase store (E ⊕ W)).Config Unit),
    Machine.Reaches (auditDatabase store (E ⊕ W)).anyCall
      (system store parse emissions rounds log) cfg →
    ∃ cfg', Machine.Reaches (atomicStore store (E ⊕ W)).anyCall
        (atomicSystem store parse emissions rounds log) cfg'
      ∧ cfg'.state.log = cfg.state.db.committed ∧ cfg'.state.network = cfg.state.network
      ∧ ∀ e x, cfg.threads (.inl e) = some x → cfg'.threads (.inl e) = some x

theorem appendsAtOnce (store : AuditStore ρ κ τ) (parse : List UInt8 → Option ρ) :
  AppendsAtOnce store parse
  := by
  intro E W _ _ emissions rounds log cfg h
  obtain ⟨cfg', h', hstands⟩ := simulated emissions rounds log h
  use cfg', h', hstands.state.log, hstands.state.network
  intro e x hx
  obtain ⟨y, hy, rfl, -⟩ := hstands.threads (.inl e) x hx
  apply hy

/-- The three audit stores append in one step, whatever the services, the edges, the transport
and the connections do. -/
theorem stores_append_at_once {υ : Type} [DecidableEq υ] (driver : Driver υ τ)
    (loads : List UInt8 → Option Wire) :
  AppendsAtOnce (routingAuditStore driver) (RoutingAudit.parseRecord loads)
    ∧ AppendsAtOnce (gatewayAuditStore driver) (GatewayAudit.parseRecord loads)
    ∧ AppendsAtOnce (importAuditStore driver) (ImportAudit.parseRecord loads)
  := by
  constructor
  · apply appendsAtOnce
  constructor
  · apply appendsAtOnce
  · apply appendsAtOnce

/-- The run of a service and two edges, on a store that appends in one step. -/
theorem stores_append_at_once_sample :
  ∃ cfg, Machine.Reaches (atomicStore (importAuditStore sampleDriver) (Unit ⊕ Bool)).anyCall
      (atomicSystem (importAuditStore sampleDriver) sampleParse
        (fun _ : Unit => ⟨.imports, [1]⟩) (fun _ : Bool => 1) []) cfg
    ∧ cfg.state.log.length = 1 ∧ cfg.state.network = sampleNetwork
  := by
  obtain ⟨before, cfg, hbefore, hreach, -, hcfg⟩ := sample_reached
  obtain ⟨cfg', hreach', hlog, hnetwork, -⟩ :=
    (stores_append_at_once sampleDriver sampleLoads).2.2 Unit Bool (fun _ => ⟨.imports, [1]⟩)
      (fun _ => 1) [] cfg (hbefore.trans hreach)
  use cfg', hreach'
  rw [hlog, hnetwork]
  exact ⟨congrArg (fun t => t.1) hcfg, congrArg (fun t => t.2.1) hcfg⟩

end ControlPlane.AuditStores
