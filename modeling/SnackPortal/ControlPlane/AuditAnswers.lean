import SnackPortal.ControlPlane.AuditRefinement

/-!
# Edges whose database works

Why an edge answers that it is unavailable.  Either a call on its database failed, or the table
does not take the event: the database makes no row of the record, or the driver cannot load the
time of the row that is there.  In a run in which no call on the database fails, and no connection
is lost, only the second is left.
-/

namespace ControlPlane.AuditStores

open AppendOnce (held)

variable {ρ κ τ : Type} [DecidableEq κ] [DecidableEq τ]

/-- No call on the database fails, and no connection is lost. -/
def databaseWorks (store : AuditStore ρ κ τ) (ι : Type) [DecidableEq ι] :
    (auditDatabase store ι).Guard :=
  fun _ _ op c => op.transports = true ∨ c.fate = .works

instance (store : AuditStore ρ κ τ) (ι : Type) [DecidableEq ι]
    (s : (auditDatabase store ι).State) (i : ι) (op : AuditOp ρ) (c : AuditChoice) :
    Decidable (databaseWorks store ι s i op c) :=
  inferInstanceAs (Decidable (_ ∨ _))

/-- The append of the event fails by itself, where these are the rows. -/
def Refused (store : AuditStore ρ κ τ) (parse : List UInt8 → Option ρ)
    (log : List (StoredRow κ τ)) (raw : List UInt8) : Prop :=
  ∃ record, parse raw = some record ∧ (store.append record log).1 = .error .failure

section Refusals

variable {store : AuditStore ρ κ τ} {parse : List UInt8 → Option ρ}
  {log log' : List (StoredRow κ τ)} {raw : List UInt8} {record : ρ}

theorem append_failure :
  (store.append record log).1 = .error .failure ↔
    ∀ row, store.rowOf record = some row →
      ∃ stored, held StoredRow.id row.id log = some stored ∧ store.loads stored.occurredAt = false
  := by
  rw [AuditStore.append]
  cases hrow : store.rowOf record with
  | none => simp
  | some row =>
      dsimp only
      cases hheld : held StoredRow.id row.id log with
      | none => simp [hheld]
      | some stored =>
          dsimp only
          cases hloads : store.loads stored.occurredAt with
          | false => simp [hheld, hloads]
          | true =>
              have hanswer : (if store.replayMatches stored record then
                  (Except.ok AppendResult.duplicateMatch, log)
                  else (Except.error AuditError.conflict, log)).1 ≠ .error .failure := by
                split <;> simp
              simp [hheld, hloads, hanswer]

theorem Refused.mono (h : Refused store parse log raw) (hlonger : log <+: log') :
  Refused store parse log' raw
  := by
  obtain ⟨record, hparse, hfailure⟩ := h
  use record, hparse
  apply append_failure.mpr
  intro row hrow
  obtain ⟨stored, hheld, hloads⟩ := append_failure.mp hfailure row hrow
  exact ⟨stored, AppendOnce.held_of_prefix hheld hlonger, hloads⟩

end Refusals

variable {ι : Type} [DecidableEq ι]

/-! ## Calls that work -/

section Calls

variable {store : AuditStore ρ κ τ} {i : ι} {c : AuditChoice} {s s' : AuditState κ τ ι}

/-- The session may open a transaction: its connection is not lost, and nothing is under way. -/
structure Ready (i : ι) (s : AuditState κ τ ι) : Prop where
  idle : s.db.pending i = []
  aborted : s.db.aborted i = false
  connection : s.connections i ≠ .lost

/-- What the call of a session leaves of the others, with the requests that were sent. -/
structure Leaves (i : ι) (s s' : AuditState κ τ ι) : Prop where
  advance : Advance i s s'
  sent : s.network.sent ⊆ s'.network.sent

omit [DecidableEq τ] in
theorem fate_works {op : AuditOp ρ} (h : databaseWorks store ι s i op c)
    (hop : op.transports = false) :
  c.fate = .works
  := h.resolve_left (Bool.eq_false_iff.mp hop)

omit [DecidableEq κ] [DecidableEq τ] in
theorem statement_works {α : Type} {run : Option (Except AuditError α × AuditState κ τ ι)}
    {fate : Fate} (hfate : fate = .works) (hup : s.connections i = .up)
    (haborted : s.db.aborted i = false) :
  s.statement i fate run = run
  := by
  subst hfate
  unfold AuditState.statement
  rw [if_pos hup]
  dsimp only
  rw [if_neg (by rw [haborted]; decide)]

omit [DecidableEq τ] in
theorem cursor_works (hfate : c.fate = .works) (hready : Ready i s)
    {r : Except AuditError Unit} (h : s.answer store i c .cursor = some (r, s')) :
  r = .ok () ∧ s' = { s with connections := Function.update s.connections i .up }
  := by
  rw [AuditState.answer] at h
  split at h
  · rw [if_pos hfate] at h
    obtain ⟨rfl, rfl⟩ := Prod.mk.inj (Option.some.inj h)
    exact ⟨rfl, rfl⟩
  · rename_i hup
    obtain ⟨rfl, rfl⟩ := Prod.mk.inj (Option.some.inj h)
    use rfl
    rw [← hup, Function.update_eq_self]
  · rename_i hlost
    exact absurd hlost hready.connection

omit [DecidableEq τ] in
theorem rollback_works (hfate : c.fate = .works) (hup : s.connections i = .up)
    {r : Except AuditError Unit} (h : s.answer store i c .rollback = some (r, s')) :
  r = .ok () ∧ s' = { s with db := s.db.rollback i }
  := by
  rw [AuditState.answer, hup] at h
  dsimp only at h
  rw [if_pos hfate] at h
  obtain ⟨rfl, rfl⟩ := Prod.mk.inj (Option.some.inj h)
  exact ⟨rfl, rfl⟩

end Calls

/-! ## What an edge does -/

/-- Where an edge is, with the request that it handles. -/
inductive Handling (store : AuditStore ρ κ τ) (parse : List UInt8 → Option ρ) (i : ι)
    (s : AuditState κ τ ι) : AuditProgram ρ κ τ Unit → Prop where
  | serving (n : ℕ) (hready : Ready i s) :
      Handling store parse i s (serve parse store.appendAudit n)
  | responding (n message : ℕ) (raw : List UInt8) (response : Response) (hready : Ready i s)
      (hsent : (message, raw) ∈ s.network.sent)
      (hrefused : response = ⟨503, "UNAVAILABLE"⟩ → Refused store parse s.db.committed raw) :
      Handling store parse i s (respondWith parse store.appendAudit n message response)
  | asking (n message : ℕ) (raw : List UInt8) (record : ρ) (hready : Ready i s)
      (hsent : (message, raw) ∈ s.network.sent) (hparse : parse raw = some record) :
      Handling store parse i s
        (answering parse store.appendAudit n message ((store.transact record).rescue closing))
  | inserting (n message : ℕ) (raw : List UInt8) (record : ρ) (hready : Ready i s)
      (hup : s.connections i = .up) (hsent : (message, raw) ∈ s.network.sent)
      (hparse : parse raw = some record) :
      Handling store parse i s
        (answering parse store.appendAudit n message ((store.inserting record).rescue closing))
  | committing (n message : ℕ) (raw : List UInt8) (record : ρ) (hup : s.connections i = .up)
      (haborted : s.db.aborted i = false) (hsent : (message, raw) ∈ s.network.sent) :
      Handling store parse i s
        (answering parse store.appendAudit n message
          ((store.inserted record true).rescue closing))
  | selecting (n message : ℕ) (raw : List UInt8) (record : ρ) (row stored : StoredRow κ τ)
      (hready : Ready i s) (hup : s.connections i = .up) (hsent : (message, raw) ∈ s.network.sent)
      (hparse : parse raw = some record) (hrow : store.rowOf record = some row)
      (hstored : held StoredRow.id row.id s.db.committed = some stored) :
      Handling store parse i s
        (answering parse store.appendAudit n message
          ((store.inserted record false).rescue closing))
  | replaying (n message : ℕ) (raw : List UInt8) (record : ρ) (stored : StoredRow κ τ)
      (hup : s.connections i = .up) (hsent : (message, raw) ∈ s.network.sent) :
      Handling store parse i s
        (answering parse store.appendAudit n message
          ((store.replaying record (some stored)).rescue closing))
  | failed (n message : ℕ) (raw : List UInt8) (hup : s.connections i = .up)
      (hsent : (message, raw) ∈ s.network.sent)
      (hrefused : Refused store parse s.db.committed raw) :
      Handling store parse i s (answering parse store.appendAudit n message (closing .failure))
  | ended (r : Except AuditError Unit) :
      Handling store parse i s (.ret r)

/-- Every response that the edge is unavailable is to an event that the table refuses. -/
def Justified (store : AuditStore ρ κ τ) (parse : List UInt8 → Option ρ)
    (s : AuditState κ τ ι) : Prop :=
  ∀ message, (message, ⟨503, "UNAVAILABLE"⟩) ∈ s.network.responses →
    ∃ raw, (message, raw) ∈ s.network.sent ∧ Refused store parse s.db.committed raw

section Edges

variable {store : AuditStore ρ κ τ} {parse : List UInt8 → Option ρ} {i : ι}
  {s s' : AuditState κ τ ι}

omit [DecidableEq ι] [DecidableEq κ] [DecidableEq τ] in
theorem Ready.frame {j : ι} (hji : j ≠ i) (hleaves : Leaves i s s') (h : Ready j s) :
  Ready j s'
  := by
  constructor
  · rw [hleaves.advance.pending j hji, h.idle]
  · rw [hleaves.advance.aborted j hji, h.aborted]
  · rw [hleaves.advance.connections j hji]
    apply h.connection

omit [DecidableEq ι] [DecidableEq κ] [DecidableEq τ] in
theorem Ready.up (hidle : s.db.pending i = []) (haborted : s.db.aborted i = false)
    (hup : s.connections i = .up) :
  Ready i s
  := by
  use hidle, haborted
  rw [hup]
  decide

omit [DecidableEq κ] [DecidableEq τ] in
/-- A session whose transaction was ended. -/
theorem Ready.rollback (hup : s.connections i = .up) :
  Ready i { s with db := s.db.rollback i }
  := .up (Function.update_self ..) (Function.update_self ..) hup

omit [DecidableEq ι] in
/-- An edge stays where it is while another one calls. -/
theorem Handling.frame {j : ι} {x : AuditProgram ρ κ τ Unit} (hji : j ≠ i)
    (hleaves : Leaves i s s') (h : Handling store parse j s x) :
  Handling store parse j s' x
  := by
  have hconnection := hleaves.advance.connections j hji
  have hlonger := hleaves.advance.committed
  cases h with
  | serving n hready => exact .serving n (hready.frame hji hleaves)
  | responding n message raw response hready hsent hrefused =>
      apply Handling.responding n message raw response (hready.frame hji hleaves)
        (hleaves.sent hsent)
      exact fun hresponse => (hrefused hresponse).mono hlonger
  | asking n message raw record hready hsent hparse =>
      apply Handling.asking n message raw record (hready.frame hji hleaves) (hleaves.sent hsent)
        hparse
  | inserting n message raw record hready hup hsent hparse =>
      apply Handling.inserting n message raw record (hready.frame hji hleaves)
        (hconnection.trans hup) (hleaves.sent hsent) hparse
  | committing n message raw record hup haborted hsent =>
      apply Handling.committing n message raw record (hconnection.trans hup) _ (hleaves.sent hsent)
      rw [hleaves.advance.aborted j hji, haborted]
  | selecting n message raw record row stored hready hup hsent hparse hrow hstored =>
      apply Handling.selecting n message raw record row stored (hready.frame hji hleaves)
        (hconnection.trans hup) (hleaves.sent hsent) hparse hrow
      apply AppendOnce.held_of_prefix hstored hlonger
  | replaying n message raw record stored hup hsent =>
      apply Handling.replaying n message raw record stored (hconnection.trans hup)
        (hleaves.sent hsent)
  | failed n message raw hup hsent hrefused =>
      apply Handling.failed n message raw (hconnection.trans hup) (hleaves.sent hsent)
        (hrefused.mono hlonger)
  | ended r => apply Handling.ended r

omit [DecidableEq ι] in
theorem Justified.mono (h : Justified store parse s) (hleaves : Leaves i s s')
    (hresponses : s'.network.responses = s.network.responses) :
  Justified store parse s'
  := by
  intro message hresponse
  rw [hresponses] at hresponse
  obtain ⟨raw, hsent, hrefused⟩ := h message hresponse
  exact ⟨raw, hleaves.sent hsent, hrefused.mono hleaves.advance.committed⟩

omit [DecidableEq ι] [DecidableEq κ] [DecidableEq τ] in
/-- A call of the database leaves the requests. -/
theorem Advance.leaves (h : Advance i s s') (hnetwork : s'.network = s.network) :
  Leaves i s s'
  := ⟨h, by rw [hnetwork]; apply List.Subset.refl⟩

end Edges

/-! ### The steps -/

section Steps

variable {store : AuditStore ρ κ τ} {parse : List UInt8 → Option ρ} {i : ι} {c : AuditChoice}
  {s s' : AuditState κ τ ι}

omit [DecidableEq ι] [DecidableEq κ] [DecidableEq τ] in
/-- A call of the transport leaves the database and the connections. -/
theorem Leaves.transport (hs' : s' = { s with network := s'.network })
    (hsent : s.network.sent ⊆ s'.network.sent) :
  Leaves i s s'
  := by
  constructor
  · rw [hs']
    exact ⟨List.prefix_refl _, fun _ _ => rfl, fun _ _ => rfl, fun _ _ => rfl⟩
  · apply hsent

omit [DecidableEq ι] [DecidableEq κ] [DecidableEq τ] in
theorem Ready.transport (h : Ready i s) (hs' : s' = { s with network := s'.network }) :
  Ready i s'
  := by
  rw [hs']
  exact ⟨h.idle, h.aborted, h.connection⟩

omit [DecidableEq ι] in
/-- An edge that was handed a request. -/
theorem Handling.handed (n message : ℕ) (raw : List UInt8) (hready : Ready i s)
    (hsent : (message, raw) ∈ s.network.sent) :
  Handling store parse i s (ingest parse store.appendAudit raw >>= fun response =>
    respondWith parse store.appendAudit n message response)
  := by
  rw [ingest]
  cases hparse : parse raw with
  | none =>
      apply Handling.responding n message raw _ hready hsent
      exact fun hresponse => absurd hresponse (by decide)
  | some record =>
      dsimp only
      rw [AuditStore.appendAudit]
      split
      · apply Handling.asking n message raw record hready hsent hparse
      · apply Handling.responding n message raw _ hready hsent
        exact fun hresponse => absurd hresponse (by decide)

/-- What a call of an edge comes to: the responses stay justified, the edge is at its next stage,
and the others stay where they are. -/
structure Proceeds (store : AuditStore ρ κ τ) (parse : List UInt8 → Option ρ) (i : ι)
    (s s' : AuditState κ τ ι) (x : AuditProgram ρ κ τ Unit) : Prop where
  justified : Justified store parse s'
  handling : Handling store parse i s' x
  leaves : Leaves i s s'

omit [DecidableEq ι] in
/-- A call on the database adds no response. -/
theorem Handling.proceeds {x : AuditProgram ρ κ τ Unit} (h : Handling store parse i s' x)
    (hjustified : Justified store parse s) (hadvance : Advance i s s')
    (hnetwork : s'.network = s.network) :
  Proceeds store parse i s s' x
  := by
  have hleaves := hadvance.leaves hnetwork
  constructor
  · apply hjustified.mono hleaves
    rw [hnetwork]
  · apply h
  · apply hleaves

/-- An edge is handed a request. -/
theorem Handling.received {n : ℕ} (hready : Ready i s) (hjustified : Justified store parse s)
    {r : Except AuditError (ℕ × List UInt8)} (ha : s.answer store i c .receive = some (r, s')) :
  ∃ message raw, r = .ok (message, raw)
    ∧ Proceeds store parse i s s' (ingest parse store.appendAudit raw >>= fun response =>
      respondWith parse store.appendAudit n message response)
  := by
  obtain ⟨hn, hs'⟩ := AuditState.answer_network rfl ha
  obtain ⟨hsent, hresponses, ⟨message, raw⟩, hrequest, rfl⟩ := answer_receive hn
  have hleaves : Leaves i s s' := .transport hs' (by rw [hsent]; apply List.Subset.refl)
  use message, raw, rfl
  constructor
  · apply hjustified.mono hleaves hresponses
  · apply Handling.handed n message raw (hready.transport hs') (hleaves.sent hrequest)
  · apply hleaves

/-- An edge sends its response. -/
theorem Handling.responded {n message : ℕ} {raw : List UInt8} {response : Response}
    (hready : Ready i s) (hsent : (message, raw) ∈ s.network.sent)
    (hrefused : response = ⟨503, "UNAVAILABLE"⟩ → Refused store parse s.db.committed raw)
    (hjustified : Justified store parse s) {r : Except AuditError Unit}
    (ha : s.answer store i c (.respond message response) = some (r, s')) :
  r = .ok () ∧ Proceeds store parse i s s' (serve parse store.appendAudit n)
  := by
  obtain ⟨hn, hs'⟩ := AuditState.answer_network rfl ha
  obtain ⟨rfl, hnetwork⟩ := Prod.mk.inj (Option.some.inj hn)
  have hleaves : Leaves i s s' := .transport hs' (by rw [← hnetwork]; apply List.Subset.refl)
  use rfl
  constructor
  · intro message' hresponse
    rw [← hnetwork] at hresponse
    rcases List.mem_cons.mp hresponse with heq | hresponse
    · obtain ⟨rfl, hunavailable⟩ := Prod.mk.inj heq
      use raw, hleaves.sent hsent
      apply (hrefused hunavailable.symm).mono hleaves.advance.committed
    · obtain ⟨raw', hsent', hrefused'⟩ := hjustified message' hresponse
      exact ⟨raw', hleaves.sent hsent', hrefused'.mono hleaves.advance.committed⟩
  · exact .serving n (hready.transport hs')
  · apply hleaves

/-- The database takes no row of the record, or the insert finds a row, or it puts its own. -/
theorem Handling.inserted {n message : ℕ} {raw : List UInt8} {record : ρ}
    (hfate : c.fate = .works) (hready : Ready i s) (hup : s.connections i = .up)
    (hsent : (message, raw) ∈ s.network.sent) (hparse : parse raw = some record)
    (hjustified : Justified store parse s) {r : Except AuditError Bool}
    (ha : s.answer store i c (.insert record) = some (r, s')) :
  r = .error .failure
      ∧ Proceeds store parse i s s'
        (answering parse store.appendAudit n message (closing .failure))
    ∨ ∃ inserted, r = .ok inserted
      ∧ Proceeds store parse i s s' (answering parse store.appendAudit n message
        ((store.inserted record inserted).rescue closing))
  := by
  rw [AuditState.answer, statement_works hfate hup hready.aborted] at ha
  rcases insert_cases hready.idle ha with ⟨hrow, rfl, rfl⟩ |
    ⟨row, stored, hrow, hstored, rfl, rfl⟩ | ⟨row, db', hrow, hnone, hwrite, rfl, rfl⟩
  · have hrefused : Refused store parse s.db.committed raw := by
      use record, hparse
      apply append_failure.mpr
      intro row hsome
      rw [hrow] at hsome
      cases hsome
    have hfailed : Handling store parse i (s.abort i)
        (answering parse store.appendAudit n message (closing .failure)) :=
      .failed n message raw hup hsent hrefused
    exact .inl ⟨rfl, hfailed.proceeds hjustified Settled.abort.advance rfl⟩
  · right
    use false, rfl
    have hselecting : Handling store parse i s' (answering parse store.appendAudit n message
        ((store.inserted record false).rescue closing)) :=
      .selecting n message raw record row stored hready hup hsent hparse hrow hstored
    apply hselecting.proceeds hjustified (Settled.refl hready.idle).advance rfl
  · right
    use true, rfl
    obtain ⟨-, haborted, -⟩ := AppendOnce.write_frame hwrite
    have hcommitting : Handling store parse i { s with db := db' }
        (answering parse store.appendAudit n message
          ((store.inserted record true).rescue closing)) :=
      .committing n message raw record hup (haborted ▸ hready.aborted) hsent
    apply hcommitting.proceeds hjustified (Advance.write hwrite) rfl

/-- The driver loads the row that the select finds, or it does not. -/
theorem Handling.selected {n message : ℕ} {raw : List UInt8} {record : ρ}
    {row stored : StoredRow κ τ} (hfate : c.fate = .works) (hready : Ready i s)
    (hup : s.connections i = .up) (hsent : (message, raw) ∈ s.network.sent)
    (hparse : parse raw = some record) (hrow : store.rowOf record = some row)
    (hstored : held StoredRow.id row.id s.db.committed = some stored)
    (hjustified : Justified store parse s) {r : Except AuditError (Option (StoredRow κ τ))}
    (ha : s.answer store i c (.select (store.id record)) = some (r, s')) :
  r = .error .failure
      ∧ Proceeds store parse i s s'
        (answering parse store.appendAudit n message (closing .failure))
    ∨ r = .ok (some stored)
      ∧ Proceeds store parse i s s' (answering parse store.appendAudit n message
        ((store.replaying record (some stored)).rescue closing))
  := by
  rw [AuditState.answer, statement_works hfate hup hready.aborted] at ha
  have hadvance := (Settled.refl hready.idle).advance
  rcases select_cases hready.idle hrow hstored ha with ⟨rfl, rfl, hloads⟩ | ⟨rfl, rfl, -⟩
  · have hrefused : Refused store parse s'.db.committed raw := by
      use record, hparse
      apply append_failure.mpr
      intro row' hrow'
      obtain rfl := Option.some.inj (hrow.symm.trans hrow')
      exact ⟨stored, hstored, hloads⟩
    have hfailed : Handling store parse i s'
        (answering parse store.appendAudit n message (closing .failure)) :=
      .failed n message raw hup hsent hrefused
    exact .inl ⟨rfl, hfailed.proceeds hjustified hadvance rfl⟩
  · have hreplaying : Handling store parse i s' (answering parse store.appendAudit n message
        ((store.replaying record (some stored)).rescue closing)) :=
      .replaying n message raw record stored hup hsent
    exact .inr ⟨rfl, hreplaying.proceeds hjustified hadvance rfl⟩

/-- An edge that ended its transaction responds. -/
theorem Handling.rolledBack {n message : ℕ} {raw : List UInt8} {response : Response}
    (hup : s.connections i = .up) (hsent : (message, raw) ∈ s.network.sent)
    (hrefused : response = ⟨503, "UNAVAILABLE"⟩ → Refused store parse s.db.committed raw)
    (hjustified : Justified store parse s) :
  Proceeds store parse i s { s with db := s.db.rollback i }
    (respondWith parse store.appendAudit n message response)
  := by
  have hresponding : Handling store parse i { s with db := s.db.rollback i }
      (respondWith parse store.appendAudit n message response) :=
    .responding n message raw response (.rollback hup) hsent hrefused
  apply hresponding.proceeds hjustified Settled.rollback.advance rfl

/-- A call of an edge whose database works. -/
theorem Handling.step {op : AuditOp ρ} (hworks : databaseWorks store ι s i op c)
    (hjustified : Justified store parse s)
    {k : Except AuditError (op.Ans κ τ) → AuditProgram ρ κ τ Unit}
    {x : AuditProgram ρ κ τ Unit} (h : Handling store parse i s x) (hx : x = .call op k)
    {r : Except AuditError (op.Ans κ τ)} (ha : s.answer store i c op = some (r, s')) :
  Proceeds store parse i s s' (k r)
  := by
  cases h with
  | serving n hready =>
      cases n with
      | zero => cases hx
      | succ n =>
          cases hx
          obtain ⟨message, raw, rfl, hproceeds⟩ := Handling.received (n := n) hready hjustified ha
          apply hproceeds
  | responding n message raw response hready hsent hrefused =>
      cases hx
      obtain ⟨rfl, hproceeds⟩ :=
        Handling.responded (n := n) hready hsent hrefused hjustified ha
      apply hproceeds
  | asking n message raw record hready hsent hparse =>
      cases hx
      obtain ⟨rfl, rfl⟩ := cursor_works (fate_works hworks rfl) hready ha
      have hup : Function.update s.connections i Connection.up i = .up := Function.update_self ..
      have hready' : Ready i { s with connections := Function.update s.connections i .up } :=
        .up hready.idle hready.aborted hup
      have hinserting : Handling store parse i
          { s with connections := Function.update s.connections i .up }
          (answering parse store.appendAudit n message
            ((store.inserting record).rescue closing)) :=
        .inserting n message raw record hready' hup hsent hparse
      apply hinserting.proceeds hjustified (Settled.connect hready.idle .up).advance rfl
  | inserting n message raw record hready hup hsent hparse =>
      cases hx
      rcases Handling.inserted (n := n) (fate_works hworks rfl) hready hup hsent
        hparse hjustified ha with ⟨rfl, hproceeds⟩ | ⟨inserted, rfl, hproceeds⟩
      · apply hproceeds
      · apply hproceeds
  | committing n message raw record hup haborted hsent =>
      cases hx
      rw [AuditState.answer, if_pos hup, fate_works hworks rfl] at ha
      dsimp only at ha
      rw [if_neg (by rw [haborted]; decide)] at ha
      obtain ⟨rfl, rfl⟩ := Prod.mk.inj (Option.some.inj ha)
      have hcommitted : Committed i s
          { s with db := s.db.commit (AppendOnce.schema StoredRow.id) i } :=
        .of_commit (.inl rfl) (fun _ _ => rfl) rfl
      have hready : Ready i { s with db := s.db.commit (AppendOnce.schema StoredRow.id) i } :=
        .up hcommitted.idle (Function.update_self ..) hup
      have hresponding : Handling store parse i
          { s with db := s.db.commit (AppendOnce.schema StoredRow.id) i }
          (respondWith parse store.appendAudit n message (responseTo (.ok .inserted))) :=
        .responding n message raw _ hready hsent fun hresponse => absurd hresponse (by decide)
      apply hresponding.proceeds hjustified hcommitted.advance rfl
  | selecting n message raw record row stored hready hup hsent hparse hrow hstored =>
      cases hx
      rcases Handling.selected (n := n) (fate_works hworks rfl) hready hup hsent
        hparse hrow hstored hjustified ha with ⟨rfl, hproceeds⟩ | ⟨rfl, hproceeds⟩
      · apply hproceeds
      · apply hproceeds
  | replaying n message raw record stored hup hsent =>
      cases hx
      obtain ⟨rfl, rfl⟩ := rollback_works (fate_works hworks rfl) hup ha
      change Proceeds store parse i s _ (answering parse store.appendAudit n message
        ((replied (store.replayMatches stored record)).rescue closing))
      cases store.replayMatches stored record with
      | true =>
          apply Handling.rolledBack hup hsent _ hjustified
          exact fun hresponse => absurd hresponse (by decide)
      | false =>
          apply Handling.rolledBack hup hsent _ hjustified
          exact fun hresponse => absurd hresponse (by decide)
  | failed n message raw hup hsent hrefused =>
      cases hx
      obtain ⟨rfl, rfl⟩ := rollback_works (fate_works hworks rfl) hup ha
      apply Handling.rolledBack hup hsent (fun _ => hrefused) hjustified
  | ended r => cases hx

end Steps

/-! ## In every run -/

section System

variable {E W : Type} [DecidableEq E] [DecidableEq W] {store : AuditStore ρ κ τ}
  {parse : List UInt8 → Option ρ}

/-- A service only posts and waits, and an edge handles its requests. -/
def Busy (store : AuditStore ρ κ τ) (parse : List UInt8 → Option ρ) :
    (i : E ⊕ W) → AuditState κ τ (E ⊕ W) → AuditProgram ρ κ τ Unit → Prop
  | .inl _, _, x => x.Calls fun op => AuditOp.posts op
  | .inr w, s, x => Handling store parse (.inr w) s x

omit [DecidableEq E] [DecidableEq W] in
theorem Busy.frame {i j : E ⊕ W} (hji : j ≠ i) {s s' : AuditState κ τ (E ⊕ W)}
    (hleaves : Leaves i s s') {x : AuditProgram ρ κ τ Unit} (h : Busy store parse j s x) :
  Busy store parse j s' x
  := by
  cases j with
  | inl e => apply h
  | inr w => apply Handling.frame hji hleaves h

omit [DecidableEq τ] in
/-- The call of a service. -/
theorem posts_leaves {i : E ⊕ W} {c : AuditChoice} {s s' : AuditState κ τ (E ⊕ W)}
    {op : AuditOp ρ} (hop : op.posts) {r : Except AuditError (op.Ans κ τ)}
    (ha : s.answer store i c op = some (r, s')) :
  Leaves i s s' ∧ s'.network.responses = s.network.responses
  := by
  obtain ⟨hn, hs'⟩ := AuditState.answer_network (AuditOp.transports_of_posts hop) ha
  cases op with
  | post raw =>
      rcases answer_post hn with ⟨-, hn⟩ | ⟨-, hn⟩
      · refine ⟨.transport hs' ?_, ?_⟩
        · rw [hn]
          apply List.subset_cons_self
        · rw [hn]
      · refine ⟨.transport hs' ?_, ?_⟩
        · rw [hn]
          apply List.Subset.refl
        · rw [hn]
  | await message =>
      obtain ⟨hn, -⟩ := answer_await hn
      refine ⟨.transport hs' ?_, ?_⟩
      · rw [hn]
        apply List.Subset.refl
      · rw [hn]
  | receive | respond _ _ | cursor | insert _ | select _ | commit | rollback | append _ =>
      cases hop

/-- In every run whose calls on the database work, an edge answers that it is unavailable only to
an event that the table refuses. -/
theorem justified {emissions : E → Emission} {rounds : W → ℕ} {log : List (StoredRow κ τ)}
    {cfg : (auditDatabase store (E ⊕ W)).Config Unit}
    (h : Machine.Reaches (databaseWorks store (E ⊕ W))
      (system store parse emissions rounds log) cfg) :
  Justified store parse cfg.state
  := by
  have hthreadwise : Machine.Threadwise (M := auditDatabase store (E ⊕ W))
      (Justified store parse) (Busy store parse) cfg := by
    apply h.threadwise
    · constructor
      · intro message hresponse
        cases hresponse
      · intro i x hx
        cases i with
        | inl e =>
            obtain rfl := Option.some.inj hx
            apply emit_calls
        | inr w =>
            obtain rfl := Option.some.inj hx
            apply Handling.serving
            exact ⟨rfl, rfl, Connection.noConfusion⟩
    · intro i op k c r s s' hjustified hbusy hworks ha
      cases i with
      | inl e =>
          obtain ⟨hop, hrest⟩ := hbusy
          obtain ⟨hleaves, hresponses⟩ := posts_leaves hop ha
          exact ⟨hjustified.mono hleaves hresponses, hrest r,
            fun j hji x hx => hx.frame hji hleaves⟩
      | inr w =>
          obtain ⟨hjustified', hself, hleaves⟩ := Handling.step hworks hjustified hbusy rfl ha
          exact ⟨hjustified', hself, fun j hji x hx => hx.frame hji hleaves⟩
    · intro i s hjustified
      have hleaves : Leaves i s { s with db := s.db.rollback i } :=
        (Settled.rollback (s := s) (i := i)).advance.leaves rfl
      exact ⟨hjustified.mono hleaves rfl, fun j hji x hx => hx.frame hji hleaves⟩
  apply hthreadwise.state

end System

/-! ## A run -/

/-- The first edge stores the event. -/
def sampleFirst : List (Move (Unit ⊕ Bool) AuditChoice) :=
  let edge : Move (Unit ⊕ Bool) AuditChoice := .call (.inr false) ⟨.works, 0⟩
  [.call (.inl ()) ⟨.works, 0⟩, edge, edge, edge, edge]

/-- The service gives up before it has the response and posts again, and the second edge
recognises the event. -/
def sampleSecond : List (Move (Unit ⊕ Bool) AuditChoice) :=
  let edge : Move (Unit ⊕ Bool) AuditChoice := .call (.inr true) ⟨.works, 1⟩
  [.call (.inl ()) ⟨.fails, 0⟩, .call (.inr false) ⟨.works, 0⟩, .call (.inl ()) ⟨.works, 0⟩,
    edge, edge, edge, edge, edge, edge]

/-- What the transport did at the end of the run. -/
def sampleWorked : Network where
  sent := [(1, [1]), (0, [1])]
  received := [1, 0]
  responses := [(1, ⟨200, "DUPLICATE_MATCH"⟩), (0, ⟨200, "INSERTED"⟩)]

theorem sample_worked :
  ∃ before cfg,
    Machine.Reaches (databaseWorks (importAuditStore sampleDriver) (Unit ⊕ Bool))
      sampleSystem before
    ∧ Machine.Reaches (databaseWorks (importAuditStore sampleDriver) (Unit ⊕ Bool)) before cfg
    ∧ (before.state.db.committed.map StoredRow.id, before.state.network.sent.length)
      = ([CodePoints.ofString sampleId], 1)
    ∧ cfg.state.network = sampleWorked
  := by
  have hrun : ((sampleSystem.run
      (databaseWorks (importAuditStore sampleDriver) (Unit ⊕ Bool)) sampleFirst).bind
      fun before => (before.run
        (databaseWorks (importAuditStore sampleDriver) (Unit ⊕ Bool)) sampleSecond).map
        fun cfg => ((before.state.db.committed.map StoredRow.id,
            before.state.network.sent.length), cfg.state.network))
      = some (([CodePoints.ofString sampleId], 1), sampleWorked) := by
    decide +kernel
  obtain ⟨before, hbefore, hrest⟩ := Option.bind_eq_some_iff.mp hrun
  obtain ⟨cfg, hcfg, hobserved⟩ := Option.map_eq_some_iff.mp hrest
  obtain ⟨hrows, hend⟩ := Prod.mk.inj hobserved
  exact ⟨before, cfg, .of_run hbefore, .of_run hcfg, hrows, hend⟩

end ControlPlane.AuditStores
