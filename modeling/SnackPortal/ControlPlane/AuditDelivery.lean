import SnackPortal.ControlPlane.AuditAnswers

/-!
# What is delivered

What holds in every run of the services and the edges of an audit store.  An event has one row
at most, which nothing changes; every new row is that of an emitted event; and where an emission
succeeds, the event has its row.  The argument is made on the store that appends in one step.
-/

namespace ControlPlane.AuditStores

open AppendOnce (Distinct held)
open Machine (Stands)

variable {ρ κ τ : Type}

variable [DecidableEq κ] [DecidableEq τ]

/-! ## What is right -/

/-- The event has its row: the one that its record is stored as, or one that matches it. -/
def Stored (store : AuditStore ρ κ τ) (parse : List UInt8 → Option ρ)
    (log : List (StoredRow κ τ)) (raw : List UInt8) : Prop :=
  ∃ record row stored, parse raw = some record ∧ store.rowOf record = some row
    ∧ held StoredRow.id row.id log = some stored
    ∧ (stored = row ∨ store.replayMatches stored record)

/-- The response is right for the request, where these are the rows. -/
inductive Answered (store : AuditStore ρ κ τ) (parse : List UInt8 → Option ρ)
    (log : List (StoredRow κ τ)) (raw : List UInt8) : Response → Prop where
  | invalid (h : ∀ record, parse raw = some record → store.validate record = false) :
      Answered store parse log raw ⟨400, "INVALID"⟩
  | unavailable : Answered store parse log raw ⟨503, "UNAVAILABLE"⟩
  | inserted (record : ρ) (row : StoredRow κ τ) (hparse : parse raw = some record)
      (hrow : store.rowOf record = some row) (hheld : held StoredRow.id row.id log = some row) :
      Answered store parse log raw ⟨200, "INSERTED"⟩
  | replayed (record : ρ) (row stored : StoredRow κ τ) (hparse : parse raw = some record)
      (hrow : store.rowOf record = some row) (hheld : held StoredRow.id row.id log = some stored)
      (hmatches : store.replayMatches stored record) :
      Answered store parse log raw ⟨200, "DUPLICATE_MATCH"⟩
  | conflict (record : ρ) (row stored : StoredRow κ τ) (hparse : parse raw = some record)
      (hrow : store.rowOf record = some row) (hheld : held StoredRow.id row.id log = some stored)
      (hdiffers : ¬ store.replayMatches stored record) :
      Answered store parse log raw ⟨409, "CONFLICT"⟩

/-- The answer that the row was put, to a request of this number or a later one, says that these
rows were without it. -/
def Novel (store : AuditStore ρ κ τ) (parse : List UInt8 → Option ρ) (first : ℕ)
    (log : List (StoredRow κ τ)) (message : ℕ) (raw : List UInt8) (response : Response) : Prop :=
  response = ⟨200, "INSERTED"⟩ → first ≤ message → ∀ record row, parse raw = some record →
    store.rowOf record = some row → held StoredRow.id row.id log = none

/-- What a POST of the request can end with, where these are the rows: it found the edge
unavailable, or it got a response that is right. -/
def Outcome (store : AuditStore ρ κ τ) (parse : List UInt8 → Option ρ)
    (log : List (StoredRow κ τ)) (raw : List UInt8) (r : Except AuditError Unit) : Prop :=
  r = .error (.transport .unavailable)
    ∨ ∃ response, Answered store parse log raw response ∧ interpret response = r

section Right

variable {store : AuditStore ρ κ τ} {parse : List UInt8 → Option ρ}
  {log log' : List (StoredRow κ τ)} {raw : List UInt8} {response : Response}

theorem Answered.mono (h : Answered store parse log raw response) (hlonger : log <+: log') :
  Answered store parse log' raw response
  := by
  cases h with
  | invalid hinvalid => apply Answered.invalid hinvalid
  | unavailable => apply Answered.unavailable
  | inserted record row hparse hrow hheld =>
      apply Answered.inserted record row hparse hrow
      apply AppendOnce.held_of_prefix hheld hlonger
  | replayed record row stored hparse hrow hheld hmatches =>
      apply Answered.replayed record row stored hparse hrow _ hmatches
      apply AppendOnce.held_of_prefix hheld hlonger
  | conflict record row stored hparse hrow hheld hdiffers =>
      apply Answered.conflict record row stored hparse hrow _ hdiffers
      apply AppendOnce.held_of_prefix hheld hlonger

theorem Outcome.mono {r : Except AuditError Unit} (h : Outcome store parse log raw r)
    (hlonger : log <+: log') :
  Outcome store parse log' raw r
  := by
  rcases h with hlost | ⟨response, hanswered, hinterpret⟩
  · left
    apply hlost
  · right
    exact ⟨response, hanswered.mono hlonger, hinterpret⟩

/-- What a client takes for success is one. -/
theorem Answered.stored (h : Answered store parse log raw response)
    (hsuccess : interpret response = .ok ()) :
  Stored store parse log raw
  := by
  cases h with
  | invalid _ | unavailable | conflict _ _ _ _ _ _ _ => cases hsuccess
  | inserted record row hparse hrow hheld =>
      exact ⟨record, row, row, hparse, hrow, hheld, .inl rfl⟩
  | replayed record row stored hparse hrow hheld hmatches =>
      exact ⟨record, row, stored, hparse, hrow, hheld, .inr hmatches⟩

omit [DecidableEq τ] in
theorem Novel.of_ne {first message : ℕ} (h : response ≠ ⟨200, "INSERTED"⟩) :
  Novel store parse first log message raw response
  := fun hinserted => absurd hinserted h

omit [DecidableEq τ] in
theorem Novel.of_lt {first message : ℕ} (h : message < first) :
  Novel store parse first log message raw response
  := fun _ hle => absurd h (not_lt.mpr hle)

omit [DecidableEq κ] [DecidableEq τ] in
theorem responseTo_inserted {r : Except AuditError AppendResult}
    (h : responseTo r = ⟨200, "INSERTED"⟩) :
  r = .ok .inserted
  := by
  cases r with
  | error e => cases e <;> simp [responseTo] at h
  | ok result =>
      cases result with
      | inserted => rfl
      | duplicateMatch => simp [responseTo, AppendResult.value] at h

/-- An append that answers that the row was put found no row under the id. -/
theorem append_inserted {record : ρ} (h : (store.append record log).1 = .ok .inserted)
    {row : StoredRow κ τ} (hrow : store.rowOf record = some row) :
  held StoredRow.id row.id log = none
  := by
  rw [AuditStore.append, hrow] at h
  dsimp only at h
  cases hheld : held StoredRow.id row.id log with
  | none => rfl
  | some stored =>
      rw [hheld] at h
      dsimp only at h
      split at h
      · split at h <;> cases h
      · cases h

/-- What an append does: it adds its own row where no row has the id, and its answer is right. -/
theorem append_spec (record : ρ) :
  ((store.append record log).2 = log
      ∨ ∃ row, store.rowOf record = some row ∧ held StoredRow.id row.id log = none
        ∧ (store.append record log).2 = log ++ [row])
    ∧ (parse raw = some record →
      Answered store parse (store.append record log).2 raw
        (responseTo (store.append record log).1))
  := by
  rw [AuditStore.append]
  cases hrow : store.rowOf record with
  | none => exact ⟨.inl rfl, fun _ => .unavailable⟩
  | some row =>
      dsimp only
      cases hheld : held StoredRow.id row.id log with
      | none =>
          constructor
          · exact .inr ⟨row, rfl, hheld, rfl⟩
          · intro hparse
            apply Answered.inserted record row hparse hrow
            rw [held, List.find?_append]
            change (held StoredRow.id row.id log).or _ = _
            rw [hheld]
            simp
      | some stored =>
          dsimp only
          split
          · split
            · rename_i hmatches
              exact ⟨.inl rfl, fun hparse => .replayed record row stored hparse hrow hheld hmatches⟩
            · rename_i hdiffers
              exact ⟨.inl rfl, fun hparse => .conflict record row stored hparse hrow hheld hdiffers⟩
          · exact ⟨.inl rfl, fun _ => .unavailable⟩

end Right

/-! ## Invariants -/

section Invariants

variable {E W : Type} (store : AuditStore ρ κ τ) (parse : List UInt8 → Option ρ)
  (emissions : E → Emission) (log : List (StoredRow κ τ)) (first : ℕ)

/-- Every id has one row, the rows that were there are, and every other one is that of an emitted
event; a request was sent by a service under a number of its own, and its responses are right,
those to the requests since the first in view of the rows that were there. -/
structure Sound (s : AtomicState κ τ) : Prop where
  distinct : Distinct StoredRow.id s.log
  kept : log <+: s.log
  emitted : ∀ row ∈ s.log, row ∈ log
    ∨ ∃ e record, parse (emissions e).raw = some record ∧ store.rowOf record = some row
  sent : ∀ request ∈ s.network.sent,
    request.1 < s.network.sent.length ∧ ∃ e, request.2 = (emissions e).raw
  numbered : (s.network.sent.map Prod.fst).Nodup
  responses : ∀ message response, (message, response) ∈ s.network.responses →
    ∃ raw, (message, raw) ∈ s.network.sent ∧ Answered store parse s.log raw response
      ∧ Novel store parse first log message raw response

/-- How a policy ends an emission. -/
def Policy.terminal (policy : Policy) : Except AuditError Unit → AuditProgram ρ κ τ Unit
  | .ok () => pure ()
  | .error e => if policy.swallows then pure () else Program.raise e

/-- What a policy does after a failed POST. -/
def retry (raw : List UInt8) (first : AuditError) : AuditProgram ρ κ τ Unit :=
  if first = .transport .unavailable then post raw else Program.raise first

/-- What is left of a POST that was sent. -/
def awaited (message : ℕ) : AuditProgram ρ κ τ Unit := do
  let response ← perform (.await message)
  .ret (interpret response)

/-- Where a service is with an emission. -/
inductive Emitting (emission : Emission) (s : AtomicState κ τ) :
    AuditProgram ρ κ τ Unit → Prop where
  | first : Emitting emission s ((bounded emission.raw).andThen emission.policy.terminal)
  | awaiting (message : ℕ) (hsent : (message, emission.raw) ∈ s.network.sent) :
      Emitting emission s
        (((awaited message).rescue (retry emission.raw)).andThen emission.policy.terminal)
  | second : Emitting emission s ((post emission.raw).andThen emission.policy.terminal)
  | awaitingSecond (message : ℕ) (hsent : (message, emission.raw) ∈ s.network.sent) :
      Emitting emission s ((awaited message).andThen emission.policy.terminal)
  | ended (r : Except AuditError Unit)
      (houtcome : emission.policy.swallows = false → Outcome store parse s.log emission.raw r) :
      Emitting emission s (.ret r)

/-- Where an edge is with a request. -/
inductive Working (s : AtomicState κ τ) : AuditProgram ρ κ τ Unit → Prop where
  | serving (n : ℕ) : Working s (serve parse store.appendAtOnce n)
  | responding (n message : ℕ) (raw : List UInt8) (response : Response)
      (hsent : (message, raw) ∈ s.network.sent)
      (hanswered : Answered store parse s.log raw response)
      (hnovel : Novel store parse first log message raw response) :
      Working s (respondWith parse store.appendAtOnce n message response)
  | appending (n message : ℕ) (raw : List UInt8) (record : ρ)
      (hsent : (message, raw) ∈ s.network.sent) (hparse : parse raw = some record) :
      Working s (answering parse store.appendAtOnce n message (perform (.append record)))
  | ended (r : Except AuditError Unit) : Working s (.ret r)

/-- Where a service or an edge is. -/
def Doing : E ⊕ W → AtomicState κ τ → AuditProgram ρ κ τ Unit → Prop
  | .inl e, s, x => Emitting store parse (emissions e) s x
  | .inr _, s, x => Working store parse log first s x

/-- What a call leaves of the services and the edges that did not make it. -/
structure Grows (s s' : AtomicState κ τ) : Prop where
  log : s.log <+: s'.log
  sent : s.network.sent ⊆ s'.network.sent

variable {store parse emissions log first} {s s' : AtomicState κ τ}

theorem Doing.frame {i : E ⊕ W} (hgrows : Grows s s') {x : AuditProgram ρ κ τ Unit}
    (h : Doing store parse emissions log first i s x) :
  Doing store parse emissions log first i s' x
  := by
  cases i with
  | inl e =>
      cases h with
      | first => apply Emitting.first
      | awaiting message hsent => apply Emitting.awaiting message (hgrows.sent hsent)
      | second => apply Emitting.second
      | awaitingSecond message hsent => apply Emitting.awaitingSecond message (hgrows.sent hsent)
      | ended r houtcome =>
          apply Emitting.ended
          intro hswallows
          apply (houtcome hswallows).mono hgrows.log
  | inr w =>
      cases h with
      | serving n => apply Working.serving n
      | responding n message raw response hsent hanswered hnovel =>
          apply Working.responding n message raw response (hgrows.sent hsent) _ hnovel
          apply hanswered.mono hgrows.log
      | appending n message raw record hsent hparse =>
          apply Working.appending n message raw record (hgrows.sent hsent) hparse
      | ended r => apply Working.ended

omit [DecidableEq κ] [DecidableEq τ] in
/-- An emission is that of the bounded policy, with an ending of its own. -/
theorem emit_eq (emission : Emission) :
  (emission.emit : AuditProgram ρ κ τ Unit)
    = (bounded emission.raw).andThen emission.policy.terminal
  := by
  obtain ⟨policy, raw⟩ := emission
  have hplain : (fun r => .ret r : Except AuditError Unit → AuditProgram ρ κ τ Unit)
      = Policy.terminal .gateway := by
    funext r
    cases r <;> rfl
  cases policy with
  | routing action =>
      change (bounded raw).andThen _ = _
      congr 1
      funext r
      cases r <;> rfl
  | gateway =>
      change bounded raw = (bounded raw).andThen (Policy.terminal .gateway)
      rw [← hplain]
      apply (Program.andThen_ret _).symm
  | imports =>
      change bounded raw = (bounded raw).andThen (Policy.terminal .gateway)
      rw [← hplain]
      apply (Program.andThen_ret _).symm

/-- The end of an emission. -/
theorem Emitting.terminal {emission : Emission} {r : Except AuditError Unit}
    (houtcome : Outcome store parse s.log emission.raw r) :
  Emitting store parse emission s (emission.policy.terminal r)
  := by
  cases r with
  | ok _ =>
      apply Emitting.ended
      exact fun _ => houtcome
  | error e =>
      rw [Policy.terminal]
      split
      · rename_i hswallows
        apply Emitting.ended
        intro hnot
        rw [hswallows] at hnot
        cases hnot
      · apply Emitting.ended
        exact fun _ => houtcome

/-- After a first POST. -/
theorem Emitting.retry {emission : Emission} {r : Except AuditError Unit}
    (houtcome : Outcome store parse s.log emission.raw r) :
  Emitting store parse emission s
    (((Program.ret r).rescue (retry emission.raw)).andThen emission.policy.terminal)
  := by
  cases r with
  | ok _ => apply Emitting.terminal houtcome
  | error e =>
      change Emitting store parse emission s
        ((ControlPlane.AuditStores.retry emission.raw e).andThen emission.policy.terminal)
      rw [ControlPlane.AuditStores.retry]
      split
      · apply Emitting.second
      · apply Emitting.terminal houtcome

/-- A call of the transport leaves the rows. -/
theorem answer_network {op : AuditOp ρ} (hop : op.transports) {c : AuditChoice}
    {r : Except AuditError (op.Ans κ τ)} (ha : s.answer store c op = some (r, s')) :
  s.network.answer c op = some (r, s'.network) ∧ s'.log = s.log
  := by
  rw [AtomicState.answer_of_transports hop] at ha
  obtain ⟨⟨r', n⟩, hn, heq⟩ := Option.map_eq_some_iff.mp ha
  obtain ⟨rfl, rfl⟩ := Prod.mk.inj heq
  exact ⟨hn, rfl⟩

/-- An append works, or it fails with or without effect. -/
theorem answer_append {record : ρ} {c : AuditChoice} {r : Except AuditError AppendResult}
    (ha : s.answer store c (.append record) = some (r, s')) :
  s'.network = s.network
    ∧ (s'.log = s.log ∨ s'.log = (store.append record s.log).2)
    ∧ (r = .error .failure
      ∨ r = (store.append record s.log).1 ∧ s'.log = (store.append record s.log).2)
  := by
  rw [AtomicState.answer] at ha
  dsimp only at ha
  split at ha
  · obtain ⟨rfl, rfl⟩ := Prod.mk.inj (Option.some.inj ha)
    exact ⟨rfl, .inr rfl, .inr ⟨rfl, rfl⟩⟩
  · obtain ⟨rfl, rfl⟩ := Prod.mk.inj (Option.some.inj ha)
    exact ⟨rfl, .inl rfl, .inl rfl⟩
  · obtain ⟨rfl, rfl⟩ := Prod.mk.inj (Option.some.inj ha)
    exact ⟨rfl, .inl rfl, .inl rfl⟩
  · obtain ⟨rfl, rfl⟩ := Prod.mk.inj (Option.some.inj ha)
    exact ⟨rfl, .inr rfl, .inl rfl⟩

/-- A number is the number of one request. -/
theorem Sound.unique (h : Sound store parse emissions log first s) {message : ℕ}
    {raw raw' : List UInt8} (hraw : (message, raw) ∈ s.network.sent)
    (hraw' : (message, raw') ∈ s.network.sent) :
  raw = raw'
  := by
  have heq := List.inj_on_of_nodup_map h.numbered hraw hraw' rfl
  apply congrArg Prod.snd heq

/-- A request is sent. -/
theorem Sound.post (h : Sound store parse emissions log first s) (e : E) {c : AuditChoice}
    {r : Except AuditError ℕ} (ha : s.answer store c (.post (emissions e).raw) = some (r, s')) :
  Sound store parse emissions log first s' ∧ Grows s s'
    ∧ (r = .error (.transport .unavailable)
      ∨ ∃ message, r = .ok message ∧ (message, (emissions e).raw) ∈ s'.network.sent)
  := by
  obtain ⟨hnetwork, hlog⟩ := answer_network rfl ha
  rcases answer_post hnetwork with ⟨rfl, hn⟩ | ⟨rfl, hn⟩
  · constructor
    · constructor
      · rw [hlog]
        apply h.distinct
      · rw [hlog]
        apply h.kept
      · rw [hlog]
        apply h.emitted
      · rw [hn]
        intro request hrequest
        rcases List.mem_cons.mp hrequest with rfl | hrequest
        · exact ⟨Nat.lt_succ_self _, e, rfl⟩
        · obtain ⟨hlt, hraw⟩ := h.sent request hrequest
          exact ⟨Nat.lt_succ_of_lt hlt, hraw⟩
      · rw [hn]
        apply List.nodup_cons.mpr ⟨_, h.numbered⟩
        intro hmem
        obtain ⟨request, hrequest, hnumber⟩ := List.mem_map.mp hmem
        apply Nat.ne_of_lt (h.sent request hrequest).1 hnumber
      · rw [hn, hlog]
        intro message response hresponse
        obtain ⟨raw, hraw, hright⟩ := h.responses message response hresponse
        exact ⟨raw, List.mem_cons_of_mem _ hraw, hright⟩
    · constructor
      · constructor
        · rw [hlog]
        · rw [hn]
          apply List.subset_cons_self
      · right
        use s.network.sent.length, rfl
        rw [hn]
        apply List.mem_cons_self
  · have hs' : s' = s := by
      obtain ⟨rows, network⟩ := s'
      dsimp only at hlog hn
      rw [hlog, hn]
    rw [hs']
    exact ⟨h, ⟨List.prefix_refl _, List.Subset.refl _⟩, .inl rfl⟩

/-- A response is right for the request of its number. -/
theorem Sound.await (h : Sound store parse emissions log first s) {message : ℕ} {raw : List UInt8}
    (hsent : (message, raw) ∈ s.network.sent) {c : AuditChoice}
    {r : Except AuditError Response} (ha : s.answer store c (.await message) = some (r, s')) :
  s' = s ∧ (r = .error (.transport .unavailable)
    ∨ ∃ response, r = .ok response ∧ Answered store parse s.log raw response)
  := by
  obtain ⟨hnetwork, hlog⟩ := answer_network rfl ha
  obtain ⟨hn, hr⟩ := answer_await hnetwork
  constructor
  · obtain ⟨rows, network⟩ := s'
    dsimp only at hlog hn
    rw [hlog, hn]
  · rcases hr with rfl | ⟨response, rfl, hresponse⟩
    · left
      rfl
    · right
      use response, rfl
      obtain ⟨raw', hraw', hanswered, -⟩ := h.responses message response hresponse
      rwa [h.unique hsent hraw']

/-- An edge is handed a request that was sent. -/
theorem Sound.receive (h : Sound store parse emissions log first s) {c : AuditChoice}
    {r : Except AuditError (ℕ × List UInt8)} (ha : s.answer store c .receive = some (r, s')) :
  Sound store parse emissions log first s' ∧ Grows s s'
    ∧ ∃ request ∈ s'.network.sent, r = .ok request
  := by
  obtain ⟨hnetwork, hlog⟩ := answer_network rfl ha
  obtain ⟨hsent, hresponses, hr⟩ := answer_receive hnetwork
  constructor
  · constructor
    · rw [hlog]
      apply h.distinct
    · rw [hlog]
      apply h.kept
    · rw [hlog]
      apply h.emitted
    · rw [hsent]
      apply h.sent
    · rw [hsent]
      apply h.numbered
    · rw [hsent, hresponses, hlog]
      apply h.responses
  · constructor
    · constructor
      · rw [hlog]
      · rw [hsent]
        apply List.Subset.refl
    · rw [hsent]
      apply hr

/-- An edge sends a response that is right for its request. -/
theorem Sound.respond (h : Sound store parse emissions log first s) {message : ℕ} {raw : List UInt8}
    {response : Response} (hsent : (message, raw) ∈ s.network.sent)
    (hanswered : Answered store parse s.log raw response)
    (hnovel : Novel store parse first log message raw response) {c : AuditChoice}
    {r : Except AuditError Unit}
    (ha : s.answer store c (.respond message response) = some (r, s')) :
  Sound store parse emissions log first s' ∧ Grows s s'
  := by
  obtain ⟨-, rfl⟩ := Prod.mk.inj (Option.some.inj ha)
  constructor
  · constructor
    · apply h.distinct
    · apply h.kept
    · apply h.emitted
    · apply h.sent
    · apply h.numbered
    · intro message' response' hresponse
      rcases List.mem_cons.mp hresponse with heq | hresponse
      · obtain ⟨rfl, rfl⟩ := Prod.mk.inj heq
        exact ⟨raw, hsent, hanswered, hnovel⟩
      · apply h.responses message' response' hresponse
  · exact ⟨List.prefix_refl _, List.Subset.refl _⟩

/-- The append of the record of a request. -/
theorem Sound.append (h : Sound store parse emissions log first s) {message : ℕ} {raw : List UInt8}
    {record : ρ} (hsent : (message, raw) ∈ s.network.sent) (hparse : parse raw = some record)
    {c : AuditChoice} {r : Except AuditError AppendResult}
    (ha : s.answer store c (.append record) = some (r, s')) :
  Sound store parse emissions log first s' ∧ Grows s s'
    ∧ Answered store parse s'.log raw (responseTo r)
    ∧ Novel store parse first log message raw (responseTo r)
  := by
  obtain ⟨hnetwork, hlog, hr⟩ := answer_append ha
  have hspec : _ ∧ (parse raw = some record → Answered store parse
      (store.append record s.log).2 raw (responseTo (store.append record s.log).1)) :=
    append_spec record
  obtain ⟨happend, hanswered⟩ := hspec
  have hcases : s'.log = s.log ∨ ∃ row, store.rowOf record = some row
      ∧ held StoredRow.id row.id s.log = none ∧ s'.log = s.log ++ [row] := by
    rcases hlog with hlog | hlog
    · left
      apply hlog
    · rw [hlog]
      apply happend
  have hlonger : s.log <+: s'.log := by
    rcases hcases with hsame | ⟨row, -, -, hnew⟩
    · rw [hsame]
    · rw [hnew]
      apply List.prefix_append
  constructor
  · constructor
    · rcases hcases with hsame | ⟨row, -, hnone, hnew⟩
      · rw [hsame]
        apply h.distinct
      · rw [hnew, ← AppendOnce.append_of_none hnone]
        apply h.distinct.append
    · apply h.kept.trans hlonger
    · intro row hrow
      rcases hcases with hsame | ⟨row', hrow', -, hnew⟩
      · rw [hsame] at hrow
        apply h.emitted row hrow
      · rw [hnew] at hrow
        rcases List.mem_append.mp hrow with hold | hadded
        · apply h.emitted row hold
        · obtain rfl := List.mem_singleton.mp hadded
          obtain ⟨-, e, rfl⟩ := h.sent (message, raw) hsent
          exact .inr ⟨e, record, hparse, hrow'⟩
    · rw [hnetwork]
      apply h.sent
    · rw [hnetwork]
      apply h.numbered
    · intro message' response hresponse
      rw [hnetwork] at hresponse
      obtain ⟨raw', hraw', hanswered', hnovel⟩ := h.responses message' response hresponse
      rw [hnetwork]
      exact ⟨raw', hraw', hanswered'.mono hlonger, hnovel⟩
  · constructor
    · constructor
      · apply hlonger
      · rw [hnetwork]
        apply List.Subset.refl
    · rcases hr with rfl | ⟨rfl, hsame⟩
      · constructor
        · apply Answered.unavailable
        · apply Novel.of_ne
          decide
      · constructor
        · rw [hsame]
          apply hanswered hparse
        · -- the rows that were there are among those of the append
          intro hinserted _ record' row' hparse' hrow'
          obtain rfl := Option.some.inj (hparse.symm.trans hparse')
          have hnone := append_inserted (responseTo_inserted hinserted) hrow'
          apply AppendOnce.held_none_of_prefix hnone h.kept

/-- The call of a service keeps the invariant. -/
theorem Emitting.step (hsound : Sound store parse emissions log first s) {e : E} {op : AuditOp ρ}
    {k : Except AuditError (op.Ans κ τ) → AuditProgram ρ κ τ Unit}
    {x : AuditProgram ρ κ τ Unit} (h : Emitting store parse (emissions e) s x)
    (hx : x = .call op k) {c : AuditChoice} {r : Except AuditError (op.Ans κ τ)}
    (ha : s.answer store c op = some (r, s')) :
  Sound store parse emissions log first s' ∧ Emitting store parse (emissions e) s' (k r) ∧ Grows s s'
  := by
  have hsame : Grows s s := ⟨List.prefix_refl _, List.Subset.refl _⟩
  cases h with
  | first =>
      cases hx
      obtain ⟨hsound', hgrows, rfl | ⟨message, rfl, hsent⟩⟩ := hsound.post e ha
      · exact ⟨hsound', .second, hgrows⟩
      · exact ⟨hsound', .awaiting message hsent, hgrows⟩
  | awaiting message hsent =>
      cases hx
      obtain ⟨rfl, rfl | ⟨response, rfl, hanswered⟩⟩ := hsound.await hsent ha
      · exact ⟨hsound, .second, hsame⟩
      · exact ⟨hsound, .retry (.inr ⟨response, hanswered, rfl⟩), hsame⟩
  | second =>
      cases hx
      obtain ⟨hsound', hgrows, rfl | ⟨message, rfl, hsent⟩⟩ := hsound.post e ha
      · exact ⟨hsound', .terminal (.inl rfl), hgrows⟩
      · exact ⟨hsound', .awaitingSecond message hsent, hgrows⟩
  | awaitingSecond message hsent =>
      cases hx
      obtain ⟨rfl, rfl | ⟨response, rfl, hanswered⟩⟩ := hsound.await hsent ha
      · exact ⟨hsound, .terminal (.inl rfl), hsame⟩
      · exact ⟨hsound, .terminal (.inr ⟨response, hanswered, rfl⟩), hsame⟩
  | ended r _ => cases hx

/-- An edge that was handed a request. -/
theorem Working.handed (n message : ℕ) (raw : List UInt8)
    (hsent : (message, raw) ∈ s.network.sent) :
  Working store parse log first s (ingest parse store.appendAtOnce raw >>= fun response =>
    respondWith parse store.appendAtOnce n message response)
  := by
  rw [ingest]
  cases hparse : parse raw with
  | none =>
      apply Working.responding n message raw _ hsent _ (Novel.of_ne (by decide))
      apply Answered.invalid
      intro record hrecord
      rw [hparse] at hrecord
      cases hrecord
  | some record =>
      dsimp only
      rw [AuditStore.appendAtOnce]
      split
      · apply Working.appending n message raw record hsent hparse
      · rename_i hinvalid
        apply Working.responding n message raw _ hsent _ (Novel.of_ne (by decide))
        apply Answered.invalid
        intro record' hrecord'
        obtain rfl := Option.some.inj (hparse.symm.trans hrecord')
        apply Bool.eq_false_iff.mpr hinvalid

/-- The call of an edge keeps the invariant. -/
theorem Working.step (hsound : Sound store parse emissions log first s) {op : AuditOp ρ}
    {k : Except AuditError (op.Ans κ τ) → AuditProgram ρ κ τ Unit}
    {x : AuditProgram ρ κ τ Unit} (h : Working store parse log first s x) (hx : x = .call op k)
    {c : AuditChoice} {r : Except AuditError (op.Ans κ τ)}
    (ha : s.answer store c op = some (r, s')) :
  Sound store parse emissions log first s' ∧ Working store parse log first s' (k r) ∧ Grows s s'
  := by
  cases h with
  | serving n =>
      cases n with
      | zero => cases hx
      | succ n =>
          cases hx
          obtain ⟨hsound', hgrows, ⟨message, raw⟩, hsent, rfl⟩ := hsound.receive ha
          exact ⟨hsound', .handed n message raw hsent, hgrows⟩
  | responding n message raw response hsent hanswered hnovel =>
      cases hx
      obtain ⟨hsound', hgrows⟩ := hsound.respond hsent hanswered hnovel ha
      refine ⟨hsound', ?_, hgrows⟩
      cases r with
      | error e => apply Working.ended
      | ok _ => apply Working.serving n
  | appending n message raw record hsent hparse =>
      cases hx
      obtain ⟨hsound', hgrows, hanswered, hnovel⟩ := hsound.append hsent hparse ha
      exact ⟨hsound', .responding n message raw _ (hgrows.sent hsent) hanswered hnovel, hgrows⟩
  | ended r => cases hx

/-- What a call of a service or an edge keeps, every run keeps. -/
theorem atomic_run [DecidableEq E] [DecidableEq W]
    {cfg cfg' : (atomicStore store (E ⊕ W)).Config Unit}
    (h : Machine.Reaches (atomicStore store (E ⊕ W)).anyCall cfg cfg')
    (hcfg : Machine.Threadwise (M := atomicStore store (E ⊕ W))
      (Sound store parse emissions log first) (Doing store parse emissions log first) cfg) :
  Machine.Threadwise (M := atomicStore store (E ⊕ W)) (Sound store parse emissions log first)
    (Doing store parse emissions log first) cfg'
  := by
  apply h.threadwise hcfg
  · intro i op k c r s s' hsound hdoing _ ha
    cases i with
    | inl e =>
        obtain ⟨hsound', hself, hgrows⟩ := Emitting.step hsound hdoing rfl ha
        exact ⟨hsound', hself, fun j _ x hx => hx.frame hgrows⟩
    | inr w =>
        obtain ⟨hsound', hself, hgrows⟩ := Working.step hsound hdoing rfl ha
        exact ⟨hsound', hself, fun j _ x hx => hx.frame hgrows⟩
  · exact fun i s hsound => ⟨hsound, fun _ _ _ hx => hx⟩

/-- Every configuration that is reached is sound. -/
theorem atomic_sound [DecidableEq E] [DecidableEq W] (hdistinct : Distinct StoredRow.id log)
    {rounds : W → ℕ} {cfg : (atomicStore store (E ⊕ W)).Config Unit}
    (h : Machine.Reaches (atomicStore store (E ⊕ W)).anyCall
      (atomicSystem store parse emissions rounds log) cfg) :
  Machine.Threadwise (M := atomicStore store (E ⊕ W)) (Sound store parse emissions log 0)
    (Doing store parse emissions log 0) cfg
  := by
  apply atomic_run h
  constructor
  · constructor
    · apply hdistinct
    · apply List.prefix_refl
    · exact fun row hrow => .inl hrow
    · intro request hrequest
      cases hrequest
    · apply List.nodup_nil
    · intro message response hresponse
      cases hresponse
  · intro i x hx
    cases i with
    | inl e =>
        obtain rfl := Option.some.inj hx
        rw [emit_eq]
        apply Emitting.first
    | inr w =>
        obtain rfl := Option.some.inj hx
        apply Working.serving

/-- A sound configuration may be taken for the first one: the requests so far are old ones, and
the rows so far are those that were there. -/
theorem restart [DecidableEq E] [DecidableEq W]
    {cfg : (atomicStore store (E ⊕ W)).Config Unit}
    (h : Machine.Threadwise (M := atomicStore store (E ⊕ W))
      (Sound store parse emissions log first) (Doing store parse emissions log first) cfg) :
  Machine.Threadwise (M := atomicStore store (E ⊕ W))
    (Sound store parse emissions cfg.state.log cfg.state.network.sent.length)
    (Doing store parse emissions cfg.state.log cfg.state.network.sent.length) cfg
  := by
  have hsound := h.state
  constructor
  · constructor
    · apply hsound.distinct
    · apply List.prefix_refl
    · exact fun row hrow => .inl hrow
    · apply hsound.sent
    · apply hsound.numbered
    · intro message response hresponse
      obtain ⟨raw, hraw, hanswered, -⟩ := hsound.responses message response hresponse
      exact ⟨raw, hraw, hanswered, .of_lt (hsound.sent _ hraw).1⟩
  · intro i x hx
    have hdoing := h.threads i x hx
    cases i with
    | inl e => apply hdoing
    | inr w =>
        cases hdoing with
        | serving n => apply Working.serving
        | responding n message raw response hsent hanswered _ =>
            apply Working.responding n message raw response hsent hanswered
            apply Novel.of_lt (hsound.sent _ hsent).1
        | appending n message raw record hsent hparse =>
            apply Working.appending n message raw record hsent hparse
        | ended r => apply Working.ended

end Invariants

/-! ## In every run -/

/-- What holds of the services and the edges of a store in every run from rows with ids of their
own: the ids of the rows stay their own, the rows of a configuration are kept by every later one, a
new row is that of an emitted event, and an event has its row where its emission succeeded, the
failures that a policy swallows apart. -/
def Delivers (store : AuditStore ρ κ τ) (parse : List UInt8 → Option ρ) : Prop :=
  ∀ (E W : Type) [DecidableEq E] [DecidableEq W] (emissions : E → Emission) (rounds : W → ℕ)
    (log : List (StoredRow κ τ)) (before cfg : (auditDatabase store (E ⊕ W)).Config Unit),
    Distinct StoredRow.id log →
    Machine.Reaches (auditDatabase store (E ⊕ W)).anyCall
      (system store parse emissions rounds log) before →
    Machine.Reaches (auditDatabase store (E ⊕ W)).anyCall before cfg →
    Distinct StoredRow.id cfg.state.db.committed
      ∧ before.state.db.committed <+: cfg.state.db.committed
      ∧ (∀ row ∈ cfg.state.db.committed, row ∈ log
        ∨ ∃ e record, parse (emissions e).raw = some record ∧ store.rowOf record = some row)
      ∧ ∀ e, (emissions e).policy.swallows = false → cfg.returned (.inl e) = some () →
        Stored store parse cfg.state.db.committed (emissions e).raw

/-- What stands for a configuration of a run is sound, as one of a run from the beginning and as
one of a run from any configuration before it. -/
theorem sound {store : AuditStore ρ κ τ} {parse : List UInt8 → Option ρ} {E W : Type}
    [DecidableEq E] [DecidableEq W] {emissions : E → Emission} {rounds : W → ℕ}
    {log : List (StoredRow κ τ)} {before cfg : (auditDatabase store (E ⊕ W)).Config Unit}
    (hdistinct : Distinct StoredRow.id log)
    (hbefore : Machine.Reaches (auditDatabase store (E ⊕ W)).anyCall
      (system store parse emissions rounds log) before)
    (h : Machine.Reaches (auditDatabase store (E ⊕ W)).anyCall before cfg) :
  ∃ cfg' : (atomicStore store (E ⊕ W)).Config Unit,
    Stands Agree (Related store parse) cfg cfg'
    ∧ Machine.Threadwise (M := atomicStore store (E ⊕ W)) (Sound store parse emissions log 0)
      (Doing store parse emissions log 0) cfg'
    ∧ Sound store parse emissions before.state.db.committed before.state.network.sent.length
      cfg'.state
  := by
  obtain ⟨before', hreach, hstands⟩ := simulated emissions rounds log hbefore
  obtain ⟨cfg', hreach', hstands'⟩ := continued h hstands
  have hsound := atomic_sound hdistinct hreach
  use cfg', hstands', atomic_run hreach' hsound
  rw [← hstands.state.log, ← hstands.state.network]
  exact (atomic_run hreach' (restart hsound)).state

/-- What an emission ended with. -/
theorem outcome {store : AuditStore ρ κ τ} {parse : List UInt8 → Option ρ} {E W : Type}
    [DecidableEq E] [DecidableEq W] {emissions : E → Emission} {log : List (StoredRow κ τ)}
    {cfg : (auditDatabase store (E ⊕ W)).Config Unit}
    {cfg' : (atomicStore store (E ⊕ W)).Config Unit}
    (hstands : Stands Agree (Related store parse) cfg cfg')
    (hsound : Machine.Threadwise (M := atomicStore store (E ⊕ W))
      (Sound store parse emissions log 0) (Doing store parse emissions log 0) cfg')
    {e : E} {r : Except AuditError Unit} (hr : cfg.threads (.inl e) = some (.ret r))
    (hswallows : (emissions e).policy.swallows = false) :
  Outcome store parse cfg'.state.log (emissions e).raw r
  := by
  obtain ⟨y, hy, rfl, -⟩ := hstands.threads (.inl e) _ hr
  have hdoing : Emitting store parse (emissions e) cfg'.state (.ret r) :=
    hsound.threads (.inl e) _ hy
  generalize hx : Program.ret r = x at hdoing
  cases hdoing with
  | first | awaiting _ _ | second | awaitingSecond _ _ => cases hx
  | ended r' houtcome =>
      cases hx
      apply houtcome hswallows

theorem delivers (store : AuditStore ρ κ τ) (parse : List UInt8 → Option ρ) :
  Delivers store parse
  := by
  intro E W _ _ emissions rounds log before cfg hdistinct hbefore h
  obtain ⟨cfg', hstands, hsound, hlater⟩ := sound hdistinct hbefore h
  rw [← hstands.state.log]
  constructor
  · apply hsound.state.distinct
  constructor
  · apply hlater.kept
  constructor
  · apply hsound.state.emitted
  · intro e hswallows hreturned
    have hended := Machine.Config.returned_eq_some.mp hreturned
    rcases outcome hstands hsound hended hswallows with hlost | ⟨response, hanswered, hsuccess⟩
    · cases hlost
    · apply hanswered.stored hsuccess

/-- The id of an event is its own: no row that was there has it, and every emission with it has
the same bytes. -/
structure OwnId {E : Type} (store : AuditStore ρ κ τ) (parse : List UInt8 → Option ρ)
    (emissions : E → Emission) (log : List (StoredRow κ τ)) (raw : List UInt8)
    (row : StoredRow κ τ) : Prop where
  unused : held StoredRow.id row.id log = none
  shared : ∀ e record row', parse (emissions e).raw = some record →
    store.rowOf record = some row' → row'.id = row.id → (emissions e).raw = raw

/-- A row under an id of its own is the row of the record. -/
theorem OwnId.held_eq {E : Type} {store : AuditStore ρ κ τ} {parse : List UInt8 → Option ρ}
    {emissions : E → Emission} {log : List (StoredRow κ τ)} {raw : List UInt8}
    {row stored : StoredRow κ τ} {record : ρ} {s : AtomicState κ τ}
    (hown : OwnId store parse emissions log raw row) (hparse : parse raw = some record)
    (hrow : store.rowOf record = some row) (hsound : Sound store parse emissions log first s)
    (hheld : held StoredRow.id row.id s.log = some stored) :
  stored = row
  := by
  have hid := AppendOnce.key_of_held hheld
  rcases hsound.emitted stored (AppendOnce.mem_of_held hheld) with hold | ⟨e, record', hp, hr⟩
  · exact absurd hid (AppendOnce.held_eq_none.mp hown.unused stored hold)
  · rw [hown.shared e record' stored hp hr hid, hparse] at hp
    obtain rfl := Option.some.inj hp
    apply Option.some.inj (hr.symm.trans hrow)

/-- How a replay of the record is answered: as a replay where the record is canonical, as a
conflict where it is not, or not at all for want of the database. -/
def ReplayAnswer (store : AuditStore ρ κ τ) (record : ρ) (response : Response) : Prop :=
  response = ⟨200, "DUPLICATE_MATCH"⟩ ∧ store.Canonical record
    ∨ response = ⟨409, "CONFLICT"⟩ ∧ ¬ store.Canonical record
    ∨ response = ⟨503, "UNAVAILABLE"⟩

/-- What holds in every run of an event that the parser accepts and whose id is its own.  A POST
that is sent where the event is stored, whose number is that of no request so far, gets the answer
to a replay.  Any POST of the event is answered as a replay only where the record is canonical, as
a conflict only where it is not, and as unavailable only where a call on the database failed or the
driver cannot load the time; and where the record is canonical, the emission ends well or with the
edge unavailable. -/
def RecognisesReplays (store : AuditStore ρ κ τ) (parse : List UInt8 → Option ρ) : Prop :=
  ∀ (E W : Type) [DecidableEq E] [DecidableEq W] (emissions : E → Emission) (rounds : W → ℕ)
    (log : List (StoredRow κ τ)) (before cfg : (auditDatabase store (E ⊕ W)).Config Unit),
    Distinct StoredRow.id log →
    Machine.Reaches (auditDatabase store (E ⊕ W)).anyCall
      (system store parse emissions rounds log) before →
    Machine.Reaches (auditDatabase store (E ⊕ W)).anyCall before cfg →
    ∀ e record row, parse (emissions e).raw = some record → store.rowOf record = some row →
      OwnId store parse emissions log (emissions e).raw row →
      (∀ message response, (message, (emissions e).raw) ∈ cfg.state.network.sent →
        (message, response) ∈ cfg.state.network.responses →
        ((held StoredRow.id row.id before.state.db.committed).isSome →
            before.state.network.sent.length ≤ message → ReplayAnswer store record response)
          ∧ (response = ⟨200, "DUPLICATE_MATCH"⟩ → store.Canonical record)
          ∧ (response = ⟨409, "CONFLICT"⟩ → ¬ store.Canonical record)
          ∧ (Machine.Reaches (databaseWorks store (E ⊕ W))
              (system store parse emissions rounds log) cfg →
            store.loads row.occurredAt → response ≠ ⟨503, "UNAVAILABLE"⟩))
        ∧ (store.Canonical record → (emissions e).policy.swallows = false →
          ∀ r, cfg.threads (.inl e) = some (.ret r) →
            r = .ok () ∨ r = .error (.transport .unavailable))

theorem recognisesReplays {store : AuditStore ρ κ τ} {parse : List UInt8 → Option ρ}
    (hvalid : ∀ raw record, parse raw = some record → store.validate record) :
  RecognisesReplays store parse
  := by
  intro E W _ _ emissions rounds log before cfg hdistinct hbefore h e record row hparse hrow hown
  obtain ⟨cfg', hstands, hsound, hlater⟩ := sound hdistinct hbefore h
  have hanswers : ∀ {response},
      Answered store parse cfg'.state.log (emissions e).raw response →
      response = ⟨200, "INSERTED"⟩ ∨ ReplayAnswer store record response := by
    intro response hanswered
    rw [ReplayAnswer, ← AuditStore.replayMatches_rowOf hrow]
    cases hanswered with
    | invalid hinvalid =>
        have hno := hinvalid record hparse
        rw [hvalid _ record hparse] at hno
        cases hno
    | unavailable => exact .inr (.inr (.inr rfl))
    | inserted _ _ _ _ _ => exact .inl rfl
    | replayed record' row' stored hparse' hrow' hheld hmatches =>
        obtain rfl := Option.some.inj (hparse.symm.trans hparse')
        obtain rfl := Option.some.inj (hrow.symm.trans hrow')
        rw [← hown.held_eq hparse hrow hsound.state hheld]
        exact .inr (.inl ⟨rfl, hmatches⟩)
    | conflict record' row' stored hparse' hrow' hheld hdiffers =>
        obtain rfl := Option.some.inj (hparse.symm.trans hparse')
        obtain rfl := Option.some.inj (hrow.symm.trans hrow')
        rw [← hown.held_eq hparse hrow hsound.state hheld]
        exact .inr (.inr (.inl ⟨rfl, hdiffers⟩))
  constructor
  · intro message response hsent hresponse
    rw [← hstands.state.network] at hsent hresponse
    obtain ⟨raw, hraw, hanswered, hnovel⟩ := hlater.responses message response hresponse
    obtain rfl := hlater.unique hraw hsent
    have hanswer := hanswers hanswered
    constructor
    · intro hheld hfirst
      rcases hanswer with hinserted | hreplay
      · rw [hnovel hinserted hfirst record row hparse hrow] at hheld
        cases hheld
      · apply hreplay
    constructor
    · rintro rfl
      rcases hanswer with hother | ⟨-, hcanonical⟩ | ⟨hother, -⟩ | hother
      · exact absurd hother (by decide)
      · apply hcanonical
      · exact absurd hother (by decide)
      · exact absurd hother (by decide)
    constructor
    · rintro rfl
      rcases hanswer with hother | ⟨hother, -⟩ | ⟨-, hdiffers⟩ | hother
      · exact absurd hother (by decide)
      · exact absurd hother (by decide)
      · apply hdiffers
      · exact absurd hother (by decide)
    · -- in a run whose calls on the database work, the table refused the event
      rintro hworks hloads rfl
      rw [hstands.state.network] at hresponse
      obtain ⟨raw, hsent', record', hparse', hfailure⟩ := justified hworks message hresponse
      rw [← hstands.state.network] at hsent'
      obtain rfl := hlater.unique hsent' hsent
      obtain rfl := Option.some.inj (hparse.symm.trans hparse')
      obtain ⟨stored, hheld, hunloadable⟩ := append_failure.mp hfailure row hrow
      rw [← hstands.state.log] at hheld
      rw [hown.held_eq hparse hrow hsound.state hheld, hloads] at hunloadable
      cases hunloadable
  · intro hcanonical hswallows r hended
    rcases outcome hstands hsound hended hswallows with hlost | ⟨response, hanswered, rfl⟩
    · right
      apply hlost
    · rcases hanswers hanswered with rfl | ⟨rfl, -⟩ | ⟨-, hdiffers⟩ | rfl
      · exact .inl rfl
      · exact .inl rfl
      · exact absurd hcanonical hdiffers
      · exact .inr rfl

variable {υ : Type} [DecidableEq υ]

/-- The audit events are delivered, whatever the services, the edges, the transport and the
connections do. -/
theorem audits_delivered (driver : Driver υ τ) (loads : List UInt8 → Option Wire) :
  Delivers (routingAuditStore driver) (RoutingAudit.parseRecord loads)
    ∧ Delivers (gatewayAuditStore driver) (GatewayAudit.parseRecord loads)
    ∧ Delivers (importAuditStore driver) (ImportAudit.parseRecord loads)
  := by
  constructor
  · apply delivers
  constructor
  · apply delivers
  · apply delivers

/-- The event of the run has its row. -/
theorem audits_delivered_sample :
  ∃ before cfg, Machine.Reaches
      (auditDatabase (importAuditStore sampleDriver) (Unit ⊕ Bool)).anyCall sampleSystem before
    ∧ Machine.Reaches (auditDatabase (importAuditStore sampleDriver) (Unit ⊕ Bool)).anyCall
      before cfg
    ∧ before.state.db.committed.length = 1
    ∧ before.state.db.committed <+: cfg.state.db.committed
    ∧ Stored (importAuditStore sampleDriver) sampleParse cfg.state.db.committed [1]
  := by
  obtain ⟨before, cfg, hbefore, hreach, hrows, hcfg⟩ := sample_reached
  have hlength : before.state.db.committed.length = 1 := by
    have hlength := congrArg (fun t => t.1.length) hrows
    rwa [List.length_map] at hlength
  use before, cfg, hbefore, hreach, hlength
  obtain ⟨-, hkept, -, hstored⟩ := (audits_delivered sampleDriver sampleLoads).2.2 Unit Bool
    (fun _ => ⟨.imports, [1]⟩) (fun _ => 1) [] before cfg List.nodup_nil hbefore hreach
  use hkept
  apply hstored () rfl
  apply congrArg (fun t => t.2.2) hcfg

/-- A retry is recognised where the record is canonical, and refused as a conflict where it is
not. -/
theorem replays_recognised (driver : Driver υ τ) (loads : List UInt8 → Option Wire) :
  RecognisesReplays (routingAuditStore driver) (RoutingAudit.parseRecord loads)
    ∧ RecognisesReplays (gatewayAuditStore driver) (GatewayAudit.parseRecord loads)
    ∧ RecognisesReplays (importAuditStore driver) (ImportAudit.parseRecord loads)
  := by
  constructor
  · apply recognisesReplays
    exact fun raw record => validateRouting_of_parsed
  constructor
  · apply recognisesReplays
    exact fun raw record => validateGateway_of_parsed
  · apply recognisesReplays
    exact fun raw record => validateImport_of_parsed

/-- Where the calls on the database work, the second POST of the run is sent where the event is
stored; it is recognised, the record is canonical, and no POST finds the edge unavailable. -/
theorem replays_recognised_sample :
  ∃ cfg record row,
    Machine.Reaches (databaseWorks (importAuditStore sampleDriver) (Unit ⊕ Bool)) sampleSystem cfg
    ∧ sampleParse [1] = some record ∧ (importAuditStore sampleDriver).rowOf record = some row
    ∧ cfg.state.network = sampleWorked
    ∧ ReplayAnswer (importAuditStore sampleDriver) record ⟨200, "DUPLICATE_MATCH"⟩
    ∧ (importAuditStore sampleDriver).Canonical record
    ∧ ∀ message response, (message, response) ∈ cfg.state.network.responses →
      response ≠ ⟨503, "UNAVAILABLE"⟩
  := by
  obtain ⟨before, cfg, hbefore, hreach, hrows, hnetwork⟩ := sample_worked
  have hparse : (sampleParse [1]).isSome := by decide +kernel
  obtain ⟨record, hrecord⟩ := Option.isSome_iff_exists.mp hparse
  have hrow : ((sampleParse [1]).bind (importAuditStore sampleDriver).rowOf).isSome := by
    decide +kernel
  rw [hrecord] at hrow
  obtain ⟨row, hrow⟩ := Option.isSome_iff_exists.mp hrow
  have hown : OwnId (importAuditStore sampleDriver) sampleParse
      (fun _ : Unit => (⟨.imports, [1]⟩ : Emission)) [] [1] row :=
    ⟨rfl, fun _ _ _ _ _ _ => rfl⟩
  have hreplays := ((replays_recognised sampleDriver sampleLoads).2.2 Unit Bool
    (fun _ => ⟨.imports, [1]⟩) (fun _ => 1) [] before cfg List.nodup_nil
    (hbefore.imp fun _ _ _ _ _ => trivial) (hreach.imp fun _ _ _ _ _ => trivial) () record row
    hrecord hrow hown).1
  rw [hnetwork] at hreplays
  obtain ⟨hanswered, hcanonical, -, -⟩ := hreplays 1 ⟨200, "DUPLICATE_MATCH"⟩ List.mem_cons_self
    List.mem_cons_self
  use cfg, record, row, hbefore.trans hreach, hrecord, hrow, hnetwork
  constructor
  · apply hanswered
    · have hid : ((sampleParse [1]).bind (importAuditStore sampleDriver).rowOf).map StoredRow.id
          = some (CodePoints.ofString sampleId) := by
        decide +kernel
      rw [hrecord, hrow] at hid
      have hmem : row.id ∈ before.state.db.committed.map StoredRow.id := by
        have hids : before.state.db.committed.map StoredRow.id = [CodePoints.ofString sampleId] :=
          congrArg Prod.fst hrows
        rw [hids, Option.some.inj hid]
        apply List.mem_singleton_self
      obtain ⟨stored, hstored, hsame⟩ := List.mem_map.mp hmem
      apply Option.isSome_iff_ne_none.mpr
      intro hnone
      apply AppendOnce.held_eq_none.mp hnone stored hstored hsame
    · exact (congrArg Prod.snd hrows).le
  constructor
  · apply hcanonical rfl
  · intro message response hresponse
    rw [hnetwork] at hresponse
    have hsent : (message, [1]) ∈ sampleWorked.sent := by
      rcases List.mem_cons.mp hresponse with heq | hresponse
      · obtain ⟨rfl, -⟩ := Prod.mk.inj heq
        apply List.mem_cons_self
      · obtain ⟨rfl, -⟩ := Prod.mk.inj (List.mem_singleton.mp hresponse)
        apply List.mem_cons_of_mem _ List.mem_cons_self
    apply (hreplays message response hsent hresponse).2.2.2 (hbefore.trans hreach) rfl

end ControlPlane.AuditStores
