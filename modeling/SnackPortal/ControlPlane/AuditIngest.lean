import SnackPortal.ControlPlane.AuditStores
import SnackPortal.Program.Simulation

/-!
# Audit delivery

How an audit event gets to its table.  A service posts the event to the ingest edge, and once more
where the edge is unavailable; the edge reads the record, appends it in a transaction of its own,
and answers.  There are any number of services and of edges: requests and responses may be late or
be lost, a process may end at any point, and the connection of an edge may be lost at any call, a
commit among them, whether or not it took effect.

`auditDatabase` answers the calls on the database one by one; `atomicStore` has an append as one
call.
-/

namespace ControlPlane.AuditStores

variable {ρ κ τ : Type}

/-! ## The calls -/

/-- The kind of a failed transport. -/
inductive TransportKind where
  | invalid
  | conflict
  | unavailable
deriving DecidableEq, Repr

/-- The exceptions.  `failure` is every exception of the connection and the database. -/
inductive AuditError where
  | conflict
  | invalid
  | failure
  | transport (kind : TransportKind)
deriving DecidableEq, Repr

inductive AppendResult where
  | inserted
  | duplicateMatch
deriving DecidableEq, Repr

/-- The value of a result. -/
def AppendResult.value : AppendResult → String
  | .inserted => "INSERTED"
  | .duplicateMatch => "DUPLICATE_MATCH"

/-- A response: its status, and the result in its envelope. -/
structure Response where
  status : ℕ
  result : String
deriving DecidableEq, Repr

/-- The calls of the services and the edges. -/
inductive AuditOp (ρ : Type) where
  -- the transport
  | post (raw : List UInt8)
  | await (message : ℕ)
  | receive
  | respond (message : ℕ) (response : Response)
  -- the connection of an edge
  | cursor
  | insert (record : ρ)
  | select (id : CodePoints)
  | commit
  | rollback
  -- the store as a whole
  | append (record : ρ)

/-- The type of the answers to a call, in a store with such ids and times. -/
abbrev AuditOp.Ans (κ τ : Type) : AuditOp ρ → Type
  | .post _ => ℕ
  | .await _ => Response
  | .receive => ℕ × List UInt8
  | .insert _ => Bool
  | .select _ => Option (StoredRow κ τ)
  | .append _ => AppendResult
  | _ => Unit

abbrev auditSignature (ρ κ τ : Type) : Signature := ⟨AuditOp ρ, AuditOp.Ans κ τ⟩

abbrev AuditProgram (ρ κ τ : Type) := Program (auditSignature ρ κ τ) AuditError

/-- One call. -/
def perform (op : AuditOp ρ) : AuditProgram ρ κ τ (op.Ans κ τ) :=
  Program.perform (S := auditSignature ρ κ τ) op

/-! ## The services -/

/-- `_STATUS_TO_KIND`. -/
def kindOf (status : ℕ) : TransportKind :=
  if status = 409 then
    .conflict
  else if status = 503 then
    .unavailable
  else
    .invalid

/-- What a client makes of a response. -/
def interpret (response : Response) : Except AuditError Unit :=
  if response.status ≠ 200 then
    .error (.transport (kindOf response.status))
  else if response.result ∈ ["INSERTED", "DUPLICATE_MATCH"] then
    .ok ()
  else
    .error (.transport .invalid)

/-- One POST of the clients `HttpRoutingAudit`, `DurableAuditEmitter` and
`DurableImportAuditEmitter`. -/
def post (raw : List UInt8) : AuditProgram ρ κ τ Unit := do
  let message ← perform (.post raw)
  let response ← perform (.await message)
  .ret (interpret response)

/-- `BoundedGatewayAuditPolicy.emit` and `BoundedImportAuditPolicy.initiate`: one retry, of the
same bytes, where the first POST found the edge unavailable. -/
def bounded (raw : List UInt8) : AuditProgram ρ κ τ Unit :=
  (post raw).rescue fun first =>
    if first = .transport .unavailable then post raw else Program.raise first

/-- The events of denials, whose failure leaves the denial as it is. -/
def swallowedActions : List String :=
  ["RouteDenied", "IsolationAnomaly"]

/-- `BoundedRoutingAuditPolicy.initiate`: as before, with `_terminal` at the end. -/
def boundedRoutingAuditPolicy (action : String) (raw : List UInt8) : AuditProgram ρ κ τ Unit :=
  (bounded raw).rescue fun last =>
    if swallowedActions.contains action then pure () else Program.raise last

/-! ## The edges -/

/-- `append_routing_audit`, `append_gateway_audit` and `append_import_audit`, within their
`try`. -/
def AuditStore.transact [DecidableEq τ] (store : AuditStore ρ κ τ) (record : ρ) :
    AuditProgram ρ κ τ AppendResult := do
  perform .cursor
  let inserted ← perform (.insert record)
  if inserted then
    perform .commit
    return .inserted
  else
    let stored ← perform (.select (store.id record))
    perform .rollback
    if stored.any (store.replayMatches · record) then
      return .duplicateMatch
    else
      Program.raise .conflict

/-- The handlers of the `try`: bounded errors are raised again, and any other ends the
transaction first. -/
def closing (e : AuditError) : AuditProgram ρ κ τ AppendResult :=
  if e = .conflict ∨ e = .invalid then
    Program.raise e
  else
    ((perform .rollback).rescue fun _ => pure ()).andThen fun _ => Program.raise e

/-- An append to a store. -/
def AuditStore.appendAudit [DecidableEq τ] (store : AuditStore ρ κ τ) (record : ρ) :
    AuditProgram ρ κ τ AppendResult :=
  if store.validate record then
    (store.transact record).rescue closing
  else
    Program.raise .invalid

/-- An append to a store in one call. -/
def AuditStore.appendAtOnce (store : AuditStore ρ κ τ) (record : ρ) :
    AuditProgram ρ κ τ AppendResult :=
  if store.validate record then
    perform (.append record)
  else
    Program.raise .invalid

/-- The response to an append. -/
def responseTo : Except AuditError AppendResult → Response
  | .ok result => ⟨200, result.value⟩
  | .error .conflict => ⟨409, "CONFLICT"⟩
  | .error .invalid => ⟨400, "INVALID"⟩
  | .error _ => ⟨503, "UNAVAILABLE"⟩

/-- `ingest`, for requests without a query: the record of the body, and its append. -/
def ingest (parse : List UInt8 → Option ρ) (append : ρ → AuditProgram ρ κ τ AppendResult)
    (raw : List UInt8) : AuditProgram ρ κ τ Response :=
  match parse raw with
  | none => pure ⟨400, "INVALID"⟩
  | some record => (append record).andThen fun r => pure (responseTo r)

/-- An edge, for this many requests. -/
def serve (parse : List UInt8 → Option ρ) (append : ρ → AuditProgram ρ κ τ AppendResult) :
    ℕ → AuditProgram ρ κ τ Unit
  | 0 => pure ()
  | n + 1 => do
      let (message, raw) ← perform .receive
      let response ← ingest parse append raw
      perform (.respond message response)
      serve parse append n

/-! ## The machines -/

/-- What one call leaves to the outside world. -/
inductive Fate where
  | works
  | fails
  /-- The connection is lost before the call took effect. -/
  | lost
  /-- The connection is lost after the call took effect. -/
  | lostAfter
deriving DecidableEq, Repr

structure AuditChoice where
  fate : Fate
  /-- The request that an edge is handed. -/
  message : ℕ
deriving Repr

/-- The requests that were sent, which of them an edge was handed, and the responses, the latest
first. -/
structure Network where
  sent : List (ℕ × List UInt8)
  received : List ℕ
  responses : List (ℕ × Response)
deriving DecidableEq

namespace Network

def empty : Network := ⟨[], [], []⟩

/-- The answer of the transport to a call; a request may wait for ever, and a client gives up when
it likes. -/
def answer (n : Network) (c : AuditChoice) :
    (op : AuditOp ρ) → Option (Except AuditError (op.Ans κ τ) × Network)
  | .post raw =>
      if c.fate = .works then
        some (.ok n.sent.length, { n with sent := (n.sent.length, raw) :: n.sent })
      else
        some (.error (.transport .unavailable), n)
  | .await message =>
      if c.fate = .works then
        (n.responses.lookup message).map fun response => (.ok response, n)
      else
        some (.error (.transport .unavailable), n)
  | .receive =>
      if c.message ∈ n.received then
        none
      else
        (n.sent.lookup c.message).map fun raw =>
          (.ok (c.message, raw), { n with received := c.message :: n.received })
  | .respond message response =>
      some (.ok (), { n with responses := (message, response) :: n.responses })
  | _ => none

end Network

/-- The connection that an edge keeps. -/
inductive Connection where
  | closed
  | up
  | lost
deriving DecidableEq, Repr

/-- The table with the sessions of the edges, their connections, and the transport. -/
structure AuditState (κ τ ι : Type) where
  db : Database (List (StoredRow κ τ)) (StoredRow κ τ) κ ι
  connections : ι → Connection
  network : Network

namespace AuditState

variable {ι : Type} [DecidableEq ι] [DecidableEq κ] (s : AuditState κ τ ι)

/-- The connection of the session is lost, and its transaction ends without effect. -/
def lose (i : ι) : AuditState κ τ ι :=
  { s with
    db := s.db.rollback i
    connections := Function.update s.connections i .lost }

/-- A statement of the session fails. -/
def abort (i : ι) : AuditState κ τ ι :=
  { s with db := s.db.abort i }

/-- A statement: it fails in a failed transaction and without a connection. -/
def statement {α : Type} (i : ι) (fate : Fate)
    (run : Option (Except AuditError α × AuditState κ τ ι)) :
    Option (Except AuditError α × AuditState κ τ ι) :=
  if s.connections i = .up then
    match fate with
    | .works => if s.db.aborted i then some (.error .failure, s.abort i) else run
    | .fails => some (.error .failure, s.abort i)
    | .lost | .lostAfter => some (.error .failure, s.lose i)
  else
    some (.error .failure, s)

/-- The answer to a call. -/
def answer (store : AuditStore ρ κ τ) (i : ι) (c : AuditChoice) :
    (op : AuditOp ρ) → Option (Except AuditError (op.Ans κ τ) × AuditState κ τ ι)
  | .cursor =>
      match s.connections i with
      | .closed =>
          if c.fate = .works then
            some (.ok (), { s with connections := Function.update s.connections i .up })
          else
            some (.error .failure, s)
      | .up => some (.ok (), s)
      | .lost => some (.error .failure, s)
  | .insert record =>
      s.statement i c.fate <|
        match store.rowOf record with
        | none => some (.error .failure, s.abort i)
        | some row =>
            (AppendOnce.insert StoredRow.id s.db i row).map fun (inserted, db) =>
              (.ok inserted, { s with db := db })
  | .select id =>
      s.statement i c.fate <|
        match store.idInput id with
        | none => some (.error .failure, s.abort i)
        | some k =>
            match AppendOnce.held StoredRow.id k
                (s.db.view (AppendOnce.schema StoredRow.id) i) with
            | none => some (.ok none, s)
            | some row =>
                -- the driver raises where it cannot load a value, and the transaction goes on
                if store.loads row.occurredAt then some (.ok (some row), s)
                else some (.error .failure, s)
  | .commit =>
      if s.connections i = .up then
        match c.fate with
        | .works =>
            -- the commit of a failed transaction ends it without effect, and raises nothing
            if s.db.aborted i then some (.ok (), { s with db := s.db.rollback i })
            else some (.ok (), { s with db := s.db.commit (AppendOnce.schema StoredRow.id) i })
        | .fails => some (.error .failure, { s with db := s.db.rollback i })
        | .lost => some (.error .failure, s.lose i)
        | .lostAfter =>
            some (.error .failure,
              { s with db := s.db.commit (AppendOnce.schema StoredRow.id) i }.lose i)
      else
        some (.error .failure, s)
  | .rollback =>
      match s.connections i with
      | .closed =>
          if c.fate = .works then
            some (.ok (), { s with connections := Function.update s.connections i .up })
          else
            some (.error .failure, s)
      | .up =>
          if c.fate = .works then some (.ok (), { s with db := s.db.rollback i })
          else some (.error .failure, s.lose i)
      | .lost => some (.error .failure, s)
  | .append _ => none
  | op => (s.network.answer c op).map fun (r, n) => (r, { s with network := n })

end AuditState

/-- The table of a store as a machine for the threads of `ι`. -/
abbrev auditDatabase [DecidableEq κ] (store : AuditStore ρ κ τ) (ι : Type) [DecidableEq ι] :
    Machine (auditSignature ρ κ τ) AuditError ι where
  State := AuditState κ τ ι
  Choice := AuditChoice
  answer i op c s := s.answer store i c op
  drop i s := { s with db := s.db.rollback i }

/-- The rows of a table, with the transport. -/
structure AtomicState (κ τ : Type) where
  log : List (StoredRow κ τ)
  network : Network

/-- An append in one step: the answer, and the rows after it. -/
def AuditStore.append [DecidableEq κ] [DecidableEq τ] (store : AuditStore ρ κ τ) (record : ρ)
    (log : List (StoredRow κ τ)) : Except AuditError AppendResult × List (StoredRow κ τ) :=
  match store.rowOf record with
  | none => (.error .failure, log)
  | some row =>
      match AppendOnce.held StoredRow.id row.id log with
      | none => (.ok .inserted, log ++ [row])
      | some stored =>
          if store.loads stored.occurredAt then
            if store.replayMatches stored record then (.ok .duplicateMatch, log)
            else (.error .conflict, log)
          else
            (.error .failure, log)

namespace AtomicState

variable [DecidableEq κ] [DecidableEq τ] (s : AtomicState κ τ)

/-- The answer to a call: an append works, or it fails with or without effect. -/
def answer (store : AuditStore ρ κ τ) (c : AuditChoice) :
    (op : AuditOp ρ) → Option (Except AuditError (op.Ans κ τ) × AtomicState κ τ)
  | .append record =>
      let (r, log) := store.append record s.log
      match c.fate with
      | .works => some (r, { s with log := log })
      | .fails | .lost => some (.error .failure, s)
      | .lostAfter => some (.error .failure, { s with log := log })
  | .cursor | .insert _ | .select _ | .commit | .rollback => none
  | op => (s.network.answer c op).map fun (r, n) => (r, { s with network := n })

end AtomicState

/-- A store that appends in one step, as a machine for the threads of `ι`. -/
abbrev atomicStore [DecidableEq κ] [DecidableEq τ] (store : AuditStore ρ κ τ) (ι : Type) :
    Machine (auditSignature ρ κ τ) AuditError ι where
  State := AtomicState κ τ
  Choice := AuditChoice
  answer _ op c s := s.answer store c op
  drop _ s := s

/-! ## The system -/

/-- The policies that a service wraps its client in. -/
inductive Policy where
  | routing (action : String)
  | gateway
  | imports
deriving DecidableEq, Repr

/-- The policy swallows a failure. -/
def Policy.swallows : Policy → Bool
  | .routing action => swallowedActions.contains action
  | .gateway | .imports => false

/-- An event that a service emits, as its bytes. -/
structure Emission where
  policy : Policy
  raw : List UInt8

/-- The emission of an event. -/
def Emission.emit (emission : Emission) : AuditProgram ρ κ τ Unit :=
  match emission.policy with
  | .routing action => boundedRoutingAuditPolicy action emission.raw
  | .gateway | .imports => bounded emission.raw

variable {E W : Type}

/-- What every thread runs: a service emits one event, and an edge serves this many requests. -/
def threads (parse : List UInt8 → Option ρ) (append : ρ → AuditProgram ρ κ τ AppendResult)
    (emissions : E → Emission) (rounds : W → ℕ) : E ⊕ W → Option (AuditProgram ρ κ τ Unit)
  | .inl e => some (emissions e).emit
  | .inr w => some (serve parse append (rounds w))

variable [DecidableEq E] [DecidableEq W] [DecidableEq κ] [DecidableEq τ]

/-- The services and the edges of a store, before anything is sent. -/
def system (store : AuditStore ρ κ τ) (parse : List UInt8 → Option ρ) (emissions : E → Emission)
    (rounds : W → ℕ) (log : List (StoredRow κ τ)) :
    (auditDatabase store (E ⊕ W)).Config Unit where
  state := ⟨.quiet log, fun _ => .closed, .empty⟩
  threads := threads parse store.appendAudit emissions rounds

/-- The same on a store that appends in one step. -/
def atomicSystem (store : AuditStore ρ κ τ) (parse : List UInt8 → Option ρ)
    (emissions : E → Emission) (rounds : W → ℕ) (log : List (StoredRow κ τ)) :
    (atomicStore store (E ⊕ W)).Config Unit where
  state := ⟨log, .empty⟩
  threads := threads parse store.appendAtOnce emissions rounds

/-! ## A run -/

/-- A database and a library that read one id and one time. -/
def sampleDriver : Driver CodePoints CodePoints where
  uuid text := if text = CodePoints.ofString "8c1d0d5e-5f0a-4c39-9a0e-3d2b1f0a7c11" then some text
    else none
  uuidText := id
  timestamptz text := if text = CodePoints.ofString "2026-01-02T03:04:05+00:00" then some text
    else none
  loads _ := true
  fromisoformat text := if text = CodePoints.ofString "2026-01-02T03:04:05+00:00" then some text
    else none
  timeText _ := CodePoints.ofString "2026-01-02 03:04:05+00:00"
  lower text := text

/-- The id of the event of the run. -/
def sampleId : String :=
  "8c1d0d5e5f0a4c399a0e3d2b1f0a7c11"

/-- The body of the event of a completed import. -/
def sampleBody : Wire :=
  let field (key value : String) : CodePoints × Wire :=
    (CodePoints.ofString key, .text (CodePoints.ofString value))
  .object [(CodePoints.ofString "version", .int 1),
    (CodePoints.ofString "event", .object
      [field "audit_id" sampleId,
        (CodePoints.ofString "event_version", .int 1),
        field "occurred_at" "2026-01-02T03:04:05+00:00", field "correlation_id" "c-1",
        field "action" "ImportCompleted", field "outcome" "success", field "actor_ref" "operator",
        field "target_ref" "tenant-1", field "source_ref" "src-1"])]

/-- The decoder, on the bytes of one event. -/
def sampleLoads (raw : List UInt8) : Option Wire :=
  if raw = [1] then some sampleBody else none

def sampleParse : List UInt8 → Option ImportAudit.ImportAuditRecord :=
  ImportAudit.parseRecord sampleLoads

/-- One service and two edges.  The commit of the first edge takes effect, but its connection is
lost. -/
def sampleMoves : List (Move (Unit ⊕ Bool) AuditChoice) :=
  let edge (fate : Fate) : Move (Unit ⊕ Bool) AuditChoice := .call (.inr false) ⟨fate, 0⟩
  [.call (.inl ()) ⟨.works, 0⟩, edge .works, edge .works, edge .works, edge .lostAfter]

/-- The service posts again, and the second edge recognises the event. -/
def sampleRetry : List (Move (Unit ⊕ Bool) AuditChoice) :=
  let service : Move (Unit ⊕ Bool) AuditChoice := .call (.inl ()) ⟨.works, 0⟩
  let edge (w : Bool) (message : ℕ) : Move (Unit ⊕ Bool) AuditChoice :=
    .call (.inr w) ⟨.works, message⟩
  [edge false 0, edge false 0, service, service, edge true 1, edge true 1, edge true 1,
    edge true 1, edge true 1, edge true 1, service]

/-- The services and the edges of the run. -/
abbrev sampleSystem :
    (auditDatabase (importAuditStore sampleDriver) (Unit ⊕ Bool)).Config Unit :=
  system (importAuditStore sampleDriver) sampleParse (fun _ : Unit => ⟨.imports, [1]⟩)
    (fun _ : Bool => 1) []

/-- What the transport did at the end of the run. -/
def sampleNetwork : Network where
  sent := [(1, [1]), (0, [1])]
  received := [1, 0]
  responses := [(1, ⟨200, "DUPLICATE_MATCH"⟩), (0, ⟨503, "UNAVAILABLE"⟩)]

/-- The event is stored once, by the first request, and the emission succeeds. -/
theorem sample_reached :
  ∃ before cfg,
    Machine.Reaches (auditDatabase (importAuditStore sampleDriver) (Unit ⊕ Bool)).anyCall
      sampleSystem before
    ∧ Machine.Reaches (auditDatabase (importAuditStore sampleDriver) (Unit ⊕ Bool)).anyCall
      before cfg
    ∧ (before.state.db.committed.map StoredRow.id, before.state.network.sent.length)
      = ([CodePoints.ofString sampleId], 1)
    ∧ (cfg.state.db.committed.length, cfg.state.network, cfg.returned (.inl ()))
      = (1, sampleNetwork, some ())
  := by
  have hrun : ((sampleSystem.run
      (auditDatabase (importAuditStore sampleDriver) (Unit ⊕ Bool)).anyCall sampleMoves).bind
      fun before => (before.run
        (auditDatabase (importAuditStore sampleDriver) (Unit ⊕ Bool)).anyCall sampleRetry).map
        fun cfg => ((before.state.db.committed.map StoredRow.id,
            before.state.network.sent.length),
          cfg.state.db.committed.length, cfg.state.network, cfg.returned (.inl ())))
      = some (([CodePoints.ofString sampleId], 1), 1, sampleNetwork, some ()) := by
    decide +kernel
  obtain ⟨before, hbefore, hrest⟩ := Option.bind_eq_some_iff.mp hrun
  obtain ⟨cfg, hcfg, hobserved⟩ := Option.map_eq_some_iff.mp hrest
  obtain ⟨hrows, hend⟩ := Prod.mk.inj hobserved
  exact ⟨before, cfg, .of_run hbefore, .of_run hcfg, hrows, hend⟩

end ControlPlane.AuditStores
