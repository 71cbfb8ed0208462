import Mathlib.Data.List.DropRight
import Mathlib.Data.Prod.Lex
import Mathlib.Data.Set.List
import Mathlib.Data.String.Basic
import SnackPortal.Data.Keyset
import SnackPortal.SnackPortal2.AuditModels

/-!
# The audit sinks

The audit service keeps its events in one of two sinks, in memory or in a table of the control
database.  What the table returns are the events that were put into it; but it returns those that
come first by their time and id, and the sink in memory those appended last.  The two agree as
`read_agrees_iff` says; where time goes forward, only up to the limit.  The database takes no text
with a NUL in it, be it of an event or of a filter.
-/

namespace SnackPortal2.AuditService

/-! ## Events -/

/-- A stored audit record. -/
structure AuditEvent where
  eventId : String
  occurredAt : String
  sourceService : String
  action : AuditAction
  outcome : AuditOutcome
  correlationId : String
  actorRef : String
  subjectRef : Option String := none
  tenantRef : Option String := none
  recordRef : Option String := none
  carrierRef : Option String := none
deriving DecidableEq, Repr, Inhabited

/-- The event is one of the tenant and of the actor, where they are given. -/
def AuditEvent.matches_ (tenantRef actorRef : Option String) (event : AuditEvent) : Bool :=
  (tenantRef.isNone || event.tenantRef == tenantRef)
    && (actorRef.isNone || some event.actorRef == actorRef)

/-! ## The sink in memory -/

namespace InMemoryAuditSink

def append (events : List AuditEvent) (event : AuditEvent) : List AuditEvent :=
  events ++ [event]

/-- The slice from the limit, counted from the end; from zero it is the whole list. -/
def read (events : List AuditEvent) (tenantRef actorRef : Option String) (limit : Nat) :
    List AuditEvent :=
  let selected := events.filter (AuditEvent.matches_ tenantRef actorRef)
  if limit = 0 then selected else selected.drop (selected.length - limit)

end InMemoryAuditSink

/-! ## The sink in the control database -/

/-- A row of `control_ingress_audit`. -/
structure Row where
  eventId : String
  occurredAt : String
  sourceService : String
  action : String
  outcome : String
  correlationId : String
  actorRef : String
  subjectRef : Option String
  tenantRef : Option String
  recordRef : Option String
  carrierRef : Option String
deriving DecidableEq, Repr, Inhabited

/-- The row that is inserted for an event. -/
def Row.ofEvent (event : AuditEvent) : Row where
  eventId := event.eventId
  occurredAt := event.occurredAt
  sourceService := event.sourceService
  action := event.action.value
  outcome := event.outcome.value
  correlationId := event.correlationId
  actorRef := event.actorRef
  subjectRef := event.subjectRef
  tenantRef := event.tenantRef
  recordRef := event.recordRef
  carrierRef := event.carrierRef

/-- The texts of a row. -/
def Row.texts (row : Row) : List String :=
  [row.eventId, row.occurredAt, row.sourceService, row.action, row.outcome, row.correlationId,
    row.actorRef] ++ [row.subjectRef, row.tenantRef, row.recordRef, row.carrierRef].reduceOption

/-- The event of a row that was read; a text outside the vocabulary raises. -/
def Row.toEvent (row : Row) : Option AuditEvent := do
  let action ← AuditAction.ofValue row.action
  let outcome ← AuditOutcome.ofValue row.outcome
  return {
    eventId := row.eventId
    occurredAt := row.occurredAt
    sourceService := row.sourceService
    action
    outcome
    correlationId := row.correlationId
    actorRef := row.actorRef
    subjectRef := row.subjectRef
    tenantRef := row.tenantRef
    recordRef := row.recordRef
    carrierRef := row.carrierRef }

theorem Row.toEvent_ofEvent (event : AuditEvent) :
  (ofEvent event).toEvent = some event
  := by
  simp only [toEvent, ofEvent, AuditAction.ofValue_value, AuditOutcome.ofValue_value]
  rfl

namespace PostgresAuditSink

section Sink

variable {κ : Type} [LinearOrder κ] (collate : String → κ)

/-- The checks of the table on a row. -/
def admits (row : Row) : Bool :=
  row.sourceService ≠ "api_gateway"
    ∧ row.action ∈ AuditAction.all.map AuditAction.value
    ∧ row.outcome ∈ AuditOutcome.all.map AuditOutcome.value

/-- The insert, which raises on a second row with one id, where a check fails, and on a text
that the database does not take. -/
def append (table : List Row) (event : AuditEvent) : Option (List Row) :=
  let row := Row.ofEvent event
  if row.eventId ∈ table.map Row.eventId ∨ ¬ (admits row ∧ row.texts.all Text.storable) then
    none
  else
    some (table ++ [row])

/-- The order in which the rows are read: by time and then by id, under the order that the
database has on texts. -/
def orderKey (row : Row) : κ ×ₗ κ :=
  toLex (collate row.occurredAt, collate row.eventId)

/-- The row is one of the tenant and of the actor, where they are given; a null equals nothing. -/
def where_ (tenantRef actorRef : Option String) (row : Row) : Bool :=
  (tenantRef.all fun tenantRef => row.tenantRef.any (· == tenantRef))
    && actorRef.all fun actorRef => row.actorRef == actorRef

/-- The rows that are read. -/
def select (table : List Row) (tenantRef actorRef : Option String) (limit : Nat) : List Row :=
  Keyset.page (orderKey collate) (table.filter (where_ tenantRef actorRef)) none limit

/-- The read, which raises on a filter that the database does not take. -/
def read (table : List Row) (tenantRef actorRef : Option String) (limit : Nat) :
    Option (List AuditEvent) :=
  if tenantRef.all Text.storable && actorRef.all Text.storable then
    (select collate table tenantRef actorRef limit).mapM Row.toEvent
  else
    none

end Sink

end PostgresAuditSink

/-! ## One list of events in both sinks -/

/-- Both sinks have taken the events, one after the other. -/
inductive Appended : List AuditEvent → List Row → Prop where
  | nil : Appended [] []
  | append {events : List AuditEvent} {table table' : List Row} (h : Appended events table)
      (event : AuditEvent) (hevent : PostgresAuditSink.append table event = some table') :
      Appended (InMemoryAuditSink.append events event) table'

section Agreement

variable {κ : Type} [LinearOrder κ] {collate : String → κ} {events : List AuditEvent}
  {table : List Row} {tenantRef actorRef : Option String} {limit : Nat}

/-- The rows of the table are those of the events, with distinct ids. -/
theorem Appended.rows (h : Appended events table) :
  table = events.map Row.ofEvent ∧ (table.map Row.eventId).Nodup
  := by
  induction h with
  | nil => exact ⟨rfl, List.nodup_nil⟩
  | @append events table table' h event hevent ih =>
      obtain ⟨hrows, hnodup⟩ := ih
      rw [PostgresAuditSink.append] at hevent
      split_ifs at hevent with hbad
      obtain ⟨hfresh, -⟩ := not_or.mp hbad
      obtain rfl := Option.some.inj hevent
      constructor
      · rw [InMemoryAuditSink.append, List.map_append, hrows, List.map_singleton]
      · rw [List.map_append, List.nodup_append']
        use hnodup, List.nodup_singleton _
        intro id hid hnew
        obtain rfl := List.mem_singleton.mp hnew
        apply hfresh hid

/-- The two filters select the same events. -/
theorem where_ofEvent (event : AuditEvent) :
  PostgresAuditSink.where_ tenantRef actorRef (Row.ofEvent event)
    = event.matches_ tenantRef actorRef
  := by
  rw [PostgresAuditSink.where_, AuditEvent.matches_]
  congr 1
  · cases tenantRef with
    | none => rfl
    | some tenantRef =>
        simp only [Row.ofEvent, Option.all_some, Option.isNone_some, Bool.false_or]
        cases event.tenantRef with
        | none => rfl
        | some t => rfl
  · cases actorRef with
    | none => rfl
    | some actorRef => rfl

/-- What is read out of rows that were made from events are the events. -/
theorem mapM_toEvent (events : List AuditEvent) :
  (events.map Row.ofEvent).mapM Row.toEvent = some events
  := by
  induction events with
  | nil => rfl
  | cons event events ih =>
      rw [List.map_cons, List.mapM_cons, Row.toEvent_ofEvent, ih]
      rfl

theorem Row.ofEvent_injective :
  Function.Injective Row.ofEvent
  := by
  intro event event' h
  apply Option.some.inj
  rw [← Row.toEvent_ofEvent, ← Row.toEvent_ofEvent, h]

/-- In the order of the table the first event comes before the second. -/
def Precedes (collate : String → κ) (event event' : AuditEvent) : Prop :=
  PostgresAuditSink.orderKey collate (Row.ofEvent event)
    < PostgresAuditSink.orderKey collate (Row.ofEvent event')

instance (event event' : AuditEvent) : Decidable (Precedes collate event event') :=
  inferInstanceAs (Decidable (_ < _))

/-- The matching events. -/
abbrev matching (events : List AuditEvent) (tenantRef actorRef : Option String) :
    List AuditEvent :=
  events.filter (AuditEvent.matches_ tenantRef actorRef)

/-- The sink in memory returns the matching events that were appended last. -/
theorem InMemoryAuditSink.read_eq (hlimit : 0 < limit) :
  InMemoryAuditSink.read events tenantRef actorRef limit
    = (matching events tenantRef actorRef).rtake limit
  := if_neg (Nat.ne_of_gt hlimit)

/-- The first rows of the table that match are the matching events that were appended last, if
and only if these are in the order of their times and ids, and those appended before them come
after all of them in that order. -/
theorem select_eq_iff (hcollate : Function.Injective collate) (h : Appended events table) :
  (PostgresAuditSink.select collate table tenantRef actorRef limit).mapM Row.toEvent
      = some ((matching events tenantRef actorRef).rtake limit)
    ↔ ((matching events tenantRef actorRef).rtake limit).Pairwise (Precedes collate)
      ∧ ∀ earlier ∈ (matching events tenantRef actorRef).rdrop limit,
        ∀ event ∈ (matching events tenantRef actorRef).rtake limit,
          Precedes collate event earlier
  := by
  obtain ⟨rfl, hnodup⟩ := h.rows
  have hfilter : (events.map Row.ofEvent).filter (PostgresAuditSink.where_ tenantRef actorRef)
      = (matching events tenantRef actorRef).map Row.ofEvent := by
    rw [List.filter_map]
    congr 1
    apply List.filter_congr
    intro event _
    apply where_ofEvent
  have hkeys : (((matching events tenantRef actorRef).map Row.ofEvent).map
      (PostgresAuditSink.orderKey collate)).Nodup := by
    rw [← hfilter]
    apply List.Nodup.of_map (fun key => (ofLex key).2)
    rw [List.map_map]
    have hids : (((events.map Row.ofEvent).filter
        (PostgresAuditSink.where_ tenantRef actorRef)).map Row.eventId).Nodup :=
      hnodup.sublist (List.filter_sublist.map _)
    rw [← List.nodup_map_iff hcollate, List.map_map] at hids
    apply hids
  have hread : (PostgresAuditSink.select collate (events.map Row.ofEvent) tenantRef actorRef
          limit).mapM Row.toEvent
        = some ((matching events tenantRef actorRef).rtake limit)
      ↔ Keyset.page (PostgresAuditSink.orderKey collate)
          ((matching events tenantRef actorRef).map Row.ofEvent) none limit
        = ((matching events tenantRef actorRef).rtake limit).map Row.ofEvent := by
    rw [PostgresAuditSink.select, hfilter]
    obtain ⟨read, hread⟩ : ∃ read : List AuditEvent,
        Keyset.page (PostgresAuditSink.orderKey collate)
          ((matching events tenantRef actorRef).map Row.ofEvent) none limit
        = read.map Row.ofEvent := by
      have hrange : ∀ row ∈ Keyset.page (PostgresAuditSink.orderKey collate)
          ((matching events tenantRef actorRef).map Row.ofEvent) none limit,
          row ∈ Set.range Row.ofEvent := by
        intro row hrow
        obtain ⟨event, -, hevent⟩ := List.mem_map.mp (Keyset.past_of_mem_page hrow).1
        exact ⟨event, hevent⟩
      obtain ⟨read, hread⟩ := (Set.range_list_map Row.ofEvent).ge hrange
      exact ⟨read, hread.symm⟩
    rw [hread, mapM_toEvent, (List.map_injective_iff.mpr Row.ofEvent_injective).eq_iff,
      Option.some.injEq]
  have hlast : ((matching events tenantRef actorRef).rtake limit).map Row.ofEvent
      = ((matching events tenantRef actorRef).map Row.ofEvent).drop
        (((matching events tenantRef actorRef).map Row.ofEvent).length - limit) := by
    rw [List.rtake, List.length_map, List.map_drop]
  have hiff := Keyset.page_eq_drop_iff hkeys limit
  rw [hread, hlast, hiff, ← hlast, List.length_map, ← List.map_take, Keyset.Increasing,
    List.pairwise_map]
  simp only [List.forall_mem_map]
  rfl

/-- The table is read as the sink in memory is, and both return the matching events that were
appended last, if and only if the database takes the filter, these events are in the order of
their times and ids, and those appended before them come after all of them in that order. -/
theorem read_agrees_iff (hcollate : Function.Injective collate) (h : Appended events table)
    (hlimit : 0 < limit) :
  PostgresAuditSink.read collate table tenantRef actorRef limit
        = some (InMemoryAuditSink.read events tenantRef actorRef limit)
      ∧ InMemoryAuditSink.read events tenantRef actorRef limit
        = (matching events tenantRef actorRef).rtake limit
    ↔ (tenantRef.all Text.storable ∧ actorRef.all Text.storable)
      ∧ ((matching events tenantRef actorRef).rtake limit).Pairwise (Precedes collate)
      ∧ ∀ earlier ∈ (matching events tenantRef actorRef).rdrop limit,
        ∀ event ∈ (matching events tenantRef actorRef).rtake limit,
          Precedes collate event earlier
  := by
  rw [InMemoryAuditSink.read_eq hlimit, ← select_eq_iff hcollate h, PostgresAuditSink.read,
    and_iff_left rfl, ← Bool.and_eq_true]
  split_ifs with hstorable
  · exact (and_iff_right hstorable).symm
  · constructor
    · intro hraised
      cases hraised
    · rintro ⟨htakes, -⟩
      apply absurd htakes hstorable

/-- Where the events were appended in the order of their times and ids, the table is read as the
sink in memory is, if and only if the database takes the filter and no more events match than are
asked for. -/
theorem read_agrees_iff_of_forward (hcollate : Function.Injective collate)
    (h : Appended events table) (hforward : events.Pairwise (Precedes collate)) (hlimit : 0 < limit) :
  PostgresAuditSink.read collate table tenantRef actorRef limit
      = some (InMemoryAuditSink.read events tenantRef actorRef limit)
    ↔ (tenantRef.all Text.storable ∧ actorRef.all Text.storable)
      ∧ (matching events tenantRef actorRef).length ≤ limit
  := by
  have hread : InMemoryAuditSink.read events tenantRef actorRef limit
      = (matching events tenantRef actorRef).rtake limit := InMemoryAuditSink.read_eq hlimit
  refine (and_iff_left hread).symm.trans ((read_agrees_iff hcollate h hlimit).trans ?_)
  apply and_congr_right
  intro _
  rw [List.rtake, List.rdrop]
  have hmatching : (matching events tenantRef actorRef).Pairwise (Precedes collate) :=
    hforward.sublist List.filter_sublist
  constructor
  · intro ⟨_, hpast⟩
    by_contra hmore
    have hsplit := List.take_append_drop ((matching events tenantRef actorRef).length - limit)
      (matching events tenantRef actorRef)
    rw [← hsplit] at hmatching
    obtain ⟨-, -, hbefore⟩ := List.pairwise_append.mp hmatching
    obtain ⟨earlier, hearlier⟩ : ∃ earlier, earlier ∈ (matching events tenantRef actorRef).take
        ((matching events tenantRef actorRef).length - limit) := by
      apply List.exists_mem_of_length_pos
      rw [List.length_take]
      omega
    obtain ⟨event, hevent⟩ : ∃ event, event ∈ (matching events tenantRef actorRef).drop
        ((matching events tenantRef actorRef).length - limit) := by
      apply List.exists_mem_of_length_pos
      rw [List.length_drop]
      omega
    apply lt_asymm (hbefore earlier hearlier event hevent) (hpast earlier hearlier event hevent)
  · intro hle
    have hnone : (matching events tenantRef actorRef).length - limit = 0 := by omega
    use hmatching.sublist (List.drop_sublist _ _)
    intro earlier hearlier
    rw [hnone, List.take_zero] at hearlier
    cases hearlier

end Agreement

/-! ### Two events -/

/-- An event of the minute. -/
def sampleEvent (minute : String) : AuditEvent where
  eventId := minute
  occurredAt := "2026-01-01T00:" ++ minute ++ ":00+00:00"
  sourceService := "bff"
  action := .tenantStartupRead
  outcome := .allowed
  correlationId := "c-1"
  actorRef := "user:1"
  tenantRef := some "t1"

theorem sampleEvents_appended :
  Appended [sampleEvent "01", sampleEvent "02"]
    [Row.ofEvent (sampleEvent "01"), Row.ofEvent (sampleEvent "02")]
  := by
  have hfirst : Appended [sampleEvent "01"] [Row.ofEvent (sampleEvent "01")] :=
    .append .nil (sampleEvent "01") (by decide)
  exact .append hfirst (sampleEvent "02") (by decide)

/-- Of two events, the sink in memory returns the later one and the table the earlier one. -/
theorem read_disagrees :
  ∃ events table, Appended events table
    ∧ InMemoryAuditSink.read events (some "t1") none 1 = [sampleEvent "02"]
    ∧ PostgresAuditSink.read id table (some "t1") none 1 = some [sampleEvent "01"]
  := by
  use [sampleEvent "01", sampleEvent "02"]
  use [Row.ofEvent (sampleEvent "01"), Row.ofEvent (sampleEvent "02")]
  use sampleEvents_appended
  constructor
  · decide
  · decide +kernel

/-- Asked for two events, both sinks return both. -/
theorem read_agrees_iff_sample :
  PostgresAuditSink.read id [Row.ofEvent (sampleEvent "01"), Row.ofEvent (sampleEvent "02")]
        (some "t1") none 2
      = some (InMemoryAuditSink.read [sampleEvent "01", sampleEvent "02"] (some "t1") none 2)
    ∧ InMemoryAuditSink.read [sampleEvent "01", sampleEvent "02"] (some "t1") none 2
      = (matching [sampleEvent "01", sampleEvent "02"] (some "t1") none).rtake 2
  := by
  apply (read_agrees_iff Function.injective_id sampleEvents_appended (by decide)).mpr
  constructor
  · decide
  · constructor
    · decide +kernel
    · intro earlier hearlier
      cases hearlier

end SnackPortal2.AuditService
