import Mathlib
import SnackPortal.StartupImport.Store

/-!
# Imports in memory

`ImportService` over `InMemoryImportStore`: one request after another, on tables in memory.  What
an import leaves is read back from these tables and from those of the database alike, as its
provenance without the identities that a store generates.
-/

namespace StartupImport

open SnackPortal2 (Fields InMemoryTenantTable composeRecordRef parseRecordRef)
open Lineage (LineageRow)
open TenantDatabase (ServiceError Tables copyKey)

/-! ### Tables in memory -/

section Table

variable {table : InMemoryTenantTable} {tenantRef : String} {fields : Fields} {n : Nat}

/-- The row that was inserted last is the one with the highest number. -/
theorem get_insert_self (h : table.counters tenantRef = n) :
  (table.insert tenantRef fields).2.get tenantRef (toString (n + 1)) = some fields
  := by
  simp only [InMemoryTenantTable.insert, InMemoryTenantTable.get, Function.update_self, h,
    AList.lookup_insert]

/-- The rows with other numbers stay as they are. -/
theorem get_insert_of_ne {m : Nat} (h : table.counters tenantRef = n) (hm : m ≠ n) :
  (table.insert tenantRef fields).2.get tenantRef (toString (m + 1))
    = table.get tenantRef (toString (m + 1))
  := by
  have hne : toString (m + 1) ≠ toString (n + 1) := by
    intro heq
    exact hm (Nat.succ.inj (Nat.repr_injective heq))
  simp only [InMemoryTenantTable.insert, InMemoryTenantTable.get, Function.update_self, h,
    AList.lookup_insert_ne hne]

theorem counters_insert (h : table.counters tenantRef = n) :
  (table.insert tenantRef fields).2.counters tenantRef = n + 1
  := by
  simp only [InMemoryTenantTable.insert, Function.update_self, h]

end Table

/-! ### The store -/

/-- The copies, their lineage rows and the imports by their keys. -/
structure InMemoryImportStore where
  startups : InMemoryTenantTable := ⟨fun _ => ∅, fun _ => 0⟩
  lineage : InMemoryTenantTable := ⟨fun _ => ∅, fun _ => 0⟩
  byKey : AList (fun _ : String × String => ImportRecord) := ∅

namespace InMemoryImportStore

/-- The fields of a copy. -/
def copyFields (source : GlobalSourceRecord) : Fields :=
  [⟨"global_startup_id", some source.recordRef⟩, ⟨"company_name", some source.displayName⟩,
    ⟨"industry", source.attributes.lookup "industry"⟩,
    ⟨"headquarters_country", source.attributes.lookup "headquarters_country"⟩].toAList

/-- The fields of a lineage row. -/
def lineageFields (key targetRef occurredAt : String) (source : GlobalSourceRecord)
    (attribution : ImportAttribution) : Fields :=
  [⟨"event_type", some "import"⟩, ⟨"occurred_at", some occurredAt⟩,
    ⟨"actor_ref", some attribution.actorRef⟩, ⟨"operation", some "global_startup_import"⟩,
    ⟨"source_ref", some source.recordRef⟩, ⟨"target_ref", some targetRef⟩,
    ⟨"derivation_ref", some key⟩, ⟨"correlation_id", attribution.correlationId⟩].toAList

variable (store : InMemoryImportStore)

/-- `find_existing`. -/
def findExisting (tenantRef key : String) : Option ImportRecord :=
  store.byKey.lookup (tenantRef, key)

/-- `write_import`. -/
def writeImport (tenantRef key : String) (source : GlobalSourceRecord)
    (attribution : ImportAttribution) (now : String) :
    (ImportRecord × Bool) × InMemoryImportStore :=
  let (startupIdentity, startups) := store.startups.insert tenantRef (copyFields source)
  let tenantRecordRef := composeRecordRef tenantRef "startups" startupIdentity
  let (lineageIdentity, lineage) := store.lineage.insert tenantRef
    (lineageFields key tenantRecordRef now source attribution)
  let lineageRef := composeRecordRef tenantRef "lineage" lineageIdentity
  let record : ImportRecord := ⟨key, tenantRecordRef, lineageRef⟩
  ((record, false), ⟨startups, lineage, store.byKey.insert (tenantRef, key) record⟩)

/-- `import_startup`, where the directory holds `source` for the reference. -/
def importStartup (digest : String → String) (context : RequestContext) (sourceRef : String)
    (source : Option GlobalSourceRecord) (now : String) :
    Except ServiceError ((ImportRecord × Bool) × InMemoryImportStore) :=
  match context.tenantContext.filter (· ≠ "") with
  | none => .error .consistentTenantDenial
  | some tenantRef =>
      let key := operationKey digest tenantRef sourceRef
      match store.findExisting tenantRef key, source with
      | some existing, _ => .ok ((existing, true), store)
      | none, none => .error .notFound
      | none, some source =>
          .ok (store.writeImport tenantRef key source
            ⟨context.principalRef, context.correlationId⟩ now)

end InMemoryImportStore

/-! ### Requests one after another -/

/-- A request as it is served: whose it is, what the directory holds for it, and the time. -/
structure Served (ι : Type) where
  request : ι
  source : GlobalSourceRecord
  now : String

section Serving

variable {ι : Type} (digest : String → String) (contexts : ι → RequestContext)
  (sources : ι → String)

/-- The next request is served. -/
def serve (done : List (ImportRecord × Bool) × InMemoryImportStore) (r : Served ι) :
    Except ServiceError (List (ImportRecord × Bool) × InMemoryImportStore) := do
  let (answer, store) ← done.2.importStartup digest (contexts r.request) (sources r.request)
    (some r.source) r.now
  pure (done.1 ++ [answer], store)

/-- The requests are served in order, from an empty store. -/
def serveAll (served : List (Served ι)) :
    Except ServiceError (List (ImportRecord × Bool) × InMemoryImportStore) :=
  served.foldlM (serve digest contexts sources) ([], {})

end Serving

/-! ### Provenance -/

/-- A copy and its lineage row, without generated identities. -/
structure Provenance where
  globalStartupId : Option String
  companyName : Option String
  industry : Option String
  headquartersCountry : Option String
  eventType : Option String
  occurredAt : Option String
  actorRef : Option String
  operation : Option String
  sourceRef : Option String
  derivationRef : Option String
  correlationId : Option String
deriving DecidableEq, Repr

/-- The copy that the lineage row is of, where the table holds it under the identity in the row's
target. -/
def copyOf (tenantRef : String) (d : Tables) (row : LineageRow) :
    Option ImportService.Columns :=
  (parseRecordRef tenantRef "startups" row.targetRef).bind fun identity =>
    (d.records.lookup (copyKey row.sourceRef)).filter fun columns =>
      columns.lookup "id" = some (.text identity)

/-- The text of a column. -/
def columnText (columns : ImportService.Columns) (name : String) : Option String :=
  match columns.lookup name with
  | some (.text value) => some value
  | _ => none

/-- What the tables tell of the import of a lineage row. -/
def rowProvenance (tenantRef : String) (d : Tables) (row : LineageRow) : Option Provenance :=
  (copyOf tenantRef d row).map fun copy =>
    { globalStartupId := columnText copy "global_startup_id"
      companyName := columnText copy "company_name"
      industry := columnText copy "industry"
      headquartersCountry := columnText copy "headquarters_country"
      eventType := some row.eventType
      occurredAt := some row.occurredAt
      actorRef := some row.actorRef
      operation := some row.operation
      sourceRef := some row.sourceRef
      derivationRef := row.derivationRef
      correlationId := row.correlationId }

/-- The provenance that the tables hold beyond that of `d₀`. -/
def provenanceSince (tenantRef : String) (d₀ d : Tables) : List (Option Provenance) :=
  (d.lineage.drop d₀.lineage.length).map (rowProvenance tenantRef d)

namespace InMemoryImportStore

variable (store : InMemoryImportStore)

/-- The value of a field. -/
def value (fields : Fields) (name : String) : Option String :=
  (fields.lookup name).join

/-- What the store tells of the import of its lineage row with the identity. -/
def provenanceAt (tenantRef identity : String) : Option Provenance := do
  let row ← store.lineage.get tenantRef identity
  let targetRef ← value row "target_ref"
  let copyIdentity ← parseRecordRef tenantRef "startups" targetRef
  let copy ← store.startups.get tenantRef copyIdentity
  some {
    globalStartupId := value copy "global_startup_id"
    companyName := value copy "company_name"
    industry := value copy "industry"
    headquartersCountry := value copy "headquarters_country"
    eventType := value row "event_type"
    occurredAt := value row "occurred_at"
    actorRef := value row "actor_ref"
    operation := value row "operation"
    sourceRef := value row "source_ref"
    derivationRef := value row "derivation_ref"
    correlationId := value row "correlation_id" }

/-- The provenance that the store holds, in the order in which it was written. -/
def provenance (tenantRef : String) : List (Option Provenance) :=
  (List.range (store.lineage.counters tenantRef)).map fun n =>
    store.provenanceAt tenantRef (toString (n + 1))

end InMemoryImportStore

end StartupImport
