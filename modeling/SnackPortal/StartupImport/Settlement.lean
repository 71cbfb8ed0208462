import SnackPortal.StartupImport.Store

/-!
# What an import leaves

For a source the tables hold either all rows of one import or none.  The four writes of such
an import lead from none to all, without a trace on any other source.
-/

namespace StartupImport

open Lineage (LineageRow)
open SnackPortal2 (composeRecordRef)
open TenantDatabase

section Tables

variable (digest : String → String) (tenantRef : String)

/-- No row of an import of the source. -/
structure Absent (src : String) (d : Tables) : Prop where
  copy : d.records.lookup (copyKey src) = none
  sourced : d.lineage.filter (·.sourceRef = src) = []
  derived : d.lineage.filter (·.derivationRef = some (operationKey digest tenantRef src)) = []
  job : d.jobs.lookup (operationKey digest tenantRef src) = none
  idempotency : d.idempotency.lookup (operationKey digest tenantRef src) = none

/-- The rows of one import of the source, whose record is `record`: one copy, one lineage row
from the source to the copy, one completed job and one idempotency row. -/
structure Present (src : String) (record : ImportRecord) (d : Tables) : Prop where
  importId : record.importId = operationKey digest tenantRef src
  copy : ∃ source id, source.recordRef = src
    ∧ d.records.lookup (copyKey src) = some (copyColumns source id)
    ∧ record.tenantRecordRef = composeRecordRef tenantRef "startups" id.repr
  lineage : ∃ row, d.lineage.filter (·.sourceRef = src) = [row]
    ∧ d.lineage.filter (·.derivationRef = some (operationKey digest tenantRef src)) = [row]
    ∧ row.targetRef = record.tenantRecordRef
    ∧ record.lineageRef = composeRecordRef tenantRef "lineage" row.lineageId
  job : ∃ attribution, d.jobs.lookup (operationKey digest tenantRef src)
    = some (PostgresImportStore.jobRow tenantRef (operationKey digest tenantRef src) attribution)
  idempotency : d.idempotency.lookup (operationKey digest tenantRef src)
    = some ⟨operationKey digest tenantRef src, operationKey digest tenantRef src, "completed",
        1, 0, 0⟩

/-- All rows of one import of the source, or none. -/
def Settled (src : String) (d : Tables) : Prop :=
  Absent digest tenantRef src d ∨ ∃ record, Present digest tenantRef src record d

variable {digest tenantRef} {src : String} {d : Tables}

/-- Where no import is recorded none is found. -/
theorem Absent.existing (h : Absent digest tenantRef src d) :
  d.existing (operationKey digest tenantRef src) = none
  := by
  rw [Tables.existing, h.idempotency, Option.bind_none]

/-- Where one is recorded its record is found. -/
theorem Present.existing {record : ImportRecord} (h : Present digest tenantRef src record d) :
  (d.existing (operationKey digest tenantRef src)).map (PostgresImportStore.recordOf tenantRef)
    = some record
  := by
  obtain ⟨row, -, hderived, htarget, href⟩ := h.lineage
  rw [Tables.existing, h.idempotency, Option.bind_some, hderived, List.argmin_singleton,
    Option.map_some, Option.map_some, PostgresImportStore.recordOf, htarget, ← href,
    ← h.importId]

/-- The tables tell which record it is. -/
theorem Present.unique {record record' : ImportRecord}
    (h : Present digest tenantRef src record d) (h' : Present digest tenantRef src record' d) :
  record = record'
  := Option.some.inj (h.existing.symm.trans h'.existing)

/-- The rows are there or not. -/
theorem Absent.not_present (h : Absent digest tenantRef src d) {record : ImportRecord} :
  ¬ Present digest tenantRef src record d
  := by
  intro hpresent
  obtain ⟨_, _, -, hcopy, -⟩ := hpresent.copy
  rw [h.copy] at hcopy
  cases hcopy

/-- A source is settled with the record that is found. -/
theorem Settled.of_existing (h : Settled digest tenantRef src d) :
  (∃ record, (d.existing (operationKey digest tenantRef src)).map
      (PostgresImportStore.recordOf tenantRef) = some record
      ∧ Present digest tenantRef src record d)
    ∨ (d.existing (operationKey digest tenantRef src)).map
        (PostgresImportStore.recordOf tenantRef) = none
      ∧ Absent digest tenantRef src d
  := by
  rcases h with habsent | ⟨record, hpresent⟩
  · right
    rw [habsent.existing]
    exact ⟨rfl, habsent⟩
  · exact .inl ⟨record, hpresent.existing, hpresent⟩

end Tables

/-! ### The writes -/

/-- The four writes of an import. -/
def importRows (tenantRef key : String) (source : GlobalSourceRecord) (id : Nat)
    (row : LineageRow) (attribution : ImportAttribution) : List Change :=
  [.putRecord (copyKey source.recordRef) (copyColumns source id), .appendLineage row,
    .putJob (PostgresImportStore.jobRow tenantRef key attribution),
    .putIdempotency key ⟨key, "completed", some (1, 0, 0)⟩]

section Writes

variable {digest : String → String} {tenantRef : String} {source : GlobalSourceRecord}
  {id : Nat} {row : LineageRow} {d : Tables}

/-- The writes of an import, where the source had none, leave its rows. -/
theorem Absent.import (h : Absent digest tenantRef source.recordRef d)
    (hsource : row.sourceRef = source.recordRef)
    (hderivation : row.derivationRef = some (operationKey digest tenantRef source.recordRef))
    (htarget : row.targetRef = composeRecordRef tenantRef "startups" id.repr)
    (attribution : ImportAttribution) :
  Present digest tenantRef source.recordRef
    ⟨operationKey digest tenantRef source.recordRef,
      composeRecordRef tenantRef "startups" id.repr,
      composeRecordRef tenantRef "lineage" row.lineageId⟩
    (tenantSchema.applyAll (importRows tenantRef
      (operationKey digest tenantRef source.recordRef) source id row attribution) d)
  := by
  constructor
  · rfl
  · use source, id, rfl
    constructor
    · simp [importRows, tenantSchema, Change.apply, h.copy]
    · rfl
  · use row
    simp [importRows, tenantSchema, Change.apply, h.sourced, h.derived, hsource, hderivation,
      htarget]
  · use attribution
    simp [importRows, tenantSchema, Change.apply, PostgresImportStore.jobRow]
  · simp [importRows, tenantSchema, Change.apply, IdempotencyColumns.over]

/-- Tables that agree on what concerns a source. -/
structure SameFor (digest : String → String) (tenantRef src : String) (d d' : Tables) :
    Prop where
  copy : d'.records.lookup (copyKey src) = d.records.lookup (copyKey src)
  sourced : d'.lineage.filter (·.sourceRef = src) = d.lineage.filter (·.sourceRef = src)
  derived : d'.lineage.filter (·.derivationRef = some (operationKey digest tenantRef src))
    = d.lineage.filter (·.derivationRef = some (operationKey digest tenantRef src))
  job : d'.jobs.lookup (operationKey digest tenantRef src)
    = d.jobs.lookup (operationKey digest tenantRef src)
  idempotency : d'.idempotency.lookup (operationKey digest tenantRef src)
    = d.idempotency.lookup (operationKey digest tenantRef src)

theorem SameFor.absent {d' : Tables} {src : String} (hsame : SameFor digest tenantRef src d d')
    (h : Absent digest tenantRef src d) :
  Absent digest tenantRef src d'
  := by
  constructor
  · rw [hsame.copy, h.copy]
  · rw [hsame.sourced, h.sourced]
  · rw [hsame.derived, h.derived]
  · rw [hsame.job, h.job]
  · rw [hsame.idempotency, h.idempotency]

theorem SameFor.present {d' : Tables} {src : String} (hsame : SameFor digest tenantRef src d d')
    {record : ImportRecord} (h : Present digest tenantRef src record d) :
  Present digest tenantRef src record d'
  := by
  constructor
  · apply h.importId
  · rw [hsame.copy]
    apply h.copy
  · rw [hsame.sourced, hsame.derived]
    apply h.lineage
  · rw [hsame.job]
    apply h.job
  · rw [hsame.idempotency]
    apply h.idempotency

/-- The writes of an import do not concern another source. -/
theorem importRows_sameFor {src : String} (hsrc : src ≠ source.recordRef)
    (hkey : operationKey digest tenantRef src ≠ operationKey digest tenantRef source.recordRef)
    (hsource : row.sourceRef = source.recordRef)
    (hderivation : row.derivationRef = some (operationKey digest tenantRef source.recordRef))
    (attribution : ImportAttribution) :
  SameFor digest tenantRef src d (tenantSchema.applyAll (importRows tenantRef
    (operationKey digest tenantRef source.recordRef) source id row attribution) d)
  := by
  have hcopy : copyKey src ≠ copyKey source.recordRef := by
    intro h
    apply hsrc
    apply congrArg RecordKey.key h
  constructor
  · simp [importRows, tenantSchema, Change.apply, AList.lookup_insert_ne hcopy]
  · simp [importRows, tenantSchema, Change.apply, hsource, hsrc.symm]
  · simp [importRows, tenantSchema, Change.apply, hderivation, hkey.symm]
  · simp [importRows, tenantSchema, Change.apply, PostgresImportStore.jobRow,
      AList.lookup_insert_ne hkey]
  · simp [importRows, tenantSchema, Change.apply, AList.lookup_insert_ne hkey]

end Writes

end StartupImport
