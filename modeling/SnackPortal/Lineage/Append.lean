import SnackPortal.Lineage.Chain

/-!
# The rows that writers append

The lineage service and the importer each build the next row from the head of the chain, a new
lineage id and an intent.  They build the same row (`lineageRow_eq`), and it continues the chain
whose head it was built from (`Chained.append`).
-/

namespace Lineage

/-- The segment of the first row. -/
def firstSegment : Int := 1

/-- The row that `LineageEmit.emit` appends after the row `prev`. -/
def LineageEmit.row (hmac : Hmac) (key : String) (prev : Option LineageRow)
    (lineageId : String) (intent : LineageIntent) : Except UnknownMarkerVersion LineageRow := do
  let seq := match prev with
    | some prev => prev.seq + 1
    | none => 1
  let prevMarker := match prev with
    | some prev => prev.integrityMarker
    | none => ""
  let segmentId := match prev with
    | some prev => prev.segmentId
    | none => firstSegment
  let row : LineageRow :=
    { lineageId := lineageId
      seq := seq
      segmentId := segmentId
      eventType := intent.eventType
      occurredAt := intent.occurredAt
      actorRef := intent.actorRef
      sourceRef := intent.sourceRef
      targetRef := intent.targetRef
      operation := intent.operation
      schemaVersion := intent.schemaVersion
      derivationRef := intent.derivationRef
      parentLineageRef := intent.parentLineageRef
      correlationId := intent.correlationId
      markerVersion := Canonical.currentMarkerVersion
      prevMarker := prevMarker
      integrityMarker := "" }
  let marker ← Canonical.markerFor hmac key row prevMarker Canonical.currentMarkerVersion
  pure { row with integrityMarker := marker }

/-- The row that `PostgresImportStore._append_lineage` appends after the row `head`. -/
def PostgresImportStore.lineageRow (hmac : Hmac) (chainKey : ByteArray)
    (head : Option LineageRow) (lineageId : String) (intent : LineageIntent) :
    Except UnknownMarkerVersion LineageRow := do
  let sequence := match head with
    | some head => head.seq + 1
    | none => 1
  let prevMarker := match head with
    | some head => head.integrityMarker
    | none => LineageChain.genesisPrevMarker
  let segmentId := match head with
    | some head => head.segmentId
    | none => firstSegment
  let row : LineageRow :=
    { lineageId := lineageId
      seq := sequence
      segmentId := segmentId
      eventType := intent.eventType
      occurredAt := intent.occurredAt
      actorRef := intent.actorRef
      sourceRef := intent.sourceRef
      targetRef := intent.targetRef
      operation := intent.operation
      schemaVersion := intent.schemaVersion
      derivationRef := intent.derivationRef
      parentLineageRef := intent.parentLineageRef
      correlationId := intent.correlationId
      markerVersion := LineageChain.currentMarkerVersion
      prevMarker := prevMarker
      integrityMarker := "" }
  let marker ← LineageChain.markerFor hmac chainKey row prevMarker
    LineageChain.currentMarkerVersion
  pure { row with integrityMarker := marker }

/-- Both writers append the same row under the same key. -/
theorem lineageRow_eq {hmac : Hmac} {key : String} {head : Option LineageRow}
    {lineageId : String} {intent : LineageIntent} :
  PostgresImportStore.lineageRow hmac key.toUTF8 head lineageId intent
    = LineageEmit.row hmac key head lineageId intent
  := rfl

/-- What a writer puts into its row. -/
structure LineageRow.Continues (hmac : Hmac) (key : String) (row : LineageRow)
    (prev : Option LineageRow) (lineageId : String) (intent : LineageIntent) : Prop where
  lineageId : row.lineageId = lineageId
  seq : row.seq = prev.elim 1 fun prev => prev.seq + 1
  prevMarker : row.prevMarker = prev.elim "" fun prev => prev.integrityMarker
  version : row.markerVersion = Canonical.currentMarkerVersion
  marker : Canonical.markerFor hmac key row row.prevMarker row.markerVersion
    = .ok row.integrityMarker
  sourceRef : row.sourceRef = intent.sourceRef
  targetRef : row.targetRef = intent.targetRef
  derivationRef : row.derivationRef = intent.derivationRef

section Rows

variable {hmac : Hmac} {key : String}

/-- A writer always has a row to append. -/
theorem LineageEmit.row_continues (hmac : Hmac) (key : String) (prev : Option LineageRow)
    (lineageId : String)
    (intent : LineageIntent) :
  ∃ row, LineageEmit.row hmac key prev lineageId intent = .ok row
    ∧ row.Continues hmac key prev lineageId intent
  := by
  cases prev with
  | none => exact ⟨_, rfl, rfl, rfl, rfl, rfl, rfl, rfl, rfl, rfl⟩
  | some prev => exact ⟨_, rfl, rfl, rfl, rfl, rfl, rfl, rfl, rfl, rfl⟩

theorem LineageEmit.continues_of_row {prev : Option LineageRow} {lineageId : String}
    {intent : LineageIntent} {row : LineageRow}
    (h : LineageEmit.row hmac key prev lineageId intent = .ok row) :
  row.Continues hmac key prev lineageId intent
  := by
  obtain ⟨row', hrow', hcontinues⟩ := LineageEmit.row_continues hmac key
    prev lineageId intent
  rw [h] at hrow'
  obtain rfl := Except.ok.inj hrow'
  apply hcontinues

/-- The operation of a row is that of its intent. -/
theorem LineageEmit.operation_of_row {prev : Option LineageRow} {lineageId : String}
    {intent : LineageIntent} {row : LineageRow}
    (h : LineageEmit.row hmac key prev lineageId intent = .ok row) :
  row.operation = intent.operation
  := by
  cases prev with
  | none =>
      obtain rfl := Except.ok.inj h
      rfl
  | some prev =>
      obtain rfl := Except.ok.inj h
      rfl

/-- The importer has a row to append under any key, with the references of its intent. -/
theorem PostgresImportStore.lineageRow_intent (hmac : Hmac) (chainKey : ByteArray)
    (head : Option LineageRow) (lineageId : String) (intent : LineageIntent) :
  ∃ row, PostgresImportStore.lineageRow hmac chainKey head lineageId intent = .ok row
    ∧ row.lineageId = lineageId ∧ row.sourceRef = intent.sourceRef
    ∧ row.targetRef = intent.targetRef ∧ row.derivationRef = intent.derivationRef
  := by
  cases head with
  | none => exact ⟨_, rfl, rfl, rfl, rfl, rfl⟩
  | some head => exact ⟨_, rfl, rfl, rfl, rfl, rfl⟩

/-- A row built from the head of a chain continues the chain. -/
theorem Chained.append {rows : List LineageRow} (h : Chained hmac key rows) {row : LineageRow}
    {lineageId : String} {intent : LineageIntent}
    (hrow : row.Continues hmac key (latest rows) lineageId intent) :
  Chained hmac key (rows ++ [row])
  := by
  obtain ⟨hseq, hmarker⟩ := h.head
  apply h.snoc
  · rw [hrow.seq, hseq]
  · rw [hrow.prevMarker, hmarker]
  · apply hrow.version
  · apply hrow.marker

end Rows

/-! ### Chains of one writer -/

/-- The text has hexadecimal digits only. -/
def Hexadecimal (text : String) : Prop :=
  ∀ ch ∈ text.toList, ch ∈ "0123456789abcdef".toList

instance (text : String) : Decidable (Hexadecimal text) :=
  List.decidableBAll (· ∈ "0123456789abcdef".toList) text.toList

/-- The chains that `LineageEmit.emit` produces, with any lineage ids and any intents. -/
inductive Emitted (hmac : Hmac) (key : String) : List LineageRow → Prop where
  | nil : Emitted hmac key []
  | emit {rows : List LineageRow} (h : Emitted hmac key rows) {lineageId : String}
      (hid : Hexadecimal lineageId) (intent : LineageIntent) {row : LineageRow}
      (hrow : LineageEmit.row hmac key (latest rows) lineageId intent = .ok row) :
      Emitted hmac key (rows ++ [row])

theorem Emitted.chained {hmac : Hmac} {key : String} {rows : List LineageRow}
    (h : Emitted hmac key rows) :
  Chained hmac key rows
  := by
  induction h with
  | nil => apply Chained.nil
  | emit _ _ _ hrow ih => apply ih.append (LineageEmit.continues_of_row hrow)

theorem Emitted.hexadecimal {hmac : Hmac} {key : String} {rows : List LineageRow}
    (h : Emitted hmac key rows) :
  ∀ row ∈ rows, Hexadecimal row.lineageId
  := by
  induction h with
  | nil =>
      intro row hrow
      cases hrow
  | emit _ hid _ hrow ih =>
      intro row' hrow'
      rcases List.mem_append.mp hrow' with hold | hnew
      · apply ih row' hold
      · obtain rfl := List.mem_singleton.mp hnew
        rw [(LineageEmit.continues_of_row hrow).lineageId]
        apply hid

end Lineage
