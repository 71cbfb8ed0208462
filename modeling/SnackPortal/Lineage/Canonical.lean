import SnackPortal.Data.Delimited
import Mathlib.Data.Int.Notation

/-!
# Lineage rows and their markers

The row of the table `lineage`, and the marker over it: a keyed digest of the canonical
content, which is the marker of the prior row and the eleven covered fields, joined by a
separator.  The lineage service and the rebuilt importer each have their own encoder
(`Canonical`, `LineageChain`); they give the same marker under the same key.
-/

namespace Lineage

/-- What a writer tells the chain about a data change. -/
structure LineageIntent where
  eventType : String
  occurredAt : String
  actorRef : String
  sourceRef : String
  targetRef : String
  operation : String
  schemaVersion : String
  derivationRef : Option String
  parentLineageRef : Option String
  correlationId : Option String
deriving DecidableEq, Repr

/-- A row of the table `lineage`. -/
structure LineageRow where
  lineageId : String
  seq : Int
  segmentId : Int
  eventType : String
  occurredAt : String
  actorRef : String
  sourceRef : String
  targetRef : String
  operation : String
  schemaVersion : String
  derivationRef : Option String
  parentLineageRef : Option String
  correlationId : Option String
  markerVersion : Int
  prevMarker : String
  integrityMarker : String
deriving DecidableEq, Repr

/-- The covered fields of a row. -/
inductive Field where
  | lineageId
  | seq
  | eventType
  | occurredAt
  | actorRef
  | sourceRef
  | targetRef
  | operation
  | schemaVersion
  | derivationRef
  | parentLineageRef
deriving DecidableEq, Repr

/-- The text of a covered field, `none` where the row has none. -/
def LineageRow.get (row : LineageRow) : Field → Option String
  | .lineageId => some row.lineageId
  | .seq => some row.seq.repr
  | .eventType => some row.eventType
  | .occurredAt => some row.occurredAt
  | .actorRef => some row.actorRef
  | .sourceRef => some row.sourceRef
  | .targetRef => some row.targetRef
  | .operation => some row.operation
  | .schemaVersion => some row.schemaVersion
  | .derivationRef => row.derivationRef
  | .parentLineageRef => row.parentLineageRef

/-- A row carries a version that the encoder does not know. -/
structure UnknownMarkerVersion where
  version : Int
deriving DecidableEq, Repr

/-- The keyed digest: HMAC-SHA256 of the key and the message, as a hexadecimal text. -/
abbrev Hmac := ByteArray → ByteArray → String

/-! ### The encoder of the lineage service -/

namespace Canonical

def markerVersionV1 : Int := 1
def currentMarkerVersion : Int := markerVersionV1

/-- The unit separator. -/
def sep : Char := '\x1f'

/-- The frozen field order. -/
def v1Fields : List Field :=
  [.lineageId, .seq, .eventType, .occurredAt, .actorRef, .sourceRef, .targetRef, .operation,
    .schemaVersion, .derivationRef, .parentLineageRef]

/-- The texts that are serialized; an absent value is the empty text. -/
def parts (record : LineageRow) (prevMarker : String) : List String :=
  prevMarker :: v1Fields.map fun field => (record.get field).getD ""

/-- `canonical_content`. -/
def canonicalContent (record : LineageRow) (prevMarker : String) (markerVersion : Int) :
    Except UnknownMarkerVersion ByteArray :=
  if markerVersion = markerVersionV1 then
    .ok (Delimited.join sep (parts record prevMarker)).toUTF8
  else
    .error ⟨markerVersion⟩

/-- `compute_marker`. -/
def computeMarker (hmac : Hmac) (key : String) (content : ByteArray) : String :=
  hmac key.toUTF8 content

/-- `marker_for`. -/
def markerFor (hmac : Hmac) (key : String) (record : LineageRow) (prevMarker : String)
    (markerVersion : Int) : Except UnknownMarkerVersion String :=
  (canonicalContent record prevMarker markerVersion).map (computeMarker hmac key)

end Canonical

/-! ### The encoder of the importer -/

namespace LineageChain

def markerVersionV1 : Int := 1
def currentMarkerVersion : Int := markerVersionV1

/-- The unit separator. -/
def sep : Char := '\x1f'

/-- The frozen field order. -/
def v1Fields : List Field :=
  [.lineageId, .seq, .eventType, .occurredAt, .actorRef, .sourceRef, .targetRef, .operation,
    .schemaVersion, .derivationRef, .parentLineageRef]

/-- The marker before the first row. -/
def genesisPrevMarker : String := ""

/-- The texts that are serialized; an absent value is the empty text. -/
def parts (record : LineageRow) (prevMarker : String) : List String :=
  prevMarker :: v1Fields.map fun field => (record.get field).getD ""

/-- `canonical_content`. -/
def canonicalContent (record : LineageRow) (prevMarker : String) (markerVersion : Int) :
    Except UnknownMarkerVersion ByteArray :=
  if markerVersion = markerVersionV1 then
    .ok (Delimited.join sep (parts record prevMarker)).toUTF8
  else
    .error ⟨markerVersion⟩

/-- `compute_marker`; the key is the resolved material. -/
def computeMarker (hmac : Hmac) (key : ByteArray) (content : ByteArray) : String :=
  hmac key content

/-- `marker_for`. -/
def markerFor (hmac : Hmac) (key : ByteArray) (record : LineageRow) (prevMarker : String)
    (markerVersion : Int) : Except UnknownMarkerVersion String :=
  (canonicalContent record prevMarker markerVersion).map (computeMarker hmac key)

end LineageChain

/-- Both encoders give the same marker under the same key. -/
theorem markerFor_eq {hmac : Hmac} {key : String} {record : LineageRow} {prevMarker : String}
    {markerVersion : Int} :
  LineageChain.markerFor hmac key.toUTF8 record prevMarker markerVersion
    = Canonical.markerFor hmac key record prevMarker markerVersion
  := rfl

namespace Canonical

/-- The markers leave out the markers of the row, its segment, version and correlation. -/
theorem canonicalContent_congr {record record' : LineageRow} {prevMarker : String}
    {markerVersion : Int} (h : ∀ field, record.get field = record'.get field) :
  canonicalContent record prevMarker markerVersion
    = canonicalContent record' prevMarker markerVersion
  := by
  have hget : record.get = record'.get := funext h
  rw [canonicalContent, canonicalContent, parts, parts, hget]

/-- A marker of a row is one of the frozen version. -/
theorem markerFor_eq_ok {hmac : Hmac} {key : String} {record : LineageRow}
    {prevMarker marker : String} {markerVersion : Int}
    (h : markerFor hmac key record prevMarker markerVersion = .ok marker) :
  markerVersion = 1
    ∧ marker = hmac key.toUTF8 (Delimited.join sep (parts record prevMarker)).toUTF8
  := by
  rw [markerFor, canonicalContent] at h
  split at h
  · rename_i hv
    exact ⟨hv, (Except.ok.inj h).symm⟩
  · cases h

end Canonical

end Lineage
