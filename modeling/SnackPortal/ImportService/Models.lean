import Mathlib.Data.List.AList
import SnackPortal.Data.Double

/-!
# Imports

The request and the status of an import, the sources it reads, and the validation of what they
yield.  A raw record is admitted when it has a natural key, holds primitives only, and holds no
text that is too long or has control characters.
-/

namespace ImportService

/-- A value of a record or of a row: a primitive, or something of another type; floats and values
of another type come with what `str` makes of them. -/
inductive Value where
  | null
  | text (s : String)
  | int (n : Int)
  | bool (b : Bool)
  | float (x : Double) (repr : String)
  | other (repr : String)
deriving DecidableEq

/-- `str`. -/
def Value.str : Value → String
  | .null => "None"
  | .text s => s
  | .int n => n.repr
  | .bool b => if b then "True" else "False"
  | .float _ repr => repr
  | .other repr => repr

/-- The fields of a record, or the columns of a row. -/
abbrev Columns := AList (fun _ : String => Value)

/-- Fields are compared by their entries, which can be evaluated. -/
instance : DecidableEq Columns :=
  fun row row' => decidable_of_iff (row.entries = row'.entries) AList.ext_iff.symm

/-- What a query reads in a column of the row. -/
def Columns.read (row : Columns) (column : String) : Value :=
  (row.lookup column).getD .null

/-- The columns with other values. -/
def Columns.mapValues (f : String → Value → Value) (row : Columns) : Columns where
  entries := row.entries.map (Sigma.map id f)
  nodupKeys := row.nodupKeys.map₂ f

theorem Columns.lookup_mapValues {f : String → Value → Value} {row : Columns} {column : String} :
  (row.mapValues f).lookup column = (row.lookup column).map (f column)
  := List.dlookup_map₂ column

inductive SourceKind where
  | directory
  | csv
  | json
deriving DecidableEq, Repr

structure SourceDescriptor where
  kind : SourceKind
  ref : String
  payload : Option String
  directoryKind : Option String
deriving DecidableEq, Repr

structure ImportRequest where
  tenantId : String
  source : SourceDescriptor
  operationKey : String
  correlationId : String
  actorRef : String
  naturalKeyField : String
  targetTable : String
deriving DecidableEq, Repr

structure RawRecord where
  data : Columns
  sourceRef : String
deriving DecidableEq

structure ImportRecord where
  naturalKey : String
  fields : Columns
  sourceRef : String
deriving DecidableEq

inductive ImportState where
  | applied
  | failed
  | inProgress
deriving DecidableEq, Repr

structure ImportStatus where
  importId : String
  tenantId : String
  state : ImportState
  appliedCount : Nat
  noopCount : Nat
  rejectedCount : Nat
  lastErrorSummary : String
  correlationId : String
  replayed : Bool
deriving DecidableEq, Repr

/-! ### Validation -/

def maxLen : Nat := 10000

/-- A control character other than tab and line ends. -/
def isControl (c : Char) : Bool :=
  c.toNat < 32 && !(c == '\t' || c == '\n' || c == '\r')

/-- The check of one field; the error is its message. -/
def validateField (key : String) : Value → Except String Unit
  | .other _ => .error ("unsupported type for field '" ++ key ++ "'")
  | .text s =>
      if maxLen < s.toList.length then
        .error ("field '" ++ key ++ "' exceeds max length")
      else if s.toList.any isControl then
        .error ("field '" ++ key ++ "' contains control characters")
      else
        .ok ()
  | _ => .ok ()

/-- `validate`. -/
def validate (raw : RawRecord) (naturalKeyField : String) : Except String ImportRecord :=
  let missing := .error ("missing natural key '" ++ naturalKeyField ++ "'")
  match raw.data.lookup naturalKeyField with
  | none => missing
  | some .null => missing
  | some (.text "") => missing
  | some value => do
      raw.data.entries.forM fun entry => validateField entry.1 entry.2
      pure ⟨value.str, raw.data, raw.sourceRef⟩

/-- The records that are admitted, and how many are not. -/
def validateAll (naturalKeyField : String) : List RawRecord → List ImportRecord × Nat
  | [] => ([], 0)
  | raw :: raws =>
      let (valid, rejected) := validateAll naturalKeyField raws
      match validate raw naturalKeyField with
      | .ok record => (record :: valid, rejected)
      | .error _ => (valid, rejected + 1)

/-! ### Sources -/

/-- A record of the global directory. -/
structure GlobalDirectoryRecordView where
  directory : String
  recordId : String
  displayName : String
  attributes : List (String × String)
deriving DecidableEq, Repr

/-- The adapters that read sources. -/
inductive SourceAdapter where
  | startupDirectory
  | globalDirectory
  | csv
  | json
deriving DecidableEq, Repr

/-- The raw record of a directory record, as the single-record adapter maps it. -/
def startupRecord (view : GlobalDirectoryRecordView) : RawRecord where
  data := [⟨"global_startup_id", .text view.recordId⟩,
    ⟨"company_name", .text view.displayName⟩].toAList
  sourceRef := "global:" ++ view.directory ++ ":" ++ view.recordId

/-- The raw record of a directory record, as the adapter of the whole directory maps it. -/
def directoryRecord (view : GlobalDirectoryRecordView) : RawRecord where
  data := view.attributes.foldl (fun data a => data.insert a.1 (.text a.2))
    [⟨"record_id", .text view.recordId⟩, ⟨"display_name", .text view.displayName⟩].toAList
  sourceRef := "global:" ++ view.directory ++ ":" ++ view.recordId

/-- What an adapter yields for a descriptor, where the directory holds the records `views` and
the uploaded content parses into `rows`. -/
def SourceAdapter.read (descriptor : SourceDescriptor) (views : List GlobalDirectoryRecordView)
    (rows : List Columns) : SourceAdapter → List RawRecord
  | .startupDirectory =>
      match views.find? (·.recordId = descriptor.ref) with
      | none => []
      | some view => [startupRecord view]
  | .globalDirectory => views.map directoryRecord
  | .csv => rows.mapIdx fun i row => ⟨row, "upload:csv:" ++ descriptor.ref ++ ":" ++ i.repr⟩
  | .json => rows.mapIdx fun i row => ⟨row, "upload:json:" ++ descriptor.ref ++ ":" ++ i.repr⟩

end ImportService
