import Mathlib.Data.List.Sort
import Mathlib.Data.String.Basic
import SnackPortal.Data.Keyset
import SnackPortal.Portability.Identity

/-!
# Deployment manifests

A manifest records what was deployed where, in references and digests only.  Its canonical form
is a JSON document with sorted keys and sorted lists; `parseManifest` is the strict reader of such
a document.
-/

namespace Portability

open Regex Fallible

/-! ### The record -/

/-- References-only record of one deployment of one environment. -/
structure DeploymentManifest where
  environmentId : CodePoints
  profileId : CodePoints
  hostOrPlatformRef : CodePoints
  operatorRef : CodePoints
  repositoryCommit : CodePoints
  configurationDigest : CodePoints
  serviceImageRefs : List CodePoints
  databaseImageRefs : List CodePoints
  migrationDigest : CodePoints
  logicalDatabaseIds : List CodePoints
  secretProviderType : CodePoints
  backupTargetType : CodePoints
  monitoringExporterType : CodePoints
  startedAt : CodePoints
deriving DecidableEq, Repr

/-- The fields with a text in them. -/
inductive StringField where
  | environmentId
  | profileId
  | hostOrPlatformRef
  | operatorRef
  | repositoryCommit
  | configurationDigest
  | migrationDigest
  | secretProviderType
  | backupTargetType
  | monitoringExporterType
  | startedAt
deriving DecidableEq, Repr

/-- The fields with a list of texts in them. -/
inductive ListField where
  | serviceImageRefs
  | databaseImageRefs
  | logicalDatabaseIds
deriving DecidableEq, Repr

namespace StringField

/-- The name of the field, and its key in a document. -/
def name : StringField → String
  | environmentId => "environment_id"
  | profileId => "profile_id"
  | hostOrPlatformRef => "host_or_platform_ref"
  | operatorRef => "operator_ref"
  | repositoryCommit => "repository_commit"
  | configurationDigest => "configuration_digest"
  | migrationDigest => "migration_digest"
  | secretProviderType => "secret_provider_type"
  | backupTargetType => "backup_target_type"
  | monitoringExporterType => "monitoring_exporter_type"
  | startedAt => "started_at"

/-- `_STRING_FIELDS`. -/
def all : List StringField :=
  [environmentId, profileId, hostOrPlatformRef, operatorRef, repositoryCommit,
    configurationDigest, migrationDigest, secretProviderType, backupTargetType,
    monitoringExporterType, startedAt]

theorem mem_all (f : StringField) :
  f ∈ all
  := by
  cases f <;> decide

end StringField

namespace ListField

def name : ListField → String
  | serviceImageRefs => "service_image_refs"
  | databaseImageRefs => "database_image_refs"
  | logicalDatabaseIds => "logical_database_ids"

/-- `_LIST_FIELDS`. -/
def all : List ListField :=
  [serviceImageRefs, databaseImageRefs, logicalDatabaseIds]

theorem mem_all (f : ListField) :
  f ∈ all
  := by
  cases f <;> decide

end ListField

namespace DeploymentManifest

def get (m : DeploymentManifest) : StringField → CodePoints
  | .environmentId => m.environmentId
  | .profileId => m.profileId
  | .hostOrPlatformRef => m.hostOrPlatformRef
  | .operatorRef => m.operatorRef
  | .repositoryCommit => m.repositoryCommit
  | .configurationDigest => m.configurationDigest
  | .migrationDigest => m.migrationDigest
  | .secretProviderType => m.secretProviderType
  | .backupTargetType => m.backupTargetType
  | .monitoringExporterType => m.monitoringExporterType
  | .startedAt => m.startedAt

def getList (m : DeploymentManifest) : ListField → List CodePoints
  | .serviceImageRefs => m.serviceImageRefs
  | .databaseImageRefs => m.databaseImageRefs
  | .logicalDatabaseIds => m.logicalDatabaseIds

end DeploymentManifest

/-- `ManifestValidationError`: the field and what is wrong with it, or the document. -/
inductive ManifestValidationError where
  | identity (e : LogicalIdentityError)
  | field (path problem : String)
  | duplicateId (id : CodePoints)
  | missingIds (ids : List CodePoints)
  | notAnObject
  | unknownFields (names : List CodePoints)
  | missingFields (names : List String)
deriving DecidableEq, Repr

/-! ### Validation -/

/-- `_COMMIT_RE`. -/
def commitRe : Regex := times 40 (set [('0', '9'), ('a', 'f')] "")

/-- `_SHA256_DIGEST_RE`. -/
def sha256DigestRe : Regex :=
  seq (literal "sha256:") (times 64 (set [('0', '9'), ('a', 'f')] ""))

/-- `_IMAGE_REF_RE`. -/
def imageRefRe : Regex :=
  inOrder [lowerDigit, star (set [('a', 'z'), ('0', '9')] "._/-"),
    optional (seq (literal ":") (plus (set [('A', 'Z'), ('a', 'z'), ('0', '9')] "._-"))),
    literal "@sha256:", times 64 (set [('0', '9'), ('a', 'f')] "")]

/-- `_STARTED_AT_RE`. -/
def startedAtRe : Regex :=
  inOrder [times 4 decimal, literal "-", times 2 decimal, literal "-", times 2 decimal,
    literal "T", times 2 decimal, literal ":", times 2 decimal, literal ":", times 2 decimal,
    optional (seq (literal ".") (between 1 6 decimal)), literal "Z"]

/-- `REQUIRED_LOGICAL_DATABASE_IDS`. -/
def requiredLogicalDatabaseIds : List CodePoints :=
  ["control", "tenant-acme", "tenant-zeta", "tenant-nova"].map CodePoints.ofString

/-- `sorted` of a list of texts. -/
def sortedTexts (texts : List CodePoints) : List CodePoints :=
  texts.insertionSort (Keyset.Before id)

/-- An identity error as an error of the manifest. -/
def named (x : Except LogicalIdentityError Unit) : Except ManifestValidationError Unit :=
  match x with
  | .ok () => .ok ()
  | .error e => .error (.identity e)

/-- Check the members of a list from left to right, with their positions. -/
def checkEach {α : Type} (check : ℕ → α → Except ManifestValidationError Unit) :
    ℕ → List α → Except ManifestValidationError Unit
  | _, [] => .ok ()
  | n, a :: rest => do
      check n a
      checkEach check (n + 1) rest

/-- The path of a member of a list. -/
def memberPath (f : ListField) (index : ℕ) : String :=
  f.name ++ "[" ++ Nat.repr index ++ "]"

/-- The field matches an expression. -/
def checkField (classes : CharacterClasses) (r : Regex) (problem : String)
    (m : DeploymentManifest) (f : StringField) : Except ManifestValidationError Unit :=
  ensure (r.fullmatch classes (m.get f)) (.field f.name problem)

/-- A non-empty list of image references that are pinned by their digests. -/
def checkImageRefs (classes : CharacterClasses) (m : DeploymentManifest) (f : ListField) :
    Except ManifestValidationError Unit := do
  ensure (!(m.getList f).isEmpty)
    (.field f.name "must be a non-empty tuple of digest-pinned image references")
  checkEach (fun index ref => ensure (imageRefRe.fullmatch classes ref)
    (.field (memberPath f index)
      "must be a digest-pinned image reference 'name[:tag]@sha256:<64-hex>'")) 0 (m.getList f)

/-- The loop over the logical databases, which gives those it has seen. -/
def checkIds (classes : CharacterClasses) (seen : List CodePoints) :
    List CodePoints → Except ManifestValidationError (List CodePoints)
  | [] => .ok seen
  | id :: rest => do
      named (validateLogicalDatabaseId classes id)
      ensure (!seen.contains id) (.duplicateId id)
      checkIds classes (id :: seen) rest

def checkLogicalDatabaseIds (classes : CharacterClasses) (ids : List CodePoints) :
    Except ManifestValidationError Unit := do
  ensure (!ids.isEmpty) (.field "logical_database_ids" "must be a non-empty tuple")
  let seen ← checkIds classes [] ids
  let missing := sortedTexts (requiredLogicalDatabaseIds.filter fun id => !seen.contains id)
  ensure missing.isEmpty (.missingIds missing)

/-- `_reference_safe`. -/
def referenceSafe (classes : CharacterClasses) (path : String) (value : CodePoints) :
    Except ManifestValidationError Unit :=
  match assertReferenceSafe classes value with
  | none => .ok ()
  | some (true, kind) =>
      .error (.field path ("value matches forbidden raw-secret pattern '" ++ kind
        ++ "' — references only (D-14)"))
  | some (false, kind) =>
      .error (.field path ("value matches forbidden physical-endpoint pattern '" ++ kind
        ++ "' — endpoints are configuration, never identity (D-14)"))

def referenceProblem : String :=
  "must be a 'config://…' or 'ref:<store-ref>@<version>' reference — never a raw value"
def selectorProblem : String := "must be a kebab-case vendor-neutral selector token"
def startedAtProblem : String :=
  "must be an ISO-8601 UTC instant 'YYYY-MM-DDThh:mm:ss[.ffffff]Z'"

/-- `validate_manifest`. -/
def validateManifest (classes : CharacterClasses) (m : DeploymentManifest) :
    Except ManifestValidationError Unit := do
  named (validateEnvironmentId classes m.environmentId)
  named (validateProfileId classes m.profileId)
  checkEach (fun _ => checkField classes (alt configReferenceRe secretReferenceRe)
    referenceProblem m) 0 [.hostOrPlatformRef, .operatorRef]
  checkField classes commitRe "must be a 40-hex commit SHA" m .repositoryCommit
  checkEach (fun _ => checkField classes sha256DigestRe "must be 'sha256:<64-hex>'" m) 0
    [.configurationDigest, .migrationDigest]
  checkEach (fun _ => checkImageRefs classes m) 0 [.serviceImageRefs, .databaseImageRefs]
  checkLogicalDatabaseIds classes m.logicalDatabaseIds
  checkEach (fun _ => checkField classes selectorRe selectorProblem m) 0
    [.secretProviderType, .backupTargetType, .monitoringExporterType]
  checkField classes startedAtRe startedAtProblem m .startedAt
  checkEach (fun _ f => referenceSafe classes f.name (m.get f)) 0 StringField.all
  checkEach (fun _ f => checkEach (fun index => referenceSafe classes (memberPath f index)) 0
    (m.getList f)) 0 ListField.all

/-! ### The canonical form -/

/-- `MANIFEST_SCHEMA_ID`. -/
def manifestSchemaId : CodePoints := CodePoints.ofString "sp2-deployment-manifest/v1"

/-- A value of the payload: a text or a list of texts. -/
inductive PayloadValue where
  | text (s : CodePoints)
  | texts (values : List CodePoints)
deriving DecidableEq, Repr

abbrev Payload := List (String × PayloadValue)

/-- The payload of a manifest that is valid. -/
def DeploymentManifest.payload (m : DeploymentManifest) : Payload :=
  ("schema", .text manifestSchemaId)
    :: StringField.all.map (fun f => (f.name, .text (m.get f)))
    ++ ListField.all.map fun f => (f.name, .texts (sortedTexts (m.getList f)))

/-- `canonical_payload`. -/
def canonicalPayload (classes : CharacterClasses) (m : DeploymentManifest) :
    Except ManifestValidationError Payload := do
  validateManifest classes m
  .ok m.payload

/-- Four hexadecimal digits. -/
def hex4 (n : ℕ) : List Char :=
  [n / 0x1000 % 16, n / 0x100 % 16, n / 0x10 % 16, n % 16].map fun d =>
    if d < 10 then Char.ofNat (0x30 + d) else Char.ofNat (0x57 + d)

/-- A code point between quotes, with `ensure_ascii`. -/
def escape (n : ℕ) : List Char :=
  if n = 0x22 then ['\\', '"']
  else if n = 0x5c then ['\\', '\\']
  else if n = 0xa then ['\\', 'n']
  else if n = 0xd then ['\\', 'r']
  else if n = 0x9 then ['\\', 't']
  else if n = 0xc then ['\\', 'f']
  else if n = 0x8 then ['\\', 'b']
  else if 0x20 ≤ n ∧ n < 0x7f then [Char.ofNat n]
  else if n < 0x10000 then '\\' :: 'u' :: hex4 n
  else
    '\\' :: 'u' :: hex4 (0xd800 + (n - 0x10000) / 0x400 % 0x400)
      ++ '\\' :: 'u' :: hex4 (0xdc00 + (n - 0x10000) % 0x400)

/-- A text in JSON. -/
def quote (text : CodePoints) : String :=
  "\"" ++ String.ofList (text.flatMap escape) ++ "\""

def PayloadValue.dumps : PayloadValue → String
  | .text s => quote s
  | .texts values => "[" ++ ",".intercalate (values.map quote) ++ "]"

/-- The entries of a payload in the order of their keys. -/
def sortKeys (payload : Payload) : Payload :=
  payload.insertionSort (Keyset.Before Prod.fst)

/-- `json.dumps` with sorted keys, without spaces and in ASCII. -/
def jsonDumps (payload : Payload) : String :=
  "\x7b" ++ ",".intercalate ((sortKeys payload).map fun e =>
    quote (CodePoints.ofString e.1) ++ ":" ++ e.2.dumps) ++ "\x7d"

/-- `canonical_json`. -/
def canonicalJson (classes : CharacterClasses) (m : DeploymentManifest) :
    Except ManifestValidationError String := do
  let payload ← canonicalPayload classes m
  .ok (jsonDumps payload)

/-! ### The reader -/

/-- The fields a document has to have, and no others. -/
def knownFields : List String :=
  StringField.all.map StringField.name ++ ListField.all.map ListField.name ++ ["schema"]

/-- A text that is not empty. -/
def requireText (entries : Wire.Entries) (f : StringField) :
    Except ManifestValidationError CodePoints :=
  match Wire.item f.name entries with
  | some (.text (n :: s)) => .ok (n :: s)
  | _ => .error (.field f.name "must be a non-empty string")

/-- The texts of a list that holds nothing else. -/
def textsOf : List Wire → Option (List CodePoints)
  | [] => some []
  | .text s :: rest => (textsOf rest).map (s :: ·)
  | _ :: _ => none

/-- A list of texts. -/
def requireTexts (entries : Wire.Entries) (f : ListField) :
    Except ManifestValidationError (List CodePoints) :=
  match Wire.item f.name entries with
  | some (.list values) =>
      require (textsOf values) (.field f.name "must be an array of strings")
  | _ => .error (.field f.name "must be an array of strings")

/-- The value is the text of the schema. -/
def isSchema : Option Wire → Bool
  | some (.text s) => s = manifestSchemaId
  | _ => false

/-- The checks on the keys of a document. -/
def checkKeys (entries : Wire.Entries) : Except ManifestValidationError Unit := do
  let unknown := sortedTexts ((entries.map Prod.fst).filter fun key =>
    !knownFields.any fun name => key = CodePoints.ofString name)
  ensure unknown.isEmpty (.unknownFields unknown)
  let missing := (knownFields.filter fun name => (Wire.item name entries).isNone).insertionSort
    (Keyset.Before id)
  ensure missing.isEmpty (.missingFields missing)

/-- `parse_manifest`. -/
def parseManifest (classes : CharacterClasses) (data : Wire) :
    Except ManifestValidationError DeploymentManifest := do
  let entries ← require data.asObject .notAnObject
  checkKeys entries
  ensure (isSchema (Wire.item "schema" entries))
    (.field "schema" "expected 'sp2-deployment-manifest/v1'")
  let environmentId ← requireText entries .environmentId
  let profileId ← requireText entries .profileId
  let hostOrPlatformRef ← requireText entries .hostOrPlatformRef
  let operatorRef ← requireText entries .operatorRef
  let repositoryCommit ← requireText entries .repositoryCommit
  let configurationDigest ← requireText entries .configurationDigest
  let migrationDigest ← requireText entries .migrationDigest
  let secretProviderType ← requireText entries .secretProviderType
  let backupTargetType ← requireText entries .backupTargetType
  let monitoringExporterType ← requireText entries .monitoringExporterType
  let startedAt ← requireText entries .startedAt
  let serviceImageRefs ← requireTexts entries .serviceImageRefs
  let databaseImageRefs ← requireTexts entries .databaseImageRefs
  let logicalDatabaseIds ← requireTexts entries .logicalDatabaseIds
  let manifest : DeploymentManifest :=
    { environmentId, profileId, hostOrPlatformRef, operatorRef, repositoryCommit
      configurationDigest, serviceImageRefs, databaseImageRefs, migrationDigest
      logicalDatabaseIds, secretProviderType, backupTargetType, monitoringExporterType
      startedAt }
  validateManifest classes manifest
  .ok manifest

end Portability
