import SnackPortal.SnackPortal2.Ingress

/-!
# Operation surface

The routes of the ingress.  Each runs the pipeline for its operation; a route on tenant records
then has one database resolved before its service is called with the context, and composes its
response field by field from what the service answers.
-/

namespace SnackPortal2

/-! ## Requests -/

/-- A text of at most so many characters, where there is one. -/
def atMost (limit : Nat) (text : Option String) : Bool :=
  text.all fun text => text.length ≤ limit

/-- A text of at least one and at most so many characters. -/
def between (limit : Nat) (text : String) : Bool :=
  1 ≤ text.length && text.length ≤ limit

structure CreateStartupRequest where
  displayName : String
  shortDescription : Option String
  investmentStage : Option String
  companyUrl : Option String
  industry : Option String
  headquartersCountry : Option String
  headquartersCity : Option String
deriving DecidableEq, Repr, Inhabited

def CreateStartupRequest.valid (body : CreateStartupRequest) : Bool :=
  between 256 body.displayName && atMost 500 body.shortDescription
    && atMost 128 body.investmentStage && atMost 512 body.companyUrl && atMost 128 body.industry
    && atMost 128 body.headquartersCountry && atMost 128 body.headquartersCity

structure CreateInvestorRequest where
  displayName : String
  investorType : Option String
  websiteUrl : Option String
  shortDescription : Option String
  investmentStageFocus : List String
  industryFocus : List String
  headquartersCountry : Option String
  headquartersCity : Option String
deriving DecidableEq, Repr, Inhabited

def CreateInvestorRequest.valid (body : CreateInvestorRequest) : Bool :=
  between 256 body.displayName && atMost 128 body.investorType && atMost 512 body.websiteUrl
    && atMost 500 body.shortDescription && body.investmentStageFocus.length ≤ 32
    && body.industryFocus.length ≤ 32 && atMost 128 body.headquartersCountry
    && atMost 128 body.headquartersCity

structure CreateDealRequest where
  dealName : String
  startupRef : String
  investorRef : Option String
  stage : Option String
  amount : Option String
  currency : Option String
deriving DecidableEq, Repr, Inhabited

def CreateDealRequest.valid (body : CreateDealRequest) : Bool :=
  between 256 body.dealName && between 256 body.startupRef && atMost 256 body.investorRef
    && atMost 128 body.stage && atMost 64 body.amount && atMost 8 body.currency

/-- A route, with the parameters and the body of the request. -/
inductive Endpoint where
  | listMemberships
  | readStartupDirectory
  | readInvestorDirectory
  | importStartup (sourceRef : String)
  | listStartups (limit : Int)
  | readStartup (recordRef : String)
  | createStartup (body : CreateStartupRequest)
  | updateStartup (recordRef : String) (shortDescription : Option String)
  | listInvestors (limit : Int)
  | readInvestor (recordRef : String)
  | createInvestor (body : CreateInvestorRequest)
  | updateInvestor (recordRef : String) (shortDescription : Option String)
  | listDeals (limit : Int)
  | readDeal (recordRef : String)
  | createDeal (body : CreateDealRequest)
  | updateDeal (recordRef : String) (stage status : Option String)
  | readLineage (recordRef : String)
deriving DecidableEq, Repr, Inhabited

/-- The operation of a route. -/
def Endpoint.operation : Endpoint → BffOperation
  | .listMemberships => .listMemberships
  | .readStartupDirectory => .readGlobalStartupDirectory
  | .readInvestorDirectory => .readGlobalInvestorDirectory
  | .importStartup _ => .initiateStartupImport
  | .listStartups _ => .listTenantStartups
  | .readStartup _ => .readTenantStartup
  | .createStartup _ => .createTenantStartup
  | .updateStartup .. => .updateTenantStartup
  | .listInvestors _ => .listTenantInvestors
  | .readInvestor _ => .readTenantInvestor
  | .createInvestor _ => .createTenantInvestor
  | .updateInvestor .. => .updateTenantInvestor
  | .listDeals _ => .listTenantDeals
  | .readDeal _ => .readTenantDeal
  | .createDeal _ => .createTenantDeal
  | .updateDeal .. => .updateTenantDeal
  | .readLineage _ => .readTenantLineage

/-- The parameters pass their bounds. -/
def Endpoint.valid : Endpoint → Bool
  | .listMemberships | .readStartupDirectory | .readInvestorDirectory => true
  | .importStartup ref | .readStartup ref | .readInvestor ref | .readDeal ref
  | .readLineage ref => between 256 ref
  | .listStartups limit | .listInvestors limit | .listDeals limit => 1 ≤ limit && limit ≤ 500
  | .createStartup body => body.valid
  | .createInvestor body => body.valid
  | .createDeal body => body.valid
  | .updateStartup ref shortDescription | .updateInvestor ref shortDescription =>
      between 256 ref && atMost 500 shortDescription
  | .updateDeal ref stage status => between 256 ref && atMost 128 stage && atMost 64 status

/-! ## Responses -/

structure MembershipEntryDTO where
  tenantId : String
  role : PlatformRole
  displayRef : String
deriving DecidableEq, Repr, Inhabited

structure DirectoryEntryDTO where
  recordRef : String
  displayName : String
deriving DecidableEq, Repr, Inhabited

inductive ImportOutcomeDTO where
  | created
  | replayed
deriving DecidableEq, Repr, Inhabited

structure ImportResultDTO where
  sourceRef : String
  targetTenantRef : String
  tenantRecordRef : String
  lineageRef : String
  importId : String
  outcome : ImportOutcomeDTO
deriving DecidableEq, Repr, Inhabited

structure TenantStartupDetailDTO where
  recordRef : String
  displayName : String
  shortDescription : Option String
  investmentStage : Option String
  lineageReference : Option String
deriving DecidableEq, Repr, Inhabited

structure TenantInvestorDetailDTO where
  recordRef : String
  displayName : String
  shortDescription : Option String
  investorType : Option String
  lineageReference : Option String
deriving DecidableEq, Repr, Inhabited

structure TenantDealDetailDTO where
  recordRef : String
  dealName : String
  startupRef : String
  investorRef : Option String
  stage : Option String
  status : Option String
deriving DecidableEq, Repr, Inhabited

/-- The responses of the surface. -/
inductive PortalDTO where
  | memberships (memberships : List MembershipEntryDTO)
  | startupDirectory (records : List DirectoryEntryDTO)
  | investorDirectory (records : List DirectoryEntryDTO)
  | importResult (result : ImportResultDTO)
  | startups (records : List TenantStartupDetailDTO)
  | startup (record : TenantStartupDetailDTO)
  | investors (records : List TenantInvestorDetailDTO)
  | investor (record : TenantInvestorDetailDTO)
  | deals (records : List TenantDealDetailDTO)
  | deal (record : TenantDealDetailDTO)
  | lineage (targetRef : String) (lineageReferences sourceReferences : List String)
deriving DecidableEq, Repr, Inhabited

namespace Bff

open Program

/-- `record[name]`, as text. -/
def item (record : Record) (name : String) : BffProgram String :=
  match record.lookup name with
  | none => raise .failure
  | some value => return value.getD "None"

/-- `record.get(name)`. -/
def get (record : Record) (name : String) : Option String :=
  (record.lookup name).join

/-- The body as one record. -/
def asRecord : Body → BffProgram Record
  | .object fields => return fields
  | .null | .listing .. => raise .failure

/-- The records that the body lists under a name. -/
def asListing (key : String) : Body → BffProgram (List Record)
  | .listing key' records => if key' = key then return records else raise .failure
  | .null | .object _ => raise .failure

def composeDisplayRef (tenantId : String) : String :=
  "ref:tenant/" ++ tenantId ++ "/display"

def platformRole : String → Option PlatformRole
  | "CONTROL" => some .control
  | "MASTER_AGENT" => some .masterAgent
  | "TENANT_ADMIN" => some .tenantAdmin
  | "TENANT_AGENT" => some .tenantAgent
  | "STARTUP_USER" => some .startupUser
  | "INVESTOR_USER" => some .investorUser
  | _ => none

def membershipEntry (record : Record) : BffProgram MembershipEntryDTO := do
  let tenantId ← item record "tenant_ref"
  match platformRole (← item record "role") with
  | none => raise .failure
  | some role => return { tenantId, role, displayRef := composeDisplayRef tenantId }

def directoryEntry (record : Record) : BffProgram DirectoryEntryDTO := do
  return { recordRef := ← item record "record_ref", displayName := ← item record "display_name" }

def importOutcome : String → Option ImportOutcomeDTO
  | "created" => some .created
  | "replayed" => some .replayed
  | _ => none

def importResult (record : Record) : BffProgram ImportResultDTO := do
  let sourceRef ← item record "source_ref"
  let targetTenantRef ← item record "target_tenant_ref"
  let tenantRecordRef ← item record "tenant_record_ref"
  let lineageRef ← item record "lineage_ref"
  let importId ← item record "import_id"
  match importOutcome (← item record "outcome") with
  | none => raise .failure
  | some outcome =>
      return { sourceRef, targetTenantRef, tenantRecordRef, lineageRef, importId, outcome }

def startupDetail (record : Record) : BffProgram TenantStartupDetailDTO := do
  return {
    recordRef := ← item record "record_ref"
    displayName := (get record "company_name").getD ""
    shortDescription := get record "short_description"
    investmentStage := get record "investment_stage"
    lineageReference := get record "lineage_reference" }

def investorDetail (record : Record) : BffProgram TenantInvestorDetailDTO := do
  return {
    recordRef := ← item record "record_ref"
    displayName := (get record "investor_name").getD ""
    shortDescription := get record "short_description"
    investorType := get record "investor_type"
    lineageReference := get record "lineage_reference" }

def dealDetail (record : Record) : BffProgram TenantDealDetailDTO := do
  return {
    recordRef := ← item record "record_ref"
    dealName := (get record "deal_name").getD ""
    startupRef := (get record "startup_ref").getD ""
    investorRef := get record "investor_ref"
    stage := get record "stage"
    status := get record "status" }

/-! ## Stages -/

def listMembershipsOf (principalRef : String) : BffProgram (List Record) :=
  perform (S := bffSignature) (.listMemberships principalRef)

def listDirectory (directory : String) : BffProgram (List Record) :=
  perform (S := bffSignature) (.listDirectory directory)

def call (service path : String) (payload : Payload) : BffProgram Body :=
  perform (S := bffSignature) (.call service path payload)

/-- The credential of the request; a malformed one is none. -/
def bearer (request : Request) : Option String :=
  let header := (request.header "Authorization").getD ""
  if Text.casefold (Text.before ' ' header) ≠ "bearer" then
    none
  else
    let value := Text.strip (Text.after ' ' header)
    if value = "" then none else some value

/-- A correlation id that may be passed on. -/
def safeCorrelation (text : String) : Bool :=
  1 ≤ text.length && text.length ≤ 128
    && text.toList.all fun c => alphanumeric c || c == '.' || c == '_' || c == ':' || c == '-'

/-- The correlation id that the middleware bound, or else the request's own or a new one. -/
def correlationIdOf (request : Request) : String :=
  if request.boundCorrelationId ≠ "" then
    request.boundCorrelationId
  else
    match request.header "X-Correlation-ID" with
    | none => request.mintedCorrelationId
    | some raw => if safeCorrelation raw then raw else request.mintedCorrelationId

/-- Stages 1 to 4: the context of an authorized request. -/
def authorized (baseDomain : String) (request : Request) (operation : BffOperation)
    (recordRef : Option String) : BffProgram RequestContext := do
  let established ← establish baseDomain (bearer request) request.headers
    ((request.header "host").getD "") (correlationIdOf request)
  let _ ← authorize established.context operation recordRef
  return established.context

/-- Stage 5: one database is resolved.  Which one is the router's; the answer is not kept. -/
def routed (context : RequestContext) : BffProgram Unit := do
  let _ ← resolve context
  return ()

def optional : Option String → PayloadValue
  | none => .null
  | some value => .text value

/-- A route on tenant records: the pipeline, the routing, and the call of the service. -/
def tenantCall (baseDomain : String) (request : Request) (operation : BffOperation)
    (recordRef : Option String) (service path : String) (extra : List (String × PayloadValue)) :
    BffProgram (RequestContext × Body) := do
  let context ← authorized baseDomain request operation recordRef
  routed context
  let body ← call service path { context, extra }
  return (context, body)

/-- The success event of a startup route. -/
def emitStartup (action : AuditAction) (context : RequestContext) (recordRef : String) :
    BffProgram Unit :=
  emit {
    action
    outcome := .allowed
    correlationId := context.correlationId
    actorRef := context.principalRef
    tenantRef := context.tenantContext
    recordRef := some recordRef }

/-! ## Routes -/

section Routes

variable (baseDomain : String) (request : Request)

def listMemberships : BffProgram PortalDTO := do
  let context ← authorized baseDomain request .listMemberships none
  let raw ← listMembershipsOf context.principalRef
  let memberships ← raw.mapM membershipEntry
  emit {
    action := .workspaceMembershipsRead
    outcome := .allowed
    correlationId := context.correlationId
    actorRef := context.principalRef
    subjectRef := some context.principalRef }
  return .memberships memberships

/-- The entries of a global directory. -/
def readDirectory (operation : BffOperation) (directory : String) :
    BffProgram (List DirectoryEntryDTO) := do
  let _ ← authorized baseDomain request operation none
  let records ← listDirectory directory
  records.mapM directoryEntry

def readStartupDirectory : BffProgram PortalDTO := do
  return .startupDirectory
    (← readDirectory baseDomain request .readGlobalStartupDirectory "GlobalStartupDirectory")

def readInvestorDirectory : BffProgram PortalDTO := do
  return .investorDirectory
    (← readDirectory baseDomain request .readGlobalInvestorDirectory "GlobalInvestorDirectory")

def importStartup (sourceRef : String) : BffProgram PortalDTO := do
  let (_, body) ← tenantCall baseDomain request .initiateStartupImport none
    "import_service" "/internal/import/startup" [("source_ref", .text sourceRef)]
  return .importResult (← importResult (← asRecord body))

/-- The records that a service lists, each composed on its own. -/
def listRecords {α : Type} (operation : BffOperation) (service path : String) (limit : Int)
    (detail : Record → BffProgram α) : BffProgram (List α) := do
  let (_, body) ← tenantCall baseDomain request operation none service path
    [("limit", .number limit)]
  (← asListing "records" body).mapM detail

/-- The record that a service answers, for a route without a success event. -/
def oneRecord {α : Type} (operation : BffOperation) (recordRef : Option String)
    (service path : String) (extra : List (String × PayloadValue))
    (detail : Record → BffProgram α) : BffProgram α := do
  let (_, body) ← tenantCall baseDomain request operation recordRef service path extra
  detail (← asRecord body)

/-- The record that a service answers, where it has it. -/
def readRecord {α : Type} (operation : BffOperation) (recordRef service path : String)
    (detail : Record → BffProgram α) : BffProgram α := do
  let (_, body) ← tenantCall baseDomain request operation (some recordRef) service path
    [("record_ref", .text recordRef)]
  if body = .null then
    deny notFound
  else
    detail (← asRecord body)

def listStartups (limit : Int) : BffProgram PortalDTO := do
  return .startups (← listRecords baseDomain request .listTenantStartups
    "startups" "/internal/startups/list" limit startupDetail)

def readStartup (recordRef : String) : BffProgram PortalDTO := do
  let (context, body) ← tenantCall baseDomain request .readTenantStartup (some recordRef)
    "startups" "/internal/startups/read" [("record_ref", .text recordRef)]
  if body = .null then
    deny notFound
  else
    emitStartup .tenantStartupRead context recordRef
    return .startup (← startupDetail (← asRecord body))

def createStartup (body : CreateStartupRequest) : BffProgram PortalDTO := do
  return .startup (← oneRecord baseDomain request .createTenantStartup none
    "startups" "/internal/startups/create"
    [("company_name", .text body.displayName),
      ("short_description", optional body.shortDescription),
      ("investment_stage", optional body.investmentStage),
      ("company_url", optional body.companyUrl),
      ("industry", optional body.industry),
      ("headquarters_country", optional body.headquartersCountry),
      ("headquarters_city", optional body.headquartersCity)] startupDetail)

def updateStartup (recordRef : String) (shortDescription : Option String) :
    BffProgram PortalDTO := do
  let (context, body) ← tenantCall baseDomain request .updateTenantStartup (some recordRef)
    "startups" "/internal/startups/update"
    [("record_ref", .text recordRef), ("short_description", optional shortDescription)]
  emitStartup .tenantStartupUpdate context recordRef
  return .startup (← startupDetail (← asRecord body))

def listInvestors (limit : Int) : BffProgram PortalDTO := do
  return .investors (← listRecords baseDomain request .listTenantInvestors
    "investors" "/internal/investors/list" limit investorDetail)

def readInvestor (recordRef : String) : BffProgram PortalDTO := do
  return .investor (← readRecord baseDomain request .readTenantInvestor recordRef
    "investors" "/internal/investors/read" investorDetail)

def createInvestor (body : CreateInvestorRequest) : BffProgram PortalDTO := do
  return .investor (← oneRecord baseDomain request .createTenantInvestor none
    "investors" "/internal/investors/create"
    [("investor_name", .text body.displayName),
      ("investor_type", optional body.investorType),
      ("website_url", optional body.websiteUrl),
      ("short_description", optional body.shortDescription),
      ("investment_stage_focus", .texts body.investmentStageFocus),
      ("industry_focus", .texts body.industryFocus),
      ("headquarters_country", optional body.headquartersCountry),
      ("headquarters_city", optional body.headquartersCity)] investorDetail)

def updateInvestor (recordRef : String) (shortDescription : Option String) :
    BffProgram PortalDTO := do
  return .investor (← oneRecord baseDomain request .updateTenantInvestor (some recordRef)
    "investors" "/internal/investors/update"
    [("record_ref", .text recordRef), ("short_description", optional shortDescription)]
    investorDetail)

def listDeals (limit : Int) : BffProgram PortalDTO := do
  return .deals (← listRecords baseDomain request .listTenantDeals
    "deals" "/internal/deals/list" limit dealDetail)

def readDeal (recordRef : String) : BffProgram PortalDTO := do
  return .deal (← readRecord baseDomain request .readTenantDeal recordRef
    "deals" "/internal/deals/read" dealDetail)

def createDeal (body : CreateDealRequest) : BffProgram PortalDTO := do
  return .deal (← oneRecord baseDomain request .createTenantDeal none
    "deals" "/internal/deals/create"
    [("deal_name", .text body.dealName),
      ("startup_ref", .text body.startupRef),
      ("investor_ref", optional body.investorRef),
      ("stage", optional body.stage),
      ("amount", optional body.amount),
      ("currency", optional body.currency)] dealDetail)

def updateDeal (recordRef : String) (stage status : Option String) :
    BffProgram PortalDTO := do
  return .deal (← oneRecord baseDomain request .updateTenantDeal (some recordRef)
    "deals" "/internal/deals/update"
    [("record_ref", .text recordRef), ("stage", optional stage), ("status", optional status)]
    dealDetail)

def readLineage (recordRef : String) : BffProgram PortalDTO := do
  let (_, body) ← tenantCall baseDomain request .readTenantLineage (some recordRef)
    "lineage" "/internal/lineage/for-record" [("target_ref", .text recordRef)]
  let entries ← asListing "entries" body
  return .lineage recordRef (← entries.mapM (item · "lineage_ref"))
    (← entries.mapM (item · "source_ref"))

/-- The handler of a route. -/
def handler : Endpoint → BffProgram PortalDTO
  | .listMemberships => listMemberships baseDomain request
  | .readStartupDirectory => readStartupDirectory baseDomain request
  | .readInvestorDirectory => readInvestorDirectory baseDomain request
  | .importStartup sourceRef => importStartup baseDomain request sourceRef
  | .listStartups limit => listStartups baseDomain request limit
  | .readStartup recordRef => readStartup baseDomain request recordRef
  | .createStartup body => createStartup baseDomain request body
  | .updateStartup recordRef text => updateStartup baseDomain request recordRef text
  | .listInvestors limit => listInvestors baseDomain request limit
  | .readInvestor recordRef => readInvestor baseDomain request recordRef
  | .createInvestor body => createInvestor baseDomain request body
  | .updateInvestor recordRef text => updateInvestor baseDomain request recordRef text
  | .listDeals limit => listDeals baseDomain request limit
  | .readDeal recordRef => readDeal baseDomain request recordRef
  | .createDeal body => createDeal baseDomain request body
  | .updateDeal recordRef stage status => updateDeal baseDomain request recordRef stage status
  | .readLineage recordRef => readLineage baseDomain request recordRef

/-- One request: its parameters are validated before its handler runs. -/
def serve (endpoint : Endpoint) : BffProgram PortalDTO :=
  if endpoint.valid then handler baseDomain request endpoint else deny invalidRequest

end Routes

end Bff

end SnackPortal2
