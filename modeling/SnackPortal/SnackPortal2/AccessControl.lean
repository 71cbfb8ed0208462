import SnackPortal.SnackPortal2.Ingress

/-!
# Access control

The policy: the one place where a permission is evaluated.  Every early answer is a denial, which
carries no domain, and so is whatever is raised on the way; a request is allowed only at the end.

The operation of a request is any text.  The only thing that the policy asks for is whether the
principal is a member of the tenant; the lookup may answer either way or raise.
-/

namespace SnackPortal2.AccessControl

/-! ## Operations -/

/-- The stable identifier of an operation. -/
def value : BffOperation → String
  | .listMemberships => "list_memberships"
  | .readGlobalStartupDirectory => "read_global_startup_directory"
  | .readGlobalInvestorDirectory => "read_global_investor_directory"
  | .initiateStartupImport => "initiate_startup_import"
  | .listTenantStartups => "list_tenant_startups"
  | .createTenantStartup => "create_tenant_startup"
  | .readTenantStartup => "read_tenant_startup"
  | .updateTenantStartup => "update_tenant_startup"
  | .listTenantInvestors => "list_tenant_investors"
  | .createTenantInvestor => "create_tenant_investor"
  | .readTenantInvestor => "read_tenant_investor"
  | .updateTenantInvestor => "update_tenant_investor"
  | .listTenantDeals => "list_tenant_deals"
  | .createTenantDeal => "create_tenant_deal"
  | .readTenantDeal => "read_tenant_deal"
  | .updateTenantDeal => "update_tenant_deal"
  | .listTenantContacts => "list_tenant_contacts"
  | .createTenantContact => "create_tenant_contact"
  | .readTenantContact => "read_tenant_contact"
  | .readTenantLineage => "read_tenant_lineage"
  | .proposeDealShare => "propose_deal_share"
  | .readDealShare => "read_deal_share"

/-- The permissions. -/
inductive Permission where
  | membershipsRead
  | directoryGlobalStartupRead
  | directoryGlobalInvestorRead
  | importInitiate
  | startupRead
  | startupCreate
  | startupUpdate
  | investorRead
  | investorCreate
  | investorUpdate
  | dealRead
  | dealCreate
  | dealUpdate
  | contactRead
  | contactCreate
  | lineageRead
  | sharePropose
  | shareRead
  | aiInvoke
deriving DecidableEq, Repr, Inhabited

/-- Each operation with the one permission that it requires. -/
def requiredPermissions : List (BffOperation × Permission) :=
  [ (.listMemberships, .membershipsRead),
    (.readGlobalStartupDirectory, .directoryGlobalStartupRead),
    (.readGlobalInvestorDirectory, .directoryGlobalInvestorRead),
    (.initiateStartupImport, .importInitiate),
    (.listTenantStartups, .startupRead),
    (.readTenantStartup, .startupRead),
    (.createTenantStartup, .startupCreate),
    (.updateTenantStartup, .startupUpdate),
    (.listTenantInvestors, .investorRead),
    (.readTenantInvestor, .investorRead),
    (.createTenantInvestor, .investorCreate),
    (.updateTenantInvestor, .investorUpdate),
    (.listTenantDeals, .dealRead),
    (.readTenantDeal, .dealRead),
    (.createTenantDeal, .dealCreate),
    (.updateTenantDeal, .dealUpdate),
    (.listTenantContacts, .contactRead),
    (.readTenantContact, .contactRead),
    (.createTenantContact, .contactCreate),
    (.readTenantLineage, .lineageRead),
    (.proposeDealShare, .sharePropose),
    (.readDealShare, .shareRead) ]

/-- Each operation with its category. -/
def operationCategories : List (BffOperation × OperationCategory) :=
  [.listMemberships, .readGlobalStartupDirectory, .readGlobalInvestorDirectory,
    .initiateStartupImport, .listTenantStartups, .createTenantStartup, .readTenantStartup,
    .updateTenantStartup, .listTenantInvestors, .createTenantInvestor, .readTenantInvestor,
    .updateTenantInvestor, .listTenantDeals, .createTenantDeal, .readTenantDeal,
    .updateTenantDeal, .listTenantContacts, .createTenantContact, .readTenantContact,
    .readTenantLineage, .proposeDealShare, .readDealShare].map
      fun operation => (operation, categoryOf operation)

/-- What a table has for an operation that is given by its identifier. -/
def entry {α : Type} (table : List (BffOperation × α)) (operation : String) : Option α :=
  (table.find? fun e => value e.1 = operation).map Prod.snd

/-- The operations of governed sharing. -/
def sharingInertOperations : List BffOperation :=
  (operationCategories.filter fun e => e.2 = .governedSharing).map Prod.fst

/-- `domain_of`, which raises for an operation without a category. -/
def domainOfText (operation : String) : Option DatabaseDomain :=
  (entry operationCategories operation).map categoryDomain

/-! ## Roles -/

def tenantAgentPermissions : List Permission :=
  [.membershipsRead, .directoryGlobalStartupRead, .directoryGlobalInvestorRead, .importInitiate,
    .startupRead, .startupCreate, .startupUpdate, .investorRead, .investorCreate,
    .investorUpdate, .dealRead, .dealCreate, .dealUpdate, .contactRead, .contactCreate,
    .lineageRead]

/-- The grants of every role. -/
def rolePermissions : PlatformRole → List Permission
  | .control => [.membershipsRead, .directoryGlobalStartupRead, .directoryGlobalInvestorRead]
  | .masterAgent | .tenantAdmin | .tenantAgent => tenantAgentPermissions
  | .startupUser => [.membershipsRead, .directoryGlobalStartupRead]
  | .investorUser => [.membershipsRead, .directoryGlobalInvestorRead]

/-! ## The decision -/

inductive Decision where
  | allowed
  | denied
deriving DecidableEq, Repr, Inhabited

/-- A decision, with the code that a denial carries and the domain that an allowance does. -/
structure AccessDecision where
  decision : Decision
  code : ErrorCode
  domain : Option DatabaseDomain
deriving DecidableEq, Repr, Inhabited

def denied (code : ErrorCode) : AccessDecision :=
  ⟨.denied, code, none⟩

/-- The text is there and is not empty. -/
def present : Option String → Bool
  | none => false
  | some text => text ≠ ""

/-- The one domain of a request, if it has one. -/
def resolveSingleDomain (operation : String) (context : RequestContext) :
    Option DatabaseDomain :=
  match domainOfText operation with
  | none => none
  | some .tenant => if present context.tenantContext then some .tenant else none
  | some .control => some .control

section Decide

variable {ε : Type} (isMember : String → String → Except ε Bool)

/-- The membership that a request in a domain asks for: the code of its denial, or none. -/
def membership (context : RequestContext) : DatabaseDomain → Except ε (Option ErrorCode)
  | .control => return none
  | .tenant =>
      match context.tenantContext with
      | none => return some .isolationViolation
      | some tenantRef =>
          if tenantRef = "" then
            return some .isolationViolation
          else do
            if ← isMember context.principalRef tenantRef then
              return none
            else
              return some .accessDenied

/-- The body of `decide`, which may raise what the lookup does. -/
def evaluation (operation : String) (context : RequestContext) (ownerAiAgentRef : Option String) :
    Except ε AccessDecision :=
  if context.principalRef = "" ∨ context.correlationId = "" then
    return denied .accessDenied
  else
    match entry requiredPermissions operation with
    | none => return denied .accessDenied
    | some required =>
        if operation ∈ sharingInertOperations.map value then
          return denied .accessDenied
        else
          match resolveSingleDomain operation context with
          | none => return denied .isolationViolation
          | some domain =>
              if present ownerAiAgentRef then
                return denied .accessDenied
              else do
                match ← membership isMember context domain with
                | some code => return denied code
                | none =>
                    if required ∉ rolePermissions context.role then
                      return denied .accessDenied
                    else if required = .aiInvoke then
                      return denied .accessDenied
                    else
                      return ⟨.allowed, .accessDenied, some domain⟩

/-- `decide`: whatever is raised is a denial. -/
def decide (operation : String) (context : RequestContext) (ownerAiAgentRef : Option String) :
    AccessDecision :=
  match evaluation isMember operation context ownerAiAgentRef with
  | .ok decision => decision
  | .error _ => denied .accessDenied

/-- The public code of a denial. -/
def codeText : ErrorCode → String
  | .unauthenticated => "unauthenticated"
  | .carrierMismatch => "carrier_mismatch"
  | .accessDenied => "access_denied"
  | .tenantNotFound => "tenant_not_found"
  | .tenantNotReady => "tenant_not_ready"
  | .tenantUnavailable => "tenant_unavailable"
  | .isolationViolation => "isolation_violation"
  | .invalidRequest => "invalid_request"
  | .notFound => "not_found"
  | .internalError => "internal_error"

/-- `evaluate`: what is answered to the ingress. -/
def evaluate (operation : BffOperation) (context : RequestContext)
    (ownerAiAgentRef : Option String) : AuthorizationResult :=
  let outcome := decide isMember (value operation) context ownerAiAgentRef
  if outcome.decision = .allowed then
    ⟨true, none, outcome.domain⟩
  else
    ⟨false, some (codeText outcome.code), none⟩

end Decide

/-! ## Known operations -/

theorem value_injective :
  Function.Injective value
  := by
  intro a b h
  cases a <;> cases b <;> first | rfl | (revert h; decide)

/-- The table has one permission for an operation, under its identifier. -/
theorem entry_value (op : BffOperation) :
  ∃ required, entry requiredPermissions (value op) = some required
    ∧ ∀ p, (op, p) ∈ requiredPermissions ↔ p = required
  := by
  cases op <;> exact ⟨_, rfl, by simp [requiredPermissions]⟩

theorem domainOfText_value (op : BffOperation) :
  domainOfText (value op) = some (domainOf op)
  := by
  cases op <;> rfl

/-- A text that is no operation's has no entry. -/
theorem entry_unknown {α : Type} {table : List (BffOperation × α)} {operation : String}
    (h : ∀ op, value op ≠ operation) :
  entry table operation = none
  := by
  rw [entry, List.find?_eq_none.mpr]
  · rfl
  · intro e _ heq
    apply h e.1 (of_decide_eq_true heq)

/-! ## What is allowed -/

section Spec

variable {ε : Type} (isMember : String → String → Except ε Bool)
variable (context : RequestContext) (ownerAiAgentRef : Option String)

/-- What the policy asks of a request for an operation. -/
structure Permitted (op : BffOperation) : Prop where
  principal : context.principalRef ≠ ""
  correlation : context.correlationId ≠ ""
  notInert : op ∉ sharingInertOperations
  domain : domainOf op = .control
    ∨ ∃ tenantRef, context.tenantContext = some tenantRef ∧ tenantRef ≠ ""
  noOwner : present ownerAiAgentRef = false
  member : domainOf op = .tenant → ∃ tenantRef, context.tenantContext = some tenantRef
    ∧ tenantRef ≠ "" ∧ isMember context.principalRef tenantRef = .ok true
  granted : ∃ required, (op, required) ∈ requiredPermissions
    ∧ required ∈ rolePermissions context.role

variable {isMember context ownerAiAgentRef}

/-- A request has the domain of its operation where that is not the tenant's, or a tenant is
signed. -/
theorem resolveSingleDomain_eq_some_iff {op : BffOperation} :
  resolveSingleDomain (value op) context = some (domainOf op)
    ↔ domainOf op = .control ∨ ∃ tenantRef, context.tenantContext = some tenantRef ∧ tenantRef ≠ ""
  := by
  rw [resolveSingleDomain, domainOfText_value]
  cases domainOf op with
  | control => simp
  | tenant =>
      cases htenant : context.tenantContext with
      | none => simp [present]
      | some tenantRef => simp [present]

/-- The membership of a request is none to deny where its principal is a member. -/
theorem membership_eq_none_iff {op : BffOperation} :
  membership isMember context (domainOf op) = .ok none
    ↔ (domainOf op = .tenant → ∃ tenantRef, context.tenantContext = some tenantRef
      ∧ tenantRef ≠ "" ∧ isMember context.principalRef tenantRef = .ok true)
  := by
  cases hdomain : domainOf op with
  | control =>
      constructor
      · nofun
      · intro _
        rfl
  | tenant =>
      rw [membership]
      cases htenant : context.tenantContext with
      | none =>
          constructor
          · nofun
          · intro h
            obtain ⟨tenantRef, hnone, -⟩ := h rfl
            cases hnone
      | some tenantRef =>
          by_cases hempty : tenantRef = ""
          · simp [hempty, pure, Except.pure]
          · cases hmember : isMember context.principalRef tenantRef with
            | error e => simp [hempty, hmember, bind, Except.bind]
            | ok answer =>
                cases answer <;> simp [hempty, hmember, bind, Except.bind, pure, Except.pure]

/-- No role is granted the permission for the model. -/
theorem aiInvoke_ungranted (role : PlatformRole) :
  .aiInvoke ∉ rolePermissions role
  := by
  cases role <;> decide

theorem not_allowed_denied {code : ErrorCode} {decision : AccessDecision} :
  ¬ ((return denied code : Except ε AccessDecision) = .ok decision
    ∧ decision.decision = .allowed)
  := by
  intro ⟨hdenied, hallowed⟩
  rw [← Except.ok.inj hdenied] at hallowed
  cases hallowed

/-- The body allows what is permitted, and nothing else. -/
theorem evaluation_allowed_iff {op : BffOperation} {decision : AccessDecision} :
  evaluation isMember (value op) context ownerAiAgentRef = .ok decision
      ∧ decision.decision = .allowed
    ↔ Permitted isMember context ownerAiAgentRef op
      ∧ decision = ⟨.allowed, .accessDenied, some (domainOf op)⟩
  := by
  obtain ⟨required, hentry, hrequired⟩ := entry_value op
  by_cases hcontext : context.principalRef = "" ∨ context.correlationId = ""
  · rw [evaluation, if_pos hcontext]
    apply iff_of_false
    · apply not_allowed_denied
    · intro ⟨h, _⟩
      rcases hcontext with hprincipal | hcorrelation
      · apply h.principal hprincipal
      · apply h.correlation hcorrelation
  rw [evaluation, if_neg hcontext, hentry]
  simp only
  by_cases hinert : value op ∈ sharingInertOperations.map value
  · rw [if_pos hinert]
    apply iff_of_false
    · apply not_allowed_denied
    · intro ⟨h, _⟩
      apply h.notInert ((List.mem_map_of_injective value_injective).mp hinert)
  rw [if_neg hinert]
  by_cases hdomain : resolveSingleDomain (value op) context = some (domainOf op)
  · rw [hdomain]
    simp only
    by_cases howner : present ownerAiAgentRef
    · rw [if_pos howner]
      apply iff_of_false
      · apply not_allowed_denied
      · intro ⟨h, _⟩
        rw [h.noOwner] at howner
        cases howner
    rw [if_neg howner]
    cases hmembership : membership isMember context (domainOf op) with
    | error e =>
        apply iff_of_false
        · nofun
        · intro ⟨h, _⟩
          rw [membership_eq_none_iff.mpr h.member] at hmembership
          cases hmembership
    | ok code =>
        cases code with
        | some code =>
            apply iff_of_false
            · apply not_allowed_denied
            · intro ⟨h, _⟩
              rw [membership_eq_none_iff.mpr h.member] at hmembership
              cases hmembership
        | none =>
            show (if required ∉ rolePermissions context.role then _ else _) = _ ∧ _ ↔ _
            by_cases hgranted : required ∈ rolePermissions context.role
            · have hai : required ≠ .aiInvoke := by
                rintro rfl
                apply aiInvoke_ungranted context.role hgranted
              rw [if_neg (not_not.mpr hgranted), if_neg hai]
              constructor
              · intro ⟨hdecision, _⟩
                constructor
                · constructor
                  · apply (not_or.mp hcontext).1
                  · apply (not_or.mp hcontext).2
                  · intro hmem
                    apply hinert (List.mem_map_of_mem hmem)
                  · apply resolveSingleDomain_eq_some_iff.mp hdomain
                  · apply Bool.eq_false_iff.mpr howner
                  · apply membership_eq_none_iff.mp hmembership
                  · use required
                    constructor
                    · apply (hrequired required).mpr rfl
                    · apply hgranted
                · apply (Except.ok.inj hdecision).symm
              · intro ⟨_, hdecision⟩
                rw [hdecision]
                constructor
                · rfl
                · rfl
            · rw [if_pos hgranted]
              apply iff_of_false
              · apply not_allowed_denied
              · intro ⟨h, _⟩
                obtain ⟨p, hp, hrole⟩ := h.granted
                rw [(hrequired p).mp hp] at hrole
                apply hgranted hrole
  · have hnone : resolveSingleDomain (value op) context = none := by
      revert hdomain
      rw [resolveSingleDomain, domainOfText_value]
      cases hop : domainOf op with
      | control => simp
      | tenant => simp
    rw [hnone]
    apply iff_of_false
    · apply not_allowed_denied
    · intro ⟨h, _⟩
      apply hdomain (resolveSingleDomain_eq_some_iff.mpr h.domain)

/-- What is not an operation is denied. -/
theorem decide_unknown {operation : String} (h : ∀ op, value op ≠ operation) :
  decide isMember operation context ownerAiAgentRef = denied .accessDenied
  := by
  rw [decide, evaluation, entry_unknown h]
  split
  · rename_i decision hdecision
    split at hdecision
    · rw [← Except.ok.inj hdecision]
    · rw [← Except.ok.inj hdecision]
  · rfl

/-- The decision is one of the body, or the denial of what it raised. -/
theorem decide_cases (operation : String) :
  evaluation isMember operation context ownerAiAgentRef
      = .ok (decide isMember operation context ownerAiAgentRef)
    ∨ decide isMember operation context ownerAiAgentRef = denied .accessDenied
  := by
  rw [decide]
  cases evaluation isMember operation context ownerAiAgentRef with
  | ok decision => apply Or.inl rfl
  | error e => apply Or.inr rfl

/-- A decision for an operation is allowed where it is permitted, with the operation's domain. -/
theorem decide_value_iff {op : BffOperation} :
  ((decide isMember (value op) context ownerAiAgentRef).decision = .allowed
      ↔ Permitted isMember context ownerAiAgentRef op)
    ∧ ((decide isMember (value op) context ownerAiAgentRef).decision = .allowed →
      (decide isMember (value op) context ownerAiAgentRef).domain = some (domainOf op))
  := by
  have hallowed : (decide isMember (value op) context ownerAiAgentRef).decision = .allowed →
      Permitted isMember context ownerAiAgentRef op
        ∧ decide isMember (value op) context ownerAiAgentRef
          = ⟨.allowed, .accessDenied, some (domainOf op)⟩ := by
    intro h
    have hcases : evaluation isMember (value op) context ownerAiAgentRef
          = .ok (decide isMember (value op) context ownerAiAgentRef)
        ∨ decide isMember (value op) context ownerAiAgentRef = denied .accessDenied :=
      decide_cases (value op)
    rcases hcases with hbody | hdenied
    · apply evaluation_allowed_iff.mp
      exact ⟨hbody, h⟩
    · rw [hdenied] at h
      cases h
  constructor
  · constructor
    · intro h
      apply (hallowed h).1
    · intro h
      have hbody := (evaluation_allowed_iff.mpr ⟨h, rfl⟩).1
      rw [decide, hbody]
  · intro h
    rw [(hallowed h).2]

/-- The body answers a denial, which carries no domain, or an allowance. -/
theorem evaluation_cases {operation : String} {decision : AccessDecision}
    (h : evaluation isMember operation context ownerAiAgentRef = .ok decision) :
  (∃ code, decision = denied code) ∨ ∃ domain, decision = ⟨.allowed, .accessDenied, some domain⟩
  := by
  have hdenial : ∀ {code : ErrorCode}, (return denied code : Except ε AccessDecision)
      = .ok decision → (∃ code, decision = denied code)
        ∨ ∃ domain, decision = ⟨.allowed, .accessDenied, some domain⟩ := by
    intro code hcode
    apply Or.inl
    use code
    apply (Except.ok.inj hcode).symm
  rw [evaluation] at h
  split at h
  · apply hdenial h
  split at h
  · apply hdenial h
  split at h
  · apply hdenial h
  split at h
  · apply hdenial h
  rename_i domain _
  split at h
  · apply hdenial h
  cases hmembership : membership isMember context domain with
  | error e =>
      rw [hmembership] at h
      cases h
  | ok code =>
      rw [hmembership] at h
      cases code with
      | some code => apply hdenial h
      | none =>
          simp only [bind, Except.bind] at h
          split at h
          · apply hdenial h
          split at h
          · apply hdenial h
          · apply Or.inr
            use domain
            apply (Except.ok.inj h).symm

/-- A denial carries no domain. -/
theorem decide_denied {operation : String}
    (h : (decide isMember operation context ownerAiAgentRef).decision = .denied) :
  (decide isMember operation context ownerAiAgentRef).domain = none
  := by
  rcases decide_cases operation with hbody | hdenied
  · rcases evaluation_cases hbody with ⟨code, hcode⟩ | ⟨domain, hdomain⟩
    · rw [hcode]
      rfl
    · rw [hdomain] at h
      cases h
  · rw [hdenied]
    rfl

end Spec

/-- A request is allowed exactly where it is permitted, with the domain of its operation; a
denial carries no domain; and what the lookup raises is a denial. -/
theorem decide_spec {ε : Type} (isMember : String → String → Except ε Bool)
    (operation : String) (context : RequestContext) (ownerAiAgentRef : Option String) :
  ((decide isMember operation context ownerAiAgentRef).decision = .allowed
      ↔ ∃ op, value op = operation ∧ Permitted isMember context ownerAiAgentRef op)
    ∧ (∀ op, value op = operation →
      (decide isMember operation context ownerAiAgentRef).decision = .allowed →
      (decide isMember operation context ownerAiAgentRef).domain = some (domainOf op))
    ∧ ((decide isMember operation context ownerAiAgentRef).decision = .denied →
      (decide isMember operation context ownerAiAgentRef).domain = none)
    ∧ ∀ op tenantRef e, value op = operation → domainOf op = .tenant →
      context.tenantContext = some tenantRef →
      isMember context.principalRef tenantRef = .error e →
      (decide isMember operation context ownerAiAgentRef).decision = .denied
        ∧ (decide isMember operation context ownerAiAgentRef).domain = none
  := by
  constructor
  · by_cases hknown : ∃ op, value op = operation
    · obtain ⟨op, rfl⟩ := hknown
      rw [decide_value_iff.1]
      constructor
      · intro h
        use op
      · intro ⟨op', hop', h⟩
        rw [← value_injective hop']
        apply h
    · have hdenied : decide isMember operation context ownerAiAgentRef
          = denied .accessDenied := by
        apply decide_unknown
        intro op hop
        apply hknown
        use op
      rw [hdenied]
      apply iff_of_false
      · nofun
      · intro ⟨op, hop, _⟩
        apply hknown
        use op
  constructor
  · rintro op rfl h
    apply decide_value_iff.2 h
  constructor
  · apply decide_denied
  · rintro op tenantRef e rfl htenant hcontext hraised
    have hdenied : (decide isMember (value op) context ownerAiAgentRef).decision = .denied := by
      cases hdecision : (decide isMember (value op) context ownerAiAgentRef).decision with
      | denied => rfl
      | allowed =>
          obtain ⟨tenantRef', hcontext', -, hmember⟩ :=
            (decide_value_iff.1.mp hdecision).member htenant
          obtain rfl := Option.some.inj (hcontext.symm.trans hcontext')
          rw [hraised] at hmember
          cases hmember
    constructor
    · apply hdenied
    · apply decide_denied hdenied

/-- The context of an agent of a tenant. -/
def agentContext : RequestContext where
  correlationId := "c-1"
  principalRef := "user:1"
  role := .tenantAgent
  tenantContext := some "acme"
  workspaceType := .tenantWorkspace

/-- The agent may read the startups of the tenant that it is a member of, and of no other. -/
theorem decide_spec_agent :
  (decide (fun _ tenantRef => (.ok (tenantRef == "acme") : Except Unit Bool))
      "list_tenant_startups" agentContext none).decision = .allowed
    ∧ (decide (fun _ tenantRef => (.ok (tenantRef == "beta") : Except Unit Bool))
      "list_tenant_startups" agentContext none).decision ≠ .allowed
  := by
  constructor
  · apply (decide_spec _ _ _ _).1.mpr
    refine ⟨.listTenantStartups, rfl, ?_⟩
    constructor
    · decide
    · decide
    · decide
    · exact .inr ⟨"acme", rfl, by decide⟩
    · rfl
    · intro _
      exact ⟨"acme", rfl, by decide, rfl⟩
    · exact ⟨.startupRead, by decide, by decide⟩
  · intro hallowed
    obtain ⟨op, hop, h⟩ := (decide_spec _ _ _ _).1.mp hallowed
    obtain rfl := value_injective (hop.trans (rfl : _ = value .listTenantStartups))
    obtain ⟨tenantRef, htenant, -, hmember⟩ := h.member rfl
    obtain rfl := Option.some.inj htenant
    cases hmember

/-- What the ingress enforces of an answer that allows holds of every one: it has the
operation's own domain, and for the tenant's a signed tenant. -/
theorem evaluate_enforced {ε : Type} (isMember : String → String → Except ε Bool)
    (op : BffOperation) (context : RequestContext) (ownerAiAgentRef : Option String) :
  ((evaluate isMember op context ownerAiAgentRef).allowed
      ↔ Permitted isMember context ownerAiAgentRef op)
    ∧ ((evaluate isMember op context ownerAiAgentRef).allowed →
      (evaluate isMember op context ownerAiAgentRef).resolvedDomain = some (domainOf op)
        ∧ (domainOf op = .tenant → context.tenantContext.getD "" ≠ ""))
  := by
  have hiff : (evaluate isMember op context ownerAiAgentRef).allowed
      ↔ (decide isMember (value op) context ownerAiAgentRef).decision = .allowed := by
    rw [evaluate]
    split
    · rename_i hallowed
      simp [hallowed]
    · rename_i hdenied
      simp [hdenied]
  constructor
  · rw [hiff, decide_value_iff.1]
  · intro h
    have hallowed := hiff.mp h
    constructor
    · rw [evaluate, if_pos hallowed]
      apply decide_value_iff.2 hallowed
    · intro htenant
      obtain ⟨tenantRef, hcontext, hne, -⟩ := (decide_value_iff.1.mp hallowed).member htenant
      rw [hcontext]
      apply hne

end SnackPortal2.AccessControl
