import SnackPortal.Program.Runs
import SnackPortal.SnackPortal2.Surface

/-!
# Authentication

The verifiers of credentials, the service that verifies a credential and compares the carrier with
the signed tenant, and the client by which the ingress asks it.  What is verified is read off the
credential alone: the time decides only whether the credential is still valid.  So two requests
that carry one credential have one context, whatever else is in them.
-/

namespace SnackPortal2.Authentication

/-! ## Verifiers -/

/-- The claims that a valid credential established. -/
structure VerifiedIdentity where
  principalRef : String
  role : PlatformRole
  activeTenantRef : Option String
deriving DecidableEq, Repr, Inhabited

/-- The value of a claim. -/
inductive Claim where
  | null
  | text (value : String)
  | other
deriving DecidableEq, Repr, Inhabited

/-- `claims.get`, over the claims of a token. -/
abbrev Claims := String → Option Claim

/-- One pinned issuer. -/
structure IssuerTrustAnchor where
  issuer : String
  audience : String
  algorithms : List String
  publicKeyPem : String
deriving DecidableEq, Repr, Inhabited

/-- The library for tokens: the issuer that a well-formed token names and its claims, read
without its signature, and whether the token is valid under an anchor at a time. -/
structure Jwt where
  issuer : String → Option String
  claims : String → Claims
  valid : Int → String → IssuerTrustAnchor → Bool

/-- The verifiers that the configuration selects. -/
inductive TokenVerifier where
  | denyAll
  | static (principals : List (String × VerifiedIdentity))
  | jwt (anchors : List (String × IssuerTrustAnchor))
deriving DecidableEq, Repr, Inhabited

/-- `_identity_from_claims`; nothing where it raises `InvalidCredential`. -/
def identityFromClaims (claims : Claims) : Option VerifiedIdentity :=
  match claims "sub", claims "role" with
  | some (.text principalRef), some (.text roleValue) =>
      if principalRef = "" then
        none
      else
        match Bff.platformRole roleValue with
        | none => none
        | some role =>
            match (claims "active_tenant").getD .null with
            | .null => some ⟨principalRef, role, none⟩
            | .text tenant => if tenant = "" then none else some ⟨principalRef, role, some tenant⟩
            | .other => none
  | _, _ => none

/-- `verify`; nothing where it raises `InvalidCredential`. -/
def TokenVerifier.verify (library : Jwt) (now : Int) :
    TokenVerifier → String → Option VerifiedIdentity
  | .denyAll, _ => none
  | .static principals, credential => principals.lookup credential
  | .jwt anchors, credential =>
      match library.issuer credential with
      | none => none
      | some issuer =>
          match anchors.lookup issuer with
          | none => none
          | some anchor =>
              if library.valid now credential anchor then
                identityFromClaims (library.claims credential)
              else
                none

/-! ## The service and its client -/

structure AuthenticationResponse where
  principalRef : String
  role : PlatformRole
  activeTenantRef : Option String
  carrierCheck : CarrierVerdict
deriving DecidableEq, Repr, Inhabited

/-- `AuthenticationService.authenticate`. -/
def authenticate (verifier : TokenVerifier) (library : Jwt) (now : Int) (credential : String)
    (carrier : Option String) : Option AuthenticationResponse :=
  (verifier.verify library now credential).map fun identity =>
    { principalRef := identity.principalRef
      role := identity.role
      activeTenantRef := identity.activeTenantRef
      carrierCheck := checkCarrier identity.activeTenantRef carrier }

/-- `HttpAuthentication.authenticate`.  Nothing comes of an exchange that fails, of a refusal, or
of a request that the service does not admit. -/
def httpAuthenticate (verifier : TokenVerifier) (library : Jwt) (now : Int) (delivered : Bool)
    (credential : String) (carrier : Option String) (correlationId : String) :
    Option AuthenticationResult :=
  if !delivered || credential = "" || carrier.any fun value => 128 < value.length then
    none
  else
    (authenticate verifier library now credential carrier).map fun body =>
      { authContext :=
          { correlationId
            principalRef := body.principalRef
            role := body.role
            activeTenantRef := body.activeTenantRef }
        carrierVerdict := body.carrierCheck }

/-- The answers of a run to its calls for authentication are those of the client, at any times. -/
def Answered (verifier : TokenVerifier) (library : Jwt)
    (events : List (Event bffSignature Raised)) : Prop :=
  ∀ credential carrier correlationId r,
    (⟨.authenticate credential carrier correlationId, r⟩ : Event bffSignature Raised) ∈ events →
      ∃ now delivered, r = .ok (httpAuthenticate verifier library now delivered credential carrier
        correlationId)

/-- Stages 1 to 3 of a request. -/
def establishRequest (baseDomain : String) (request : Request) : BffProgram Bff.EstablishedContext :=
  Bff.establish baseDomain (Bff.bearer request) request.headers
    ((request.header "host").getD "") (Bff.correlationIdOf request)

/-! ## One identity -/

section Identity

variable {verifier : TokenVerifier} {library : Jwt} {credential : String}

/-- A credential is of one identity, at whatever times it is valid. -/
theorem verify_unique {now now' : Int} {identity identity' : VerifiedIdentity}
    (h : verifier.verify library now credential = some identity)
    (h' : verifier.verify library now' credential = some identity') :
  identity = identity'
  := by
  cases verifier with
  | denyAll => cases h
  | static principals => exact Option.some.inj (h.symm.trans h')
  | jwt anchors =>
      simp only [TokenVerifier.verify] at h h'
      cases hissuer : library.issuer credential with
      | none =>
          rw [hissuer] at h
          cases h
      | some issuer =>
          rw [hissuer] at h h'
          simp only at h h'
          cases hanchor : anchors.lookup issuer with
          | none =>
              rw [hanchor] at h
              cases h
          | some anchor =>
              rw [hanchor] at h h'
              simp only at h h'
              split at h
              · split at h'
                · exact Option.some.inj (h.symm.trans h')
                · cases h'
              · cases h

/-- The identity behind what the client returned. -/
theorem exists_verified {now : Int} {delivered : Bool} {carrier : Option String}
    {correlationId : String} {result : AuthenticationResult}
    (h : httpAuthenticate verifier library now delivered credential carrier correlationId
      = some result) :
  ∃ identity, verifier.verify library now credential = some identity
    ∧ result.authContext
      = ⟨correlationId, identity.principalRef, identity.role, identity.activeTenantRef⟩
  := by
  rw [httpAuthenticate] at h
  split at h
  · cases h
  · obtain ⟨body, hbody, hresult⟩ := Option.map_eq_some_iff.mp h
    obtain ⟨identity, hidentity, rfl⟩ := Option.map_eq_some_iff.mp hbody
    use identity, hidentity
    rw [← hresult]

end Identity

/-! ## Two requests -/

-- The parts of a request are read out of its texts, which no proof evaluates.
seal Bff.bearer Bff.correlationIdOf recognizedCarrier

section Requests

open Program

variable {baseDomain credential host correlationId : String} {headers : List (String × String)}
  {events : List (Event bffSignature Raised)} {established : Bff.EstablishedContext}

/-- An audited denial establishes nothing. -/
theorem not_runs_denied {event : AuditEvent} {error : AppError} :
  ¬ Runs (do Bff.emit event; Bff.deny error : BffProgram Bff.EstablishedContext) events
    (.ok established)
  := by
  intro h
  rcases runs_perform_bind.mp h with ⟨_, rest, -, hrest⟩ | ⟨e, hend, -⟩
  · obtain ⟨-, hend⟩ := runs_raise.mp hrest
    cases hend
  · cases hend

/-- A context that was established is that of what authentication answered. -/
theorem runs_establish {presented : Option String}
    (h : Runs (Bff.establish baseDomain presented headers host correlationId) events
      (.ok established)) :
  ∃ credential carrier result, presented = some credential
    ∧ (⟨.authenticate credential carrier correlationId, .ok (some result)⟩
      : Event bffSignature Raised) ∈ events
    ∧ established.context = .fromAuthContext result.authContext
  := by
  unfold Bff.establish at h
  split at h
  · obtain ⟨-, hend⟩ := runs_raise.mp h
    cases hend
  · rename_i credential
    split at h
    · obtain ⟨-, hend⟩ := runs_raise.mp h
      cases hend
    · rcases runs_perform_bind.mp h with ⟨answer, rest, rfl, hrest⟩ | ⟨e, hend, -⟩
      · cases answer with
        | none =>
            obtain ⟨-, hend⟩ := runs_raise.mp hrest
            cases hend
        | some result =>
            use credential, (recognizedCarrier headers host baseDomain).value, result, rfl,
              List.mem_cons_self
            simp only at hrest
            split at hrest
            · exact absurd hrest not_runs_denied
            split at hrest
            · exact absurd hrest not_runs_denied
            split at hrest
            · rcases runs_perform_bind.mp hrest with ⟨_, last, -, hlast⟩ | ⟨e, hend, -⟩
              · obtain ⟨-, hend⟩ := runs_pure.mp hlast
                rw [Except.ok.inj hend]
              · cases hend
            · obtain ⟨-, hend⟩ := runs_pure.mp hrest
              rw [Except.ok.inj hend]
      · cases hend

/-- Two requests that carry the same credential and are established have the same context apart
from their correlation ids, whatever else they carry and whenever they are answered. -/
theorem established_same (verifier : TokenVerifier) (library : Jwt) (baseDomain : String)
    (request request' : Request) {events events' : List (Event bffSignature Raised)}
    {established established' : Bff.EstablishedContext}
    (hbearer : Bff.bearer request = Bff.bearer request')
    (hruns : Runs (establishRequest baseDomain request) events (.ok established))
    (hanswered : Answered verifier library events)
    (hruns' : Runs (establishRequest baseDomain request') events' (.ok established'))
    (hanswered' : Answered verifier library events') :
  established.context
    = { established'.context with correlationId := Bff.correlationIdOf request }
  := by
  rw [establishRequest] at hruns hruns'
  obtain ⟨credential, carrier, result, hpresented, hmem, hcontext⟩ := runs_establish hruns
  obtain ⟨credential', carrier', result', hpresented', hmem', hcontext'⟩ := runs_establish hruns'
  obtain rfl : credential = credential' := by
    rw [hbearer, hpresented'] at hpresented
    exact (Option.some.inj hpresented).symm
  obtain ⟨now, delivered, hanswer⟩ := hanswered _ _ _ _ hmem
  obtain ⟨now', delivered', hanswer'⟩ := hanswered' _ _ _ _ hmem'
  obtain ⟨identity, hidentity, hauth⟩ := exists_verified (Except.ok.inj hanswer).symm
  obtain ⟨identity', hidentity', hauth'⟩ := exists_verified (Except.ok.inj hanswer').symm
  obtain rfl := verify_unique hidentity hidentity'
  rw [hcontext, hcontext', hauth, hauth']
  rfl

/-- A request whose carrier is absent or matches the signed tenant is established. -/
theorem runs_matched {request : Request} {value : Option String} {result : AuthenticationResult}
    (hbearer : Bff.bearer request = some credential) (hcredential : credential ≠ "")
    (hobserved : recognizedCarrier request.headers ((request.header "host").getD "") baseDomain
      = ⟨value, false⟩)
    (hverdict : result.carrierVerdict = .absent ∨ result.carrierVerdict = .matched) :
  Runs (establishRequest baseDomain request)
    [⟨.authenticate credential value (Bff.correlationIdOf request), .ok (some result)⟩]
    (.ok ⟨.fromAuthContext result.authContext, value⟩)
  := by
  rw [establishRequest, hbearer]
  simp only [Bff.establish, if_neg hcredential, hobserved]
  apply runs_perform_bind.mpr
  left
  use some result, [], rfl
  simp only [Bool.false_eq_true, if_false]
  rcases hverdict with hverdict | hverdict
  · rw [hverdict]
    exact ⟨rfl, rfl⟩
  · rw [hverdict]
    exact ⟨rfl, rfl⟩

end Requests

/-! ### Two requests of one user -/

/-- The user of one tenant, by a credential that the configuration lists. -/
def sampleVerifier : TokenVerifier :=
  .static [("tok", ⟨"user", .tenantAgent, some "acme"⟩)]

def sampleLibrary : Jwt := ⟨fun _ => none, fun _ _ => none, fun _ _ _ => false⟩

/-- One request with a carrier, and one to another host with a name that is no carrier. -/
def sampleRequest : Request :=
  ⟨[("Authorization", "Bearer tok"), ("X-Tenant-Id", "acme"), ("host", "bff")], "c1", "m1"⟩

def sampleRequest' : Request :=
  ⟨[("host", "zeta.example.com"), ("X-Tenant", "zeta"), ("authorization", "bearer tok ")], "c2",
    "m2"⟩

/-- What authentication answers to the user. -/
def sampleResult (correlationId : String) (verdict : CarrierVerdict) : AuthenticationResult :=
  ⟨⟨correlationId, "user", .tenantAgent, some "acme"⟩, verdict⟩

theorem sample_answered {carrier : Option String} {correlationId : String}
    {verdict : CarrierVerdict}
    (h : httpAuthenticate sampleVerifier sampleLibrary 0 true "tok" carrier correlationId
      = some (sampleResult correlationId verdict)) :
  Answered sampleVerifier sampleLibrary
    [⟨.authenticate "tok" carrier correlationId, .ok (some (sampleResult correlationId verdict))⟩]
  := by
  intro credential carrier' correlationId' r hmem
  rw [List.mem_singleton] at hmem
  cases hmem
  use 0, true
  rw [h]

theorem established_same_sample :
  ∃ established established' : Bff.EstablishedContext,
    established.context
        = { established'.context with correlationId := Bff.correlationIdOf sampleRequest }
      ∧ established.carrierRef = some "acme" ∧ established'.carrierRef = none
  := by
  have hruns : Program.Runs (establishRequest "" sampleRequest)
      [⟨.authenticate "tok" (some "acme") "c1", .ok (some (sampleResult "c1" .matched))⟩]
      (.ok ⟨.fromAuthContext (sampleResult "c1" .matched).authContext, some "acme"⟩) := by
    have hcorrelation : Bff.correlationIdOf sampleRequest = "c1" := by decide +kernel
    have hmatched : Program.Runs (establishRequest "" sampleRequest)
        [⟨.authenticate "tok" (some "acme") (Bff.correlationIdOf sampleRequest),
          .ok (some (sampleResult "c1" .matched))⟩]
        (.ok ⟨.fromAuthContext (sampleResult "c1" .matched).authContext, some "acme"⟩) :=
      runs_matched (by decide +kernel) (by decide) (by decide +kernel) (.inr rfl)
    rw [hcorrelation] at hmatched
    apply hmatched
  have hruns' : Program.Runs (establishRequest "" sampleRequest')
      [⟨.authenticate "tok" none "c2", .ok (some (sampleResult "c2" .absent))⟩]
      (.ok ⟨.fromAuthContext (sampleResult "c2" .absent).authContext, none⟩) := by
    have hcorrelation : Bff.correlationIdOf sampleRequest' = "c2" := by decide +kernel
    have hmatched : Program.Runs (establishRequest "" sampleRequest')
        [⟨.authenticate "tok" (none) (Bff.correlationIdOf sampleRequest'),
          .ok (some (sampleResult "c2" .absent))⟩]
        (.ok ⟨.fromAuthContext (sampleResult "c2" .absent).authContext, none⟩) :=
      runs_matched (by decide +kernel) (by decide) (by decide +kernel) (.inl rfl)
    rw [hcorrelation] at hmatched
    apply hmatched
  have hbearer : Bff.bearer sampleRequest = Bff.bearer sampleRequest' := by decide +kernel
  have hsame := established_same sampleVerifier sampleLibrary "" sampleRequest sampleRequest'
    hbearer hruns (sample_answered (by decide +kernel)) hruns' (sample_answered (by decide +kernel))
  exact ⟨_, _, hsame, rfl, rfl⟩

end SnackPortal2.Authentication
