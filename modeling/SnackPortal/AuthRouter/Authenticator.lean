import SnackPortal.AuthRouter.Validation
import SnackPortal.Program.Runs

/-!
# The authenticator

`Authenticator.authenticate`.  The issuer is read from the token before it is trusted, the token
is validated, the tenant context is resolved, and the attempt is audited.  Where the token is tame
for the issuer it names, an attempt returns a context or raises a denial, and leaves one event
that says which; otherwise an exception of Python gets through and leaves none
(`authenticate_accountable_iff`).
-/

namespace AuthRouter

open Program Fallible

/-! ### The ports -/

/-- The authenticated result. -/
structure AuthContext where
  correlationId : String
  principalRef : Json
  activeTenantId : Json
  role : Option String

/-- An event of the operational audit. -/
structure OperationalAuditEvent where
  actorRef : Json
  action : String
  correlationId : String
  outcome : String
  targetRef : Json

/-- The calls: the clock, the tenant context resolver and the audit. -/
inductive AuthOp where
  | time
  | resolve (claims : Claims) (correlationId : String) (carrierTenant : Option String)
  | initiate (event : OperationalAuditEvent)

/-- The type of the answers to a call. -/
abbrev AuthOp.Ans : AuthOp → Type
  | .time => ℚ
  | .resolve _ _ _ => AuthContext
  | .initiate _ => Unit

/-- The signature of the authenticator. -/
abbrev authSignature : Signature := ⟨AuthOp, AuthOp.Ans⟩

/-- A program of the authenticator. -/
abbrev AuthProgram := Program authSignature AuthError

/-- One call. -/
def perform (op : AuthOp) : AuthProgram op.Ans :=
  Program.perform (S := authSignature) op

/-! ### The authenticator -/

/-- `JwtValidator.validate`; without a time the clock is read. -/
def JwtValidator.validate {κ : Type} (V : JwtValidator κ) (token : String)
    (cfg : IssuerConfig κ) : Option ℚ → AuthProgram Claims
  | some now => .ret (V.validateAt token cfg now)
  | none => do
      let now : ℚ ← perform .time
      .ret (V.validateAt token cfg now)

/-- `principal or default`. -/
def orDefault (principal : Json) (default : String) : Json :=
  if principal.truth then principal else .text default

/-- The event of a success. -/
def okEvent (cid : String) (principal tenant : Json) (action : String) : OperationalAuditEvent :=
  ⟨orDefault principal "<unknown>", action, cid, "success", tenant⟩

/-- The event of a denial. -/
def denyEvent (cid : String) (principal tenant : Json) (action code : String) :
    OperationalAuditEvent :=
  ⟨orDefault principal "<unauthenticated>", action, cid, "denied:" ++ code, tenant⟩

/-- `_ok`. -/
def ok (cid : String) (principal tenant : Json) (action : String) : AuthProgram Unit :=
  perform (.initiate (okEvent cid principal tenant action))

/-- `_deny`, and the denial again. -/
def denyWith {α : Type} (cid : String) (principal tenant : Json) (action : String)
    (denial : AuthDenied) : AuthProgram α := do
  let _ ← perform (.initiate (denyEvent cid principal tenant action denial.publicCode))
  Program.raise (.denied denial)

/-- `except AuthDenied`. -/
def exceptDenied {α : Type} (handler : AuthDenied → AuthProgram α) : AuthError → AuthProgram α
  | .denied denial => handler denial
  | e => Program.raise e

/-- The validator, and the issuers by their texts. -/
structure Authenticator (κ : Type) where
  validator : JwtValidator κ
  issuers : String → Option (IssuerConfig κ)

namespace Authenticator

variable {κ : Type} (A : Authenticator κ)

/-- `_issuer_for`; whatever is raised in it is `None`. -/
def issuerFor (token : String) : Option (IssuerConfig κ) :=
  match (Text.split '.' token)[1]? with
  | none => none
  | some segment =>
      match A.validator.loads segment with
      | some (.object payload) =>
          match Json.get "iss" payload with
          | .text issuer => A.issuers issuer
          | _ => none
      | _ => none

/-- The action of a denial of the resolver. -/
def deniedAction (denial : AuthDenied) : String :=
  if denial.publicCode = "carrier_mismatch" then "CarrierMismatch" else "TenantAccessDenied"

/-- The event of a switch of the tenant, where there is one. -/
def auditSwitch (cid : String) (previousTenant : Option String) (ctx : AuthContext) :
    AuthProgram Unit :=
  match previousTenant with
  | none => pure ()
  | some previous =>
      if previous ≠ "" && ctx.activeTenantId.truth && !ctx.activeTenantId.isText previous then
        ok cid ctx.principalRef ctx.activeTenantId "TenantSwitch"
      else pure ()

/-- The attempt from the resolution of the tenant context on. -/
def establish (claims : Claims) (cid : String) (carrierTenant previousTenant : Option String) :
    AuthProgram AuthContext := do
  let ctx ← (perform (.resolve claims cid carrierTenant)).rescue
    (exceptDenied fun denial => denyWith cid claims.subject claims.tenant (deniedAction denial) denial)
  let _ ← ok cid ctx.principalRef ctx.activeTenantId "Authenticate"
  let _ ← auditSwitch cid previousTenant ctx
  pure ctx

/-- `Authenticator.authenticate`. -/
def authenticate (token cid : String) (carrierTenant previousTenant : Option String) :
    AuthProgram AuthContext :=
  match A.issuerFor token with
  | none => denyWith cid .null .null "Authenticate" (unauthenticated "unknown_issuer")
  | some cfg => do
      let claims ← (A.validator.validate token cfg none).rescue
        (exceptDenied (denyWith cid .null .null "Authenticate"))
      establish claims cid carrierTenant previousTenant

end Authenticator

/-! ### Attempts -/

/-- The event a call hands to the audit. -/
def initiated : Event authSignature AuthError → Option OperationalAuditEvent
  | ⟨.initiate event, .ok _⟩ => some event
  | _ => none

/-- What may come of a call: the clock and the audit work, and the resolver only returns or
denies. -/
def portAnswers : Event authSignature AuthError → Prop
  | ⟨.time, .error _⟩ | ⟨.initiate _, .error _⟩ => False
  | ⟨.resolve _ _ _, .error e⟩ => e.IsDenial
  | _ => True

def PortsAnswer (events : List (Event authSignature AuthError)) : Prop :=
  ∀ e ∈ events, portAnswers e

/-- The events of the trail but those of a switch. -/
def attempts (events : List (Event authSignature AuthError)) : List OperationalAuditEvent :=
  (collected initiated events).filter fun event => event.action != "TenantSwitch"

/-- The attempt returned a context or raised a denial, and left exactly one event, of its success
or of its denial. -/
def Accountable (events : List (Event authSignature AuthError))
    (r : Except AuthError AuthContext) : Prop :=
  ∃ event, attempts events = [event]
    ∧ ((∃ ctx, r = .ok ctx ∧ event.action = "Authenticate" ∧ event.outcome = "success")
      ∨ ∃ denial, r = .error (.denied denial)
          ∧ event.outcome = "denied:" ++ denial.publicCode)

section Attempts

variable {κ : Type} {A : Authenticator κ} {token cid : String}
  {carrierTenant previousTenant : Option String}
  {events : List (Event authSignature AuthError)} {r : Except AuthError AuthContext}

theorem attempts_append (before after : List (Event authSignature AuthError)) :
  attempts (before ++ after) = attempts before ++ attempts after
  := by
  rw [attempts, collected_append, List.filter_append]
  rfl

theorem runs_denyWith {α : Type} {principal tenant : Json} {action : String}
    {denial : AuthDenied} {r : Except AuthError α}
    (hrun : Runs (denyWith cid principal tenant action denial) events r)
    (hports : PortsAnswer events) :
  events = [⟨.initiate (denyEvent cid principal tenant action denial.publicCode), .ok ()⟩]
    ∧ r = .error (.denied denial)
  := by
  rcases runs_perform_bind.mp hrun with ⟨_, _, rfl, ⟨rfl, rfl⟩⟩ | ⟨e, rfl, rfl⟩
  · exact ⟨rfl, rfl⟩
  · exact (hports _ (List.mem_singleton_self _)).elim

/-- A denial and its event are accountable, whatever calls came before. -/
theorem accountable_of_denied (before : List (Event authSignature AuthError))
    {principal tenant : Json} {action : String} {denial : AuthDenied}
    (hbefore : attempts before = []) (haction : action ≠ "TenantSwitch") :
  Accountable
    (before ++ [⟨.initiate (denyEvent cid principal tenant action denial.publicCode), .ok ()⟩])
    (.error (.denied denial))
  := by
  refine ⟨denyEvent cid principal tenant action denial.publicCode, ?_, .inr ⟨denial, rfl, rfl⟩⟩
  rw [attempts_append, hbefore, List.nil_append]
  apply List.filter_eq_self.mpr
  intro event hevent
  obtain rfl := List.mem_singleton.mp hevent
  exact bne_iff_ne.mpr haction

/-- A part whose denials are audited, and what follows it: the part returns, or it denies and the
denial is audited, or it raises something else. -/
theorem runs_audited {α β : Type} {x : AuthProgram α} {f : α → AuthProgram β}
    {principal tenant : Json} (action : AuthDenied → String) {r : Except AuthError β}
    (hrun : Runs (x.rescue (exceptDenied fun denial =>
      denyWith cid principal tenant (action denial) denial) >>= f) events r)
    (hports : PortsAnswer events) :
  (∃ before after a, events = before ++ after ∧ Runs x before (.ok a) ∧ Runs (f a) after r)
    ∨ (∃ before denial, events = before ++ [⟨.initiate (denyEvent cid principal tenant
          (action denial) denial.publicCode), .ok ()⟩]
        ∧ Runs x before (.error (.denied denial)) ∧ r = .error (.denied denial))
    ∨ ∃ e, ¬ AuthError.IsDenial e ∧ Runs x events (.error e) ∧ r = .error e
  := by
  rcases runs_bind.mp hrun with ⟨_, after, a, rfl, hrescue, hafter⟩ | ⟨e, rfl, hrescue⟩
  · obtain ⟨before, handling, r', rfl, hx, hhandling⟩ := runs_andThen.mp hrescue
    cases r' with
    | ok a' =>
        obtain ⟨rfl, ha⟩ := hhandling
        obtain rfl := Except.ok.inj ha
        left
        exact ⟨before, after, a, by rw [List.append_nil], hx, hafter⟩
    | error e =>
        -- the handler returns nothing
        have hhandled : PortsAnswer handling := fun e he => hports e (by simp [he])
        cases e with
        | denied denial => cases (runs_denyWith hhandling hhandled).2
        | _ => cases hhandling.2
  · obtain ⟨before, handling, r', rfl, hx, hhandling⟩ := runs_andThen.mp hrescue
    right
    cases r' with
    | ok a' => cases hhandling.2
    | error e' =>
        cases e' with
        | denied denial =>
            left
            obtain ⟨rfl, he⟩ := runs_denyWith hhandling fun e he => hports e (by simp [he])
            obtain rfl := Except.error.inj he
            exact ⟨before, denial, rfl, hx, rfl⟩
        | _ =>
            right
            obtain ⟨rfl, he⟩ := hhandling
            obtain rfl := Except.error.inj he
            refine ⟨_, ?_, by rwa [List.append_nil], rfl⟩
            rintro ⟨denial, he⟩
            cases he

theorem runs_ok {principal tenant : Json} {action : String} {r : Except AuthError Unit}
    (hrun : Runs (ok cid principal tenant action) events r) (hports : PortsAnswer events) :
  events = [⟨.initiate (okEvent cid principal tenant action), .ok ()⟩] ∧ r = .ok ()
  := by
  obtain rfl := runs_perform.mp hrun
  cases r with
  | ok _ => exact ⟨rfl, rfl⟩
  | error e => exact (hports _ (List.mem_singleton_self _)).elim

/-- The event of a switch is no attempt. -/
theorem auditSwitch_quiet {ctx : AuthContext} {r : Except AuthError Unit}
    (hrun : Runs (Authenticator.auditSwitch cid previousTenant ctx) events r)
    (hports : PortsAnswer events) :
  attempts events = [] ∧ r = .ok ()
  := by
  cases previousTenant with
  | none =>
      obtain ⟨rfl, rfl⟩ := hrun
      exact ⟨rfl, rfl⟩
  | some previous =>
      rw [Authenticator.auditSwitch] at hrun
      split at hrun
      · obtain ⟨rfl, rfl⟩ := runs_ok hrun hports
        exact ⟨rfl, rfl⟩
      · obtain ⟨rfl, rfl⟩ := hrun
        exact ⟨rfl, rfl⟩

/-- From the resolution on an attempt is accountable. -/
theorem establish_accountable {claims : Claims}
    (hrun : Runs (Authenticator.establish claims cid carrierTenant previousTenant) events r)
    (hports : PortsAnswer events) :
  Accountable events r
  := by
  rcases runs_audited Authenticator.deniedAction hrun hports with
    ⟨before, after, ctx, rfl, hresolve, hafter⟩ | ⟨before, denial, rfl, hresolve, rfl⟩
    | ⟨e, hno, hresolve, rfl⟩
  · obtain rfl := runs_perform.mp hresolve
    have hports' : PortsAnswer after := fun e he => hports e (by simp [he])
    rcases runs_bind.mp hafter with ⟨told, rest, _, rfl, hok, hrest⟩ | ⟨e, rfl, hok⟩
    · obtain ⟨rfl, -⟩ := runs_ok hok fun e he => hports' e (by simp [he])
      rcases runs_bind.mp hrest with ⟨switched, _, _, rfl, hswitch, rfl, rfl⟩ | ⟨e, rfl, hswitch⟩
      · obtain ⟨hquiet, -⟩ := auditSwitch_quiet hswitch fun e he => hports' e (by simp [he])
        use okEvent cid ctx.principalRef ctx.activeTenantId "Authenticate"
        constructor
        · rw [List.append_nil, attempts_append, attempts_append, hquiet]
          rfl
        · left
          exact ⟨ctx, rfl, rfl, rfl⟩
      · obtain ⟨-, hr⟩ := auditSwitch_quiet hswitch fun e he => hports' e (by simp [he])
        cases hr
    · cases (runs_ok hok hports').2
  · obtain rfl := runs_perform.mp hresolve
    apply accountable_of_denied [_] rfl
    rw [Authenticator.deniedAction]
    split <;> decide
  · obtain rfl := runs_perform.mp hresolve
    exact absurd (hports _ (List.mem_singleton_self _)) hno

/-- The validation of a token by the clock is the one at the time it reads. -/
theorem runs_validate {V : JwtValidator κ} {cfg : IssuerConfig κ} {r : Except AuthError Claims}
    (hrun : Runs (V.validate token cfg none) events r) (hports : PortsAnswer events) :
  ∃ now, events = [⟨.time, .ok now⟩] ∧ r = V.validateAt token cfg now
  := by
  rcases runs_perform_bind.mp hrun with ⟨now, _, rfl, rfl, hr⟩ | ⟨e, rfl, rfl⟩
  · exact ⟨now, rfl, hr⟩
  · exact (hports _ (List.mem_singleton_self _)).elim

/-- An attempt is accountable exactly where its token is tame for the issuer it names, at the time
that the clock tells. -/
theorem authenticate_accountable_iff
    (hrun : Runs (A.authenticate token cid carrierTenant previousTenant) events r)
    (hports : PortsAnswer events) :
  Accountable events r
    ↔ ∀ cfg now, A.issuerFor token = some cfg → events.head? = some ⟨.time, .ok now⟩ →
        Tame A.validator cfg token now
  := by
  rw [Authenticator.authenticate] at hrun
  cases hissuer : A.issuerFor token with
  | none =>
      rw [hissuer] at hrun
      obtain ⟨rfl, rfl⟩ := runs_denyWith hrun hports
      constructor
      · nofun
      · intro _
        apply accountable_of_denied [] rfl (by decide)
  | some cfg =>
      rw [hissuer] at hrun
      simp only [← validateAt_denies_iff]
      rcases runs_audited (fun _ => "Authenticate") hrun hports with
        ⟨before, after, claims, rfl, hvalidate, hafter⟩ | ⟨before, denial, rfl, hvalidate, rfl⟩
        | ⟨e, hno, hvalidate, rfl⟩
      · obtain ⟨now, rfl, hok⟩ := runs_validate hvalidate fun e he => hports e (by simp [he])
        obtain ⟨event, hattempts, hevent⟩ :=
          establish_accountable hafter fun e he => hports e (by simp [he])
        constructor
        · rintro - cfg' now' ⟨rfl⟩ ⟨rfl⟩
          rw [← hok]
          apply only_ok
        · intro _
          use event, (attempts_append [_] after).trans hattempts
      · obtain ⟨now, rfl, hdenied⟩ := runs_validate hvalidate fun e he => hports e (by simp [he])
        constructor
        · rintro - cfg' now' ⟨rfl⟩ ⟨rfl⟩
          rw [← hdenied]
          exact only_error.mpr ⟨denial, rfl⟩
        · intro _
          apply accountable_of_denied [_] rfl (by decide)
      · obtain ⟨now, rfl, hraised⟩ := runs_validate hvalidate hports
        constructor
        · rintro ⟨event, hattempts, -⟩
          cases hattempts
        · intro htame
          have honly := htame cfg now rfl rfl
          rw [← hraised] at honly
          exact absurd (only_error.mp honly) hno

variable (A token cid carrierTenant previousTenant)

/-- An attempt is accountable and the claims that are returned are those of a valid token, exactly
where the token is tame for the issuer it names, and no expiry that passes is anything but a finite
number. -/
theorem authentication_sound_iff (cfg : IssuerConfig κ) (now : ℚ)
    (hrun : Runs (A.authenticate token cid carrierTenant previousTenant) events r)
    (hports : PortsAnswer events) :
  (Accountable events r
      ∧ ((∃ claims, A.validator.validateAt token cfg now = .ok claims)
          ↔ Valid A.validator cfg token now))
    ↔ (∀ cfg now, A.issuerFor token = some cfg → events.head? = some ⟨.time, .ok now⟩ →
        Tame A.validator cfg token now)
      ∧ ∀ payload, OtherwiseValid A.validator cfg token now payload →
          Unexpired A.validator payload now → (Json.get "exp" payload).isFiniteNumber = true
  := by
  rw [authenticate_accountable_iff hrun hports, validateAt_iff_valid]

end Attempts

/-! ### A header that is no object -/

section Headless

/-- The texts `[]` and `{"iss":"i"}`. -/
def headlessReader : Json.Reader where
  loads bytes :=
    if bytes = [91, 93] then some (.list [])
    else if bytes = [123, 34, 105, 115, 115, 34, 58, 34, 105, 34, 125] then
      some (.object [("iss", .text "i")])
    else none
  float _ := none

/-- The policy of the issuer `i`, with the key `k`. -/
def headlessConfig : IssuerConfig Unit where
  issuer := "i"
  audience := "a"
  allowedAlgs := ["RS256"]
  jwks kid := if kid = "k" then some () else none
  tenantClaim := "tenant"

/-- An authenticator that trusts the issuer, and verifies no signature. -/
def headlessAuthenticator : Authenticator Unit where
  validator := ⟨headlessReader, fun _ _ _ _ => false, 60⟩
  issuers issuer := if issuer = "i" then some headlessConfig else none

/-- The header is the list without values. -/
def headlessToken : String := "W10.eyJpc3MiOiJpIn0."

theorem headless_run :
  Runs (headlessAuthenticator.authenticate headlessToken "c" none none) [⟨.time, .ok 0⟩]
    (.error .attributeError)
  := by
  have hissuer : headlessAuthenticator.issuerFor headlessToken = some headlessConfig := rfl
  rw [Authenticator.authenticate, hissuer]
  exact ⟨.ok 0, [], rfl, rfl, rfl⟩

/-- The theorem on this attempt. -/
theorem authentication_sound_iff_headless :
  (Accountable [⟨.time, .ok 0⟩] (.error .attributeError)
      ∧ ((∃ claims, headlessAuthenticator.validator.validateAt headlessToken headlessConfig 0
            = .ok claims)
          ↔ Valid headlessAuthenticator.validator headlessConfig headlessToken 0))
    ↔ (∀ cfg now, headlessAuthenticator.issuerFor headlessToken = some cfg →
        ([⟨.time, .ok 0⟩] : List (Event authSignature AuthError)).head? = some ⟨.time, .ok now⟩ →
          Tame headlessAuthenticator.validator cfg headlessToken now)
      ∧ ∀ payload,
          OtherwiseValid headlessAuthenticator.validator headlessConfig headlessToken 0 payload →
            Unexpired headlessAuthenticator.validator payload 0 →
              (Json.get "exp" payload).isFiniteNumber = true
  := authentication_sound_iff headlessAuthenticator headlessToken "c" none none headlessConfig 0
    headless_run (by simp [PortsAnswer, portAnswers])

/-- An attempt with a header that is no object raises what is no denial, and leaves no event. -/
theorem authentication_unsound :
  Runs (headlessAuthenticator.authenticate headlessToken "c" none none) [⟨.time, .ok 0⟩]
      (.error .attributeError)
    ∧ PortsAnswer [⟨.time, .ok 0⟩]
    ∧ ¬ Accountable [⟨.time, .ok 0⟩] (.error .attributeError)
  := by
  refine ⟨headless_run, by simp [PortsAnswer, portAnswers], ?_⟩
  rintro ⟨event, hattempts, -⟩
  cases hattempts

end Headless

end AuthRouter
