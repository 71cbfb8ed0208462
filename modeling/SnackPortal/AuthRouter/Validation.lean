import SnackPortal.Data.Base64
import SnackPortal.Data.Fallible
import SnackPortal.Data.Json
import SnackPortal.Data.Text
import SnackPortal.DatabaseRouter.Models

/-!
# The validation of tokens

`JwtValidator.validate` at a time.  The claims of a token are returned where each of its checks
passes; they are the ones of a valid token, but for an expiry that is a text, a truth value or no
finite number (`validateAt_iff_valid`).  A header or claims that have no `get`, a key id that
cannot be looked up and a time that `float` refuses raise exceptions that are no denials
(`validateAt_denies_iff`).
-/

namespace AuthRouter

open DatabaseRouter (DenialReason)
open Fallible

/-! ### The shapes -/

/-- The validation policy of one issuer; `jwks` answers as the dictionary does. -/
structure IssuerConfig (κ : Type) where
  issuer : String
  audience : String
  allowedAlgs : List String
  jwks : String → Option κ
  tenantClaim : String

/-- The claims that are surfaced; the subject and the tenant are as the token has them. -/
structure Claims where
  subject : Json
  issuer : String
  audience : String
  tenant : Json

/-- A denial. -/
structure AuthDenied where
  reason : DenialReason
  httpStatus : Nat
  publicCode : String
deriving DecidableEq, Repr

def unauthenticated (code : String) : AuthDenied :=
  ⟨.unauthenticated, 401, code⟩

/-- What validation and authentication raise. -/
inductive AuthError where
  | denied (denial : AuthDenied)
  | attributeError
  | typeError
  | valueError
  | overflowError
deriving DecidableEq, Repr

/-- The exception is a denial. -/
def AuthError.IsDenial (e : AuthError) : Prop :=
  ∃ denial, e = .denied denial

def deny (code : String) : AuthError :=
  .denied (unauthenticated code)

theorem isDenial_deny (code : String) :
  (deny code).IsDenial
  := ⟨_, rfl⟩

/-- What `float` raises. -/
def ofFloatError : Json.FloatError → AuthError
  | .typeError => .typeError
  | .valueError => .valueError
  | .overflowError => .overflowError

/-! ### The validator -/

/-- The validator with its verifier and its skew, and what Python reads from texts and bytes. -/
structure JwtValidator (κ : Type) where
  reader : Json.Reader
  verifySignature : List UInt8 → List UInt8 → κ → String → Bool
  skew : ℚ

/-- `_b64url_decode`. -/
def b64urlDecode (segment : String) : Option (List UInt8) :=
  let text := segment.toList
  Base64.urlsafeB64decode (text ++ List.replicate ((4 - text.length % 4) % 4) '=')

/-- `_split`. -/
def split (token : String) : Except AuthError (String × String × String) :=
  match Text.split '.' token with
  | [h, p, s] => .ok (h, p, s)
  | _ => .error (deny "malformed_token")

/-- `_audience_ok`. -/
def audienceOk (aud : Json) (expected : String) : Bool :=
  match aud with
  | .text s => s = expected
  | .list values => values.any (·.isText expected)
  | _ => false

/-- `value.get(key)`; only an object has it. -/
def member (key : String) : Json → Except AuthError Json
  | .object entries => .ok (Json.get key entries)
  | _ => .error .attributeError

/-- `str(alg).lower() == "none"`, of a value that is not false. -/
def isNone : Json → Bool
  | .text s => Text.lower s = "none"
  | _ => false

/-- `jwks.get(kid)`. -/
def IssuerConfig.keyOf {κ : Type} (cfg : IssuerConfig κ) (kid : Json) :
    Except AuthError (Option κ) :=
  match kid with
  | .text kid => .ok (cfg.jwks kid)
  | kid => if kid.hashable then .ok none else .error .typeError

/-- The algorithm and the key that the header names. -/
def IssuerConfig.selectKey {κ : Type} (cfg : IssuerConfig κ) (header : Json) :
    Except AuthError (String × κ) := do
  let alg ← member "alg" header
  let _ ← ensure (alg.truth && !isNone alg) (deny "alg_none_rejected")
  let algorithm ← require (cfg.allowedAlgs.find? (alg.isText ·)) (deny "alg_not_allowed")
  let kid ← member "kid" header
  let _ ← ensure kid.truth (deny "missing_kid")
  let found ← cfg.keyOf kid
  let key ← require found (deny "unknown_kid")
  pure (algorithm, key)

/-- `(h_b64 + "." + p_b64).encode("ascii")`, of segments in ASCII. -/
def signingInput (h p : String) : List UInt8 :=
  (h ++ "." ++ p).toList.map fun c => UInt8.ofNat c.toNat

namespace JwtValidator

variable {κ : Type} (V : JwtValidator κ)

/-- `json.loads(_b64url_decode(segment))`; `none` where it raises. -/
def loads (segment : String) : Option Json :=
  (b64urlDecode segment).bind V.reader.loads

/-- The header and the payload. -/
def decode (h p : String) : Except AuthError (Json × Json) := do
  let header ← require (V.loads h) (deny "undecodable_token")
  let payload ← require (V.loads p) (deny "undecodable_token")
  pure (header, payload)

/-- The check of the signature. -/
def checkSignature (h p s alg : String) (key : κ) : Except AuthError Unit := do
  let signature ← require (b64urlDecode s) (deny "bad_signature_encoding")
  ensure (V.verifySignature (signingInput h p) signature key alg) (deny "bad_signature")

/-- `float`. -/
def toFloat (v : Json) : Except AuthError Double :=
  (v.toFloat V.reader).mapError ofFloatError

/-- The check of `exp`. -/
def checkExpiry (now : ℚ) : Json → Except AuthError Unit
  | .null => .error (deny "expired")
  | exp => do
      let expires ← V.toFloat exp
      ensure (!(expires.add (.finite V.skew)).lt (.finite now)) (deny "expired")

/-- The check of `nbf`. -/
def checkNotBefore (now : ℚ) : Json → Except AuthError Unit
  | .null => .ok ()
  | nbf => do
      let start ← V.toFloat nbf
      ensure (!((Double.finite now).add (.finite V.skew)).lt start) (deny "not_yet_valid")

/-- The checks of the claims. -/
def checkClaims (cfg : IssuerConfig κ) (payload : Json) (now : ℚ) : Except AuthError Claims := do
  let iss ← member "iss" payload
  let _ ← ensure (iss.isText cfg.issuer) (deny "iss_mismatch")
  let aud ← member "aud" payload
  let _ ← ensure (audienceOk aud cfg.audience) (deny "aud_mismatch")
  let exp ← member "exp" payload
  let _ ← V.checkExpiry now exp
  let nbf ← member "nbf" payload
  let _ ← V.checkNotBefore now nbf
  let sub ← member "sub" payload
  let _ ← ensure sub.truth (deny "missing_sub")
  let tenant ← member cfg.tenantClaim payload
  pure ⟨sub, cfg.issuer, cfg.audience, tenant⟩

/-- `JwtValidator.validate` at the time `now`. -/
def validateAt (token : String) (cfg : IssuerConfig κ) (now : ℚ) : Except AuthError Claims := do
  let segments ← split token
  let decoded ← V.decode segments.1 segments.2.1
  let named ← cfg.selectKey decoded.1
  let _ ← V.checkSignature segments.1 segments.2.1 segments.2.2 named.1 named.2
  V.checkClaims cfg decoded.2 now

end JwtValidator

/-! ### Valid tokens -/

section Valid

variable {κ : Type} (V : JwtValidator κ)

/-- The header names an allowed algorithm other than none, and a known key. -/
def Names (cfg : IssuerConfig κ) (header : List (String × Json)) (alg : String) (key : κ) :
    Prop :=
  (Json.get "alg" header = .text alg ∧ alg ∈ cfg.allowedAlgs ∧ alg ≠ ""
      ∧ Text.lower alg ≠ "none")
    ∧ ∃ kid, Json.get "kid" header = .text kid ∧ kid ≠ "" ∧ cfg.jwks kid = some key

/-- The signature is the one of the header and the payload. -/
def Signed (h p s alg : String) (key : κ) : Prop :=
  ∃ signature, b64urlDecode s = some signature
    ∧ V.verifySignature (signingInput h p) signature key alg = true

/-- The claims name the issuer and the audience. -/
def Addressed (cfg : IssuerConfig κ) (payload : List (String × Json)) : Prop :=
  Json.get "iss" payload = .text cfg.issuer
    ∧ audienceOk (Json.get "aud" payload) cfg.audience = true

/-- The token may be used already: it has no start, or one that is not in the future beyond the
skew. -/
def Started (payload : List (String × Json)) (now : ℚ) : Prop :=
  Json.get "nbf" payload = .null
    ∨ ∃ start, (Json.get "nbf" payload).toFloat V.reader = .ok start
        ∧ ((Double.finite now).add (.finite V.skew)).lt start = false

/-- The number that Python makes of `exp` is not passed by more than the skew. -/
def Unexpired (payload : List (String × Json)) (now : ℚ) : Prop :=
  ∃ expires, (Json.get "exp" payload).toFloat V.reader = .ok expires
    ∧ (expires.add (.finite V.skew)).lt (.finite now) = false

/-- A token of three segments whose header and signature pass their checks, with this payload. -/
def Verified (cfg : IssuerConfig κ) (token : String) (payload : List (String × Json)) : Prop :=
  ∃ h p s header alg key, Text.split '.' token = [h, p, s] ∧ V.loads h = some (.object header)
    ∧ V.loads p = some (.object payload) ∧ Names cfg header alg key ∧ Signed V h p s alg key

/-- The token passes all checks but the one of its expiry. -/
def OtherwiseValid (cfg : IssuerConfig κ) (token : String) (now : ℚ)
    (payload : List (String × Json)) : Prop :=
  Verified V cfg token payload ∧ Addressed cfg payload ∧ Started V payload now
    ∧ (Json.get "sub" payload).truth = true

/-- The token is valid: it has three segments, an allowed algorithm other than none, a known key
id, a signature over the exact text of its header and payload, the issuer and the audience, a
finite number as its expiry with `now` at most that plus the skew, no start in the future beyond
the skew, and a subject that is not empty. -/
def Valid (cfg : IssuerConfig κ) (token : String) (now : ℚ) : Prop :=
  ∃ payload, OtherwiseValid V cfg token now payload
    ∧ (Json.get "exp" payload).isFiniteNumber = true
    ∧ ∃ expires, (Json.get "exp" payload).toFloat V.reader = .ok expires
        ∧ (Double.finite now).le (expires.add (.finite V.skew)) = true

/-! ### What is accepted -/

variable {V} {cfg : IssuerConfig κ} {token : String} {now : ℚ}

theorem split_eq_ok {h p s : String} :
  split token = .ok (h, p, s) ↔ Text.split '.' token = [h, p, s]
  := by
  rw [split]
  split
  · simp [*]
  · rename_i hne
    constructor
    · nofun
    · exact fun heq => absurd heq (hne h p s)

theorem member_eq_ok {key : String} {v found : Json} :
  member key v = .ok found ↔ ∃ entries, v = .object entries ∧ Json.get key entries = found
  := by
  cases v <;> simp [member]

theorem decode_eq_ok {h p : String} {header payload : Json} :
  V.decode h p = .ok (header, payload) ↔ V.loads h = some header ∧ V.loads p = some payload
  := by
  rw [JwtValidator.decode]
  simp only [bind_eq_ok, require_eq_ok]
  constructor
  · rintro ⟨_, hheader, _, hpayload, hpair⟩
    cases hpair
    exact ⟨hheader, hpayload⟩
  · rintro ⟨hheader, hpayload⟩
    exact ⟨_, hheader, _, hpayload, rfl⟩

/-- The algorithm of an allowed list that the value names. -/
theorem find_alg {algs : List String} {v : Json} {alg : String} :
  algs.find? (v.isText ·) = some alg ↔ v = .text alg ∧ alg ∈ algs
  := by
  constructor
  · intro h
    have hfound := List.find?_some h
    exact ⟨Json.isText_iff.mp hfound, List.mem_of_find?_eq_some h⟩
  · rintro ⟨rfl, hmem⟩
    have hsome : (algs.find? ((Json.text alg).isText ·)).isSome :=
      List.find?_isSome.mpr ⟨alg, hmem, Json.isText_iff.mpr rfl⟩
    obtain ⟨alg', halg'⟩ := Option.isSome_iff_exists.mp hsome
    have hfound := List.find?_some halg'
    rw [halg', Json.text.inj (Json.isText_iff.mp hfound)]

theorem keyOf_eq_ok {kid : Json} {key : κ} :
  cfg.keyOf kid = .ok (some key) ↔ ∃ k, kid = .text k ∧ cfg.jwks k = some key
  := by
  cases kid <;> simp [IssuerConfig.keyOf, Json.hashable]

theorem selectKey_eq_ok {header : Json} {alg : String} {key : κ} :
  cfg.selectKey header = .ok (alg, key)
    ↔ ∃ entries, header = .object entries ∧ Names cfg entries alg key
  := by
  simp only [IssuerConfig.selectKey, bind_eq_ok, member_eq_ok, ensure_eq_ok, require_eq_ok, find_alg,
    Bool.and_eq_true, Bool.not_eq_true']
  constructor
  · rintro ⟨_, ⟨entries, rfl, rfl⟩, _, ⟨htruth, hnone⟩, alg', ⟨halg, hmem⟩, _, ⟨_, ⟨rfl⟩, rfl⟩, _,
      hkid, found, hfound, key', rfl, ⟨rfl⟩⟩
    obtain ⟨kid, hget, hkey⟩ := keyOf_eq_ok.mp hfound
    rw [halg] at htruth hnone
    rw [hget] at hkid
    refine ⟨entries, rfl, ⟨halg, hmem, ?_, ?_⟩, kid, hget, ?_, hkey⟩
    · simpa [Json.truth] using htruth
    · simpa [isNone] using hnone
    · simpa [Json.truth] using hkid
  · rintro ⟨entries, rfl, ⟨halg, hmem, hne, hnone⟩, kid, hget, hkid, hkey⟩
    refine ⟨_, ⟨entries, rfl, rfl⟩, PUnit.unit, ?_, alg, ⟨halg, hmem⟩, _, ⟨entries, rfl, rfl⟩,
      PUnit.unit, ?_, some key, ?_, key, rfl, rfl⟩
    · simp [halg, Json.truth, isNone, hne, hnone]
    · simp [hget, Json.truth, hkid]
    · exact keyOf_eq_ok.mpr ⟨kid, hget, hkey⟩

theorem checkSignature_eq_ok {h p s alg : String} {key : κ} {u : Unit} :
  V.checkSignature h p s alg key = .ok u ↔ Signed V h p s alg key
  := by
  simp only [JwtValidator.checkSignature, bind_eq_ok, require_eq_ok, ensure_eq_ok, Signed]

theorem toFloat_eq_ok {v : Json} {x : Double} :
  V.toFloat v = .ok x ↔ v.toFloat V.reader = .ok x
  := by
  rw [JwtValidator.toFloat]
  cases v.toFloat V.reader <;> simp [Except.mapError]

theorem checkExpiry_eq_ok {payload : List (String × Json)} {u : Unit} :
  V.checkExpiry now (Json.get "exp" payload) = .ok u ↔ Unexpired V payload now
  := by
  rw [Unexpired]
  cases Json.get "exp" payload <;>
    simp [JwtValidator.checkExpiry, bind_eq_ok, toFloat_eq_ok, Json.toFloat]

theorem checkNotBefore_eq_ok {payload : List (String × Json)} {u : Unit} :
  V.checkNotBefore now (Json.get "nbf" payload) = .ok u ↔ Started V payload now
  := by
  rw [Started]
  cases Json.get "nbf" payload <;>
    simp [JwtValidator.checkNotBefore, bind_eq_ok, toFloat_eq_ok, Json.toFloat]

theorem checkClaims_accepts_iff {payload : Json} :
  (∃ claims, V.checkClaims cfg payload now = .ok claims)
    ↔ ∃ entries, payload = .object entries ∧ Addressed cfg entries ∧ Unexpired V entries now
        ∧ Started V entries now ∧ (Json.get "sub" entries).truth = true
  := by
  simp only [JwtValidator.checkClaims, bind_eq_ok, member_eq_ok, ensure_eq_ok]
  constructor
  · rintro ⟨claims, _, ⟨entries, rfl, rfl⟩, _, hiss, _, ⟨_, ⟨rfl⟩, rfl⟩, _, haud, _, ⟨_, ⟨rfl⟩, rfl⟩,
      _, hexp, _, ⟨_, ⟨rfl⟩, rfl⟩, _, hnbf, _, ⟨_, ⟨rfl⟩, rfl⟩, _, hsub, _⟩
    exact ⟨entries, rfl, ⟨Json.isText_iff.mp hiss, haud⟩, checkExpiry_eq_ok.mp hexp,
      checkNotBefore_eq_ok.mp hnbf, hsub⟩
  · rintro ⟨entries, rfl, ⟨hiss, haud⟩, hexp, hnbf, hsub⟩
    exact ⟨_, _, ⟨entries, rfl, rfl⟩, PUnit.unit, Json.isText_iff.mpr hiss, _, ⟨entries, rfl, rfl⟩,
      PUnit.unit, haud, _, ⟨entries, rfl, rfl⟩, (), checkExpiry_eq_ok.mpr hexp, _,
      ⟨entries, rfl, rfl⟩, (), checkNotBefore_eq_ok.mpr hnbf, _, ⟨entries, rfl, rfl⟩, PUnit.unit,
      hsub, _, ⟨entries, rfl, rfl⟩, rfl⟩

/-- The claims of a token are returned where its checks pass. -/
theorem validateAt_accepts_iff :
  (∃ claims, V.validateAt token cfg now = .ok claims)
    ↔ ∃ payload, OtherwiseValid V cfg token now payload ∧ Unexpired V payload now
  := by
  simp only [JwtValidator.validateAt, bind_eq_ok]
  constructor
  · rintro ⟨claims, ⟨h, p, s⟩, hsplit, ⟨header, payload⟩, hdecode, ⟨alg, key⟩, hkey, _, hsigned,
      hclaims⟩
    obtain ⟨hheader, hpayload⟩ := decode_eq_ok.mp hdecode
    obtain ⟨entries, rfl, hnames⟩ := selectKey_eq_ok.mp hkey
    obtain ⟨payload, rfl, haddressed, hunexpired, hstarted, hsub⟩ :=
      checkClaims_accepts_iff.mp ⟨claims, hclaims⟩
    exact ⟨payload, ⟨⟨h, p, s, entries, alg, key, split_eq_ok.mp hsplit, hheader, hpayload, hnames,
      checkSignature_eq_ok.mp hsigned⟩, haddressed, hstarted, hsub⟩, hunexpired⟩
  · rintro ⟨payload, ⟨⟨h, p, s, header, alg, key, hsplit, hheader, hpayload, hnames, hsigned⟩,
      haddressed, hstarted, hsub⟩, hunexpired⟩
    obtain ⟨claims, hclaims⟩ := checkClaims_accepts_iff.mpr
      ⟨payload, rfl, haddressed, hunexpired, hstarted, hsub⟩
    exact ⟨claims, (h, p, s), split_eq_ok.mpr hsplit, _, decode_eq_ok.mpr ⟨hheader, hpayload⟩,
      (alg, key), selectKey_eq_ok.mpr ⟨header, rfl, hnames⟩, (),
      checkSignature_eq_ok.mpr hsigned, hclaims⟩

/-- A token has one payload. -/
theorem Verified.unique {payload payload' : List (String × Json)}
    (h : Verified V cfg token payload) (h' : Verified V cfg token payload') :
  payload = payload'
  := by
  obtain ⟨_, p, _, _, _, _, hsplit, _, hpayload, -⟩ := h
  obtain ⟨_, p', _, _, _, _, hsplit', _, hpayload', -⟩ := h'
  have hp : p = p' := by
    rw [hsplit] at hsplit'
    simp only [List.cons.injEq] at hsplit'
    apply hsplit'.2.1
  rw [hp, hpayload'] at hpayload
  simpa using hpayload.symm

/-- A valid token is accepted. -/
theorem Valid.accepted (h : Valid V cfg token now) :
  ∃ claims, V.validateAt token cfg now = .ok claims
  := by
  obtain ⟨payload, hother, hfinite, expires, hexpires, hle⟩ := h
  obtain ⟨x, hx, hxfinite⟩ := Json.toFloat_finite V.reader hfinite
  apply validateAt_accepts_iff.mpr
  rw [hexpires] at hx
  obtain rfl := Except.ok.inj hx
  exact ⟨payload, hother, expires, hexpires,
    (Double.not_lt_iff (x := .finite now) nofun (Double.add_finite_ne_nan hxfinite V.skew)).mpr hle⟩

/-- An accepted token whose expiry is a finite number is valid. -/
theorem valid_of_accepted {payload : List (String × Json)}
    (hother : OtherwiseValid V cfg token now payload) (hunexpired : Unexpired V payload now)
    (hfinite : (Json.get "exp" payload).isFiniteNumber = true) :
  Valid V cfg token now
  := by
  obtain ⟨expires, hexpires, hlt⟩ := hunexpired
  obtain ⟨x, hx, hxfinite⟩ := Json.toFloat_finite V.reader hfinite
  rw [hexpires] at hx
  obtain rfl := Except.ok.inj hx
  exact ⟨payload, hother, hfinite, expires, hexpires,
    (Double.not_lt_iff (x := .finite now) nofun (Double.add_finite_ne_nan hxfinite V.skew)).mp hlt⟩

/-- The accepted tokens are the valid ones, where no expiry that passes is anything but a finite
number. -/
theorem validateAt_iff_valid :
  ((∃ claims, V.validateAt token cfg now = .ok claims) ↔ Valid V cfg token now)
    ↔ ∀ payload, OtherwiseValid V cfg token now payload → Unexpired V payload now →
        (Json.get "exp" payload).isFiniteNumber = true
  := by
  constructor
  · intro hiff payload hother hunexpired
    obtain ⟨payload', hother', hfinite, -⟩ :=
      hiff.mp (validateAt_accepts_iff.mpr ⟨payload, hother, hunexpired⟩)
    rw [hother.1.unique hother'.1]
    apply hfinite
  · intro hfinite
    constructor
    · intro haccepted
      obtain ⟨payload, hother, hunexpired⟩ := validateAt_accepts_iff.mp haccepted
      apply valid_of_accepted hother hunexpired (hfinite payload hother hunexpired)
    · apply Valid.accepted

/-! ### What is raised -/

/-- `float` takes the value, or it is `None`. -/
def Readable (V : JwtValidator κ) (v : Json) : Prop :=
  v = .null ∨ ∃ x, v.toFloat V.reader = .ok x

/-- Where the header names an algorithm that is allowed, its key id can be looked up. -/
def KeyIdTame (cfg : IssuerConfig κ) (header : List (String × Json)) : Prop :=
  (∃ alg ∈ cfg.allowedAlgs, Json.get "alg" header = .text alg ∧ alg ≠ ""
      ∧ Text.lower alg ≠ "none") →
    (Json.get "kid" header).truth = true → (Json.get "kid" header).hashable = true

/-- Where the claims name the issuer and the audience, `float` takes the expiry, and where that
has not passed the start. -/
def TimesTame (V : JwtValidator κ) (cfg : IssuerConfig κ) (payload : List (String × Json))
    (now : ℚ) : Prop :=
  Addressed cfg payload → Readable V (Json.get "exp" payload)
    ∧ (Unexpired V payload now → Readable V (Json.get "nbf" payload))

/-- Where the token has three segments and its header and payload decode, the header is an object
whose key id can be looked up, and where the signature is verified the payload is an object whose
times `float` takes. -/
def Tame (V : JwtValidator κ) (cfg : IssuerConfig κ) (token : String) (now : ℚ) : Prop :=
  ∀ h p s header payload, Text.split '.' token = [h, p, s] → V.loads h = some header →
    V.loads p = some payload →
      (∃ entries, header = .object entries ∧ KeyIdTame cfg entries)
        ∧ ∀ alg key, (∃ entries, header = .object entries ∧ Names cfg entries alg key) →
            Signed V h p s alg key →
              ∃ entries, payload = .object entries ∧ TimesTame V cfg entries now

theorem member_denies_iff {key : String} {v : Json} :
  Only AuthError.IsDenial (member key v) ↔ ∃ entries, v = .object entries
  := by
  cases v <;> simp [member, AuthError.IsDenial]

theorem keyOf_denies_iff {kid : Json} :
  Only AuthError.IsDenial (cfg.keyOf kid) ↔ kid.hashable = true
  := by
  cases kid <;> simp [IssuerConfig.keyOf, Json.hashable, AuthError.IsDenial]

theorem ensure_denies {b : Bool} {code : String} :
  Only AuthError.IsDenial (ensure b (deny code))
  := only_ensure (isDenial_deny code)

theorem require_denies {α : Type} {x : Option α} {code : String} :
  Only AuthError.IsDenial (require x (deny code))
  := only_require (isDenial_deny code)

theorem toFloat_denies_iff {v : Json} :
  Only AuthError.IsDenial (V.toFloat v) ↔ ∃ x, v.toFloat V.reader = .ok x
  := by
  rw [JwtValidator.toFloat]
  cases v.toFloat V.reader with
  | error e => cases e <;> simp [Except.mapError, ofFloatError, AuthError.IsDenial]
  | ok x => simp [Except.mapError]

theorem selectKey_denies_iff {header : Json} :
  Only AuthError.IsDenial (cfg.selectKey header)
    ↔ ∃ entries, header = .object entries ∧ KeyIdTame cfg entries
  := by
  simp only [IssuerConfig.selectKey, only_bind, member_denies_iff, member_eq_ok, ensure_eq_ok,
    require_eq_ok, find_alg, keyOf_denies_iff, ensure_denies, require_denies, true_and, and_true,
    pure, Except.pure, only_ok, implies_true]
  constructor
  · rintro ⟨⟨entries, rfl⟩, h⟩
    use entries, rfl
    rintro ⟨alg, hmem, halg, hne, hnone⟩ hkid
    have hnamed := h _ ⟨entries, rfl, halg⟩ PUnit.unit (by simp [Json.truth, isNone, hne, hnone])
    apply (hnamed alg ⟨rfl, hmem⟩).2 _ ⟨entries, rfl, rfl⟩ PUnit.unit hkid
  · rintro ⟨entries, rfl, htame⟩
    use ⟨entries, rfl⟩
    rintro _ ⟨_, ⟨rfl⟩, rfl⟩ _ hnone alg ⟨halg, hmem⟩
    use ⟨entries, rfl⟩
    rintro _ ⟨_, ⟨rfl⟩, rfl⟩ _ hkid
    rw [halg] at hnone
    apply htame ⟨alg, hmem, halg, ?_⟩ hkid
    simpa [Json.truth, isNone] using hnone

theorem checkExpiry_denies_iff {exp : Json} :
  Only AuthError.IsDenial (V.checkExpiry now exp) ↔ Readable V exp
  := by
  rw [Readable]
  cases exp with
  | null => simp [JwtValidator.checkExpiry, isDenial_deny]
  | _ => simp [JwtValidator.checkExpiry, only_bind, toFloat_denies_iff, ensure_denies]

theorem checkNotBefore_denies_iff {nbf : Json} :
  Only AuthError.IsDenial (V.checkNotBefore now nbf) ↔ Readable V nbf
  := by
  rw [Readable]
  cases nbf with
  | null => simp [JwtValidator.checkNotBefore]
  | _ => simp [JwtValidator.checkNotBefore, only_bind, toFloat_denies_iff, ensure_denies]

theorem checkClaims_denies_iff {payload : Json} :
  Only AuthError.IsDenial (V.checkClaims cfg payload now)
    ↔ ∃ entries, payload = .object entries ∧ TimesTame V cfg entries now
  := by
  simp only [JwtValidator.checkClaims, only_bind, member_denies_iff, member_eq_ok, ensure_eq_ok,
    checkExpiry_denies_iff, checkNotBefore_denies_iff, ensure_denies, true_and, and_true,
    pure, Except.pure, only_ok, implies_true]
  constructor
  · rintro ⟨⟨entries, rfl⟩, h⟩
    use entries, rfl
    rintro ⟨hiss, haud⟩
    have haddressed := (h _ ⟨entries, rfl, rfl⟩ PUnit.unit (Json.isText_iff.mpr hiss)).2 _
      ⟨entries, rfl, rfl⟩ PUnit.unit haud
    obtain ⟨hexp, h⟩ := haddressed.2 _ ⟨entries, rfl, rfl⟩
    use hexp
    intro hunexpired
    apply ((h () (checkExpiry_eq_ok.mpr hunexpired)).2 _ ⟨entries, rfl, rfl⟩).1
  · rintro ⟨entries, rfl, htame⟩
    have hobject : ∃ entries', Json.object entries = .object entries' := ⟨entries, rfl⟩
    use hobject
    rintro _ ⟨_, ⟨rfl⟩, rfl⟩ _ hiss
    use hobject
    rintro _ ⟨_, ⟨rfl⟩, rfl⟩ _ haud
    obtain ⟨hexp, hnbf⟩ := htame ⟨Json.isText_iff.mp hiss, haud⟩
    use hobject
    rintro _ ⟨_, ⟨rfl⟩, rfl⟩
    use hexp
    intro _ hunexpired
    use hobject
    rintro _ ⟨_, ⟨rfl⟩, rfl⟩
    use hnbf (checkExpiry_eq_ok.mp hunexpired)
    intro _ _
    use hobject
    intro _ _ _ _
    exact hobject

/-- All that validation raises are denials exactly where the token is tame. -/
theorem validateAt_denies_iff :
  Only AuthError.IsDenial (V.validateAt token cfg now) ↔ Tame V cfg token now
  := by
  have hsplit : Only AuthError.IsDenial (split token) := by
    rw [split]
    split
    · apply only_ok
    · exact only_error.mpr (isDenial_deny _)
  have hdecode : ∀ h p, Only AuthError.IsDenial (V.decode h p) := by
    intro h p
    simp only [JwtValidator.decode, only_bind, require_denies, pure, Except.pure, only_ok,
      implies_true, and_true]
  have hsigned : ∀ h p s alg key, Only AuthError.IsDenial (V.checkSignature h p s alg key) := by
    intro h p s alg key
    simp only [JwtValidator.checkSignature, only_bind, require_denies, ensure_denies, implies_true,
      and_true]
  simp only [JwtValidator.validateAt, only_bind, hsplit, hdecode, hsigned, selectKey_denies_iff,
    checkClaims_denies_iff, true_and]
  constructor
  · intro h h' p s header payload htoken hheader hpayload
    obtain ⟨htame, hclaims⟩ := h (h', p, s) (split_eq_ok.mpr htoken) (header, payload)
      (decode_eq_ok.mpr ⟨hheader, hpayload⟩)
    use htame
    intro alg key hnames hsigned
    apply hclaims (alg, key) (selectKey_eq_ok.mpr hnames) () (checkSignature_eq_ok.mpr hsigned)
  · rintro h ⟨h', p, s⟩ htoken ⟨header, payload⟩ hdecoded
    obtain ⟨hheader, hpayload⟩ := decode_eq_ok.mp hdecoded
    obtain ⟨htame, hclaims⟩ := h h' p s header payload (split_eq_ok.mp htoken) hheader hpayload
    use htame
    rintro ⟨alg, key⟩ hnames _ hsigned
    apply hclaims alg key (selectKey_eq_ok.mp hnames) (checkSignature_eq_ok.mp hsigned)

end Valid

end AuthRouter
