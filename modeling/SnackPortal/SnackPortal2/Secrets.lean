import SnackPortal.SnackPortal2.ControlPlane

/-!
# Tenant secrets

The environment holds the connection strings and the chain keys of the tenants under names
made from their references: upper case, with every character outside `A`–`Z` and `0`–`9`
replaced by an underscore.  Two references share a name exactly when their upper case is alike
in these characters (`variableName_eq_iff`), and then they share the secret in every
environment.
-/

namespace SnackPortal2

/-- The environment variables. -/
abbrev Environment := String → Option String

/-- The characters that a name keeps. -/
def safeEnvChar (c : Char) : Bool :=
  ('A' ≤ c && c ≤ 'Z') || ('0' ≤ c && c ≤ '9')

/-- Two texts are alike in upper case, as far as names show them. -/
def SameSafe (text text' : String) : Prop :=
  Text.Alike safeEnvChar (Text.upper text) (Text.upper text')

instance (text text' : String) : Decidable (SameSafe text text') :=
  inferInstanceAs (Decidable (Text.Alike safeEnvChar _ _))

theorem sub_upper_eq_iff {start text text' : String} :
  start ++ Text.sub safeEnvChar '_' (Text.upper text)
      = start ++ Text.sub safeEnvChar '_' (Text.upper text')
    ↔ SameSafe text text'
  := by
  rw [SameSafe, ← Text.sub_eq_iff (by decide : safeEnvChar '_' = false), String.append_right_inj]

/-! ## Connection strings -/

namespace EnvironmentTenantSecretStore

def envTenantDsnPrefix := "SP2_TENANT_DSN_"

/-- What a name is made from: the reference and the version. -/
def source (storeRef version : String) : String :=
  storeRef ++ "_" ++ version

def variableName (storeRef version : String) : String :=
  envTenantDsnPrefix ++ Text.sub safeEnvChar '_' (Text.upper (source storeRef version))

def resolve (env : Environment) (storeRef version : String) : Option String :=
  let value := Text.strip ((env (variableName storeRef version)).getD "")
  if value = "" then none else some value

/-- Two associations share a name exactly when what it is made from is alike. -/
theorem variableName_eq_iff {storeRef version storeRef' version' : String} :
  variableName storeRef version = variableName storeRef' version'
    ↔ SameSafe (source storeRef version) (source storeRef' version')
  := sub_upper_eq_iff

/-- Associations of one name resolve to the same connection string in every environment. -/
theorem resolve_congr {storeRef version storeRef' version' : String}
    (h : variableName storeRef version = variableName storeRef' version')
    (env : Environment) :
  resolve env storeRef version = resolve env storeRef' version'
  := by
  rw [resolve, resolve, h]

/-- Associations of two names have different connection strings in some environment. -/
theorem exists_resolve_ne {storeRef version storeRef' version' : String}
    (h : variableName storeRef version ≠ variableName storeRef' version') :
  ∃ env, resolve env storeRef version ≠ resolve env storeRef' version'
  := by
  use fun name => if name = variableName storeRef version then some "a" else some "b"
  rw [resolve, resolve, if_pos rfl, if_neg h.symm]
  decide

end EnvironmentTenantSecretStore

/-! ## Chain keys -/

/-- The chain key of one tenant; `material` is the text whose bytes are the key. -/
structure LineageChainKey where
  tenantRef : String
  material : String
deriving DecidableEq, Repr, Inhabited

namespace EnvironmentLineageKeyResolver

def envLineageKeyPrefix := "SP2_LINEAGE_KEY_"

/-- The shortest value that is a chain key. -/
def minimumKeyCharacters : Nat := 32

def variableName (tenantRef : String) : String :=
  envLineageKeyPrefix ++ Text.sub safeEnvChar '_' (Text.upper tenantRef)

/-- The key of the tenant, or the denial where it is absent or too short to be one. -/
def resolveLineageKey (env : Environment) (tenantRef : String) :
    Except AppError LineageChainKey :=
  if tenantRef = "" then
    throw tenantUnavailable
  else
    let value := Text.strip ((env (variableName tenantRef)).getD "")
    if value.length < minimumKeyCharacters then
      throw tenantUnavailable
    else
      return { tenantRef, material := value }

/-- The key that a tenant resolves to, where it resolves one. -/
def keyOf (env : Environment) (tenantRef : String) : Option String :=
  (resolveLineageKey env tenantRef).toOption.map LineageChainKey.material

/-- Two tenants share a name exactly when their references are alike. -/
theorem variableName_eq_iff {tenantRef tenantRef' : String} :
  variableName tenantRef = variableName tenantRef' ↔ SameSafe tenantRef tenantRef'
  := sub_upper_eq_iff

theorem keyOf_eq {env : Environment} {tenantRef : String} (h : tenantRef ≠ "") :
  keyOf env tenantRef
    = let value := Text.strip ((env (variableName tenantRef)).getD "")
      if value.length < minimumKeyCharacters then none else some value
  := by
  rw [keyOf, resolveLineageKey, if_neg h]
  dsimp only
  split_ifs with hlength
  · rfl
  · rfl

/-- Tenants of one name resolve to the same key in every environment. -/
theorem keyOf_congr {tenantRef tenantRef' : String} (hne : tenantRef ≠ "")
    (hne' : tenantRef' ≠ "") (h : variableName tenantRef = variableName tenantRef')
    (env : Environment) :
  keyOf env tenantRef = keyOf env tenantRef'
  := by
  rw [keyOf_eq hne, keyOf_eq hne', h]

/-- Tenants of two names have different keys in some environment. -/
theorem exists_keyOf_ne {tenantRef tenantRef' : String} (hne : tenantRef ≠ "")
    (hne' : tenantRef' ≠ "") (h : variableName tenantRef ≠ variableName tenantRef') :
  ∃ env, keyOf env tenantRef ≠ keyOf env tenantRef'
  := by
  use fun name =>
    if name = variableName tenantRef then some "0123456789abcdef0123456789abcdef"
    else some "fedcba9876543210fedcba9876543210"
  rw [keyOf_eq hne, keyOf_eq hne', if_pos rfl, if_neg h.symm]
  decide +kernel

end EnvironmentLineageKeyResolver

/-! ## Names of distinct references -/

/-- The associations are one, or their names differ and so can their connection strings. -/
def SecretsApart (ref ref' : SecretReference) : Prop :=
  ref = ref' ∨
    EnvironmentTenantSecretStore.variableName ref.storeRef ref.version
        ≠ EnvironmentTenantSecretStore.variableName ref'.storeRef ref'.version
      ∧ ∃ env, EnvironmentTenantSecretStore.resolve env ref.storeRef ref.version
        ≠ EnvironmentTenantSecretStore.resolve env ref'.storeRef ref'.version

/-- The tenants are one, or their names differ and so can their chain keys. -/
def KeysApart (tenantRef tenantRef' : String) : Prop :=
  tenantRef = tenantRef' ∨
    EnvironmentLineageKeyResolver.variableName tenantRef
        ≠ EnvironmentLineageKeyResolver.variableName tenantRef'
      ∧ ∃ env, EnvironmentLineageKeyResolver.keyOf env tenantRef
        ≠ EnvironmentLineageKeyResolver.keyOf env tenantRef'

/-- The references that the registration admits. -/
abbrev AdmittedTenant := { tenantRef : String // Bounded 128 tenantRef }

/-- The associations that the registration admits. -/
abbrev AdmittedAssociation :=
  { ref : SecretReference // looksLikeAConnectionString ref.storeRef = false }

theorem AdmittedTenant.ne_empty (tenant : AdmittedTenant) :
  tenant.val ≠ ""
  := by
  intro h
  have hlength := tenant.property.1
  rw [h] at hlength
  cases hlength

/-- Distinct references have their own secrets exactly when they are not alike: the
associations in the reference joined to the version, the tenants in their references. -/
theorem secrets_apart (ref ref' : AdmittedAssociation) (tenant tenant' : AdmittedTenant) :
  (SecretsApart ref.val ref'.val ↔ ref = ref' ∨
      ¬ SameSafe (EnvironmentTenantSecretStore.source ref.val.storeRef ref.val.version)
        (EnvironmentTenantSecretStore.source ref'.val.storeRef ref'.val.version))
    ∧ (KeysApart tenant.val tenant'.val ↔ tenant = tenant' ∨ ¬ SameSafe tenant.val tenant'.val)
  := by
  constructor
  · rw [SecretsApart, ← EnvironmentTenantSecretStore.variableName_eq_iff, Subtype.ext_iff]
    apply or_congr_right
    constructor
    · intro h
      apply h.1
    · intro h
      apply And.intro h (EnvironmentTenantSecretStore.exists_resolve_ne h)
  · rw [KeysApart, ← EnvironmentLineageKeyResolver.variableName_eq_iff, Subtype.ext_iff]
    apply or_congr_right
    constructor
    · intro h
      apply h.1
    · intro h
      apply And.intro h
      apply EnvironmentLineageKeyResolver.exists_keyOf_ne tenant.ne_empty tenant'.ne_empty h

/-- Two versions of one store reference that share the connection string of the tenants, and
two tenants that share the chain key, whatever the environment holds. -/
theorem secrets_shared :
  ∃ (ref ref' : AdmittedAssociation) (tenant tenant' : AdmittedTenant),
    ref.val = ⟨"sp2/acme", "1_2"⟩ ∧ ref'.val = ⟨"sp2/acme-1", "2"⟩
      ∧ tenant.val = "acme-1" ∧ tenant'.val = "acme.1"
      ∧ ¬ SecretsApart ref.val ref'.val ∧ ¬ KeysApart tenant.val tenant'.val
      ∧ ∀ env,
        EnvironmentTenantSecretStore.resolve env ref.val.storeRef ref.val.version
            = EnvironmentTenantSecretStore.resolve env ref'.val.storeRef ref'.val.version
          ∧ EnvironmentLineageKeyResolver.keyOf env tenant.val
            = EnvironmentLineageKeyResolver.keyOf env tenant'.val
  := by
  have hsecrets : EnvironmentTenantSecretStore.variableName "sp2/acme" "1_2"
      = EnvironmentTenantSecretStore.variableName "sp2/acme-1" "2" := by decide +kernel
  have hkeys : EnvironmentLineageKeyResolver.variableName "acme-1"
      = EnvironmentLineageKeyResolver.variableName "acme.1" := by decide +kernel
  use ⟨⟨"sp2/acme", "1_2"⟩, by decide +kernel⟩, ⟨⟨"sp2/acme-1", "2"⟩, by decide +kernel⟩,
    ⟨"acme-1", by decide⟩, ⟨"acme.1", by decide⟩, rfl, rfl, rfl, rfl
  constructor
  · rintro (h | h)
    · exact absurd h (by decide)
    · apply h.1 hsecrets
  constructor
  · rintro (h | h)
    · exact absurd h (by decide)
    · apply h.1 hkeys
  · intro env
    apply And.intro (EnvironmentTenantSecretStore.resolve_congr hsecrets env)
    apply EnvironmentLineageKeyResolver.keyOf_congr (by decide) (by decide) hkeys env

/-- Tenants named in one case, with letters, digits and underscores only, have their own
names. -/
theorem variableName_inj_of_plain {tenantRef tenantRef' : String}
    (h : EnvironmentLineageKeyResolver.variableName tenantRef
      = EnvironmentLineageKeyResolver.variableName tenantRef')
    (hplain : ∀ c ∈ (Text.upper tenantRef).toList, safeEnvChar c = true ∨ c = '_')
    (hplain' : ∀ c ∈ (Text.upper tenantRef').toList, safeEnvChar c = true ∨ c = '_') :
  Text.upper tenantRef = Text.upper tenantRef'
  := by
  have halike := EnvironmentLineageKeyResolver.variableName_eq_iff.mp h
  apply Text.Alike.eq_of_safe halike hplain hplain'

end SnackPortal2
