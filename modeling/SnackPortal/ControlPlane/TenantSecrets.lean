import SnackPortal.Data.Decimal
import SnackPortal.Data.Delimited
import SnackPortal.Data.Text
import SnackPortal.ControlPlane.Onboarding

/-!
# The secrets of tenant databases

The reference of a tenant's connection string has the tenant id between a prefix and a suffix.
Its name in the environment is made of the reference in upper case, with an underscore for every
character that is no letter and no digit, and of the version.  Of the tenant ids that the registry
admits, with versions that are decimal, no two have one name.
-/

namespace ControlPlane

/-! ### The reference -/

/-- A text between the prefix and the suffix, in its parts. -/
theorem tenantDsnRef_toList (tenantId : String) :
  (tenantDsnRef tenantId).toList
    = tenantDsnRefPrefix.toList ++ tenantId.toList ++ tenantDsnRefSuffix.toList
  := by
  rw [tenantDsnRef, String.toList_append, String.toList_append]

/-- A reference is that of a tenant id exactly where it has the id between its prefix and its
suffix; the ids are the texts that are not empty and have no slash. -/
theorem tenantIdFromDsnRef_eq_some {storeRef tenantId : String} :
  tenantIdFromDsnRef storeRef = some tenantId
    ↔ storeRef = tenantDsnRef tenantId ∧ tenantId ≠ "" ∧ '/' ∉ tenantId.toList
  := by
  rw [tenantIdFromDsnRef]
  constructor
  · intro h
    simp only at h
    split at h
    · rename_i hshape
      split at h
      · rename_i hinner
        obtain rfl := Option.some.inj h
        rw [Bool.and_eq_true, List.isPrefixOf_iff_prefix, List.isSuffixOf_iff_suffix] at hshape
        obtain ⟨⟨rest, hrest⟩, hsuffix⟩ := hshape
        have hlength : tenantDsnRefPrefix.toList.length + tenantDsnRefSuffix.toList.length
            < storeRef.toList.length := by
          by_contra hle
          apply hinner.1
          have hzero : storeRef.toList.length - tenantDsnRefPrefix.toList.length
              - tenantDsnRefSuffix.toList.length = 0 := by omega
          rw [hzero, List.take_zero]
        -- the suffix lies behind the prefix
        have hback : tenantDsnRefSuffix.toList <:+ rest := by
          apply List.suffix_of_suffix_length_le hsuffix
          · rw [← hrest]
            apply List.suffix_append
          · rw [← hrest, List.length_append] at hlength
            omega
        obtain ⟨inner, rfl⟩ := hback
        have htake : (storeRef.toList.drop tenantDsnRefPrefix.toList.length).take
            (storeRef.toList.length - tenantDsnRefPrefix.toList.length
              - tenantDsnRefSuffix.toList.length) = inner := by
          rw [← hrest, List.drop_left, List.length_append, List.length_append,
            Nat.add_sub_cancel_left, Nat.add_sub_cancel, List.take_left]
        rw [htake] at hinner ⊢
        constructor
        · apply String.toList_injective
          rw [tenantDsnRef_toList, String.toList_ofList, ← hrest, List.append_assoc]
        · constructor
          · intro hempty
            apply hinner.1
            have hlists := congrArg String.toList hempty
            rwa [String.toList_ofList] at hlists
          · rw [String.toList_ofList]
            apply hinner.2
      · cases h
    · cases h
  · intro h
    obtain ⟨rfl, hne, hslash⟩ := h
    have hpre : tenantDsnRefPrefix.toList.isPrefixOf (tenantDsnRef tenantId).toList := by
      rw [List.isPrefixOf_iff_prefix, tenantDsnRef_toList, List.append_assoc]
      apply List.prefix_append
    have hpost : tenantDsnRefSuffix.toList.isSuffixOf (tenantDsnRef tenantId).toList := by
      rw [List.isSuffixOf_iff_suffix, tenantDsnRef_toList]
      apply List.suffix_append
    have hinner : ((tenantDsnRef tenantId).toList.drop tenantDsnRefPrefix.toList.length).take
        ((tenantDsnRef tenantId).toList.length - tenantDsnRefPrefix.toList.length
          - tenantDsnRefSuffix.toList.length) = tenantId.toList := by
      rw [tenantDsnRef_toList, List.append_assoc, List.drop_left, List.length_append,
        List.length_append, Nat.add_sub_cancel_left, Nat.add_sub_cancel, List.take_left]
    have hne' : tenantId.toList ≠ [] := by
      intro hnil
      apply hne
      apply String.toList_injective
      rw [hnil]
      rfl
    simp only [hpre, hpost, hinner, Bool.and_self, if_true]
    rw [if_pos ⟨hne', hslash⟩, String.ofList_toList]

/-! ### The name in the environment -/

/-- The sources of secrets: the environment, the directory, and the text files in a directory. -/
structure SecretSources where
  environ : String → Option String
  secretDir : String
  files : String → String → Option String

/-- The exceptions of the provider. -/
inductive SecretError where
  | permission
  | lookup
deriving DecidableEq, Repr

namespace EnvTenantDsnSecretStore

def tenantPrefix := "tenant/"

/-- What a name has for a character: its upper case where it is a letter or a digit, else an
underscore.  `beyond` says what the tables of Unicode give for the characters beyond ASCII. -/
def keyChar (beyond : Char → List Char) (c : Char) : List Char :=
  if c.toNat < 0x80 then
    if c.isAlphanum then [c.toUpper] else ['_']
  else
    beyond c

/-- `_env_key`. -/
def envKey (beyond : Char → List Char) (storeRef version : String) : String :=
  "SNACKPORTAL_TENANT_SECRET_" ++ String.ofList (storeRef.toList.flatMap (keyChar beyond))
    ++ "_V" ++ version

/-- The name of the file of a secret. -/
def fileName (storeRef version : String) : String :=
  storeRef ++ "@" ++ version

/-- `resolve`. -/
def resolve (beyond : Char → List Char) (sources : SecretSources) (ref : SecretRef) :
    Except SecretError String :=
  if !Text.startsWith ref.storeRef tenantPrefix then
    .error .permission
  else
    match sources.environ (envKey beyond ref.storeRef ref.version) with
    | some material => .ok material
    | none =>
        if sources.secretDir = "" then
          .error .lookup
        else
          match sources.files sources.secretDir (fileName ref.storeRef ref.version) with
          | some text => .ok (Text.strip text)
          | none => .error .lookup

end EnvTenantDsnSecretStore

/-- The registry admits the tenant id. -/
def admitsTenantId (tenantId : String) : Bool :=
  !TenantRegistry.isReserved tenantId && TenantRegistry.hasTenantIdShape tenantId

/-- The tenant ids that the registry admits. -/
abbrev AdmittedTenantId := { tenantId : String // admitsTenantId tenantId }

/-- The versions of decimal digits, of any script. -/
abbrev DecimalVersion :=
  { version : String // version ≠ "" ∧ ∀ c ∈ version.toList, (Decimal.digit c).isSome }

theorem AdmittedTenantId.ne_empty (t : AdmittedTenantId) :
  t.val ≠ ""
  := by
  intro h
  have hadmits := t.property
  rw [h] at hadmits
  revert hadmits
  decide

theorem AdmittedTenantId.isTenantIdChar (t : AdmittedTenantId) {c : Char}
    (hc : c ∈ t.val.toList) :
  TenantRegistry.isTenantIdChar c
  := by
  have hadmits := t.property
  rw [admitsTenantId, TenantRegistry.hasTenantIdShape, Bool.and_eq_true, Bool.and_eq_true] at hadmits
  apply List.all_eq_true.mp hadmits.2.2 c hc

/-- The characters of the admitted ids are in ASCII. -/
theorem toNat_of_isTenantIdChar {c : Char} (h : TenantRegistry.isTenantIdChar c) :
  c.toNat < 0x80
  := by
  rw [TenantRegistry.isTenantIdChar] at h
  simp only [Bool.or_eq_true, Bool.and_eq_true, decide_eq_true_eq, beq_iff_eq] at h
  rcases h with (⟨-, hz⟩ | ⟨-, hnine⟩) | rfl
  · apply lt_of_le_of_lt (show c.toNat ≤ 'z'.toNat from hz)
    decide
  · apply lt_of_le_of_lt (show c.toNat ≤ '9'.toNat from hnine)
    decide
  · decide

/-- The character that a name has for one of an admitted id. -/
def admittedKeyChar (c : Char) : Char :=
  if c.isAlphanum then c.toUpper else '_'

/-- The lower case of what a name has for a character of an admitted id is that character. -/
theorem toLower_admittedKeyChar {c : Char} (h : TenantRegistry.isTenantIdChar c) :
  (admittedKeyChar c).toLower = c
  := by
  have hall : ∀ n < 0x80, TenantRegistry.isTenantIdChar (Char.ofNat n) →
      (admittedKeyChar (Char.ofNat n)).toLower = Char.ofNat n := by decide
  have hc := hall c.toNat (toNat_of_isTenantIdChar h)
  rw [Char.ofNat_toNat] at hc
  apply hc h

theorem AdmittedTenantId.flatMap_keyChar (beyond : Char → List Char) (t : AdmittedTenantId) :
  t.val.toList.flatMap (EnvTenantDsnSecretStore.keyChar beyond)
    = t.val.toList.map admittedKeyChar
  := by
  rw [← List.flatMap_singleton' (t.val.toList.map admittedKeyChar), List.flatMap_map]
  apply List.flatMap_congr
  intro c hc
  rw [EnvTenantDsnSecretStore.keyChar, if_pos (toNat_of_isTenantIdChar (t.isTenantIdChar hc)),
    admittedKeyChar]
  split <;> rfl

/-- The names of references of admitted ids tell the ids apart. -/
theorem AdmittedTenantId.ext_of_keys (beyond : Char → List Char) {t t' : AdmittedTenantId}
    (h : (tenantDsnRef t.val).toList.flatMap (EnvTenantDsnSecretStore.keyChar beyond)
      = (tenantDsnRef t'.val).toList.flatMap (EnvTenantDsnSecretStore.keyChar beyond)) :
  t = t'
  := by
  rw [tenantDsnRef_toList, tenantDsnRef_toList, List.flatMap_append, List.flatMap_append,
    List.flatMap_append, List.flatMap_append, List.append_left_inj, List.append_right_inj,
    t.flatMap_keyChar, t'.flatMap_keyChar] at h
  have hback : ∀ u : AdmittedTenantId,
      (u.val.toList.map admittedKeyChar).map Char.toLower = u.val.toList := by
    intro u
    rw [List.map_map]
    conv_rhs => rw [← List.map_id u.val.toList]
    apply List.map_congr_left
    intro c hc
    apply toLower_admittedKeyChar (u.isTenantIdChar hc)
  apply Subtype.ext
  apply String.toList_injective
  rw [← hback t, h, hback t']

/-- A character that is no digit is not in a decimal version. -/
theorem DecimalVersion.clean (v : DecimalVersion) {sep : Char}
    (hsep : Decimal.digit sep = none) :
  Delimited.Clean sep v.val
  := by
  intro hmem
  have hdigit := v.property.2 sep hmem
  rw [hsep] at hdigit
  cases hdigit

open EnvTenantDsnSecretStore

theorem append_mark (a b : String) :
  a ++ "_V" ++ b = a ++ "_" ++ String.singleton 'V' ++ b
  := by
  apply String.toList_injective
  simp

theorem envKey_eq (beyond : Char → List Char) (storeRef version : String) :
  envKey beyond storeRef version = "SNACKPORTAL_TENANT_SECRET_"
      ++ String.ofList (storeRef.toList.flatMap (keyChar beyond)) ++ "_"
      ++ String.singleton 'V' ++ version
  := by
  apply append_mark

/-- Tenants and versions of one name in the environment are the same. -/
theorem envKey_eq_iff {beyond : Char → List Char} {t t' : AdmittedTenantId}
    {v v' : DecimalVersion} :
  envKey beyond (tenantDsnRef t.val) v.val = envKey beyond (tenantDsnRef t'.val) v'.val
    ↔ t = t' ∧ v = v'
  := by
  constructor
  · intro h
    rw [envKey_eq, envKey_eq] at h
    have hV : Decimal.digit 'V' = none := by decide +kernel
    obtain ⟨hbase, hversion⟩ := Delimited.cut_inj_last (v.clean hV) (v'.clean hV) h
    constructor
    · apply AdmittedTenantId.ext_of_keys beyond
      have hlists := congrArg String.toList hbase
      rwa [String.toList_append, String.toList_append, String.toList_append, String.toList_append,
        List.append_left_inj, List.append_right_inj, String.toList_ofList,
        String.toList_ofList] at hlists
    · apply Subtype.ext hversion
  · rintro ⟨rfl, rfl⟩
    rfl

/-- Tenants and versions of one file name are the same. -/
theorem fileName_eq_iff {t t' : AdmittedTenantId} {v v' : DecimalVersion} :
  fileName (tenantDsnRef t.val) v.val = fileName (tenantDsnRef t'.val) v'.val
    ↔ t = t' ∧ v = v'
  := by
  constructor
  · intro h
    have hat : Decimal.digit '@' = none := by decide +kernel
    have h' : tenantDsnRef t.val ++ String.singleton '@' ++ v.val
        = tenantDsnRef t'.val ++ String.singleton '@' ++ v'.val := h
    obtain ⟨href, hversion⟩ := Delimited.cut_inj_last (v.clean hat) (v'.clean hat) h'
    constructor
    · apply Subtype.ext
      apply String.toList_injective
      have hlists := congrArg String.toList href
      rwa [tenantDsnRef_toList, tenantDsnRef_toList, List.append_left_inj,
        List.append_right_inj] at hlists
    · apply Subtype.ext hversion
  · rintro ⟨rfl, rfl⟩
    rfl

/-- The sources with another value for the secret of one tenant and version. -/
def SecretSources.update (sources : SecretSources) (key file : String)
    (environ : Option String) (files : String → Option String) : SecretSources :=
  { sources with
    environ := Function.update sources.environ key environ
    files := fun dir => Function.update (sources.files dir) file (files dir) }

/-- What another tenant, or another version, has for a secret changes nothing. -/
theorem resolve_update {beyond : Char → List Char} {t t' : AdmittedTenantId}
    {v v' : DecimalVersion} (h : ¬ (t = t' ∧ v = v')) (sources : SecretSources)
    (environ : Option String) (files : String → Option String) :
  resolve beyond
      (sources.update (envKey beyond (tenantDsnRef t'.val) v'.val)
        (fileName (tenantDsnRef t'.val) v'.val) environ files) ⟨tenantDsnRef t.val, v.val⟩
    = resolve beyond sources ⟨tenantDsnRef t.val, v.val⟩
  := by
  have hkey : envKey beyond (tenantDsnRef t.val) v.val
      ≠ envKey beyond (tenantDsnRef t'.val) v'.val := fun heq => h (envKey_eq_iff.mp heq)
  have hfile : fileName (tenantDsnRef t.val) v.val ≠ fileName (tenantDsnRef t'.val) v'.val :=
    fun heq => h (fileName_eq_iff.mp heq)
  simp only [resolve, SecretSources.update, Function.update_of_ne hkey,
    Function.update_of_ne hfile]

/-- For the tenant ids that the registry admits and all decimal versions: a reference is read as
the tenant's exactly where it is the one that the tenant has; no two pairs of a tenant and a
version have one name in the environment; and what the environment and the files have for one
pair is nothing to another. -/
theorem tenantReferences_apart (beyond : Char → List Char) :
  (∀ (storeRef : String) (t : AdmittedTenantId),
      tenantIdFromDsnRef storeRef = some t.val ↔ storeRef = tenantDsnRef t.val)
    ∧ (∀ (t t' : AdmittedTenantId) (v v' : DecimalVersion),
      envKey beyond (tenantDsnRef t.val) v.val = envKey beyond (tenantDsnRef t'.val) v'.val
        ↔ t = t' ∧ v = v')
    ∧ ∀ (t t' : AdmittedTenantId) (v v' : DecimalVersion), (t = t' ∧ v = v')
      ∨ ∀ (sources : SecretSources) (environ : Option String) (files : String → Option String),
        resolve beyond
            (sources.update (envKey beyond (tenantDsnRef t'.val) v'.val)
              (fileName (tenantDsnRef t'.val) v'.val) environ files) ⟨tenantDsnRef t.val, v.val⟩
          = resolve beyond sources ⟨tenantDsnRef t.val, v.val⟩
  := by
  constructor
  · intro storeRef t
    rw [tenantIdFromDsnRef_eq_some]
    apply and_iff_left
    use t.ne_empty
    intro hslash
    have hchar := t.isTenantIdChar hslash
    revert hchar
    decide
  · constructor
    · intro t t' v v'
      apply envKey_eq_iff
    · intro t t' v v'
      by_cases h : t = t' ∧ v = v'
      · exact .inl h
      · exact .inr (resolve_update h)

end ControlPlane
