import SnackPortal.Portability.Manifest

/-!
# The canonical form of a manifest

Whether a manifest is valid does not depend on the order of its lists, and the canonical form
keeps everything but that order.  So a canonical document is read back as a valid manifest with
the same canonical form, and two manifests have the same canonical form if and only if they are
equal up to the order of their lists.
-/

namespace Portability

open Regex Fallible

variable {classes : CharacterClasses} {m m' : DeploymentManifest}

/-! ### What is valid -/

theorem named_eq_ok {x : Except LogicalIdentityError Unit} {u : Unit} :
  named x = .ok u ↔ x = .ok ()
  := by
  cases x with
  | ok a => simp [named]
  | error e => simp [named]

theorem referenceSafe_eq_ok {path : String} {value : CodePoints} {u : Unit} :
  referenceSafe classes path value = .ok u ↔ assertReferenceSafe classes value = none
  := by
  rw [referenceSafe]
  cases assertReferenceSafe classes value with
  | none => simp
  | some found =>
      obtain ⟨raw, kind⟩ := found
      cases raw <;> simp

/-- A loop of checks passes if and only if every check does. -/
theorem checkEach_eq_ok {α : Type} {check : ℕ → α → Except ManifestValidationError Unit}
    {p : α → Prop} (hcheck : ∀ n a, check n a = .ok () ↔ p a) (values : List α) (n : ℕ) :
  checkEach check n values = .ok () ↔ ∀ a ∈ values, p a
  := by
  induction values generalizing n with
  | nil => simp [checkEach]
  | cons a rest ih =>
      rw [checkEach, bind_eq_ok, List.forall_mem_cons]
      constructor
      · intro ⟨u, ha, hrest⟩
        exact ⟨(hcheck n a).mp ha, (ih (n + 1)).mp hrest⟩
      · intro ⟨ha, hrest⟩
        exact ⟨(), (hcheck n a).mpr ha, (ih (n + 1)).mpr hrest⟩

/-- The loop over the logical databases passes if they are valid and distinct, and new. -/
theorem checkIds_eq_ok {seen seen' ids : List CodePoints} :
  checkIds classes seen ids = .ok seen'
    ↔ (∀ id ∈ ids, validateLogicalDatabaseId classes id = .ok () ∧ id ∉ seen) ∧ ids.Nodup
      ∧ seen' = ids.reverse ++ seen
  := by
  induction ids generalizing seen with
  | nil =>
      rw [checkIds]
      constructor
      · intro h
        exact ⟨nofun, List.nodup_nil, (Except.ok.inj h).symm⟩
      · rintro ⟨-, -, rfl⟩
        rfl
  | cons id rest ih =>
      rw [checkIds, bind_eq_ok]
      constructor
      · rintro ⟨u, hid, h⟩
        obtain ⟨u', hnew, h⟩ := bind_eq_ok.mp h
        obtain ⟨hall, hnodup, hseen⟩ := ih.mp h
        have hnew' : id ∉ seen := by
          simpa using hnew
        constructor
        · intro id' hid'
          rcases List.mem_cons.mp hid' with rfl | hid'
          · exact ⟨named_eq_ok.mp hid, hnew'⟩
          · use (hall id' hid').1
            intro hmem
            apply (hall id' hid').2 (List.mem_cons_of_mem _ hmem)
        · constructor
          · apply List.nodup_cons.mpr
            exact ⟨fun hmem => (hall id hmem).2 List.mem_cons_self, hnodup⟩
          · rw [hseen, List.reverse_cons, List.append_assoc, List.singleton_append]
      · rintro ⟨hall, hnodup, hseen⟩
        obtain ⟨⟨hid, hnew⟩, hrest⟩ := List.forall_mem_cons.mp hall
        obtain ⟨hfirst, hnodup⟩ := List.nodup_cons.mp hnodup
        use (), named_eq_ok.mpr hid
        apply bind_eq_ok.mpr
        use (), by simpa using hnew
        apply ih.mpr
        constructor
        · intro id' hid'
          use (hrest id' hid').1
          intro hmem
          rcases List.mem_cons.mp hmem with rfl | hmem
          · apply hfirst hid'
          · apply (hrest id' hid').2 hmem
        · use hnodup
          rw [hseen, List.reverse_cons, List.append_assoc, List.singleton_append]

/-- What `validateManifest` asks of a manifest. -/
structure Valid (classes : CharacterClasses) (m : DeploymentManifest) : Prop where
  environment : validateEnvironmentId classes m.environmentId = .ok ()
  profile : validateProfileId classes m.profileId = .ok ()
  references : ∀ f ∈ [StringField.hostOrPlatformRef, .operatorRef],
    (alt configReferenceRe secretReferenceRe).fullmatch classes (m.get f) = true
  commit : commitRe.fullmatch classes m.repositoryCommit = true
  digests : ∀ f ∈ [StringField.configurationDigest, .migrationDigest],
    sha256DigestRe.fullmatch classes (m.get f) = true
  images : ∀ f ∈ [ListField.serviceImageRefs, .databaseImageRefs],
    m.getList f ≠ [] ∧ ∀ ref ∈ m.getList f, imageRefRe.fullmatch classes ref = true
  ids : ∀ id ∈ m.logicalDatabaseIds, validateLogicalDatabaseId classes id = .ok ()
  nodup : m.logicalDatabaseIds.Nodup
  required : ∀ id ∈ requiredLogicalDatabaseIds, id ∈ m.logicalDatabaseIds
  selectors : ∀ f ∈ [StringField.secretProviderType, .backupTargetType, .monitoringExporterType],
    selectorRe.fullmatch classes (m.get f) = true
  started : startedAtRe.fullmatch classes m.startedAt = true
  safe : ∀ f : StringField, assertReferenceSafe classes (m.get f) = none
  listSafe : ∀ f : ListField, ∀ value ∈ m.getList f, assertReferenceSafe classes value = none

theorem checkFields_eq_ok {r : Regex} {problem : String} {fields : List StringField} {n : ℕ} :
  checkEach (fun _ => checkField classes r problem m) n fields = .ok ()
    ↔ ∀ f ∈ fields, r.fullmatch classes (m.get f) = true
  := by
  apply checkEach_eq_ok
  intro _ f
  apply ensure_eq_ok

theorem checkImageRefs_eq_ok {f : ListField} :
  checkImageRefs classes m f = .ok ()
    ↔ m.getList f ≠ [] ∧ ∀ ref ∈ m.getList f, imageRefRe.fullmatch classes ref = true
  := by
  have hrefs : checkEach (fun index ref => ensure (imageRefRe.fullmatch classes ref)
      (.field (memberPath f index)
        "must be a digest-pinned image reference 'name[:tag]@sha256:<64-hex>'")) 0 (m.getList f)
      = .ok () ↔ ∀ ref ∈ m.getList f, imageRefRe.fullmatch classes ref = true := by
    apply checkEach_eq_ok
    intro _ ref
    apply ensure_eq_ok
  rw [checkImageRefs, bind_eq_ok]
  constructor
  · intro ⟨u, hne, h⟩
    use by simpa using hne
    apply hrefs.mp h
  · intro ⟨hne, h⟩
    use (), by simpa using hne
    apply hrefs.mpr h

theorem checkImages_eq_ok {fields : List ListField} {n : ℕ} :
  checkEach (fun _ => checkImageRefs classes m) n fields = .ok ()
    ↔ ∀ f ∈ fields,
        m.getList f ≠ [] ∧ ∀ ref ∈ m.getList f, imageRefRe.fullmatch classes ref = true
  := by
  apply checkEach_eq_ok
  intro _ f
  apply checkImageRefs_eq_ok

theorem checkSafe_eq_ok {fields : List StringField} {n : ℕ} :
  checkEach (fun _ f => referenceSafe classes f.name (m.get f)) n fields = .ok ()
    ↔ ∀ f ∈ fields, assertReferenceSafe classes (m.get f) = none
  := by
  apply checkEach_eq_ok
  intro _ f
  apply referenceSafe_eq_ok

theorem checkListSafe_eq_ok {fields : List ListField} {n : ℕ} :
  checkEach (fun _ f => checkEach (fun index => referenceSafe classes (memberPath f index)) 0
      (m.getList f)) n fields = .ok ()
    ↔ ∀ f ∈ fields, ∀ value ∈ m.getList f, assertReferenceSafe classes value = none
  := by
  apply checkEach_eq_ok
  intro _ f
  apply checkEach_eq_ok
  intro _ value
  apply referenceSafe_eq_ok

theorem mem_sortedTexts {text : CodePoints} {texts : List CodePoints} :
  text ∈ sortedTexts texts ↔ text ∈ texts
  := by
  apply List.mem_insertionSort

theorem checkLogicalDatabaseIds_eq_ok {ids : List CodePoints} :
  checkLogicalDatabaseIds classes ids = .ok ()
    ↔ (∀ id ∈ ids, validateLogicalDatabaseId classes id = .ok ()) ∧ ids.Nodup
      ∧ ∀ id ∈ requiredLogicalDatabaseIds, id ∈ ids
  := by
  rw [checkLogicalDatabaseIds, bind_eq_ok]
  constructor
  · rintro ⟨u, _, h⟩
    obtain ⟨seen, hids, h⟩ := bind_eq_ok.mp h
    obtain ⟨hall, hnodup, hseen⟩ := checkIds_eq_ok.mp hids
    use fun id hid => (hall id hid).1, hnodup
    intro id hid
    by_contra hnot
    have hmissing : id ∈ sortedTexts
        (requiredLogicalDatabaseIds.filter fun id => !seen.contains id) := by
      apply mem_sortedTexts.mpr
      apply List.mem_filter.mpr
      use hid
      simp [hseen, hnot]
    rw [List.isEmpty_iff.mp (ensure_eq_ok.mp h)] at hmissing
    cases hmissing
  · rintro ⟨hall, hnodup, hrequired⟩
    have hfirst : CodePoints.ofString "control" ∈ ids := hrequired _ List.mem_cons_self
    use (), by simpa using List.ne_nil_of_mem hfirst
    apply bind_eq_ok.mpr
    use ids.reverse ++ []
    constructor
    · apply checkIds_eq_ok.mpr
      exact ⟨fun id hid => ⟨hall id hid, List.not_mem_nil⟩, hnodup, rfl⟩
    · have hnone : (requiredLogicalDatabaseIds.filter fun id =>
          !(ids.reverse ++ []).contains id) = [] := by
        apply List.filter_eq_nil_iff.mpr
        intro id hid
        simp [hrequired id hid]
      simp only [hnone]
      rfl

theorem validateManifest_eq_ok :
  validateManifest classes m = .ok () ↔ Valid classes m
  := by
  rw [validateManifest]
  constructor
  · intro h
    obtain ⟨_, henvironment, h⟩ := bind_eq_ok.mp h
    obtain ⟨_, hprofile, h⟩ := bind_eq_ok.mp h
    obtain ⟨_, hreferences, h⟩ := bind_eq_ok.mp h
    obtain ⟨_, hcommit, h⟩ := bind_eq_ok.mp h
    obtain ⟨_, hdigests, h⟩ := bind_eq_ok.mp h
    obtain ⟨_, himages, h⟩ := bind_eq_ok.mp h
    obtain ⟨_, hids, h⟩ := bind_eq_ok.mp h
    obtain ⟨_, hselectors, h⟩ := bind_eq_ok.mp h
    obtain ⟨_, hstarted, h⟩ := bind_eq_ok.mp h
    obtain ⟨_, hsafe, hlist⟩ := bind_eq_ok.mp h
    obtain ⟨hall, hnodup, hrequired⟩ := checkLogicalDatabaseIds_eq_ok.mp hids
    exact
      { environment := named_eq_ok.mp henvironment
        profile := named_eq_ok.mp hprofile
        references := checkFields_eq_ok.mp hreferences
        commit := ensure_eq_ok.mp hcommit
        digests := checkFields_eq_ok.mp hdigests
        images := checkImages_eq_ok.mp himages
        ids := hall
        nodup := hnodup
        required := hrequired
        selectors := checkFields_eq_ok.mp hselectors
        started := ensure_eq_ok.mp hstarted
        safe := fun f => checkSafe_eq_ok.mp hsafe f f.mem_all
        listSafe := fun f => checkListSafe_eq_ok.mp hlist f f.mem_all }
  · intro h
    have hids := checkLogicalDatabaseIds_eq_ok.mpr ⟨h.ids, h.nodup, h.required⟩
    apply bind_eq_ok.mpr ⟨(), named_eq_ok.mpr h.environment, _⟩
    apply bind_eq_ok.mpr ⟨(), named_eq_ok.mpr h.profile, _⟩
    apply bind_eq_ok.mpr ⟨(), checkFields_eq_ok.mpr h.references, _⟩
    apply bind_eq_ok.mpr ⟨(), ensure_eq_ok.mpr h.commit, _⟩
    apply bind_eq_ok.mpr ⟨(), checkFields_eq_ok.mpr h.digests, _⟩
    apply bind_eq_ok.mpr ⟨(), checkImages_eq_ok.mpr h.images, _⟩
    apply bind_eq_ok.mpr ⟨(), hids, _⟩
    apply bind_eq_ok.mpr ⟨(), checkFields_eq_ok.mpr h.selectors, _⟩
    apply bind_eq_ok.mpr ⟨(), ensure_eq_ok.mpr h.started, _⟩
    apply bind_eq_ok.mpr ⟨(), checkSafe_eq_ok.mpr fun f _ => h.safe f, _⟩
    apply checkListSafe_eq_ok.mpr fun f _ => h.listSafe f

/-! ### Up to the order of the lists -/

/-- The manifests differ in the order of their lists only. -/
structure DeploymentManifest.SameUpToOrder (m m' : DeploymentManifest) : Prop where
  text : ∀ f : StringField, m.get f = m'.get f
  lists : ∀ f : ListField, (m.getList f).Perm (m'.getList f)

/-- Validity does not depend on the order of the lists. -/
theorem Valid.of_same (h : Valid classes m) (hsame : m.SameUpToOrder m') :
  Valid classes m'
  := by
  have hmem : ∀ (f : ListField) (value : CodePoints),
      value ∈ m'.getList f ↔ value ∈ m.getList f :=
    fun f value => (hsame.lists f).mem_iff.symm
  have henvironment : m.environmentId = m'.environmentId := hsame.text .environmentId
  have hprofile : m.profileId = m'.profileId := hsame.text .profileId
  have hcommit : m.repositoryCommit = m'.repositoryCommit := hsame.text .repositoryCommit
  have hstarted : m.startedAt = m'.startedAt := hsame.text .startedAt
  constructor
  · rw [← henvironment]
    apply h.environment
  · rw [← hprofile]
    apply h.profile
  · intro f hf
    rw [← hsame.text f]
    apply h.references f hf
  · rw [← hcommit]
    apply h.commit
  · intro f hf
    rw [← hsame.text f]
    apply h.digests f hf
  · intro f hf
    obtain ⟨hne, hall⟩ := h.images f hf
    constructor
    · intro hnil
      have hperm := hsame.lists f
      rw [hnil] at hperm
      apply hne hperm.eq_nil
    · intro ref href
      apply hall ref ((hmem f ref).mp href)
  · intro id hid
    apply h.ids id ((hmem .logicalDatabaseIds id).mp hid)
  · apply (hsame.lists .logicalDatabaseIds).nodup_iff.mp h.nodup
  · intro id hid
    apply (hmem .logicalDatabaseIds id).mpr (h.required id hid)
  · intro f hf
    rw [← hsame.text f]
    apply h.selectors f hf
  · rw [← hstarted]
    apply h.started
  · intro f
    rw [← hsame.text f]
    apply h.safe f
  · intro f value hvalue
    apply h.listSafe f value ((hmem f value).mp hvalue)

/-- Sorting keeps a list of texts up to its order, and only that. -/
theorem sortedTexts_eq_iff {texts texts' : List CodePoints} :
  sortedTexts texts = sortedTexts texts' ↔ texts.Perm texts'
  := by
  have hsort := List.perm_insertionSort (Keyset.Before id) texts
  have hsort' := List.perm_insertionSort (Keyset.Before id) texts'
  constructor
  · intro h
    apply hsort.symm.trans
    rw [sortedTexts, sortedTexts] at h
    rw [h]
    apply hsort'
  · intro h
    apply @List.Perm.eq_of_pairwise _ (Keyset.Before id)
    · intro text text' _ _ hle hle'
      apply le_antisymm hle hle'
    · apply List.pairwise_insertionSort
    · apply List.pairwise_insertionSort
    · apply (hsort.trans h).trans hsort'.symm

/-- The manifest with its lists sorted. -/
def DeploymentManifest.sorted (m : DeploymentManifest) : DeploymentManifest :=
  { m with
    serviceImageRefs := sortedTexts m.serviceImageRefs
    databaseImageRefs := sortedTexts m.databaseImageRefs
    logicalDatabaseIds := sortedTexts m.logicalDatabaseIds }

theorem DeploymentManifest.same_sorted (m : DeploymentManifest) :
  m.SameUpToOrder m.sorted
  := by
  constructor
  · intro f
    cases f <;> rfl
  · intro f
    cases f <;> apply (List.perm_insertionSort (Keyset.Before id) _).symm

/-- Manifests that are equal up to the order of their lists have the same payload. -/
theorem DeploymentManifest.SameUpToOrder.payload_eq (h : m.SameUpToOrder m') :
  m.payload = m'.payload
  := by
  have htext : ∀ f : StringField, m.get f = m'.get f := h.text
  have hlists : ∀ f : ListField, sortedTexts (m.getList f) = sortedTexts (m'.getList f) :=
    fun f => sortedTexts_eq_iff.mpr (h.lists f)
  simp only [payload, htext, hlists]

/-! ### The document -/

def PayloadValue.toWire : PayloadValue → Wire
  | .text s => .text s
  | .texts values => .list (values.map .text)

namespace DeploymentManifest

/-- The entries of the canonical document. -/
def entries (m : DeploymentManifest) : Wire.Entries :=
  (sortKeys m.payload).map fun e => (CodePoints.ofString e.1, e.2.toWire)

/-- The JSON value of the canonical document. -/
def document (m : DeploymentManifest) : Wire :=
  .object m.entries

end DeploymentManifest

/-- Under distinct keys, every entry is found. -/
theorem lookup_of_mem {α β : Type} [BEq α] [LawfulBEq α] {entries : List (α × β)}
    (hnodup : (entries.map Prod.fst).Nodup) {key : α} {value : β} (h : (key, value) ∈ entries) :
  entries.lookup key = some value
  := by
  induction entries with
  | nil => cases h
  | cons head rest ih =>
      obtain ⟨hfirst, hnodup⟩ := List.nodup_cons.mp hnodup
      rw [List.lookup_cons]
      rcases List.mem_cons.mp h with rfl | hrest
      · simp
      · have hne : (key == head.1) = false := by
          apply beq_eq_false_iff_ne.mpr
          rintro rfl
          apply hfirst (List.mem_map.mpr ⟨_, hrest, rfl⟩)
        rw [hne]
        apply ih hnodup hrest

theorem payload_keys (m : DeploymentManifest) :
  m.payload.map Prod.fst
    = ["schema"] ++ StringField.all.map StringField.name ++ ListField.all.map ListField.name
  := rfl

/-- What the payload holds under a key is in the document. -/
theorem item_entries {name : String} {value : PayloadValue} (h : (name, value) ∈ m.payload) :
  Wire.item name m.entries = some value.toWire
  := by
  have hperm : (sortKeys m.payload).Perm m.payload :=
    List.perm_insertionSort _ _
  apply lookup_of_mem
  · have hkeys : (m.entries.map Prod.fst)
        = ((sortKeys m.payload).map Prod.fst).map CodePoints.ofString := by
      rw [DeploymentManifest.entries, List.map_map, List.map_map]
      rfl
    rw [hkeys]
    apply List.Nodup.map CodePoints.ofString_injective
    apply (hperm.map Prod.fst).nodup_iff.mpr
    rw [payload_keys]
    decide +kernel
  · apply List.mem_map.mpr
    exact ⟨_, hperm.mem_iff.mpr h, rfl⟩

theorem text_mem_payload (m : DeploymentManifest) (f : StringField) :
  (f.name, .text (m.get f)) ∈ m.payload
  := by
  apply List.mem_append_left
  apply List.mem_cons_of_mem
  apply List.mem_map_of_mem f.mem_all

theorem texts_mem_payload (m : DeploymentManifest) (f : ListField) :
  (f.name, .texts (sortedTexts (m.getList f))) ∈ m.payload
  := by
  apply List.mem_append_right
  apply List.mem_map_of_mem f.mem_all

/-- The document keeps everything but the order of the lists. -/
theorem same_of_document_eq (h : m.document = m'.document) :
  m.SameUpToOrder m'
  := by
  have hentries : m.entries = m'.entries := by
    rw [DeploymentManifest.document, DeploymentManifest.document] at h
    injection h
  constructor
  · intro f
    have htext := item_entries (text_mem_payload m f)
    rw [hentries, item_entries (text_mem_payload m' f)] at htext
    simp only [PayloadValue.toWire, Option.some.injEq, Wire.text.injEq] at htext
    apply htext.symm
  · intro f
    have htexts := item_entries (texts_mem_payload m f)
    rw [hentries, item_entries (texts_mem_payload m' f)] at htexts
    simp only [PayloadValue.toWire, Option.some.injEq, Wire.list.injEq] at htexts
    have hinjective : Function.Injective Wire.text := by
      intro s t hst
      injection hst
    apply sortedTexts_eq_iff.mp
    apply List.map_injective_iff.mpr hinjective htexts.symm

/-! ### Reading the document back -/

theorem fullmatch_of_validateIdentity {grammar : Regex} {what : String} {value : CodePoints}
    (h : validateIdentity classes grammar what value = .ok ()) :
  grammar.fullmatch classes value = true
  := by
  obtain ⟨_, hgrammar, _⟩ := bind_eq_ok.mp h
  apply ensure_eq_ok.mp hgrammar

/-- No field of a valid manifest is empty. -/
theorem Valid.get_ne_nil (h : Valid classes m) (f : StringField) :
  m.get f ≠ []
  := by
  intro hnil
  have hempty : ∀ r : Regex, r.fullmatch classes (m.get f) = true → r.fullmatch classes [] = true := by
    intro r hr
    rw [hnil] at hr
    apply hr
  cases f with
  | environmentId =>
      cases hempty environmentIdRe (fullmatch_of_validateIdentity h.environment)
  | profileId => cases hempty profileIdRe (fullmatch_of_validateIdentity h.profile)
  | hostOrPlatformRef => cases hempty _ (h.references .hostOrPlatformRef (by simp))
  | operatorRef => cases hempty _ (h.references .operatorRef (by simp))
  | repositoryCommit => cases hempty _ h.commit
  | configurationDigest => cases hempty _ (h.digests .configurationDigest (by simp))
  | migrationDigest => cases hempty _ (h.digests .migrationDigest (by simp))
  | secretProviderType => cases hempty _ (h.selectors .secretProviderType (by simp))
  | backupTargetType => cases hempty _ (h.selectors .backupTargetType (by simp))
  | monitoringExporterType => cases hempty _ (h.selectors .monitoringExporterType (by simp))
  | startedAt => cases hempty _ h.started

theorem textsOf_map (values : List CodePoints) :
  textsOf (values.map .text) = some values
  := by
  induction values with
  | nil => rfl
  | cons value rest ih => rw [List.map_cons, textsOf, ih, Option.map_some]

theorem requireText_entries (h : Valid classes m) (f : StringField) :
  requireText m.entries f = .ok (m.get f)
  := by
  rw [requireText, item_entries (text_mem_payload m f), PayloadValue.toWire]
  cases hget : m.get f with
  | nil => cases h.get_ne_nil f hget
  | cons n s => rfl

theorem requireTexts_entries (f : ListField) :
  requireTexts m.entries f = .ok (sortedTexts (m.getList f))
  := by
  rw [requireTexts, item_entries (texts_mem_payload m f), PayloadValue.toWire]
  simp only [textsOf_map, require]

/-- The keys of the document are the known fields. -/
theorem checkKeys_entries :
  checkKeys m.entries = .ok ()
  := by
  have hkeys : ∀ name, name ∈ knownFields ↔ name ∈ m.payload.map Prod.fst := by
    intro name
    rw [payload_keys, knownFields]
    simp only [List.mem_append, List.mem_singleton]
    tauto
  have hknown : ((m.entries.map Prod.fst).filter fun key =>
      !knownFields.any fun name => key = CodePoints.ofString name) = [] := by
    apply List.filter_eq_nil_iff.mpr
    intro key hkey
    obtain ⟨_, hentry, rfl⟩ := List.mem_map.mp hkey
    obtain ⟨e, he, rfl⟩ := List.mem_map.mp hentry
    have hmem : e.1 ∈ knownFields := by
      apply (hkeys e.1).mpr
      apply List.mem_map_of_mem
      apply (List.perm_insertionSort _ _).mem_iff.mp he
    simp only [Bool.not_eq_true', Bool.not_eq_false, List.any_eq_true]
    use e.1, hmem
    apply decide_eq_true rfl
  have hfound : (knownFields.filter fun name => (Wire.item name m.entries).isNone) = [] := by
    apply List.filter_eq_nil_iff.mpr
    intro name hname
    obtain ⟨e, he, rfl⟩ := List.mem_map.mp ((hkeys name).mp hname)
    rw [item_entries he]
    simp
  simp only [checkKeys, hknown, hfound]
  rfl

theorem isSchema_entries :
  isSchema (Wire.item "schema" m.entries) = true
  := by
  have hmem : ("schema", .text manifestSchemaId) ∈ m.payload := by
    apply List.mem_append_left
    apply List.mem_cons_self
  rw [item_entries hmem]
  change decide (manifestSchemaId = manifestSchemaId) = true
  apply decide_eq_true rfl

/-- The canonical document of a valid manifest is read as the manifest with its lists sorted. -/
theorem parseManifest_document (h : Valid classes m) :
  parseManifest classes m.document = .ok m.sorted
  := by
  have hsorted : validateManifest classes m.sorted = .ok () :=
    validateManifest_eq_ok.mpr (h.of_same m.same_sorted)
  have hok : ∀ {α β : Type} (a : α) (f : α → Except ManifestValidationError β),
      ((.ok a : Except ManifestValidationError α) >>= f) = f a := fun _ _ => rfl
  have hschema : ∀ e : ManifestValidationError,
      ensure (isSchema (Wire.item "schema" m.entries)) e = .ok () :=
    fun e => ensure_eq_ok.mpr isSchema_entries
  have hentries : ∀ e : ManifestValidationError,
      require m.document.asObject e = .ok m.entries := fun _ => rfl
  simp only [parseManifest, hentries, hok, checkKeys_entries, hschema, requireText_entries h,
    requireTexts_entries]
  change (validateManifest classes m.sorted >>= fun _ => .ok m.sorted) = .ok m.sorted
  rw [hsorted]
  rfl

/-- The canonical form of a valid manifest. -/
theorem canonicalJson_eq (h : validateManifest classes m = .ok ()) :
  canonicalJson classes m = .ok (jsonDumps m.payload)
  := by
  have hpayload : canonicalPayload classes m = .ok m.payload := by
    rw [canonicalPayload, h]
    rfl
  rw [canonicalJson, hpayload]
  rfl

/-- Canonical documents are read back with the same canonical form, and keep everything but the
order of the lists.  `loads` is the decoder, which gives back what the documents were made of. -/
theorem parseManifest_canonicalJson (loads : String → Option Wire)
    (hm : validateManifest classes m = .ok ()) (hm' : validateManifest classes m' = .ok ())
    (hloads : loads (jsonDumps m.payload) = some m.document)
    (hloads' : loads (jsonDumps m'.payload) = some m'.document) :
  (∃ json data parsed, canonicalJson classes m = .ok json ∧ loads json = some data
      ∧ parseManifest classes data = .ok parsed ∧ canonicalJson classes parsed = .ok json)
    ∧ (canonicalJson classes m = canonicalJson classes m' ↔ m.SameUpToOrder m')
  := by
  have hvalid := validateManifest_eq_ok.mp hm
  constructor
  · use jsonDumps m.payload, m.document, m.sorted
    use canonicalJson_eq hm, hloads, parseManifest_document hvalid
    rw [m.same_sorted.payload_eq]
    apply canonicalJson_eq
    apply validateManifest_eq_ok.mpr (hvalid.of_same m.same_sorted)
  · rw [canonicalJson_eq hm, canonicalJson_eq hm']
    constructor
    · intro h
      rw [Except.ok.inj h, hloads'] at hloads
      apply same_of_document_eq (Option.some.inj hloads).symm
    · intro h
      rw [h.payload_eq]

/-- A text of one digit, repeated. -/
def sampleHex (c : Char) (n : ℕ) : CodePoints :=
  List.replicate n c.toNat

def sampleImage (name : String) (c : Char) : CodePoints :=
  CodePoints.ofString name ++ CodePoints.ofString "@sha256:" ++ sampleHex c 64

/-- The controlled local deployment. -/
def sampleManifest : DeploymentManifest where
  environmentId := CodePoints.ofString "SP2-LOCAL-MVP-01"
  profileId := CodePoints.ofString "sp2-local-mvp"
  hostOrPlatformRef := CodePoints.ofString "config://host/sp2-local-host"
  operatorRef := CodePoints.ofString "config://operator/environment-owner"
  repositoryCommit := CodePoints.ofString "c765c7164075b648adeeb26fc7d856934a410e7c"
  configurationDigest := CodePoints.ofString "sha256:" ++ sampleHex 'a' 64
  serviceImageRefs :=
    [sampleImage "snackportal2/api-gateway:0.0.0" 'c',
      sampleImage "snackportal2/database-router:0.0.0" 'd']
  databaseImageRefs := [sampleImage "postgres:17" 'e']
  migrationDigest := CodePoints.ofString "sha256:" ++ sampleHex 'b' 64
  logicalDatabaseIds := requiredLogicalDatabaseIds
  secretProviderType := CodePoints.ofString "env-reference"
  backupTargetType := CodePoints.ofString "local-filesystem"
  monitoringExporterType := CodePoints.ofString "local-structured-log"
  startedAt := CodePoints.ofString "2026-07-22T00:00:00Z"

/-- The same deployment, written down the other way round. -/
def reversedManifest : DeploymentManifest :=
  { sampleManifest with
    serviceImageRefs := sampleManifest.serviceImageRefs.reverse
    logicalDatabaseIds := sampleManifest.logicalDatabaseIds.reverse }

theorem parseManifest_canonicalJson_sample :
  (∃ json data parsed, canonicalJson .ascii sampleManifest = .ok json
      ∧ (if json = jsonDumps sampleManifest.payload then some sampleManifest.document else none)
        = some data
      ∧ parseManifest .ascii data = .ok parsed ∧ canonicalJson .ascii parsed = .ok json)
    ∧ (canonicalJson .ascii sampleManifest = canonicalJson .ascii reversedManifest
      ↔ sampleManifest.SameUpToOrder reversedManifest)
  := by
  have hpayload : reversedManifest.payload = sampleManifest.payload := by
    decide +kernel
  have hdocument : reversedManifest.document = sampleManifest.document := by
    rw [DeploymentManifest.document, DeploymentManifest.document, DeploymentManifest.entries,
      DeploymentManifest.entries, hpayload]
  apply parseManifest_canonicalJson fun json =>
    if json = jsonDumps sampleManifest.payload then some sampleManifest.document else none
  · decide +kernel
  · decide +kernel
  · rw [if_pos rfl]
  · rw [hpayload, hdocument, if_pos rfl]

end Portability
