import SnackPortal.Data.Keyset
import SnackPortal.SnackPortal2.References
import SnackPortal.SnackPortal2.Websites
import Mathlib

/-!
# The duplicate check

A proposed startup is compared with those a tenant holds, by name and by website, up to
normalization.  The check reads a bounded part of the table and compares the websites as they
are stored; so it finds every duplicate and nothing else exactly where none is stored past that
part and what it compares is stored in its normal form (`findsDuplicates_iff`).
-/

namespace SnackPortal2

/-- A stored startup.  The tables hold the year as an integer, or as the text of one. -/
structure StartupRow where
  globalStartupId : Option String := none
  companyName : Option String
  companyType : Option String := none
  companyUrl : Option String := none
  headquartersCountry : Option String := none
  headquartersCity : Option String := none
  region : Option String := none
  yearFounded : Option Int := none
  industry : Option String := none
  investmentStage : Option String := none
  shortDescription : Option String := none
  productOverview : Option String := none
deriving DecidableEq, Repr, Inhabited

/-- The record of a startup under its reference. -/
structure TenantStartupRecord where
  recordRef : String
  globalStartupId : Option String
  companyName : String
  companyType : Option String
  companyUrl : Option String
  headquartersCountry : Option String
  headquartersCity : Option String
  region : Option String
  yearFounded : Option Int
  industry : Option String
  investmentStage : Option String
  shortDescription : Option String
  productOverview : Option String
deriving DecidableEq, Repr, Inhabited

/-- `_record_from_fields`. -/
def StartupRow.record (tenantRef identity : String) (row : StartupRow) : TenantStartupRecord where
  recordRef := composeRecordRef tenantRef "startups" identity
  globalStartupId := row.globalStartupId
  companyName := row.companyName.getD ""
  companyType := row.companyType
  companyUrl := row.companyUrl
  headquartersCountry := row.headquartersCountry
  headquartersCity := row.headquartersCity
  region := row.region
  yearFounded := row.yearFounded
  industry := row.industry
  investmentStage := row.investmentStage
  shortDescription := row.shortDescription
  productOverview := row.productOverview

/-- The startups of a tenant, by their identities: texts in memory, numbers in the database. -/
inductive StartupRepository where
  | inMemory (bucket : AList fun _ : String => StartupRow)
  | postgres (table : AList fun _ : Nat => StartupRow)

namespace StartupRepository

/-- The order of the texts of numbers: by length first. -/
def textKey (row : Sigma fun _ : String => StartupRow) : Nat ×ₗ String :=
  toLex (row.1.length, row.1)

/-- The first startups in the order of their identities, up to the limit. -/
def list (repository : StartupRepository) (tenantRef : String) (limit : Nat) :
    List TenantStartupRecord :=
  match repository with
  | .inMemory bucket =>
      (Keyset.page textKey bucket.entries none limit).map fun row =>
        row.2.record tenantRef row.1
  | .postgres table =>
      (Keyset.page Sigma.fst table.entries none limit).map fun row =>
        row.2.record tenantRef (toString row.1)

/-- The number of startups. -/
def size : StartupRepository → Nat
  | .inMemory bucket => bucket.entries.length
  | .postgres table => table.entries.length

/-- All startups, in the order of their identities. -/
def all (repository : StartupRepository) (tenantRef : String) : List TenantStartupRecord :=
  repository.list tenantRef repository.size

end StartupRepository

variable (unicode : Unicode)

/-- The normal form of a name. -/
def normalizeName (name : String) : String :=
  unicode.casefold (Text.strip name)

/-- Why a record may be the proposed startup, where it may. -/
def matchReason (normalizedName : String) (normalizedUrl : Option String)
    (record : TenantStartupRecord) : Option String :=
  if normalizeName unicode record.companyName = normalizedName then
    some "name"
  else if normalizedUrl ≠ none ∧ record.companyUrl = normalizedUrl then
    some "website"
  else
    none

/-- The records among the first 500 that may be the proposed startup, and why. -/
def findDuplicates (nfkc : String → String) (repository : StartupRepository)
    (tenantRef companyName : String) (companyUrl : Option String) :
    Except Urls.Raised (List (TenantStartupRecord × String)) := do
  let normalizedUrl ← Urls.normalizeWebsite nfkc unicode companyUrl
  return (repository.list tenantRef 500).filterMap fun record =>
    (matchReason unicode (normalizeName unicode companyName) normalizedUrl record).map
      fun reason => (record, reason)

/-! ### What the check finds -/

namespace StartupRepository

variable (repository : StartupRepository) (tenantRef : String)

theorem list_eq_take (limit : Nat) :
  repository.list tenantRef limit = (repository.all tenantRef).take limit
  := by
  cases repository with
  | inMemory bucket =>
      rw [all, list, list, Keyset.page_eq_take_page_length, List.map_take]
      rfl
  | postgres table =>
      rw [all, list, list, Keyset.page_eq_take_page_length, List.map_take]
      rfl

/-- No record is stored twice. -/
theorem nodup_all :
  (repository.all tenantRef).Nodup
  := by
  apply List.Nodup.of_map TenantStartupRecord.recordRef
  have hcompose : Function.Injective (composeRecordRef tenantRef "startups") := fun _ _ h =>
    String.append_right_inj _ |>.mp h
  cases repository with
  | inMemory bucket =>
      rw [all, list, List.map_map]
      have hkeys : ((Keyset.page textKey bucket.entries none bucket.entries.length).map
          Sigma.fst).Nodup :=
        ((Keyset.page_length_perm textKey bucket.entries).map Sigma.fst).nodup_iff.mpr
          bucket.nodupKeys
      have hrefs := hkeys.map hcompose
      rwa [List.map_map] at hrefs
  | postgres table =>
      rw [all, list, List.map_map]
      have hkeys : ((Keyset.page Sigma.fst table.entries none table.entries.length).map
          Sigma.fst).Nodup :=
        ((Keyset.page_length_perm Sigma.fst table.entries).map Sigma.fst).nodup_iff.mpr
          table.nodupKeys
      have hrefs := hkeys.map (hcompose.comp fun _ _ h => Nat.repr_injective h)
      rwa [List.map_map] at hrefs

end StartupRepository

section Search

variable {nfkc : String → String} {unicode} (repository : StartupRepository)
  (tenantRef companyName : String) (companyUrl : Option String)

/-- The record has the name or the website of the proposed startup, up to normalization. -/
def IsDuplicate (nfkc : String → String) (unicode : Unicode) (companyName : String)
    (companyUrl : Option String) (record : TenantStartupRecord) : Prop :=
  normalizeName unicode record.companyName = normalizeName unicode companyName
    ∨ ∃ url, Urls.normalizeWebsite nfkc unicode companyUrl = .ok (some url)
      ∧ Urls.normalizeWebsite nfkc unicode record.companyUrl = .ok (some url)

/-- The check returns every stored startup with the name or the website of the proposed one, and
nothing else. -/
def FindsDuplicates (nfkc : String → String) (unicode : Unicode) : Prop :=
  ∃ found, findDuplicates unicode nfkc repository tenantRef companyName companyUrl = .ok found
    ∧ ∀ record, record ∈ found.map Prod.fst
      ↔ record ∈ repository.all tenantRef ∧ IsDuplicate nfkc unicode companyName companyUrl record

/-- The proposed website is one, or none; no duplicate is stored past the first 500 startups; and
those of them with another name have the proposed website as it is stored exactly where they have
it up to normalization. -/
structure Searchable (nfkc : String → String) (unicode : Unicode) : Prop where
  website : ∃ url, Urls.normalizeWebsite nfkc unicode companyUrl = .ok url
  later : ∀ record ∈ (repository.all tenantRef).drop 500,
    ¬ IsDuplicate nfkc unicode companyName companyUrl record
  stored : ∀ record ∈ (repository.all tenantRef).take 500,
    normalizeName unicode record.companyName ≠ normalizeName unicode companyName →
    ∀ url, Urls.normalizeWebsite nfkc unicode companyUrl = .ok (some url) →
      (record.companyUrl = some url
        ↔ Urls.normalizeWebsite nfkc unicode record.companyUrl = .ok (some url))

/-- A record is found where it is among the first 500 and has the proposed name, or the proposed
website as it is stored. -/
theorem mem_findDuplicates {url : Option String}
    (hurl : Urls.normalizeWebsite nfkc unicode companyUrl = .ok url) :
  ∃ found, findDuplicates unicode nfkc repository tenantRef companyName companyUrl = .ok found
    ∧ ∀ record, record ∈ found.map Prod.fst ↔ record ∈ (repository.all tenantRef).take 500
      ∧ (normalizeName unicode record.companyName = normalizeName unicode companyName
        ∨ url ≠ none ∧ record.companyUrl = url)
  := by
  refine ⟨_, by rw [findDuplicates, hurl]; rfl, ?_⟩
  intro record
  rw [← repository.list_eq_take, List.mem_map]
  constructor
  · rintro ⟨⟨record, reason⟩, hfound, rfl⟩
    obtain ⟨record', hrecord, hreason⟩ := List.mem_filterMap.mp hfound
    obtain ⟨reason', hmatch, hpair⟩ := Option.map_eq_some_iff.mp hreason
    obtain ⟨rfl, rfl⟩ := Prod.mk.inj hpair
    refine ⟨hrecord, ?_⟩
    rw [matchReason] at hmatch
    split_ifs at hmatch with hname hwebsite
    · exact .inl hname
    · exact .inr hwebsite
  · rintro ⟨hrecord, hmatch⟩
    have hreason : ∃ reason,
        matchReason unicode (normalizeName unicode companyName) url record = some reason := by
      rw [matchReason]
      by_cases hname : normalizeName unicode record.companyName = normalizeName unicode companyName
      · rw [if_pos hname]
        exact ⟨_, rfl⟩
      · rw [if_neg hname, if_pos (hmatch.resolve_left hname)]
        exact ⟨_, rfl⟩
    obtain ⟨reason, hreason⟩ := hreason
    refine ⟨(record, reason), List.mem_filterMap.mpr ⟨record, hrecord, ?_⟩, rfl⟩
    rw [hreason]
    rfl

variable {repository tenantRef companyName companyUrl}

theorem Searchable.of_finds
    (h : FindsDuplicates repository tenantRef companyName companyUrl nfkc unicode) :
  Searchable repository tenantRef companyName companyUrl nfkc unicode
  := by
  obtain ⟨found, hfound, hall⟩ := h
  have hwebsite : ∃ url, Urls.normalizeWebsite nfkc unicode companyUrl = .ok url := by
    rw [findDuplicates] at hfound
    cases hurl : Urls.normalizeWebsite nfkc unicode companyUrl with
    | error e =>
        rw [hurl] at hfound
        cases hfound
    | ok url => exact ⟨url, rfl⟩
  obtain ⟨url, hurl⟩ := hwebsite
  obtain ⟨found', hfound', hmem⟩ :=
    mem_findDuplicates repository tenantRef companyName companyUrl hurl
  rw [hfound] at hfound'
  obtain rfl := Except.ok.inj hfound'
  refine ⟨⟨url, hurl⟩, ?_, ?_⟩
  · intro record hrecord hduplicate
    have hreturned := (hall record).mpr ⟨List.mem_of_mem_drop hrecord, hduplicate⟩
    obtain ⟨hearly, _⟩ := (hmem record).mp hreturned
    exact List.disjoint_take_drop (repository.nodup_all tenantRef) le_rfl hearly hrecord
  · intro record hrecord hname url' hurl'
    rw [hurl] at hurl'
    obtain rfl := Except.ok.inj hurl'
    constructor
    · intro hstored
      have hreturned := (hmem record).mpr ⟨hrecord, .inr ⟨Option.some_ne_none url', hstored⟩⟩
      obtain ⟨url, hurl'', hsame⟩ := ((hall record).mp hreturned).2.resolve_left hname
      rw [hurl] at hurl''
      rwa [Option.some.inj (Except.ok.inj hurl'')]
    · intro hsame
      have hreturned := (hall record).mpr
        ⟨List.mem_of_mem_take hrecord, .inr ⟨url', hurl, hsame⟩⟩
      exact (((hmem record).mp hreturned).2.resolve_left hname).2

theorem FindsDuplicates.of_searchable
    (h : Searchable repository tenantRef companyName companyUrl nfkc unicode) :
  FindsDuplicates repository tenantRef companyName companyUrl nfkc unicode
  := by
  obtain ⟨url, hurl⟩ := h.website
  obtain ⟨found, hfound, hmem⟩ :=
    mem_findDuplicates repository tenantRef companyName companyUrl hurl
  refine ⟨found, hfound, ?_⟩
  intro record
  rw [hmem]
  constructor
  · rintro ⟨hearly, hmatch⟩
    refine ⟨List.mem_of_mem_take hearly, ?_⟩
    by_cases hname : normalizeName unicode record.companyName = normalizeName unicode companyName
    · exact .inl hname
    · obtain ⟨hne, hstored⟩ := hmatch.resolve_left hname
      obtain ⟨url', rfl⟩ := Option.ne_none_iff_exists'.mp hne
      exact .inr ⟨url', hurl, (h.stored record hearly hname url' hurl).mp hstored⟩
  · rintro ⟨hrecord, hduplicate⟩
    have hearly : record ∈ (repository.all tenantRef).take 500 := by
      rw [← List.take_append_drop 500 (repository.all tenantRef)] at hrecord
      rcases List.mem_append.mp hrecord with hearly | hlate
      · exact hearly
      · exact absurd hduplicate (h.later record hlate)
    refine ⟨hearly, ?_⟩
    by_cases hname : normalizeName unicode record.companyName = normalizeName unicode companyName
    · exact .inl hname
    · obtain ⟨url', hurl', hsame⟩ := hduplicate.resolve_left hname
      rw [hurl] at hurl'
      obtain rfl := Except.ok.inj hurl'
      exact .inr ⟨Option.some_ne_none url', (h.stored record hearly hname url' hurl).mpr hsame⟩

end Search

/-- The check finds every duplicate and nothing else exactly where the table is searchable. -/
theorem findsDuplicates_iff (nfkc : String → String) (repository : StartupRepository)
    (tenantRef companyName : String) (companyUrl : Option String) :
  FindsDuplicates repository tenantRef companyName companyUrl nfkc unicode
    ↔ Searchable repository tenantRef companyName companyUrl nfkc unicode
  := ⟨Searchable.of_finds, FindsDuplicates.of_searchable⟩

/-- A tenant with many startups of one name. -/
def crowded (count : Nat) : StartupRepository :=
  .postgres
    { entries := (List.range count).map fun n => ⟨n, { companyName := some "Acme" }⟩
      nodupKeys := by
        have hkeys := List.nodup_range (n := count)
        simpa only [List.NodupKeys, List.keys, List.map_map, Function.comp_def,
          List.map_id'] using hkeys }

theorem not_searchable_crowded (nfkc : String → String) {count : Nat} (hcount : 500 < count) :
  ¬ Searchable (crowded count) "t" "Acme" none nfkc unicode
  := by
  intro h
  have hnames : ∀ record ∈ (crowded count).all "t", record.companyName = "Acme" := by
    intro record hrecord
    obtain ⟨row, hrow, rfl⟩ := List.mem_map.mp hrecord
    have hentry := (Keyset.page_length_perm Sigma.fst _).mem_iff.mp hrow
    obtain ⟨n, _, rfl⟩ := List.mem_map.mp hentry
    rfl
  have hlength : ((crowded count).all "t").length = count := by
    simp only [StartupRepository.all, StartupRepository.list, StartupRepository.size, crowded]
    rw [List.length_map, (Keyset.page_length_perm Sigma.fst _).length_eq, List.length_map,
      List.length_range]
  have hne : ((crowded count).all "t").drop 500 ≠ [] := by
    intro hnil
    have hshort := List.drop_eq_nil_iff.mp hnil
    omega
  obtain ⟨record, hrecord⟩ := List.exists_mem_of_ne_nil _ hne
  apply h.later record hrecord
  left
  rw [hnames record (List.mem_of_mem_drop hrecord)]

/-- The last startup of 501 is a duplicate that is not found. -/
theorem findsDuplicates_crowded :
  ¬ FindsDuplicates (crowded 501) "t" "Acme" none id ⟨Text.casefold, Char.isDigit⟩
  := by
  intro h
  apply not_searchable_crowded _ _ _ (Searchable.of_finds h)
  decide

end SnackPortal2
