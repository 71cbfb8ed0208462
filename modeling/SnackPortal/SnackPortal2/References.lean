import SnackPortal.Data.Delimited
import SnackPortal.Data.Text
import SnackPortal.SnackPortal2.Types

/-!
# Record references

A record reference joins a tenant, a family and an identity with colons.  A service reads it
for its own tenant and family, by their prefix; so it reads a reference made for others
exactly when the two joins agree, as where the other tenant's name goes on with a colon and
the family (`overlaps_iff`).
-/

namespace SnackPortal2

/-- What a record reference holds. -/
def recordBody (tenantRef family identity : String) : String :=
  tenantRef ++ ":" ++ family ++ ":" ++ identity

def composeRecordRef (tenantRef family identity : String) : String :=
  "ref:" ++ tenantRef ++ ":" ++ family ++ ":" ++ identity

/-- The identity in the reference, unless it is not one of the tenant and the family. -/
def parseRecordRef (tenantRef family recordRef : String) : Option String :=
  let start := "ref:" ++ tenantRef ++ ":" ++ family ++ ":"
  if Text.startsWith recordRef start then
    let identity := Text.drop recordRef start.length
    if identity = "" then none else some identity
  else
    none

theorem composeRecordRef_eq (tenantRef family identity : String) :
  composeRecordRef tenantRef family identity
    = "ref:" ++ recordBody tenantRef family identity
  := by
  simp only [composeRecordRef, recordBody, String.append_assoc]

theorem parseRecordRef_eq_some {tenantRef family recordRef identity : String} :
  parseRecordRef tenantRef family recordRef = some identity
    ↔ identity ≠ "" ∧ recordRef = composeRecordRef tenantRef family identity
  := by
  rw [parseRecordRef, composeRecordRef]
  constructor
  · intro h
    dsimp only at h
    split_ifs at h with hstart hempty
    obtain ⟨rest, rfl⟩ := Text.startsWith_iff.mp hstart
    rw [Text.drop_append] at h hempty
    cases h
    apply And.intro hempty rfl
  · intro ⟨hempty, hrecord⟩
    have hstart := Text.startsWith_iff.mpr ⟨identity, hrecord⟩
    dsimp only
    rw [if_pos hstart, hrecord, Text.drop_append, if_neg hempty]

/-! ## The services -/

/-- The tenant of a request; a request without one is denied. -/
def tenantOf (tenantContext : Option String) : Except AppError String :=
  match tenantContext with
  | none => throw consistentTenantDenial
  | some tenantRef => if tenantRef = "" then throw consistentTenantDenial else return tenantRef

/-- The identity of a party, where one is named; a reference of another tenant or family is
refused. -/
def resolveParty (tenantRef family : String) (recordRef : Option String) :
    Except AppError (Option String) :=
  match recordRef with
  | none => return none
  | some recordRef =>
      match parseRecordRef tenantRef family recordRef with
      | none => throw invalidRequest
      | some identity => return some identity

/-- `create_deal`, up to the parties: the identities of the startup and the investor. -/
def dealParties (tenantRef startupRef : String) (investorRef : Option String) :
    Except AppError (Option String × Option String) := do
  let startup ← resolveParty tenantRef "startups" (some startupRef)
  let investor ← resolveParty tenantRef "investors" investorRef
  return (startup, investor)

/-- A party is resolved exactly where none is named, or one by its reference for the tenant and the
family. -/
theorem resolveParty_eq_ok {tenantRef family : String} {recordRef identity : Option String} :
  resolveParty tenantRef family recordRef = .ok identity
    ↔ recordRef = identity.map (composeRecordRef tenantRef family) ∧ identity ≠ some ""
  := by
  cases recordRef with
  | none => cases identity <;> simp [resolveParty, pure, Except.pure]
  | some recordRef =>
      have hresolve : resolveParty tenantRef family (some recordRef) = .ok identity
          ↔ ∃ identity', identity = some identity'
            ∧ parseRecordRef tenantRef family recordRef = some identity' := by
        rw [resolveParty]
        cases parseRecordRef tenantRef family recordRef with
        | none => simp [throw, throwThe, MonadExceptOf.throw]
        | some identity' => simp [pure, Except.pure, eq_comm]
      rw [hresolve]
      cases identity with
      | none => simp
      | some identity => simp [parseRecordRef_eq_some, and_comm]

/-- A deal is made for a startup and perhaps an investor that are named by their references for
the tenant. -/
theorem dealParties_eq_ok {tenantRef startupRef : String}
    {investorRef startup investor : Option String} :
  dealParties tenantRef startupRef investorRef = .ok (startup, investor)
    ↔ (some startupRef = startup.map (composeRecordRef tenantRef "startups") ∧ startup ≠ some "")
      ∧ investorRef = investor.map (composeRecordRef tenantRef "investors") ∧ investor ≠ some ""
  := by
  rw [← resolveParty_eq_ok, ← resolveParty_eq_ok, dealParties]
  cases resolveParty tenantRef "startups" (some startupRef) with
  | error e => simp [bind, Except.bind]
  | ok startup' =>
      cases resolveParty tenantRef "investors" investorRef with
      | error e => simp [bind, Except.bind]
      | ok investor' => simp [bind, Except.bind, pure, Except.pure]

/-- The families of the records that lineage is read for. -/
def recordFamilies : List String :=
  ["startups", "investors", "deals"]

/-- `lineage_for_record`: the rows with this target, when the reference is one of the
tenant's. -/
def lineageForRecord (table : InMemoryTenantTable) (tenantContext : Option String)
    (targetRef : String) : Except AppError (List (String × Fields)) := do
  let tenantRef ← tenantOf tenantContext
  if parseRecordRef tenantRef "startups" targetRef = none then
    if parseRecordRef tenantRef "investors" targetRef = none then
      if parseRecordRef tenantRef "deals" targetRef = none then
        throw notFound
  return (table.rows tenantRef).entries.filterMap fun ⟨identity, fields⟩ =>
    if fields.lookup "target_ref" = some (some targetRef) then
      some (composeRecordRef tenantRef "lineage" identity, fields)
    else
      none

namespace Repository

/-- The row of a family that a reference names, under its own reference. -/
def read (family : String) (table : InMemoryTenantTable) (tenantRef recordRef : String) :
    Option (String × Fields) :=
  match parseRecordRef tenantRef family recordRef with
  | none => none
  | some identity =>
      (table.get tenantRef identity).map fun fields =>
        (composeRecordRef tenantRef family identity, fields)

/-- The row of a family that a reference names, with the fields written over it. -/
def update (family : String) (table : InMemoryTenantTable) (tenantRef recordRef : String)
    (fields : Fields) : Except AppError ((String × Fields) × InMemoryTenantTable) :=
  match parseRecordRef tenantRef family recordRef with
  | none => throw notFound
  | some identity =>
      match table.update tenantRef identity fields with
      | none => throw notFound
      | some (updated, table) =>
          return ((composeRecordRef tenantRef family identity, updated), table)

end Repository

/-- `read_startup`, `read_investor` and `read_deal`, of the family. -/
def readRecord (family : String) (table : InMemoryTenantTable) (tenantContext : Option String)
    (recordRef : String) : Except AppError (String × Fields) := do
  let tenantRef ← tenantOf tenantContext
  match Repository.read family table tenantRef recordRef with
  | none => throw notFound
  | some record => return record

def readStartup := readRecord "startups"
def readInvestor := readRecord "investors"
def readDeal := readRecord "deals"

/-- `update_startup` and `update_investor`, of the family: the short description only. -/
def updateShortDescription (family : String) (table : InMemoryTenantTable)
    (tenantContext : Option String) (recordRef : String) (value : Option String) :
    Except AppError ((String × Fields) × InMemoryTenantTable) := do
  let tenantRef ← tenantOf tenantContext
  Repository.update family table tenantRef recordRef (AList.singleton "short_description" value)

def updateStartup := updateShortDescription "startups"
def updateInvestor := updateShortDescription "investors"

/-- `update_deal`: the stage and the status, where they are given. -/
def updateDeal (table : InMemoryTenantTable) (tenantContext : Option String)
    (recordRef : String) (stage status : Option String) :
    Except AppError ((String × Fields) × InMemoryTenantTable) := do
  let tenantRef ← tenantOf tenantContext
  let present : Fields := match status with
    | none => ∅
    | some status => AList.singleton "status" (some status)
  let present : Fields := match stage with
    | none => present
    | some stage => present.insert "stage" (some stage)
  Repository.update "deals" table tenantRef recordRef present

/-! ## Round trips -/

/-- The reference is read as its own identity for its tenant and family, and not at all for
others. -/
def RoundTrip (tenantRef family tenantRef' family' identity : String) : Prop :=
  parseRecordRef tenantRef family (composeRecordRef tenantRef' family' identity)
    = if tenantRef = tenantRef' ∧ family = family' then some identity else none

/-- No operation of the family accepts the reference for the tenant. -/
structure RefusedBy (tenantRef family recordRef : String) : Prop where
  party : resolveParty tenantRef family (some recordRef) = throw invalidRequest
  read : ∀ table record, readRecord family table (some tenantRef) recordRef ≠ .ok record
  update : ∀ table value updated,
    updateShortDescription family table (some tenantRef) recordRef value ≠ .ok updated
  deal : family = "deals" → ∀ table stage status updated,
    updateDeal table (some tenantRef) recordRef stage status ≠ .ok updated

/-- The reference makes the round trip, and is refused to other tenants and families. -/
structure Exact (tenantRef family tenantRef' family' identity : String) : Prop where
  roundTrip : RoundTrip tenantRef family tenantRef' family' identity
  refused : ¬ (tenantRef = tenantRef' ∧ family = family') →
    RefusedBy tenantRef family (composeRecordRef tenantRef' family' identity)

/-- The lineage of a reference of another tenant, or of no family, is not read. -/
def LineageExact (tenantRef tenantRef' family' identity : String) : Prop :=
  ¬ (tenantRef = tenantRef' ∧ family' ∈ recordFamilies) → ∀ table rows,
    lineageForRecord table (some tenantRef) (composeRecordRef tenantRef' family' identity)
      ≠ .ok rows

/-- What the two references hold is not the same for any identity: for one tenant and family,
the identity is not empty. -/
def Separate (tenantRef family tenantRef' family' identity : String) : Prop :=
  if tenantRef = tenantRef' ∧ family = family' then
    identity ≠ ""
  else
    ∀ identity', identity' ≠ "" →
      recordBody tenantRef' family' identity ≠ recordBody tenantRef family identity'

theorem composeRecordRef_inj {tenantRef family tenantRef' family' identity identity' : String} :
  composeRecordRef tenantRef' family' identity = composeRecordRef tenantRef family identity'
    ↔ recordBody tenantRef' family' identity = recordBody tenantRef family identity'
  := by
  rw [composeRecordRef_eq, composeRecordRef_eq, String.append_right_inj]

theorem roundTrip_iff {tenantRef family tenantRef' family' identity : String} :
  RoundTrip tenantRef family tenantRef' family' identity
    ↔ Separate tenantRef family tenantRef' family' identity
  := by
  rw [RoundTrip, Separate]
  split_ifs with hsame
  · obtain ⟨rfl, rfl⟩ := hsame
    rw [parseRecordRef_eq_some]
    apply and_iff_left rfl
  · rw [Option.eq_none_iff_forall_ne_some]
    apply forall_congr'
    intro identity'
    rw [ne_eq, parseRecordRef_eq_some, composeRecordRef_inj]
    apply not_and

/-- What a request of a tenant gives is what it gives past the check of the tenant. -/
theorem tenantOf_bind_eq_ok {α : Type} {tenantRef : String} {next : String → Except AppError α}
    {result : α} :
  (tenantOf (some tenantRef) >>= next) = .ok result
    ↔ tenantRef ≠ "" ∧ next tenantRef = .ok result
  := by
  rcases eq_or_ne tenantRef "" with rfl | hne
  · constructor
    · intro h
      cases h
    · intro ⟨h, _⟩
      exact absurd rfl h
  · rw [tenantOf, if_neg hne]
    exact (and_iff_right hne).symm

/-- A reference that is not read is refused. -/
theorem refusedBy_of_parse {tenantRef family recordRef : String}
    (h : parseRecordRef tenantRef family recordRef = none) :
  RefusedBy tenantRef family recordRef
  := by
  have hupdate : ∀ table fields updated,
      Repository.update family table tenantRef recordRef fields ≠ .ok updated := by
    intro table fields updated hupdated
    rw [Repository.update, h] at hupdated
    cases hupdated
  constructor
  · rw [resolveParty, h]
  · intro table record hread
    obtain ⟨-, hread⟩ := tenantOf_bind_eq_ok.mp hread
    rw [Repository.read, h] at hread
    cases hread
  · intro table value updated hupdated
    obtain ⟨-, hupdated⟩ := tenantOf_bind_eq_ok.mp hupdated
    apply hupdate _ _ _ hupdated
  · rintro rfl table stage status updated hupdated
    obtain ⟨-, hupdated⟩ := tenantOf_bind_eq_ok.mp hupdated
    apply hupdate _ _ _ hupdated

/-- Lineage is read for a reference exactly when the reference is one of the tenant's. -/
theorem lineageForRecord_ok_iff {table : InMemoryTenantTable} {tenantRef targetRef : String} :
  (∃ rows, lineageForRecord table (some tenantRef) targetRef = .ok rows)
    ↔ tenantRef ≠ "" ∧ ∃ family ∈ recordFamilies,
      parseRecordRef tenantRef family targetRef ≠ none
  := by
  have hfamilies : (∃ family ∈ recordFamilies, parseRecordRef tenantRef family targetRef ≠ none)
      ↔ ¬ (parseRecordRef tenantRef "startups" targetRef = none
        ∧ parseRecordRef tenantRef "investors" targetRef = none
        ∧ parseRecordRef tenantRef "deals" targetRef = none) := by
    rw [recordFamilies, not_and_or, not_and_or]
    simp only [List.mem_cons, List.not_mem_nil, or_false, exists_eq_or_imp, exists_eq_left, ne_eq]
  rw [hfamilies]
  constructor
  · intro ⟨rows, h⟩
    obtain ⟨hne, h⟩ := tenantOf_bind_eq_ok.mp h
    apply And.intro hne
    intro ⟨hstartups, hinvestors, hdeals⟩
    rw [if_pos hstartups, if_pos hinvestors, if_pos hdeals] at h
    cases h
  · intro ⟨hne, h⟩
    refine Exists.imp (fun rows h => tenantOf_bind_eq_ok.mpr ⟨hne, h⟩) ?_
    by_cases hstartups : parseRecordRef tenantRef "startups" targetRef = none
    · rw [if_pos hstartups]
      by_cases hinvestors : parseRecordRef tenantRef "investors" targetRef = none
      · rw [if_pos hinvestors]
        have hdeals : parseRecordRef tenantRef "deals" targetRef ≠ none :=
          fun hdeals => h ⟨hstartups, hinvestors, hdeals⟩
        rw [if_neg hdeals]
        exact ⟨_, rfl⟩
      · rw [if_neg hinvestors]
        exact ⟨_, rfl⟩
    · rw [if_neg hstartups]
      exact ⟨_, rfl⟩

theorem exact_iff {tenantRef family tenantRef' family' identity : String} :
  Exact tenantRef family tenantRef' family' identity
    ↔ Separate tenantRef family tenantRef' family' identity
  := by
  rw [← roundTrip_iff]
  constructor
  · intro h
    apply h.roundTrip
  · intro h
    apply Exact.mk h
    intro hother
    rw [RoundTrip, if_neg hother] at h
    apply refusedBy_of_parse h

theorem lineageExact_iff {tenantRef tenantRef' family' identity : String} :
  LineageExact tenantRef tenantRef' family' identity
    ↔ tenantRef = "" ∨ (tenantRef = tenantRef' ∧ family' ∈ recordFamilies)
      ∨ ∀ family ∈ recordFamilies, Separate tenantRef family tenantRef' family' identity
  := by
  by_cases hown : tenantRef = tenantRef' ∧ family' ∈ recordFamilies
  · constructor
    · intro _
      apply Or.inr (Or.inl hown)
    · intro _ hother
      exact absurd hown hother
  · -- Of another tenant or family: the reference is read exactly for an overlapping family.
    have hread : LineageExact tenantRef tenantRef' family' identity
        ↔ ¬ (tenantRef ≠ "" ∧ ∃ family ∈ recordFamilies,
          parseRecordRef tenantRef family (composeRecordRef tenantRef' family' identity)
            ≠ none) := by
      rw [LineageExact]
      constructor
      · intro h haccepted
        obtain ⟨rows, hrows⟩ := lineageForRecord_ok_iff.mpr haccepted
        let table : InMemoryTenantTable := ⟨fun _ => ∅, fun _ => 0⟩
        apply h hown table rows hrows
      · intro h _ table rows hrows
        apply h (lineageForRecord_ok_iff.mp ⟨rows, hrows⟩)
    have hseparate : ∀ family ∈ recordFamilies,
        (parseRecordRef tenantRef family (composeRecordRef tenantRef' family' identity) = none
          ↔ Separate tenantRef family tenantRef' family' identity) := by
      intro family hfamily
      have hother : ¬ (tenantRef = tenantRef' ∧ family = family') := by
        rintro ⟨htenant, rfl⟩
        apply hown ⟨htenant, hfamily⟩
      rw [← roundTrip_iff, RoundTrip, if_neg hother]
    rw [hread, not_and_or, not_not, or_iff_right hown]
    apply or_congr_right
    constructor
    · intro h family hfamily
      apply (hseparate family hfamily).mp
      by_contra hparse
      apply h ⟨family, hfamily, hparse⟩
    · intro h ⟨family, hfamily, hparse⟩
      apply hparse ((hseparate family hfamily).mpr (h family hfamily))

/-- A reference makes the round trip, and is refused to the operations of other tenants and
families, exactly when what it holds is separate. -/
theorem references_exact (tenantRef family tenantRef' family' identity : String) :
  (Exact tenantRef family tenantRef' family' identity
      ↔ Separate tenantRef family tenantRef' family' identity)
    ∧ (LineageExact tenantRef tenantRef' family' identity
      ↔ tenantRef = "" ∨ (tenantRef = tenantRef' ∧ family' ∈ recordFamilies)
        ∨ ∀ family ∈ recordFamilies, Separate tenantRef family tenantRef' family' identity)
  := by
  constructor
  · apply exact_iff
  · apply lineageExact_iff

/-- The startup of a tenant whose name goes on with the family is read by the other tenant:
as the party of a deal, and for its lineage.  An empty identity is not read back. -/
theorem reference_replayed :
  ¬ Exact "acme" "startups" "acme:startups" "startups" "1"
    ∧ resolveParty "acme" "startups"
        (some (composeRecordRef "acme:startups" "startups" "1")) = .ok (some "startups:1")
    ∧ ¬ LineageExact "acme" "acme:startups" "startups" "1"
    ∧ ¬ Exact "acme" "startups" "acme" "startups" ""
  := by
  have hparse : parseRecordRef "acme" "startups"
      (composeRecordRef "acme:startups" "startups" "1") = some "startups:1" := by
    decide +kernel
  constructor
  · intro h
    have h := h.roundTrip
    rw [RoundTrip, hparse] at h
    revert h
    decide
  constructor
  · rw [resolveParty, hparse]
    rfl
  constructor
  · intro h
    have hother : ¬ ("acme" = "acme:startups" ∧ "startups" ∈ recordFamilies) := by decide
    let table : InMemoryTenantTable := ⟨fun _ => ∅, fun _ => 0⟩
    have hread : ∃ rows, lineageForRecord table (some "acme")
        (composeRecordRef "acme:startups" "startups" "1") = .ok rows := by
      apply lineageForRecord_ok_iff.mpr
      use by decide, "startups", by decide
      rw [hparse]
      intro h
      cases h
    obtain ⟨rows, hrows⟩ := hread
    apply h hother table rows hrows
  · intro h
    have h := h.roundTrip
    have hempty : parseRecordRef "acme" "startups" (composeRecordRef "acme" "startups" "")
        = none := by decide +kernel
    rw [RoundTrip, hempty] at h
    revert h
    decide

/-! ## Overlaps -/

section Overlap

open Delimited (Clean not_clean cut_cases)

theorem recordBody_eq (tenantRef family identity : String) :
  recordBody tenantRef family identity
    = tenantRef ++ String.singleton ':' ++ (family ++ String.singleton ':' ++ identity)
  := by
  simp only [recordBody, String.append_assoc]
  rfl

/-- Without colons in the families and the identity of the one side, references that hold the
same are those of one record, or the name of the one tenant goes on with the other's family. -/
theorem overlap_of_eq {tenantRef family tenantRef' family' identity identity' : String}
    (hfamily : Clean ':' family) (hfamily' : Clean ':' family')
    (hidentity : Clean ':' identity)
    (h : recordBody tenantRef' family' identity = recordBody tenantRef family identity') :
  (tenantRef = tenantRef' ∧ family = family' ∧ identity = identity')
    ∨ ∃ rest, tenantRef' ++ ":" = tenantRef ++ ":" ++ family ++ ":" ++ rest
  := by
  rw [recordBody_eq, recordBody_eq] at h
  rcases cut_cases h with ⟨rfl, htail⟩ | ⟨m, rfl, htail⟩ | ⟨m, rfl, htail⟩
  · left
    rcases cut_cases htail with ⟨rfl, rfl⟩ | ⟨m, rfl, -⟩ | ⟨m, rfl, -⟩
    · simp
    · exact absurd hfamily not_clean
    · exact absurd hfamily' not_clean
  · -- The other tenant's name goes on: the one identity would hold a colon.
    rcases cut_cases htail with ⟨-, rfl⟩ | ⟨m', -, rfl⟩ | ⟨m', rfl, -⟩
    · exact absurd hidentity not_clean
    · exact absurd hidentity not_clean
    · exact absurd hfamily' not_clean
  · right
    rcases cut_cases htail with ⟨rfl, -⟩ | ⟨m', rfl, -⟩ | ⟨m', rfl, -⟩
    · use ""
      rw [String.append_empty]
      rfl
    · use m' ++ ":"
      simp only [String.append_assoc]
      rfl
    · exact absurd hfamily not_clean

/-- Without colons in the families and in the identity, the reference of another tenant or
family is not separate exactly when the name of its tenant goes on with the family. -/
theorem separate_iff_of_clean {tenantRef family tenantRef' family' identity : String}
    (hother : ¬ (tenantRef = tenantRef' ∧ family = family'))
    (hfamily : Clean ':' family) (hfamily' : Clean ':' family')
    (hidentity : Clean ':' identity) :
  Separate tenantRef family tenantRef' family' identity
    ↔ Text.startsWith (tenantRef' ++ ":") (tenantRef ++ ":" ++ family ++ ":") = false
  := by
  rw [Separate, if_neg hother, ← Bool.not_eq_true, Text.startsWith_iff]
  constructor
  · intro h ⟨rest, hrest⟩
    have hbody : recordBody tenantRef' family' identity
        = recordBody tenantRef family (rest ++ family' ++ ":" ++ identity) := by
      rw [recordBody, hrest]
      simp only [recordBody, String.append_assoc]
    apply h _ _ hbody
    intro hempty
    have hlength := congrArg String.length hempty
    simp only [String.length_append] at hlength
    have hcolon : (":" : String).length = 1 := rfl
    have hzero : ("" : String).length = 0 := rfl
    omega
  · intro h identity' _ hbody
    rcases overlap_of_eq hfamily hfamily' hidentity hbody with ⟨htenant, hsame, -⟩ | hrest
    · apply hother ⟨htenant, hsame⟩
    · apply h hrest

/-- The identities of every row hold no colon, as the table gives them. -/
def InMemoryTenantTable.Numbered (table : InMemoryTenantTable) : Prop :=
  ∀ tenantRef identity, identity ∈ table.rows tenantRef → Clean ':' identity

theorem InMemoryTenantTable.Numbered.insert {table : InMemoryTenantTable}
    (h : table.Numbered) (tenantRef : String) (fields : Fields) :
  (table.insert tenantRef fields).2.Numbered
  := by
  intro tenant identity hmem
  rw [InMemoryTenantTable.insert] at hmem
  dsimp only at hmem
  rcases eq_or_ne tenant tenantRef with rfl | hne
  · rw [Function.update_self, AList.mem_insert] at hmem
    rcases hmem with rfl | hmem
    · apply Delimited.clean_repr (by decide)
    · apply h _ _ hmem
  · rw [Function.update_of_ne hne] at hmem
    apply h _ _ hmem

theorem InMemoryTenantTable.Numbered.update {table table' : InMemoryTenantTable}
    {tenantRef identity : String} {fields stored : Fields} (h : table.Numbered)
    (hupdate : table.update tenantRef identity fields = some (stored, table')) :
  table'.Numbered
  := by
  rw [InMemoryTenantTable.update, Option.map_eq_some_iff] at hupdate
  obtain ⟨row, hrow, heq⟩ := hupdate
  cases heq
  intro tenant identity' hmem
  dsimp only at hmem
  rcases eq_or_ne tenant tenantRef with rfl | hne
  · rw [Function.update_self, AList.mem_insert] at hmem
    rcases hmem with rfl | hmem
    · apply h tenant
      apply AList.lookup_isSome.mp
      rw [show (table.rows tenant).lookup identity' = some row from hrow]
      rfl
    · apply h _ _ hmem
  · rw [Function.update_of_ne hne] at hmem
    apply h _ _ hmem

/-- A reference minted for another tenant or family reaches no row even where it overlaps: it
is read as an identity with a colon. -/
theorem read_minted {table : InMemoryTenantTable} (h : table.Numbered)
    {tenantRef family tenantRef' family' identity : String}
    (hother : ¬ (tenantRef = tenantRef' ∧ family = family'))
    (hfamily : Clean ':' family) (hfamily' : Clean ':' family')
    (hidentity : Clean ':' identity) :
  Repository.read family table tenantRef (composeRecordRef tenantRef' family' identity) = none
  := by
  rw [Repository.read]
  cases hparse : parseRecordRef tenantRef family
      (composeRecordRef tenantRef' family' identity) with
  | none => rfl
  | some identity' =>
      obtain ⟨-, hbody⟩ := parseRecordRef_eq_some.mp hparse
      rw [composeRecordRef_inj] at hbody
      dsimp only
      rw [Option.map_eq_none_iff, InMemoryTenantTable.get, AList.lookup_eq_none]
      intro hmem
      have hclean := h _ _ hmem
      rcases overlap_of_eq hfamily hfamily' hidentity hbody with ⟨htenant, hsame, -⟩ | hrest
      · apply hother ⟨htenant, hsame⟩
      -- Neither tenant's name goes on with the other's family, as none is the longer one.
      · rcases overlap_of_eq hfamily' hfamily hclean hbody.symm with
          ⟨htenant, hsame, -⟩ | hrest'
        · apply hother ⟨htenant.symm, hsame.symm⟩
        · obtain ⟨rest, hrest⟩ := hrest
          obtain ⟨rest', hrest'⟩ := hrest'
          have hlength := congrArg String.length hrest
          have hlength' := congrArg String.length hrest'
          have hcolon : (":" : String).length = 1 := rfl
          simp only [String.length_append] at hlength hlength'
          omega

end Overlap

end SnackPortal2
