import Mathlib.Data.List.Dedup
import Mathlib.Data.List.Nodup
import Mathlib.Data.List.Sort
import SnackPortal.ControlPlane.Recovery
import SnackPortal.ControlPlane.Ingest
import SnackPortal.Data.Delimited
import SnackPortal.Data.Text

/-!
# The content census of a tenant database

`inspectDatabase` lists the relations of a database that may hold data, counts the rows of the
ordinary tables among them, and asks for large objects, seeded agents and schema versions.
`classifyContent` decides from the answer whether the database may be dropped.

The catalog is modelled as far as the census reads it: every relation has a kind, the rows it
stores itself, and the rows of the tables that inherit from it, which a query of the relation
reads as well.
-/

namespace ControlPlane.PostgresRecoveryInspection

open Ingest

/-! ### A database as the census finds it -/

/-- `pg_class.relkind`. -/
inductive Relkind where
  | ordinaryTable
  | materializedView
  | foreignTable
  | view
  | partitionedTable
  | sequence
  | index
  | partitionedIndex
  | compositeType
  | toastTable
deriving DecidableEq, Repr, Inhabited

/-- Relations of this kind are in the answer of `USER_TABLES_QUERY`. -/
def Relkind.listed : Relkind → Bool
  | .ordinaryTable | .materializedView | .foreignTable => true
  | _ => false

/-- Relations of this kind keep rows in the database.  The rows of a foreign table are kept
elsewhere, a view and a partitioned table have none of their own, and a toast table holds pieces
of the rows of another relation. -/
def Relkind.stores : Relkind → Bool
  | .ordinaryTable | .materializedView => true
  | _ => false

theorem Relkind.cases_of_stores {kind : Relkind} (h : kind.stores = true) :
  kind = .ordinaryTable ∨ kind = .materializedView
  := by
  cases kind <;> simp_all [stores]

/-- No relation that stores rows is left out of the answer. -/
theorem Relkind.listed_of_stores {kind : Relkind} (h : kind.stores = true) :
  kind.listed = true
  := by
  rcases cases_of_stores h with rfl | rfl
  · rfl
  · rfl

/-- The two columns the census looks at.  A row whose relation lacks the column has `none`, as
has a row with NULL in it. -/
structure CensusRow where
  agentKind : Option String
  version : Option String
deriving DecidableEq, Repr, Inhabited

/-- `str` of the version column: NULL is rendered as well. -/
def CensusRow.versionText (row : CensusRow) : String :=
  row.version.getD "None"

structure Relation where
  schema : String
  name : String
  kind : Relkind
  rows : List CensusRow
  inherited : List CensusRow
deriving DecidableEq, Repr, Inhabited

/-- The name under which a relation is counted. -/
def Relation.qualified (r : Relation) : String :=
  r.schema ++ "." ++ r.name

/-- The rows a query of the relation reads. -/
def Relation.read (r : Relation) : List CensusRow :=
  r.rows ++ r.inherited

/-- A tenant database.  A schema holds at most one relation of a name. -/
structure Database where
  name : String
  oid : Option Nat
  systemIdentifier : Option String
  relations : List Relation
  largeObjects : Nat
  unique : (relations.map fun r => (r.schema, r.name)).Nodup

/-- The schemas of the system: no user relation is in one of them. -/
def systemSchema (schema : String) : Bool :=
  schema == "pg_catalog" || schema == "information_schema" || "pg_".toList.isPrefixOf schema.toList

/-- The statements of one inspection. -/
inductive CensusQuery where
  | connect
  | systemIdentifier
  | databaseIdentity
  | userTables
  | count (schema table : String)
  | largeObjectProbe
  | agentsCensus
  | schemaVersions
deriving DecidableEq, Repr

/-! ### The census -/

/-- `LARGE_OBJECT_CENSUS_ENTRY`. -/
def largeObjectCensusEntry := "pg_catalog.pg_largeobject"

/-- `_SAFE_CENSUS_IDENTIFIER`. -/
def safeCensusIdentifier (name : String) : Bool :=
  match name.toList with
  | [] => false
  | c :: rest =>
      (('a' ≤ c && c ≤ 'z') || c == '_')
        && rest.all fun c => ('a' ≤ c && c ≤ 'z') || ('0' ≤ c && c ≤ '9') || c == '_'

/-- The order of the answer of `USER_TABLES_QUERY`. -/
def Relation.Precedes (r s : Relation) : Prop :=
  r.schema < s.schema ∨ r.schema = s.schema ∧ r.name ≤ s.name

instance : DecidableRel Relation.Precedes := fun r s =>
  inferInstanceAs (Decidable (r.schema < s.schema ∨ r.schema = s.schema ∧ r.name ≤ s.name))

/-- `USER_TABLES_QUERY`. -/
def Database.userRelations (database : Database) : List Relation :=
  (database.relations.filter fun r => r.kind.listed && !systemSchema r.schema).insertionSort
    Relation.Precedes

/-- The relation a query names. -/
def Database.find (database : Database) (schema name : String) : Option Relation :=
  database.relations.find? fun r => r.schema == schema && r.name == name

/-- The row count of a relation, -1 where the census does not count. -/
def censusCount (fails : CensusQuery → Bool) (r : Relation) : Option Int :=
  if r.kind = .ordinaryTable ∧ safeCensusIdentifier r.schema ∧ safeCensusIdentifier r.name then
    if fails (.count r.schema r.name) then
      none
    else
      some r.read.length
  else
    some (-1)

/-- Assign to a key of the dictionary of counts. -/
def assignCount (name : String) (count : Int) : List (String × Int) → List (String × Int)
  | [] => [(name, count)]
  | (other, n) :: tables =>
      if other = name then
        (name, count) :: tables
      else
        (other, n) :: assignCount name count tables

/-- The loop over the listed relations. -/
def tally (fails : CensusQuery → Bool) :
    List Relation → List (String × Int) → Option (List (String × Int))
  | [], tables => some tables
  | r :: relations, tables => do
      let count ← censusCount fails r
      tally fails relations (assignCount r.qualified count tables)

/-- The counts with the entry for the large objects, of which there is one only if there are
large objects. -/
def withLargeObjects (largeObjects : Nat) (tables : List (String × Int)) :
    List (String × Int) :=
  if largeObjects = 0 then
    tables
  else
    assignCount largeObjectCensusEntry largeObjects tables

/-- `AGENTS_CENSUS_QUERY`: all agents and the seeded ones among them. -/
def agentsCensus (fails : CensusQuery → Bool) (database : Database)
    (userTables : List (String × Int)) : Option (Int × Int) :=
  if seedTable ∈ userTables.map Prod.fst then do
    guard (fails .agentsCensus = false)
    let r ← database.find "public" "agents"
    some (r.read.length, r.read.countP fun row => row.agentKind == some "system_primary")
  else
    some (0, 0)

/-- `SCHEMA_VERSIONS_QUERY`.  Nothing reads the order of its answer. -/
def schemaVersions (fails : CensusQuery → Bool) (database : Database)
    (userTables : List (String × Int)) : Option (List String) :=
  if versionTable ∈ userTables.map Prod.fst then do
    guard (fails .schemaVersions = false)
    let r ← database.find "public" "schema_version"
    some ((r.read.map CensusRow.version).dedup.map fun version => version.getD "None")
  else
    some []

/-- `PostgresRecoveryInspection.inspect_database`, the connection made to `database`: every
statement that raises ends the inspection without an answer. -/
def inspectDatabase (fails : CensusQuery → Bool) (database : Database)
    (target : String) : Option DatabaseInspection := do
  guard (fails .connect = false)
  guard (fails .systemIdentifier = false)
  guard (fails .databaseIdentity = false)
  guard (database.name = target)
  guard (fails .userTables = false)
  let counted ← tally fails database.userRelations []
  guard (fails .largeObjectProbe = false)
  let userTables := withLargeObjects database.largeObjects counted
  let agents ← agentsCensus fails database userTables
  let versions ← schemaVersions fails database userTables
  some
    { databaseName := target
      systemIdentifier := database.systemIdentifier.getD ""
      databaseIdentity :=
        database.name ++ ":" ++ (database.oid.elim "" fun oid => Nat.repr oid)
      userTables := userTables
      agentsTotal := agents.1
      agentsSystemPrimary := agents.2
      schemaVersions := versions }

/-! ### The relations that are listed -/

section Listing

variable {fails : CensusQuery → Bool} {database : Database} {r r' : Relation}

theorem mem_userRelations :
  r ∈ database.userRelations
    ↔ r ∈ database.relations ∧ r.kind.listed = true ∧ systemSchema r.schema = false
  := by
  simp [Database.userRelations]

theorem Database.eq_of_names (hr : r ∈ database.relations) (hr' : r' ∈ database.relations)
    (hschema : r.schema = r'.schema) (hname : r.name = r'.name) :
  r = r'
  := by
  apply List.inj_on_of_nodup_map database.unique hr hr'
  rw [hschema, hname]

/-- A query finds the relation of the database that it names. -/
theorem Database.find_eq (hr : r ∈ database.relations) :
  database.find r.schema r.name = some r
  := by
  cases hfind : database.find r.schema r.name with
  | none =>
      have hnone := List.find?_eq_none.mp hfind r hr
      simp at hnone
  | some found =>
      have hmem : found ∈ database.relations := List.mem_of_find?_eq_some hfind
      have hnames := List.find?_some hfind
      simp only [Bool.and_eq_true, beq_iff_eq] at hnames
      congr 1
      apply database.eq_of_names hmem hr hnames.1 hnames.2

/-- The name of a bootstrap table is that of a safe schema and a safe relation without a dot. -/
theorem bootstrapTableSet_parts :
  ∀ name ∈ bootstrapTableSet,
    name = Text.before '.' name ++ "." ++ Text.after '.' name
      ∧ Delimited.Clean '.' (Text.before '.' name) ∧ Delimited.Clean '.' (Text.after '.' name)
      ∧ safeCensusIdentifier (Text.before '.' name) = true
      ∧ safeCensusIdentifier (Text.after '.' name) = true
  := by
  decide +kernel

/-- Only one pair of a schema and a relation is counted under a name with one dot. -/
theorem Relation.names_of_qualified (schema name : String)
    (h : r.qualified = schema ++ "." ++ name) (hschema : Delimited.Clean '.' schema)
    (hname : Delimited.Clean '.' name) :
  r.schema = schema ∧ r.name = name
  := by
  have hjoin : Delimited.join '.' [schema, name] = Delimited.join '.' [r.schema, r.name] :=
    h.symm
  have hclean : ∀ text ∈ [schema, name], Delimited.Clean '.' text := by
    simp [hschema, hname]
  have hlength : [schema, name].length = [r.schema, r.name].length := rfl
  have hlist := Delimited.join_inj hlength hclean hjoin
  simp only [List.cons.injEq, and_true] at hlist
  exact ⟨hlist.1.symm, hlist.2.symm⟩

/-- Two relations counted under one name of a bootstrap table are the same. -/
theorem Database.eq_of_qualified (hr : r ∈ database.relations) (hr' : r' ∈ database.relations)
    (hqualified : r.qualified = r'.qualified) (hmem : r'.qualified ∈ bootstrapTableSet) :
  r = r'
  := by
  obtain ⟨hparts, hschema, hname, -⟩ := bootstrapTableSet_parts _ hmem
  obtain ⟨hs, hn⟩ := Relation.names_of_qualified _ _ (hqualified.trans hparts) hschema hname
  obtain ⟨hs', hn'⟩ := Relation.names_of_qualified _ _ hparts hschema hname
  apply database.eq_of_names hr hr' (hs.trans hs'.symm) (hn.trans hn'.symm)

/-- An ordinary table with the name of a bootstrap table is counted, any other relation with
such a name is not. -/
theorem censusCount_bootstrap {count : Int} (hmem : r.qualified ∈ bootstrapTableSet)
    (h : censusCount fails r = some count) :
  r.kind = .ordinaryTable ∧ count = r.read.length ∨ r.kind ≠ .ordinaryTable ∧ count = -1
  := by
  obtain ⟨hparts, hschema, hname, hsafe, hsafe'⟩ := bootstrapTableSet_parts _ hmem
  obtain ⟨hs, hn⟩ := Relation.names_of_qualified _ _ hparts hschema hname
  rw [← hs] at hsafe
  rw [← hn] at hsafe'
  rw [censusCount] at h
  by_cases hkind : r.kind = .ordinaryTable
  · left
    rw [if_pos ⟨hkind, hsafe, hsafe'⟩] at h
    split at h
    · cases h
    · exact ⟨hkind, (Option.some.inj h).symm⟩
  · right
    rw [if_neg fun hall => hkind hall.1] at h
    exact ⟨hkind, (Option.some.inj h).symm⟩

end Listing

/-! ### The counts -/

section Counts

variable {fails : CensusQuery → Bool} {tables tables' : List (String × Int)}

theorem mem_assignCount {name : String} {count : Int} {entry : String × Int}
    (h : entry ∈ assignCount name count tables) :
  entry = (name, count) ∨ entry ∈ tables
  := by
  induction tables with
  | nil => simpa [assignCount] using h
  | cons head tables ih =>
      rw [assignCount] at h
      split at h
      · rcases List.mem_cons.mp h with rfl | h
        · left
          rfl
        · right
          apply List.mem_cons_of_mem _ h
      · rcases List.mem_cons.mp h with rfl | h
        · right
          apply List.mem_cons_self
        · rcases ih h with heq | h
          · left
            apply heq
          · right
            apply List.mem_cons_of_mem _ h

theorem keys_assignCount {name key : String} {count : Int} :
  key ∈ (assignCount name count tables).map Prod.fst ↔ key = name ∨ key ∈ tables.map Prod.fst
  := by
  induction tables with
  | nil => simp [assignCount]
  | cons head tables ih =>
      rw [assignCount]
      split
      · rename_i heq
        simp [heq]
      · rw [List.map_cons, List.mem_cons, ih, List.map_cons, List.mem_cons]
        tauto

/-- Every count comes from a relation, or was there before. -/
theorem mem_of_tally {relations : List Relation} (h : tally fails relations tables = some tables')
    {entry : String × Int} (hentry : entry ∈ tables') :
  entry ∈ tables
    ∨ ∃ r ∈ relations, entry.1 = r.qualified ∧ censusCount fails r = some entry.2
  := by
  induction relations generalizing tables with
  | nil =>
      obtain rfl := Option.some.inj h
      left
      apply hentry
  | cons r relations ih =>
      obtain ⟨count, hcount, h⟩ := Option.bind_eq_some_iff.mp h
      rcases ih h with hmem | ⟨r', hr', hentry⟩
      · rcases mem_assignCount hmem with rfl | hmem
        · right
          exact ⟨r, List.mem_cons_self, rfl, hcount⟩
        · left
          apply hmem
      · right
        exact ⟨r', List.mem_cons_of_mem _ hr', hentry⟩

/-- Every relation has an entry under its name. -/
theorem keys_of_tally {relations : List Relation}
    (h : tally fails relations tables = some tables') {key : String} :
  key ∈ tables'.map Prod.fst
    ↔ key ∈ tables.map Prod.fst ∨ ∃ r ∈ relations, r.qualified = key
  := by
  induction relations generalizing tables with
  | nil =>
      obtain rfl := Option.some.inj h
      simp
  | cons r relations ih =>
      obtain ⟨count, hcount, h⟩ := Option.bind_eq_some_iff.mp h
      rw [ih h, keys_assignCount, List.exists_mem_cons_iff]
      tauto

end Counts

/-! ### What the verdict says -/

/-- The content of a listed relation passes its rule.  The sentinel markers are not restricted,
and neither is the kind of the relation that has their name. -/
def Relation.Accepted (supported : List String) (r : Relation) : Prop :=
  if r.qualified = sentinelTable then
    True
  else if r.qualified = seedTable then
    r.kind = .ordinaryTable ∧ ∃ row, r.read = [row] ∧ row.agentKind = some "system_primary"
  else if r.qualified = versionTable then
    r.kind = .ordinaryTable ∧ r.read ≠ [] ∧ ∀ row ∈ r.read, row.versionText ∈ supported
  else
    r.kind = .ordinaryTable ∧ r.read = []

/-- The database holds only relations of the bootstrap set whose content passes. -/
def Database.Accepted (supported : List String) (database : Database) : Prop :=
  database.largeObjects = 0
    ∧ ∀ r ∈ database.userRelations, r.qualified ∈ bootstrapTableSet ∧ r.Accepted supported

theorem classifyContent_ne_nonEmpty_iff {inspection : DatabaseInspection}
    {supported : List String} :
  classifyContent inspection supported ≠ .nonEmpty
    ↔ ∀ t ∈ inspection.userTables,
        t.1 ∈ bootstrapTableSet ∧ breaksCensus inspection supported t.1 t.2 = false
  := by
  rw [classifyContent]
  by_cases hempty : inspection.userTables = []
  · simp [hempty]
  · rw [if_neg (by simpa using hempty)]
    by_cases houtside : ∀ t ∈ inspection.userTables, t.1 ∈ bootstrapTableSet
    · rw [if_neg (by simpa using houtside)]
      by_cases hbreaks : ∀ t ∈ inspection.userTables,
          breaksCensus inspection supported t.1 t.2 = false
      · rw [if_neg (by simpa using hbreaks)]
        simp only [ne_eq, reduceCtorEq, not_false_eq_true, true_iff]
        intro t ht
        exact ⟨houtside t ht, hbreaks t ht⟩
      · rw [if_pos (by simpa using hbreaks)]
        simp only [ne_eq, not_true_eq_false, false_iff]
        intro hall
        apply hbreaks fun t ht => (hall t ht).2
    · rw [if_pos (by simpa using houtside)]
      simp only [ne_eq, not_true_eq_false, false_iff]
      intro hall
      apply houtside fun t ht => (hall t ht).1

section Verdict

variable {fails : CensusQuery → Bool} {database : Database} {target : String}
  {inspection : DatabaseInspection} {supported : List String} {r : Relation}

/-- The parts of an inspection that has an answer. -/
theorem inspectDatabase_eq_some (h : inspectDatabase fails database target = some inspection) :
  ∃ counted, tally fails database.userRelations [] = some counted
    ∧ inspection.userTables = withLargeObjects database.largeObjects counted
    ∧ agentsCensus fails database inspection.userTables
        = some (inspection.agentsTotal, inspection.agentsSystemPrimary)
    ∧ schemaVersions fails database inspection.userTables = some inspection.schemaVersions
  := by
  obtain ⟨-, h⟩ := guard_bind_eq_some_iff.mp h
  obtain ⟨-, h⟩ := guard_bind_eq_some_iff.mp h
  obtain ⟨-, h⟩ := guard_bind_eq_some_iff.mp h
  obtain ⟨-, h⟩ := guard_bind_eq_some_iff.mp h
  obtain ⟨-, h⟩ := guard_bind_eq_some_iff.mp h
  obtain ⟨counted, hcounted, h⟩ := Option.bind_eq_some_iff.mp h
  obtain ⟨-, h⟩ := guard_bind_eq_some_iff.mp h
  obtain ⟨agents, hagents, h⟩ := Option.bind_eq_some_iff.mp h
  obtain ⟨versions, hversions, h⟩ := Option.bind_eq_some_iff.mp h
  obtain rfl := Option.some.inj h
  exact ⟨counted, hcounted, rfl, hagents, hversions⟩

/-- The names in the answer are those of the listed relations and of the large objects. -/
theorem keys_of_inspectDatabase (h : inspectDatabase fails database target = some inspection)
    (key : String) :
  key ∈ inspection.userTables.map Prod.fst
    ↔ (database.largeObjects ≠ 0 ∧ key = largeObjectCensusEntry)
      ∨ ∃ r ∈ database.userRelations, r.qualified = key
  := by
  obtain ⟨counted, hcounted, htables, -⟩ := inspectDatabase_eq_some h
  rw [htables, withLargeObjects]
  split
  · rename_i hzero
    rw [keys_of_tally hcounted]
    simp [hzero]
  · rename_i hne
    rw [keys_assignCount, keys_of_tally hcounted]
    simp [hne]

/-- A count in the answer under the name of a bootstrap table is that of the relation with the
name. -/
theorem count_of_inspectDatabase (h : inspectDatabase fails database target = some inspection)
    {entry : String × Int} (hentry : entry ∈ inspection.userTables)
    (hmem : entry.1 ∈ bootstrapTableSet) :
  ∃ r ∈ database.userRelations, entry.1 = r.qualified ∧ censusCount fails r = some entry.2
  := by
  obtain ⟨counted, hcounted, htables, -⟩ := inspectDatabase_eq_some h
  have hfrom : entry ∈ counted := by
    rw [htables, withLargeObjects] at hentry
    split at hentry
    · apply hentry
    · rcases mem_assignCount hentry with rfl | hentry
      · have houtside : largeObjectCensusEntry ∉ bootstrapTableSet := by
          decide +kernel
        contradiction
      · apply hentry
  rcases mem_of_tally hcounted hfrom with hnil | hfound
  · cases hnil
  · apply hfound

/-- Where a table of agents is listed, its rows have been counted. -/
theorem agents_of_inspectDatabase (h : inspectDatabase fails database target = some inspection)
    (hr : r ∈ database.userRelations) (hname : r.qualified = seedTable) :
  inspection.agentsTotal = r.read.length
    ∧ inspection.agentsSystemPrimary
      = r.read.countP fun row => row.agentKind == some "system_primary"
  := by
  obtain ⟨-, -, -, hagents, -⟩ := inspectDatabase_eq_some h
  have hkey : seedTable ∈ inspection.userTables.map Prod.fst :=
    (keys_of_inspectDatabase h _).mpr (.inr ⟨r, hr, hname⟩)
  obtain ⟨hs, hn⟩ :=
    Relation.names_of_qualified "public" "agents" hname (by decide) (by decide)
  rw [agentsCensus, if_pos hkey] at hagents
  obtain ⟨-, hagents⟩ := guard_bind_eq_some_iff.mp hagents
  have hfind := database.find_eq (mem_userRelations.mp hr).1
  rw [hs, hn] at hfind
  rw [hfind] at hagents
  have heq := Option.some.inj hagents
  exact ⟨(congrArg Prod.fst heq).symm, (congrArg Prod.snd heq).symm⟩

/-- Where a table of schema versions is listed, the versions are those of its rows. -/
theorem versions_of_inspectDatabase (h : inspectDatabase fails database target = some inspection)
    (hr : r ∈ database.userRelations) (hname : r.qualified = versionTable) (version : String) :
  version ∈ inspection.schemaVersions ↔ ∃ row ∈ r.read, row.versionText = version
  := by
  obtain ⟨-, -, -, -, hversions⟩ := inspectDatabase_eq_some h
  have hkey : versionTable ∈ inspection.userTables.map Prod.fst :=
    (keys_of_inspectDatabase h _).mpr (.inr ⟨r, hr, hname⟩)
  obtain ⟨hs, hn⟩ :=
    Relation.names_of_qualified "public" "schema_version" hname (by decide)
      (by decide)
  rw [schemaVersions, if_pos hkey] at hversions
  obtain ⟨-, hversions⟩ := guard_bind_eq_some_iff.mp hversions
  have hfind := database.find_eq (mem_userRelations.mp hr).1
  rw [hs, hn] at hfind
  rw [hfind] at hversions
  rw [← Option.some.inj hversions]
  simp [CensusRow.versionText, List.mem_dedup]

/-- The rule of the classifier on the count of a relation is the rule on its content. -/
theorem breaksCensus_eq_false_iff (h : inspectDatabase fails database target = some inspection)
    (hr : r ∈ database.userRelations) (hmem : r.qualified ∈ bootstrapTableSet) {count : Int}
    (hcount : censusCount fails r = some count) :
  breaksCensus inspection supported r.qualified count = false ↔ r.Accepted supported
  := by
  have hcases := censusCount_bootstrap hmem hcount
  rw [breaksCensus, Relation.Accepted]
  by_cases hsentinel : r.qualified = sentinelTable
  · simp [hsentinel]
  rw [if_neg hsentinel, if_neg hsentinel]
  by_cases hseed : r.qualified = seedTable
  · obtain ⟨htotal, hprimary⟩ := agents_of_inspectDatabase h hr hseed
    rw [if_pos hseed, if_pos hseed, htotal, hprimary]
    rcases hcases with ⟨hkind, rfl⟩ | ⟨hkind, rfl⟩
    · simp only [hkind, true_and]
      constructor
      · intro hrule
        simp only [Bool.or_eq_false_iff, bne_eq_false_iff_eq, Nat.cast_eq_one] at hrule
        obtain ⟨row, hread⟩ := List.length_eq_one_iff.mp hrule.1.1
        use row, hread
        have hone := hrule.2
        rw [hread] at hone
        by_contra hne
        simp [hne] at hone
      · intro ⟨row, hread, hrow⟩
        simp [hread, hrow]
    · simp [hkind]
  rw [if_neg hseed, if_neg hseed]
  by_cases hversion : r.qualified = versionTable
  · have hversions := versions_of_inspectDatabase h hr hversion
    rw [if_pos hversion, if_pos hversion]
    rcases hcases with ⟨hkind, rfl⟩ | ⟨hkind, rfl⟩
    · have hempty : inspection.schemaVersions.isEmpty = false ↔ r.read ≠ [] := by
        rw [List.isEmpty_eq_false_iff_exists_mem]
        constructor
        · intro ⟨version, hmem⟩
          obtain ⟨row, hrow, -⟩ := (hversions version).mp hmem
          apply List.ne_nil_of_mem hrow
        · intro hne
          obtain ⟨row, hrow⟩ := List.exists_mem_of_ne_nil _ hne
          use row.versionText
          apply (hversions _).mpr ⟨row, hrow, rfl⟩
      have hall : (∀ version ∈ inspection.schemaVersions, version ∈ supported)
          ↔ ∀ row ∈ r.read, row.versionText ∈ supported := by
        simp [hversions]
      simp [hkind, hempty, hall]
    · simp [hkind]
  rw [if_neg hversion, if_neg hversion]
  rcases hcases with ⟨hkind, rfl⟩ | ⟨hkind, rfl⟩
  · simp [hkind]
  · simp [hkind]

/-- The verdict spares exactly the databases whose content passes. -/
theorem classifyContent_inspectDatabase_iff
    (h : inspectDatabase fails database target = some inspection) :
  classifyContent inspection supported ≠ .nonEmpty ↔ database.Accepted supported
  := by
  have hkeys := keys_of_inspectDatabase h
  rw [classifyContent_ne_nonEmpty_iff]
  constructor
  · intro hall
    have hzero : database.largeObjects = 0 := by
      by_contra hne
      have hkey := (hkeys largeObjectCensusEntry).mpr (.inl ⟨hne, rfl⟩)
      obtain ⟨entry, hentry, hname⟩ := List.mem_map.mp hkey
      have hmem := (hall entry hentry).1
      rw [hname] at hmem
      have houtside : largeObjectCensusEntry ∉ bootstrapTableSet := by
        decide +kernel
      contradiction
    use hzero
    intro r hr
    have hkey := (hkeys r.qualified).mpr (.inr ⟨r, hr, rfl⟩)
    obtain ⟨entry, hentry, hname⟩ := List.mem_map.mp hkey
    obtain ⟨hmem, hrule⟩ := hall entry hentry
    obtain ⟨r', hr', hname', hcount⟩ := count_of_inspectDatabase h hentry hmem
    have heq : r = r' := by
      apply database.eq_of_qualified (mem_userRelations.mp hr).1 (mem_userRelations.mp hr').1
      · rw [← hname, hname']
      · rw [← hname']
        apply hmem
    subst heq
    rw [hname'] at hmem hrule
    exact ⟨hmem, (breaksCensus_eq_false_iff h hr hmem hcount).mp hrule⟩
  · intro ⟨hzero, hall⟩ entry hentry
    have hmem : entry.1 ∈ bootstrapTableSet := by
      have hkey := (hkeys entry.1).mp (List.mem_map_of_mem hentry)
      rcases hkey with ⟨hne, -⟩ | ⟨r, hr, hname⟩
      · contradiction
      · rw [← hname]
        apply (hall r hr).1
    obtain ⟨r, hr, hname, hcount⟩ := count_of_inspectDatabase h hentry hmem
    use hmem
    rw [hname] at hmem ⊢
    apply (breaksCensus_eq_false_iff h hr hmem hcount).mpr (hall r hr).2

end Verdict

/-! ### What the platform has put into a database

The platform writes three kinds of rows before a tenant does: sentinel markers, the one agent it
seeds, and the schema versions it applies.  They lie in ordinary tables.
-/

/-- A stored row of the relation is one of the platform's. -/
inductive PlatformRow (supported : List String) (r : Relation) : CensusRow → Prop
  | marker {row : CensusRow} (hkind : r.kind = .ordinaryTable) (hname : r.qualified = sentinelTable) :
      PlatformRow supported r row
  | seed {row : CensusRow} (hkind : r.kind = .ordinaryTable) (hname : r.qualified = seedTable)
      (hsingle : r.rows = [row]) (hprimary : row.agentKind = some "system_primary") :
      PlatformRow supported r row
  | version {row : CensusRow} {version : String} (hkind : r.kind = .ordinaryTable)
      (hname : r.qualified = versionTable) (hversion : row.version = some version)
      (hsupported : version ∈ supported) :
      PlatformRow supported r row

namespace Database

/-- There is nothing in the database that only its tenant can have put there. -/
def OnlyPlatformRows (supported : List String) (database : Database) : Prop :=
  database.largeObjects = 0
    ∧ ∀ r ∈ database.relations, systemSchema r.schema = false → r.kind.stores = true →
        ∀ row ∈ r.rows, PlatformRow supported r row

/-- The database holds bootstrap tables only, with the rows of the platform and no others: where
there is a table for the seeded agent or for the versions, it is filled. -/
structure ExactlyPlatformRows (supported : List String) (database : Database) : Prop where
  only : database.OnlyPlatformRows supported
  bootstrap : ∀ r ∈ database.userRelations,
    r.qualified ∈ bootstrapTableSet ∧ r.kind = .ordinaryTable ∧ r.inherited = []
  filled : ∀ r ∈ database.userRelations,
    r.qualified = seedTable ∨ r.qualified = versionTable → r.rows ≠ []

/-- A materialized view has the name of the sentinel table and holds rows. -/
def ShadowedMarker (database : Database) : Prop :=
  ∃ r ∈ database.relations,
    r.kind = .materializedView ∧ r.qualified = sentinelTable ∧ r.rows ≠ []

/-- A schema version is NULL, and the text NULL is rendered to is a supported version. -/
def NullVersion (supported : List String) (database : Database) : Prop :=
  "None" ∈ supported
    ∧ ∃ r ∈ database.relations,
        r.kind = .ordinaryTable ∧ r.qualified = versionTable ∧ ∃ row ∈ r.rows, row.version = none

section Platform

variable {database : Database} {supported : List String} {r : Relation}

theorem version_ne_sentinel :
  versionTable ≠ sentinelTable
  := by
  decide

theorem version_ne_seed :
  versionTable ≠ seedTable
  := by
  decide

theorem ExactlyPlatformRows.accepted (h : database.ExactlyPlatformRows supported) :
  database.Accepted supported
  := by
  use h.only.1
  intro r hr
  obtain ⟨hmem, hkind, hinherited⟩ := h.bootstrap r hr
  have hread : r.read = r.rows := by
    rw [Relation.read, hinherited, List.append_nil]
  have hplatform : ∀ row ∈ r.rows, PlatformRow supported r row := by
    obtain ⟨hrelation, -, hschema⟩ := mem_userRelations.mp hr
    apply h.only.2 r hrelation hschema
    rw [hkind]
    rfl
  use hmem
  rw [Relation.Accepted, hread]
  by_cases hsentinel : r.qualified = sentinelTable
  · simp [hsentinel]
  rw [if_neg hsentinel]
  by_cases hseed : r.qualified = seedTable
  · rw [if_pos hseed]
    use hkind
    obtain ⟨row, hrow⟩ := List.exists_mem_of_ne_nil _ (h.filled r hr (.inl hseed))
    cases hplatform row hrow with
    | marker _ hname => contradiction
    | seed _ _ hsingle hprimary => exact ⟨row, hsingle, hprimary⟩
    | version _ hname =>
        rw [hseed] at hname
        cases version_ne_seed hname.symm
  rw [if_neg hseed]
  by_cases hversion : r.qualified = versionTable
  · rw [if_pos hversion]
    use hkind, h.filled r hr (.inr hversion)
    intro row hrow
    cases hplatform row hrow with
    | marker _ hname => contradiction
    | seed _ hname => contradiction
    | version _ _ hsome hsupported =>
        rw [CensusRow.versionText, hsome]
        apply hsupported
  rw [if_neg hversion]
  use hkind
  apply List.eq_nil_iff_forall_not_mem.mpr
  intro row hrow
  cases hplatform row hrow with
  | marker _ hname => contradiction
  | seed _ hname => contradiction
  | version _ hname => contradiction

/-- Rows that only a tenant can have written are overlooked in two places. -/
theorem Accepted.onlyPlatformRows_iff (h : database.Accepted supported) :
  database.OnlyPlatformRows supported
    ↔ ¬ (database.ShadowedMarker ∨ database.NullVersion supported)
  := by
  constructor
  · intro ⟨hzero, honly⟩ hoverlooked
    rcases hoverlooked with ⟨r, hr, hkind, hname, hne⟩ | ⟨-, r, hr, hkind, hname, row, hrow, hnull⟩
    · obtain ⟨hschema, -⟩ :=
        Relation.names_of_qualified "dv_sentinel" "marker" hname (by decide)
          (by decide)
      obtain ⟨row, hrow⟩ := List.exists_mem_of_ne_nil _ hne
      have hplatform := honly r hr (by rw [hschema]; decide) (by rw [hkind]; rfl) row hrow
      cases hplatform with
      | marker hordinary => simp [hkind] at hordinary
      | seed hordinary => simp [hkind] at hordinary
      | version hordinary => simp [hkind] at hordinary
    · obtain ⟨hschema, -⟩ :=
        Relation.names_of_qualified "public" "schema_version" hname
          (by decide) (by decide)
      have hplatform := honly r hr (by rw [hschema]; decide) (by rw [hkind]; rfl) row hrow
      cases hplatform with
      | marker _ hsentinel =>
          rw [hname] at hsentinel
          cases version_ne_sentinel hsentinel
      | seed _ hseed =>
          rw [hname] at hseed
          cases version_ne_seed hseed
      | version _ _ hsome => simp [hnull] at hsome
  · intro hoverlooked
    use h.1
    intro r hr hschema hstores row hrow
    have hlisted := Relkind.listed_of_stores hstores
    obtain ⟨hmem, haccepted⟩ := h.2 r (mem_userRelations.mpr ⟨hr, hlisted, hschema⟩)
    have hread : row ∈ r.read := List.mem_append_left _ hrow
    rw [Relation.Accepted] at haccepted
    by_cases hsentinel : r.qualified = sentinelTable
    · rcases Relkind.cases_of_stores hstores with hkind | hkind
      · apply PlatformRow.marker hkind hsentinel
      · cases hoverlooked (.inl ⟨r, hr, hkind, hsentinel, List.ne_nil_of_mem hrow⟩)
    rw [if_neg hsentinel] at haccepted
    by_cases hseed : r.qualified = seedTable
    · rw [if_pos hseed] at haccepted
      obtain ⟨hkind, row', hsingle, hprimary⟩ := haccepted
      have heq : row = row' := by
        simpa [hsingle] using hread
      subst heq
      apply PlatformRow.seed hkind hseed _ hprimary
      rcases List.append_eq_singleton_iff.mp hsingle with ⟨hnil, -⟩ | ⟨hrows, -⟩
      · rw [hnil] at hrow
        cases hrow
      · apply hrows
    rw [if_neg hseed] at haccepted
    by_cases hversion : r.qualified = versionTable
    · rw [if_pos hversion] at haccepted
      obtain ⟨hkind, -, hall⟩ := haccepted
      have hsupported := hall row hread
      cases hrendered : row.version with
      | none =>
          rw [CensusRow.versionText, hrendered] at hsupported
          cases hoverlooked (.inr ⟨hsupported, r, hr, hkind, hversion, row, hrow, hrendered⟩)
      | some version =>
          rw [CensusRow.versionText, hrendered] at hsupported
          apply PlatformRow.version hkind hversion hrendered hsupported
    rw [if_neg hversion] at haccepted
    rw [haccepted.2] at hread
    cases hread

end Platform

end Database

/-- The verdict on an inspected database.  What is not called non-empty holds rows of the
platform only, and what holds exactly these is not called non-empty, unless a database passes
whose sentinel table is a materialized view with rows, or whose NULL versions are taken for a
supported text. -/
theorem classifyContent_platform_iff {fails : CensusQuery → Bool} {database : Database}
    {target : String} {inspection : DatabaseInspection}
    (h : inspectDatabase fails database target = some inspection) (supported : List String) :
  ((classifyContent inspection supported ≠ .nonEmpty → database.OnlyPlatformRows supported)
      ∧ (database.ExactlyPlatformRows supported →
          classifyContent inspection supported ≠ .nonEmpty))
    ↔ ¬ (database.Accepted supported
          ∧ (database.ShadowedMarker ∨ database.NullVersion supported))
  := by
  have hverdict : classifyContent inspection supported ≠ .nonEmpty ↔ database.Accepted supported :=
    classifyContent_inspectDatabase_iff h
  rw [hverdict]
  constructor
  · intro ⟨honly, _⟩ ⟨haccepted, hoverlooked⟩
    apply haccepted.onlyPlatformRows_iff.mp (honly haccepted) hoverlooked
  · intro hnot
    constructor
    · intro haccepted
      apply haccepted.onlyPlatformRows_iff.mpr
      intro hoverlooked
      apply hnot ⟨haccepted, hoverlooked⟩
    · intro hexactly
      apply hexactly.accepted

/-- A database after onboarding. -/
def onboardedDatabase : Database where
  name := "sp2_tenant_acme"
  oid := some 16384
  systemIdentifier := some "7311"
  relations :=
    [ { schema := "public", name := "agents", kind := .ordinaryTable
        rows := [⟨some "system_primary", none⟩], inherited := [] },
      { schema := "public", name := "deals", kind := .ordinaryTable
        rows := [], inherited := [] },
      { schema := "public", name := "schema_version", kind := .ordinaryTable
        rows := [⟨none, some "1"⟩], inherited := [] },
      { schema := "dv_sentinel", name := "marker", kind := .ordinaryTable
        rows := [⟨none, none⟩, ⟨none, none⟩], inherited := [] } ]
  largeObjects := 0
  unique := by decide

theorem classifyContent_platform_onboarded :
  ∃ inspection, inspectDatabase (fun _ => false) onboardedDatabase "sp2_tenant_acme" = some inspection
    ∧ classifyContent inspection ["1"] = .bootstrapOnly
    ∧ (((classifyContent inspection ["1"] ≠ .nonEmpty → onboardedDatabase.OnlyPlatformRows ["1"])
        ∧ (onboardedDatabase.ExactlyPlatformRows ["1"] →
            classifyContent inspection ["1"] ≠ .nonEmpty))
      ↔ ¬ (onboardedDatabase.Accepted ["1"]
          ∧ (onboardedDatabase.ShadowedMarker ∨ onboardedDatabase.NullVersion ["1"])))
  := by
  have hinspected : (inspectDatabase (fun _ => false) onboardedDatabase "sp2_tenant_acme").isSome := by
    decide +kernel
  obtain ⟨inspection, h⟩ := Option.isSome_iff_exists.mp hinspected
  have hverdict : (inspectDatabase (fun _ => false) onboardedDatabase "sp2_tenant_acme").map
      (classifyContent · ["1"]) = some .bootstrapOnly := by
    decide +kernel
  rw [h] at hverdict
  use inspection, h, Option.some.inj hverdict
  apply classifyContent_platform_iff h

/-- The deals of a tenant, kept in a materialized view under the name of the sentinel table. -/
def shadowedDatabase : Database where
  name := "sp2_tenant_acme"
  oid := some 16384
  systemIdentifier := some "7311"
  relations :=
    [ { schema := "public", name := "deals", kind := .ordinaryTable
        rows := [], inherited := [] },
      { schema := "dv_sentinel", name := "marker", kind := .materializedView
        rows := [⟨none, none⟩], inherited := [] } ]
  largeObjects := 0
  unique := by decide

theorem classifyContent_shadowed :
  ∃ inspection, inspectDatabase (fun _ => false) shadowedDatabase "sp2_tenant_acme" = some inspection
    ∧ classifyContent inspection ["1"] = .bootstrapOnly
    ∧ ¬ shadowedDatabase.OnlyPlatformRows ["1"]
  := by
  have hinspected : (inspectDatabase (fun _ => false) shadowedDatabase "sp2_tenant_acme").isSome := by
    decide +kernel
  obtain ⟨inspection, h⟩ := Option.isSome_iff_exists.mp hinspected
  have hverdict : (inspectDatabase (fun _ => false) shadowedDatabase "sp2_tenant_acme").map
      (classifyContent · ["1"]) = some .bootstrapOnly := by
    decide +kernel
  rw [h] at hverdict
  use inspection, h, Option.some.inj hverdict
  intro ⟨_, honly⟩
  have hview : shadowedDatabase.relations.getLast? = some
      { schema := "dv_sentinel", name := "marker", kind := .materializedView
        rows := [⟨none, none⟩], inherited := [] } := rfl
  have hplatform := honly _ (List.mem_of_getLast? hview) (by decide) rfl ⟨none, none⟩ (by simp)
  cases hplatform with
  | marker hkind => cases hkind
  | seed hkind => cases hkind
  | version hkind => cases hkind

end ControlPlane.PostgresRecoveryInspection
