import Mathlib.Data.Int.Interval
import SnackPortal.Data.Paging
import SnackPortal.Lineage.Verification

/-!
# Reading the lineage

The lineage service reads the table `lineage` by conditions on its columns, newest rows first,
in pages that begin after a number.  A caller who follows the cursors reads, whatever rows are
appended meanwhile, every matching row that was there at the first page once and in order
(`follow_reads_all`).
-/

namespace Lineage

/-! ## The table and the session -/

/-- The table `lineage`, with what its schema demands. -/
structure LineageStore where
  rows : List LineageRow
  lineagePk : (rows.map LineageRow.lineageId).Nodup
  lineageSeqUnique : UniqueSeq rows
  seqBigint : ∀ row ∈ rows, -2 ^ 63 ≤ row.seq ∧ row.seq < 2 ^ 63
  lineageParentFk : ∀ row ∈ rows, ∀ parent ∈ row.parentLineageRef,
    parent ∈ rows.map LineageRow.lineageId

/-- Equalities between columns and texts. -/
abbrev Where := List (Field × String)

/-- The row meets the conditions; a column without a value meets none. -/
def Where.holds (conditions : Where) (row : LineageRow) : Bool :=
  conditions.all fun condition => row.get condition.1 == some condition.2

/-- The number of a row, in the order of a page. -/
def newest (row : LineageRow) : ℤᵒᵈ :=
  OrderDual.toDual row.seq

/-- `PgRoutedSession.page`, ordered by `seq`. -/
def PgRoutedSession.page (table : List LineageRow) (conditions : Where) (descending : Bool)
    (after : Option Int) (limit : Nat) : List LineageRow :=
  let matching := table.filter conditions.holds
  if descending then
    Keyset.page newest matching (after.map OrderDual.toDual) limit
  else
    Keyset.page LineageRow.seq matching after limit

/-- The pages of the verifier are pages of the session. -/
theorem PgRoutedSession.page_ascending (table : List LineageRow) (scanPage : Nat)
    (after : Option Int) :
  page table [] false after scanPage = tablePage table scanPage after
  := by
  have hall : table.filter (Where.holds []) = table := by
    apply List.filter_eq_self.mpr
    intro row _
    rfl
  simp only [page, hall]
  rfl

/-! ## The service -/

/-- The read projection of a row. -/
structure LineageRecordView where
  lineageId : String
  seq : Int
  segmentId : Int
  eventType : String
  occurredAt : String
  actorRef : String
  sourceRef : String
  targetRef : String
  operation : String
  schemaVersion : String
  integrityMarker : String
  prevMarker : String
  markerVersion : Int
  derivationRef : Option String
  parentLineageRef : Option String
  correlationId : Option String
deriving DecidableEq, Repr

/-- `from_row`: a segment or a marker version of zero is read as one. -/
def LineageRecordView.fromRow (row : LineageRow) : LineageRecordView where
  lineageId := row.lineageId
  seq := row.seq
  segmentId := if row.segmentId = 0 then 1 else row.segmentId
  eventType := row.eventType
  occurredAt := row.occurredAt
  actorRef := row.actorRef
  sourceRef := row.sourceRef
  targetRef := row.targetRef
  operation := row.operation
  schemaVersion := row.schemaVersion
  integrityMarker := row.integrityMarker
  prevMarker := row.prevMarker
  markerVersion := if row.markerVersion = 0 then 1 else row.markerVersion
  derivationRef := row.derivationRef
  parentLineageRef := row.parentLineageRef
  correlationId := row.correlationId

/-- A page, with the number to pass as `after` for more. -/
structure Page where
  items : List LineageRecordView
  nextCursor : Option Int
deriving DecidableEq, Repr

/-- The size of a page: what is asked for, up to the most that is allowed, and one at least. -/
def pageSize (pageLimitMax limit : Int) : Nat :=
  (max 1 (min limit pageLimitMax)).toNat

theorem pageSize_pos (pageLimitMax limit : Int) :
  0 < pageSize pageLimitMax limit
  := by
  rw [pageSize]
  omega

namespace LineageQuery

/-- `LineageQuery._page`. -/
def page (pageLimitMax : Int) (table : List LineageRow) (conditions : Where)
    (after : Option Int) (limit : Int) : Page :=
  let n := pageSize pageLimitMax limit
  let rows := PgRoutedSession.page table conditions true after n
  let items := rows.map LineageRecordView.fromRow
  { items
    nextCursor :=
      if items.length = n ∧ items ≠ [] then items.getLast?.map LineageRecordView.seq else none }

/-- The record of an id. -/
def get (table : List LineageRow) (lineageId : String) : Option LineageRecordView :=
  (PgRoutedSession.page table [(.lineageId, lineageId)] true none 1).head?.map
    LineageRecordView.fromRow

/-- The id is the primary key, so the first row of the page is the record. -/
theorem get_eq (store : LineageStore) (lineageId : String) :
  get store.rows lineageId
    = (store.rows.find? fun row => row.lineageId = lineageId).map LineageRecordView.fromRow
  := by
  have hfilter : store.rows.filter (Where.holds [(.lineageId, lineageId)])
      = store.rows.filter fun row => row.lineageId = lineageId := by
    apply List.filter_congr
    intro row _
    rw [Bool.eq_iff_iff]
    simp [Where.holds, LineageRow.get]
  have hnodup : ((store.rows.filter fun row => row.lineageId = lineageId).map
      LineageRow.lineageId).Nodup := store.lineagePk.sublist (List.filter_sublist.map _)
  rw [get, PgRoutedSession.page, if_pos rfl, hfilter, Option.map_none,
    Keyset.page_eq_take_insertionSort, ← List.head?_filter]
  congr 1
  cases hrows : store.rows.filter fun row => row.lineageId = lineageId with
  | nil => rfl
  | cons row rows =>
      cases rows with
      | nil => rfl
      | cons row' rows =>
          have hid : ∀ r ∈ row :: row' :: rows, r.lineageId = lineageId := by
            intro r hr
            rw [← hrows] at hr
            apply of_decide_eq_true (List.mem_filter.mp hr).2
          rw [hrows] at hnodup
          simp only [List.map_cons, List.nodup_cons, List.mem_cons, not_or] at hnodup
          exact absurd ((hid row (by simp)).trans (hid row' (by simp)).symm) hnodup.1.1

def forRecord (pageLimitMax : Int) (table : List LineageRow) (targetRef : String) :=
  page pageLimitMax table [(.targetRef, targetRef)]

def forImport (pageLimitMax : Int) (table : List LineageRow) (derivationRef : String) :=
  page pageLimitMax table [(.derivationRef, derivationRef)]

/-- An empty event type is no condition. -/
def events (pageLimitMax : Int) (table : List LineageRow) (eventType : Option String) :=
  page pageLimitMax table
    ((eventType.filter (· ≠ "")).toList.map fun value => (.eventType, value))

end LineageQuery

namespace LineageSearch

/-- `search`: any combination of the four columns. -/
def search (pageLimitMax : Int) (table : List LineageRow)
    (eventType operation derivationRef actorRef : Option String) (after : Option Int)
    (limit : Int) : Page :=
  let conditions : Where :=
    (eventType.toList.map fun value => (.eventType, value))
      ++ (operation.toList.map fun value => (.operation, value))
      ++ (derivationRef.toList.map fun value => (.derivationRef, value))
      ++ actorRef.toList.map fun value => (.actorRef, value)
  let n := pageSize pageLimitMax limit
  let rows := PgRoutedSession.page table conditions true after n
  let items := rows.map LineageRecordView.fromRow
  { items
    nextCursor :=
      if items.length = n ∧ items ≠ [] then items.getLast?.map LineageRecordView.seq else none }

end LineageSearch

/-! ## What is asked for -/

/-- A paged reading of the lineage. -/
inductive Reading where
  | forRecord (targetRef : String)
  | forImport (derivationRef : String)
  | events (eventType : Option String)
  | search (eventType operation derivationRef actorRef : Option String)
deriving DecidableEq, Repr

/-- The page of a reading. -/
def Reading.page (pageLimitMax : Int) (table : List LineageRow) :
    Reading → Option Int → Int → Page
  | .forRecord targetRef => LineageQuery.forRecord pageLimitMax table targetRef
  | .forImport derivationRef => LineageQuery.forImport pageLimitMax table derivationRef
  | .events eventType => LineageQuery.events pageLimitMax table eventType
  | .search eventType operation derivationRef actorRef =>
      LineageSearch.search pageLimitMax table eventType operation derivationRef actorRef

/-- The rows that a reading asks for. -/
def Reading.Matches (row : LineageRow) : Reading → Prop
  | .forRecord targetRef => row.targetRef = targetRef
  | .forImport derivationRef => row.derivationRef = some derivationRef
  | .events eventType => ∀ value ∈ eventType, value = "" ∨ row.eventType = value
  | .search eventType operation derivationRef actorRef =>
      (∀ value ∈ eventType, row.eventType = value)
        ∧ (∀ value ∈ operation, row.operation = value)
        ∧ (∀ value ∈ derivationRef, row.derivationRef = some value)
        ∧ ∀ value ∈ actorRef, row.actorRef = value

/-- The conditions that a reading puts to the session. -/
def Reading.conditions : Reading → Where
  | .forRecord targetRef => [(.targetRef, targetRef)]
  | .forImport derivationRef => [(.derivationRef, derivationRef)]
  | .events eventType =>
      (eventType.filter (· ≠ "")).toList.map fun value => (.eventType, value)
  | .search eventType operation derivationRef actorRef =>
      (eventType.toList.map fun value => (.eventType, value))
        ++ (operation.toList.map fun value => (.operation, value))
        ++ (derivationRef.toList.map fun value => (.derivationRef, value))
        ++ actorRef.toList.map fun value => (.actorRef, value)

/-- The conditions of a reading say what it asks for. -/
theorem Reading.holds_conditions (reading : Reading) (row : LineageRow) :
  reading.conditions.holds row ↔ reading.Matches row
  := by
  cases reading with
  | forRecord targetRef => simp [conditions, Where.holds, Matches, LineageRow.get]
  | forImport derivationRef => simp [conditions, Where.holds, Matches, LineageRow.get]
  | events eventType =>
      rcases eventType with _ | value
      · simp [conditions, Where.holds, Matches]
      · by_cases hvalue : value = ""
        · simp [conditions, Where.holds, Matches, hvalue]
        · simp [conditions, Where.holds, Matches, LineageRow.get, hvalue, Option.filter]
  | search eventType operation derivationRef actorRef =>
      simp [conditions, Where.holds, Matches, LineageRow.get, List.all_append]

/-- Every reading is a page under its conditions. -/
theorem Reading.page_eq (pageLimitMax : Int) (table : List LineageRow) (reading : Reading)
    (after : Option Int) (limit : Int) :
  reading.page pageLimitMax table after limit
    = LineageQuery.page pageLimitMax table reading.conditions after limit
  := by
  cases reading <;> rfl

/-! ## Following the cursors -/

/-- A caller who passes every `next_cursor` on, where page `n` is read as `read n` says.  `none`
where the fuel runs out. -/
def follow (read : Nat → Option Int → Page) : Nat → Nat → Option Int →
    Option (List LineageRecordView)
  | 0, _, _ => none
  | fuel + 1, n, after =>
      match (read n after).nextCursor with
      | none => some (read n after).items
      | some cursor => (follow read fuel (n + 1) (some cursor)).map ((read n after).items ++ ·)

/-- The cursor of a page is the number of its last row, where the page is full. -/
theorem LineageQuery.page_eq (pageLimitMax : Int) (table : List LineageRow)
    (conditions : Where) (after : Option Int) (limit : Int) :
  page pageLimitMax table conditions after limit =
    let n := pageSize pageLimitMax limit
    let rows := Keyset.page newest (table.filter conditions.holds)
      (after.map OrderDual.toDual) n
    { items := rows.map LineageRecordView.fromRow
      nextCursor := (Keyset.next newest n rows).map OrderDual.ofDual }
  := by
  simp only [page, PgRoutedSession.page, if_true, List.length_map, Page.mk.injEq, true_and,
    Keyset.next]
  split
  · rename_i hfull
    rw [if_pos hfull.1, List.getLast?_map, Option.map_map, Option.map_map]
    rfl
  · rename_i hshort
    split
    · rename_i hfull
      have hnone : Keyset.page newest (table.filter conditions.holds)
          (after.map OrderDual.toDual) (pageSize pageLimitMax limit) = [] := by
        by_contra hne
        apply hshort
        use hfull
        intro hmap
        apply hne (List.map_eq_nil_iff.mp hmap)
      rw [hnone]
      rfl
    · rfl

section Follow

variable (pageLimitMax limit : Int) (reading : Reading) (stores : Nat → LineageStore)

/-- Page `n` of a reading, where the table is `stores n` when it is read. -/
def Reading.pageAt (n : Nat) (after : Option Int) : Page :=
  reading.page pageLimitMax (stores n).rows after limit

/-- The rows that the reading asks for, as the table is at page `n`. -/
def Reading.matching (n : Nat) : List LineageRow :=
  (stores n).rows.filter reading.conditions.holds

theorem Reading.mem_matching {n : Nat} {row : LineageRow} :
  row ∈ reading.matching stores n ↔ row ∈ (stores n).rows ∧ reading.Matches row
  := by
  rw [matching, List.mem_filter, holds_conditions]

/-- The matching rows have distinct numbers. -/
theorem Reading.matching_nodup (n : Nat) :
  ((reading.matching stores n).map newest).Nodup
  := by
  have hseq : ((reading.matching stores n).map LineageRow.seq).Nodup :=
    (stores n).lineageSeqUnique.sublist (List.filter_sublist.map _)
  have hmap : (reading.matching stores n).map newest
      = ((reading.matching stores n).map LineageRow.seq).map OrderDual.toDual := by
    rw [List.map_map]
    rfl
  rw [hmap]
  apply hseq.map OrderDual.toDual.injective

/-- What the caller reads is what the pages of the matching rows have. -/
theorem follow_eq (fuel n : Nat) (after : Option Int) :
  follow (reading.pageAt pageLimitMax limit stores) fuel n after
    = (Keyset.follow newest (reading.matching stores) (pageSize pageLimitMax limit) fuel n
        (after.map OrderDual.toDual)).map (List.map LineageRecordView.fromRow)
  := by
  induction fuel generalizing n after with
  | zero => rfl
  | succ fuel ih =>
      have hpage : reading.pageAt pageLimitMax limit stores n after = _ :=
        (reading.page_eq pageLimitMax (stores n).rows after limit).trans
          (LineageQuery.page_eq pageLimitMax (stores n).rows reading.conditions after limit)
      rw [follow, Keyset.follow, hpage]
      change (match (Keyset.next newest (pageSize pageLimitMax limit)
          (Keyset.page newest (reading.matching stores n) (after.map OrderDual.toDual)
            (pageSize pageLimitMax limit))).map OrderDual.ofDual with
        | none => _
        | some cursor => _) = _
      cases Keyset.next newest (pageSize pageLimitMax limit)
          (Keyset.page newest (reading.matching stores n) (after.map OrderDual.toDual)
            (pageSize pageLimitMax limit)) with
      | none => rfl
      | some k =>
          simp only [Option.map_some, ih, Option.map_map]
          congr 1
          funext (rows : List LineageRow)
          apply List.map_append.symm

variable (hgrow : ∀ n, (stores n).rows <+: (stores (n + 1)).rows)

include hgrow

theorem Reading.matching_grows (n : Nat) :
  reading.matching stores n ⊆ reading.matching stores (n + 1)
  := by
  intro row hrow
  rw [mem_matching] at hrow ⊢
  exact ⟨(hgrow n).subset hrow.1, hrow.2⟩

/-- Whatever is appended between two pages, a caller who follows the cursors comes to the end,
reads rows that match only, in descending order of their numbers, and reads every matching row
that was there at the first page once. -/
theorem follow_reads_all :
  ∃ (fuel : Nat) (rows : List LineageRow),
    follow (reading.pageAt pageLimitMax limit stores) fuel 0 none
        = some (rows.map LineageRecordView.fromRow)
      ∧ rows.Pairwise (fun row row' => row'.seq < row.seq)
      ∧ (∀ row ∈ rows, reading.Matches row ∧ ∃ n, row ∈ (stores n).rows)
      ∧ ∀ row ∈ (stores 0).rows, reading.Matches row → rows.count row = 1
  := by
  let keys : Finset ℤᵒᵈ := (Finset.Ico (-2 ^ 63 : ℤ) (2 ^ 63)).map OrderDual.toDual.toEmbedding
  have hkeys : ∀ n, ∀ row ∈ reading.matching stores n, newest row ∈ keys := by
    intro n row hrow
    apply Finset.mem_map.mpr
    use row.seq
    constructor
    · apply Finset.mem_Ico.mpr
      apply (stores n).seqBigint row (List.mem_filter.mp hrow).1
    · rfl
  obtain ⟨fuel, hfuel⟩ := exists_gt
    (keys.filter fun k => ∀ k' ∈ (none : Option ℤᵒᵈ), k' < k).card
  have hsome : (Keyset.follow newest (reading.matching stores) (pageSize pageLimitMax limit)
      fuel 0 none).isSome := Keyset.follow_isSome hkeys hfuel
  obtain ⟨rows, hrows⟩ := Option.isSome_iff_exists.mp hsome
  obtain ⟨hincreasing, hsound, hcomplete⟩ := Keyset.follow_spec (reading.matching_nodup stores)
    (reading.matching_grows stores hgrow) (pageSize_pos pageLimitMax limit) hrows
  use fuel, rows
  constructor
  · rw [follow_eq, Option.map_none, hrows, Option.map_some]
  · constructor
    · apply hincreasing
    · constructor
      · intro row hrow
        obtain ⟨-, n, hmem⟩ := hsound row hrow
        rw [reading.mem_matching] at hmem
        exact ⟨hmem.2, n, hmem.1⟩
      · intro row hrow hmatches
        apply List.count_eq_one_of_mem
        · apply hincreasing.imp
          intro row row' hlt heq
          rw [heq] at hlt
          apply lt_irrefl _ hlt
        · apply hcomplete row ((reading.mem_matching stores).mpr ⟨hrow, hmatches⟩)
          intro k hk
          cases hk

/-- Where every row that is appended has a number above those that were there at the first page,
the caller reads the matching rows of the first page and no others. -/
theorem follow_reads_first
    (hnewer : ∀ n, ∀ row ∈ (stores n).rows, row ∈ (stores 0).rows
      ∨ ∀ row' ∈ (stores 0).rows, row'.seq < row.seq)
    {fuel : Nat} {items : List LineageRecordView}
    (h : follow (reading.pageAt pageLimitMax limit stores) fuel 0 none = some items) :
  items = ((reading.matching stores 0).insertionSort (Keyset.Before newest)).map
    LineageRecordView.fromRow
  := by
  rw [follow_eq, Option.map_none] at h
  obtain ⟨rows, hrows, rfl⟩ := Option.map_eq_some_iff.mp h
  congr 1
  apply Keyset.follow_eq_first (reading.matching_nodup stores)
    (reading.matching_grows stores hgrow) (pageSize_pos pageLimitMax limit) _ hrows
  intro n row hrow
  rw [reading.mem_matching] at hrow ⊢
  rcases hnewer n row hrow.1 with hfirst | hnew
  · apply Or.inl
    exact ⟨hfirst, hrow.2⟩
  · apply Or.inr
    intro row' hrow'
    apply hnew row' (List.mem_filter.mp hrow').1

end Follow

/-- A row of an import, with a number. -/
def importedRow (seq : Int) (lineageId : String) : LineageRow where
  lineageId := lineageId
  seq := seq
  segmentId := 1
  eventType := "import"
  occurredAt := "2024-01-01"
  actorRef := "actor"
  sourceRef := "source"
  targetRef := "target"
  operation := "copy"
  schemaVersion := "1"
  derivationRef := some "job"
  parentLineageRef := none
  correlationId := none
  markerVersion := 1
  prevMarker := ""
  integrityMarker := ""

/-- A table of two rows, which takes a third after the first page. -/
def growingStores : Nat → LineageStore
  | 0 => ⟨[importedRow 1 "a", importedRow 2 "b"], by decide, by decide, by decide, by decide⟩
  | _ + 1 => ⟨[importedRow 1 "a", importedRow 2 "b", importedRow 3 "c"], by decide, by decide,
      by decide, by decide⟩

theorem growingStores_grow (n : Nat) :
  (growingStores n).rows <+: (growingStores (n + 1)).rows
  := by
  cases n with
  | zero => exact ⟨[importedRow 3 "c"], rfl⟩
  | succ n => apply List.prefix_rfl

theorem follow_reads_all_growing :
  (∀ n, (growingStores n).rows <+: (growingStores (n + 1)).rows)
    ∧ ∃ (fuel : Nat) (rows : List LineageRow),
      follow ((Reading.forImport "job").pageAt 200 1 growingStores) fuel 0 none
          = some (rows.map LineageRecordView.fromRow)
        ∧ rows.Pairwise (fun row row' => row'.seq < row.seq)
        ∧ (∀ row ∈ rows, (Reading.forImport "job").Matches row
          ∧ ∃ n, row ∈ (growingStores n).rows)
        ∧ ∀ row ∈ (growingStores 0).rows, (Reading.forImport "job").Matches row →
          rows.count row = 1
  := ⟨growingStores_grow,
    follow_reads_all 200 1 (.forImport "job") growingStores growingStores_grow⟩

example :
  follow ((Reading.forImport "job").pageAt 200 1 growingStores) 3 0 none
    = some [.fromRow (importedRow 2 "b"), .fromRow (importedRow 1 "a")]
  := by decide

end Lineage
