import SnackPortal.ImportService.Service
import Mathlib.Data.List.Forall2
import Mathlib.Data.List.MinMax

/-!
# What an import does to the tables

The effect of the import of records on the tables of a tenant, apart from the program that makes
it.  A table that carries the last of the records with a natural key carries it until another
record with that key is imported, so the import of a list leaves the last record of each of its
keys (`carried_importRecords`), and keeps what it had under every other key.  The batches of a
list make up the list, and so do those from some number on make up its end.
-/

namespace ImportService

open Lineage (LineageRow)
open TenantDatabase

/-! ### Batches -/

section Batches

variable {size : Int} {valid : List ImportRecord} {bs : List (List ImportRecord)}

/-- The slices of a list from one index on. -/
theorem flatten_slices (xs : List ImportRecord) (size start count : Nat) :
  ((List.range' start count).map fun i => (xs.drop (i * size)).take size).flatten
    = (xs.drop (start * size)).take (count * size)
  := by
  induction count generalizing start with
  | zero => simp
  | succ count ih =>
      have hsplit : (count + 1) * size = size + count * size := by
        rw [Nat.succ_mul, Nat.add_comm]
      have hnext : (start + 1) * size = start * size + size := Nat.succ_mul start size
      rw [List.range'_succ, List.map_cons, List.flatten_cons, ih, hsplit, List.take_add,
        List.drop_drop, hnext]

/-- The batches are slices of the size. -/
theorem batches_eq_some (hsize : 0 < size) (h : batches size valid = some bs) :
  bs = (List.range ((valid.length + size.toNat - 1) / size.toNat)).map
    fun i => (valid.drop (i * size.toNat)).take size.toNat
  := by
  rw [batches, if_neg (by omega)] at h
  apply (Option.some.inj h).symm

/-- There are no batches of a negative size. -/
theorem batches_neg (hsize : size < 0) :
  batches size valid = some []
  := by
  have htoNat : size.toNat = 0 := by omega
  rw [batches, if_neg (by omega)]
  simp [htoNat]

/-- There are enough batches for the whole list. -/
theorem length_le_batches {size : Nat} (hsize : 0 < size) (xs : List ImportRecord) :
  xs.length ≤ (xs.length + size - 1) / size * size
  := by
  have hdiv := Nat.div_add_mod (xs.length + size - 1) size
  have hmod := Nat.mod_lt (xs.length + size - 1) hsize
  rw [Nat.mul_comm] at hdiv
  omega

/-- The batches from one number on make up the end of the list. -/
theorem flatten_drop_batches (hsize : 0 < size) (h : batches size valid = some bs) (n : Nat) :
  (bs.drop n).flatten = valid.drop (n * size.toNat)
  := by
  have hpos : 0 < size.toNat := by omega
  have hlength := length_le_batches hpos valid
  rw [batches_eq_some hsize h, List.range_eq_range', ← List.map_drop, List.drop_range',
    flatten_slices, Nat.zero_add, Nat.mul_one, List.take_of_length_le]
  rw [List.length_drop, Nat.sub_mul]
  omega

/-- No batch is empty. -/
theorem batch_ne_nil (h : batches size valid = some bs) {batch : List ImportRecord}
    (hbatch : batch ∈ bs) :
  batch ≠ []
  := by
  rcases lt_trichotomy size 0 with hneg | rfl | hpos
  · rw [batches_neg hneg] at h
    obtain rfl := Option.some.inj h
    cases hbatch
  · cases h
  · rw [batches_eq_some hpos h] at hbatch
    obtain ⟨i, hi, rfl⟩ := List.mem_map.mp hbatch
    have hsize : 0 < size.toNat := by omega
    have hlt : i * size.toNat < valid.length := by
      have hi' : i < (valid.length + size.toNat - 1) / size.toNat := List.mem_range.mp hi
      have hle := (Nat.le_div_iff_mul_le hsize).mp hi'
      rw [Nat.succ_mul] at hle
      omega
    rw [Ne, List.take_eq_nil_iff, List.drop_eq_nil_iff]
    omega

/-- What the batches from one number on hold is an end of the list. -/
theorem suffix_of_batches (h : batches size valid = some bs) (n : Nat) :
  (bs.drop n).flatten <:+ valid
  := by
  rcases lt_trichotomy size 0 with hneg | rfl | hpos
  · rw [batches_neg hneg] at h
    obtain rfl := Option.some.inj h
    rw [List.drop_nil]
    apply List.nil_suffix
  · cases h
  · rw [flatten_drop_batches hpos h]
    apply List.drop_suffix

end Batches

/-! ### The rows of records -/

/-- A table of records. -/
abbrev Records := AList fun _ : RecordKey => Columns

section Records

variable (req : ImportRequest)

/-- The table is up to date with the record: its upsert writes nothing. -/
def UpToDate (records : Records) (record : ImportRecord) : Prop :=
  ((records.lookup (recordKey req record)).any fun existing =>
    carries existing (recordRow req record)) = true

instance (records : Records) (record : ImportRecord) : Decidable (UpToDate req records record) :=
  inferInstanceAs (Decidable (_ = true))

variable (columns : ColumnTypes)

/-- The row has every value of the other one, or what its column makes of it. -/
def holds (table : String) (existing row : Columns) : Bool :=
  row.entries.all fun column =>
    (existing.read column.1).eq column.2
      || existing.read column.1 = columns table column.1 column.2

/-- The table carries the record. -/
def Carried (records : Records) (record : ImportRecord) : Prop :=
  ((records.lookup (recordKey req record)).any fun existing =>
    holds columns req.targetTable existing (recordRow req record)) = true

instance (records : Records) (record : ImportRecord) :
    Decidable (Carried req columns records record) :=
  inferInstanceAs (Decidable (_ = true))

/-- The table after the import of a record. -/
def importRecord (records : Records) (record : ImportRecord) : Records :=
  if UpToDate req records record then
    records
  else
    records.insert (recordKey req record)
      (columns.taken (recordKey req record) (recordRow req record)
        ∪ (records.lookup (recordKey req record)).getD ∅)

/-- The last of the records with the natural key. -/
def lastOf (naturalKey : String) (records : List ImportRecord) : Option ImportRecord :=
  records.reverse.find? (·.naturalKey = naturalKey)

variable {req columns}

/-- A row that an upsert takes as it is holds the record. -/
theorem holds_of_carries {table : String} {existing row : Columns}
    (h : carries existing row = true) :
  holds columns table existing row = true
  := by
  rw [carries, List.all_eq_true] at h
  rw [holds, List.all_eq_true]
  intro column hcolumn
  simp only [h column hcolumn, Bool.true_or]

/-- A row that was written over another holds what was written. -/
theorem holds_union (key : RecordKey) (row existing : Columns) :
  holds columns key.table (columns.taken key row ∪ existing) row = true
  := by
  rw [holds, List.all_eq_true]
  intro column hcolumn
  have hlookup : row.lookup column.1 = some column.2 := AList.mem_lookup_iff.mpr hcolumn
  have htaken : (columns.taken key row).lookup column.1
      = some (columns key.table column.1 column.2) := by
    rw [ColumnTypes.taken, Columns.lookup_mapValues, hlookup]
    rfl
  have hmem : column.1 ∈ columns.taken key row := AList.lookup_isSome.mp (by rw [htaken]; rfl)
  rw [Columns.read, AList.lookup_union_left hmem, htaken]
  simp

/-- An imported record is carried. -/
theorem carried_importRecord (records : Records) (record : ImportRecord) :
  Carried req columns (importRecord req columns records record) record
  := by
  rw [importRecord]
  split
  · rename_i hfound
    obtain ⟨existing, hexisting, hcarries⟩ := (Option.any_eq_true _ _).mp hfound
    rw [Carried, hexisting]
    apply holds_of_carries hcarries
  · rw [Carried, AList.lookup_insert]
    apply holds_union (recordKey req record)

/-- The import of a record leaves the other rows as they are. -/
theorem lookup_importRecord {records : Records} {record : ImportRecord} {key : RecordKey}
    (h : key ≠ recordKey req record) :
  (importRecord req columns records record).lookup key = records.lookup key
  := by
  rw [importRecord]
  split
  · rfl
  · apply AList.lookup_insert_ne h

theorem recordKey_ne {record other : ImportRecord} (h : other.naturalKey ≠ record.naturalKey) :
  recordKey req other ≠ recordKey req record
  := by
  intro heq
  apply h
  apply (RecordKey.mk.inj heq).2.2

theorem lastOf_concat {naturalKey : String} {records : List ImportRecord}
    {record : ImportRecord} :
  lastOf naturalKey (records ++ [record])
    = if record.naturalKey = naturalKey then some record else lastOf naturalKey records
  := by
  rw [lastOf, List.reverse_concat, List.find?_cons]
  by_cases h : record.naturalKey = naturalKey
  · simp [h]
  · simp [h, lastOf]

theorem naturalKey_of_lastOf {naturalKey : String} {records : List ImportRecord}
    {record : ImportRecord} (h : lastOf naturalKey records = some record) :
  record.naturalKey = naturalKey
  := by
  have hfound := List.find?_some h
  apply of_decide_eq_true hfound

theorem lastOf_eq_none {naturalKey : String} {records : List ImportRecord} :
  lastOf naturalKey records = none ↔ ∀ record ∈ records, record.naturalKey ≠ naturalKey
  := by
  simp [lastOf, List.find?_eq_none]

/-- The last record with a key in a list is that of the end of the list, where it has one. -/
theorem lastOf_append {naturalKey : String} {records records' : List ImportRecord} :
  lastOf naturalKey (records ++ records')
    = (lastOf naturalKey records').or (lastOf naturalKey records)
  := by
  rw [lastOf, List.reverse_append, List.find?_append]
  rfl

/-- Records with other natural keys leave the row of a record as it is. -/
theorem lookup_importRecords {records : Records} {imported : List ImportRecord}
    {record : ImportRecord} (h : lastOf record.naturalKey imported = none) :
  (imported.foldl (importRecord req columns) records).lookup (recordKey req record)
    = records.lookup (recordKey req record)
  := by
  induction imported using List.reverseRecOn with
  | nil => rfl
  | append_singleton imported other ih =>
      rw [lastOf_concat] at h
      split at h
      · cases h
      · rename_i hne
        rw [List.foldl_append]
        simp only [List.foldl_cons, List.foldl_nil]
        rw [lookup_importRecord (recordKey_ne fun heq => hne heq.symm), ih h]

/-- The last record of each natural key is carried. -/
theorem carried_importRecords {records : Records} {imported : List ImportRecord}
    {record : ImportRecord} (h : lastOf record.naturalKey imported = some record) :
  Carried req columns (imported.foldl (importRecord req columns) records) record
  := by
  induction imported using List.reverseRecOn with
  | nil => cases h
  | append_singleton imported other ih =>
      rw [List.foldl_append]
      simp only [List.foldl_cons, List.foldl_nil]
      rw [lastOf_concat] at h
      split at h
      · obtain rfl := Option.some.inj h
        apply carried_importRecord
      · rename_i hne
        rw [Carried, lookup_importRecord (recordKey_ne fun heq => hne heq.symm)]
        apply ih h

/-- After the import of an end of a list, the table carries the last record of each natural key
of the list if and only if it carried those which the end does not name before. -/
theorem carried_iff_of_suffix {records : Records} {imported valid : List ImportRecord}
    (hsuffix : imported <:+ valid) :
  (∀ naturalKey record, lastOf naturalKey valid = some record →
      Carried req columns (imported.foldl (importRecord req columns) records) record)
    ↔ ∀ naturalKey record, lastOf naturalKey valid = some record →
      (∀ other ∈ imported, other.naturalKey ≠ naturalKey) → Carried req columns records record
  := by
  obtain ⟨skipped, rfl⟩ := hsuffix
  apply forall_congr'
  intro naturalKey
  apply forall_congr'
  intro record
  apply imp_congr_right
  intro hlast
  have hkey := naturalKey_of_lastOf hlast
  subst hkey
  rw [lastOf_append] at hlast
  cases himported : lastOf record.naturalKey imported with
  | none =>
      have hnone := lastOf_eq_none.mp himported
      rw [Carried, lookup_importRecords himported]
      constructor
      · intro hcarried _
        apply hcarried
      · intro hcarried
        apply hcarried hnone
  | some last =>
      rw [himported, Option.some_or] at hlast
      obtain rfl := Option.some.inj hlast
      constructor
      · intro _ hnone
        rw [lastOf_eq_none.mpr hnone] at himported
        cases himported
      · intro _
        apply carried_importRecords himported

end Records

/-! ### Checkpoints -/

section Checkpoints

variable {d d' : Tables} {jobId : String}

/-- The number of the batch at which the job is resumed. -/
def nextSeq (d : Tables) (jobId : String) : Nat :=
  seqAfter (d.latestCheckpoint jobId)

theorem nextSeq_congr (h : d'.checkpoints = d.checkpoints) :
  nextSeq d' jobId = nextSeq d jobId
  := by
  rw [nextSeq, nextSeq, Tables.latestCheckpoint, Tables.latestCheckpoint, h]

/-- A job without checkpoints starts with the first batch. -/
theorem nextSeq_fresh (h : ∀ cp ∈ d.checkpoints, cp.jobId ≠ jobId) :
  nextSeq d jobId = 1
  := by
  have hnone : d.checkpoints.filter (·.jobId = jobId) = [] := by
    rw [List.filter_eq_nil_iff]
    intro cp hcp
    simp [h cp hcp]
  rw [nextSeq, Tables.latestCheckpoint, hnone]
  rfl

theorem nextSeq_pos :
  1 ≤ nextSeq d jobId
  := by
  rw [nextSeq]
  cases d.latestCheckpoint jobId with
  | none => rfl
  | some cp => exact Nat.le_add_left 1 cp.batchSeq

/-- Behind a checkpoint of a batch that was due, the next one is due. -/
theorem nextSeq_concat {cp : CheckpointRow} (h : d'.checkpoints = d.checkpoints ++ [cp])
    (hjob : cp.jobId = jobId) (hseq : nextSeq d jobId ≤ cp.batchSeq) :
  nextSeq d' jobId = cp.batchSeq + 1
  := by
  have hfilter : d'.checkpoints.filter (·.jobId = jobId)
      = d.checkpoints.filter (·.jobId = jobId) ++ [cp] := by
    rw [h, List.filter_append]
    simp [hjob]
  have hlatest : d'.latestCheckpoint jobId = some cp := by
    rw [Tables.latestCheckpoint, hfilter, List.argmax_concat]
    rw [nextSeq, Tables.latestCheckpoint] at hseq
    cases hargmax : (d.checkpoints.filter (·.jobId = jobId)).argmax CheckpointRow.batchSeq with
    | none => rfl
    | some last =>
        rw [hargmax] at hseq
        apply if_pos hseq
  rw [nextSeq, hlatest]
  rfl

end Checkpoints

/-! ### What changes the table -/

/-- The rows read the same in every column. -/
def sameRow (row row' : Columns) : Bool :=
  (row.keys ++ row'.keys).all fun column => row.read column = row'.read column

theorem sameRow_iff {row row' : Columns} :
  sameRow row row' = true ↔ ∀ column, row.read column = row'.read column
  := by
  rw [sameRow, List.all_eq_true]
  constructor
  · intro h column
    by_cases hmem : column ∈ row.keys ++ row'.keys
    · apply of_decide_eq_true (h column hmem)
    · rw [List.mem_append, not_or] at hmem
      rw [Columns.read, Columns.read, AList.lookup_eq_none.mpr hmem.1,
        AList.lookup_eq_none.mpr hmem.2]
  · intro h column _
    apply decide_eq_true (h column)

/-- Two tables have the same row under the key, or none. -/
def sameAt (records records' : Records) (key : RecordKey) : Bool :=
  match records.lookup key, records'.lookup key with
  | none, none => true
  | some row, some row' => sameRow row row'
  | _, _ => false

theorem sameAt_refl {records : Records} {key : RecordKey} :
  sameAt records records key = true
  := by
  rw [sameAt]
  cases records.lookup key with
  | none => rfl
  | some row => apply sameRow_iff.mpr fun _ => rfl

section Turns

variable (req : ImportRequest) (columns : ColumnTypes)

/-- The records of an import, each with the table that it meets at its turn. -/
def turns (records : Records) : List ImportRecord → List (Records × ImportRecord)
  | [] => []
  | record :: imported =>
      (records, record) :: turns (importRecord req columns records record) imported

/-- The import of the record changes the table that it meets. -/
def changesTable (turn : Records × ImportRecord) : Bool :=
  !sameAt turn.1 (importRecord req columns turn.1 turn.2) (recordKey req turn.2)

/-- The table has what its columns make of the record, and yet the upsert takes the row for
another one: some value is not equal to what is read back. -/
def Missed (turn : Records × ImportRecord) : Prop :=
  ∃ existing, turn.1.lookup (recordKey req turn.2) = some existing
    ∧ (∀ column ∈ (recordRow req turn.2).entries,
      existing.read column.1 = columns req.targetTable column.1 column.2)
    ∧ ∃ column ∈ (recordRow req turn.2).entries,
      (columns req.targetTable column.1 column.2).eq column.2 = false

variable {req columns} {records : Records} {imported imported' : List ImportRecord}

@[simp] theorem length_turns :
  (turns req columns records imported).length = imported.length
  := by
  induction imported generalizing records with
  | nil => rfl
  | cons record imported ih => rw [turns, List.length_cons, ih, List.length_cons]

theorem turns_append :
  turns req columns records (imported ++ imported')
    = turns req columns records imported
      ++ turns req columns (imported.foldl (importRecord req columns) records) imported'
  := by
  induction imported generalizing records with
  | nil => rfl
  | cons record imported ih => rw [List.cons_append, turns, ih, turns, List.cons_append,
      List.foldl_cons]

theorem mem_of_mem_turns {turn : Records × ImportRecord}
    (h : turn ∈ turns req columns records imported) :
  turn.2 ∈ imported
  := by
  induction imported generalizing records with
  | nil => cases h
  | cons record imported ih =>
      rcases List.mem_cons.mp h with rfl | h
      · apply List.mem_cons_self
      · apply List.mem_cons_of_mem _ (ih h)

/-- No row is missed where each value is equal to what its column makes of it. -/
theorem not_missed_of_equal {turn : Records × ImportRecord}
    (h : ∀ column ∈ (recordRow req turn.2).entries,
      (columns req.targetTable column.1 column.2).eq column.2 = true) :
  ¬ Missed req columns turn
  := by
  intro ⟨_, _, _, column, hcolumn, hunequal⟩
  rw [h column hcolumn] at hunequal
  cases hunequal

/-- Where the table is up to date, the import changes nothing. -/
theorem not_changesTable_of_upToDate {turn : Records × ImportRecord} (h : UpToDate req turn.1 turn.2) :
  changesTable req columns turn = false
  := by
  rw [changesTable, importRecord, if_pos h, sameAt_refl]
  rfl

/-- What a row reads in a column that was written over it. -/
theorem read_taken_union {key : RecordKey} {row existing : Columns} {column : String} :
  (columns.taken key row ∪ existing).read column
    = ((row.lookup column).map (columns key.table column)).getD (existing.read column)
  := by
  have hlookup : (columns.taken key row).lookup column
      = (row.lookup column).map (columns key.table column) := by
    rw [ColumnTypes.taken, Columns.lookup_mapValues]
  cases hrow : row.lookup column with
  | none =>
      rw [hrow, Option.map_none] at hlookup
      have hnot : column ∉ columns.taken key row := AList.lookup_eq_none.mp hlookup
      rw [Columns.read, AList.lookup_union_right hnot]
      rfl
  | some value =>
      rw [hrow, Option.map_some] at hlookup
      have hmem : column ∈ columns.taken key row := by
        rw [← AList.lookup_isSome, hlookup]
        rfl
      rw [Columns.read, AList.lookup_union_left hmem, hlookup]
      rfl

theorem Missed.not_upToDate {turn : Records × ImportRecord} (h : Missed req columns turn) :
  ¬ UpToDate req turn.1 turn.2
  := by
  obtain ⟨existing, hexisting, hreads, column, hcolumn, hunequal⟩ := h
  rw [UpToDate, hexisting, Option.any_some, carries, List.all_eq_true]
  intro hcarries
  have hequal := hcarries column hcolumn
  rw [hreads column hcolumn, hunequal] at hequal
  cases hequal

/-- An upsert that writes and changes nothing has missed the row. -/
theorem not_changesTable_iff {turn : Records × ImportRecord} (h : ¬ UpToDate req turn.1 turn.2) :
  changesTable req columns turn = false ↔ Missed req columns turn
  := by
  rw [changesTable, importRecord, if_neg h, Bool.not_eq_false', sameAt, AList.lookup_insert]
  cases hlookup : turn.1.lookup (recordKey req turn.2) with
  | none =>
      constructor
      · intro hsame
        cases hsame
      · intro ⟨existing, hexisting, _⟩
        rw [hlookup] at hexisting
        cases hexisting
  | some existing =>
      rw [UpToDate, hlookup, Option.any_some, carries, List.all_eq_true, not_forall] at h
      simp only [not_forall, Bool.not_eq_true] at h
      obtain ⟨differs, hdiffers, hunequal⟩ := h
      simp only [Option.getD_some]
      rw [sameRow_iff]
      constructor
      · intro hsame
        have hreads : ∀ column ∈ (recordRow req turn.2).entries,
            existing.read column.1 = columns req.targetTable column.1 column.2 := by
          intro column hcolumn
          rw [hsame column.1, read_taken_union, AList.mem_lookup_iff.mpr hcolumn]
          rfl
        refine ⟨existing, hlookup, hreads, differs, hdiffers, ?_⟩
        rw [← hreads differs hdiffers, hunequal]
      · intro ⟨existing', hexisting', hreads, _⟩ column
        rw [hlookup] at hexisting'
        obtain rfl := Option.some.inj hexisting'
        rw [read_taken_union]
        cases hcolumn : (recordRow req turn.2).lookup column with
        | none => rfl
        | some value => apply hreads ⟨column, value⟩ (AList.mem_lookup_iff.mp hcolumn)

/-- All upserts that write change the table, if and only if none of them misses its row. -/
theorem countP_turns {ts : List (Records × ImportRecord)} :
  ts.countP (changesTable req columns) = ts.countP (fun turn => ¬ UpToDate req turn.1 turn.2)
    ↔ ∀ turn ∈ ts, ¬ Missed req columns turn
  := by
  have hmono : ∀ turn, changesTable req columns turn = true →
      decide (¬ UpToDate req turn.1 turn.2) = true := by
    intro turn hchanges
    apply decide_eq_true
    intro hcurrent
    rw [not_changesTable_of_upToDate hcurrent] at hchanges
    cases hchanges
  have hmissed : ∀ turn, Missed req columns turn
      ↔ decide (¬ UpToDate req turn.1 turn.2) = true ∧ ¬ changesTable req columns turn = true := by
    intro turn
    rw [decide_eq_true_iff, Bool.not_eq_true]
    constructor
    · intro h
      have hcurrent := h.not_upToDate
      exact ⟨hcurrent, (not_changesTable_iff hcurrent).mpr h⟩
    · intro h
      apply (not_changesTable_iff h.1).mp h.2
  rw [List.countP_eq_length_filter, List.countP_eq_length_filter]
  have hsublist := List.monotone_filter_right ts hmono
  constructor
  · intro hlength turn hturn h
    obtain ⟨hwrites, hunchanged⟩ := (hmissed turn).mp h
    apply hunchanged
    have hmem : turn ∈ ts.filter fun turn => ¬ UpToDate req turn.1 turn.2 :=
      List.mem_filter.mpr ⟨hturn, hwrites⟩
    rw [← hsublist.eq_of_length hlength] at hmem
    apply (List.mem_filter.mp hmem).2
  · intro h
    apply congrArg
    apply List.filter_congr
    intro turn hturn
    rw [Bool.eq_iff_iff]
    constructor
    · apply hmono
    · intro hwrites
      by_contra hunchanged
      apply h turn hturn
      apply (hmissed turn).mpr ⟨hwrites, hunchanged⟩

end Turns

/-! ### The changes of an import -/

/-- The change leaves another row of records than it finds. -/
def changesRecord (d : Tables) : Change → Bool
  | .putRecord key row => !sameAt d.records ((Change.putRecord key row).apply d).records key
  | _ => false

/-- For each lineage row that the changes append, whether they have changed a row of records since
the one before; `changed` tells whether one was changed before they begin. -/
def outcomes : Tables → Bool → List Change → List Bool
  | _, _, [] => []
  | d, changed, w :: ws =>
      if w.lineageRow.isSome then
        changed :: outcomes (w.apply d) false ws
      else
        outcomes (w.apply d) (changed || changesRecord d w) ws

/-- There is an outcome for each lineage row. -/
theorem length_outcomes {d : Tables} {changed : Bool} {ws : List Change} :
  (outcomes d changed ws).length = (appended ws).length
  := by
  induction ws generalizing d changed with
  | nil => rfl
  | cons w ws ih =>
      rw [outcomes]
      cases w with
      | appendLineage row => exact congrArg (· + 1) ih
      | putRecord _ _ | putJob _ | putIdempotency _ _ | appendCheckpoint _ => exact ih

/-- Changes behind a lineage row have their own outcomes. -/
theorem outcomes_append {d₀ d : Tables} (os : List Bool) {ws ws' : List Change}
    (h : ∀ ws', outcomes d₀ false (ws ++ ws') = outcomes d₀ false ws ++ outcomes d false ws')
    (h' : ∀ ws'', outcomes d false (ws' ++ ws'')
      = os ++ outcomes (tenantSchema.applyAll ws' d) false ws'') (ws'' : List Change) :
  outcomes d₀ false (ws ++ ws' ++ ws'')
    = outcomes d₀ false (ws ++ ws') ++ outcomes (tenantSchema.applyAll ws' d) false ws''
  := by
  have hnone := h' []
  rw [List.append_nil, outcomes, List.append_nil] at hnone
  rw [List.append_assoc, h, h', h, hnone, List.append_assoc]

/-- The lineage row tells of the record and of the job. -/
structure Describes (req : ImportRequest) (jobId : String) (record : ImportRecord)
    (row : LineageRow) : Prop where
  sourceRef : row.sourceRef = record.sourceRef
  targetRef : row.targetRef = recordTarget req record
  derivationRef : row.derivationRef = some jobId

/-- What the changes of an import do: each record has its row and its lineage row, and `applied`
of the upserts write. -/
structure Imported (req : ImportRequest) (jobId : String) (d : Tables)
    (imported : List ImportRecord) (ws : List Change) (applied : Nat) : Prop where
  records : (tenantSchema.applyAll ws d).records
    = imported.foldl (importRecord req d.columns) d.records
  idempotency : (tenantSchema.applyAll ws d).idempotency = d.idempotency
  lineage : List.Forall₂ (Describes req jobId) imported (appended ws)
  checkpointed : ∀ cp ∈ checkpointed ws, cp.jobId = jobId
  applied : (turns req d.columns d.records imported).countP
    (fun turn => ¬ UpToDate req turn.1 turn.2) = applied
  outcomes : ∀ ws', outcomes d false (ws ++ ws')
    = (turns req d.columns d.records imported).map (changesTable req d.columns)
      ++ outcomes (tenantSchema.applyAll ws d) false ws'

namespace Imported

variable {req : ImportRequest} {jobId : String} {d : Tables} {imported : List ImportRecord}
  {ws : List Change} {applied : Nat}

theorem nil :
  Imported req jobId d [] [] 0
  := by
  constructor
  · rfl
  · rfl
  · apply List.Forall₂.nil
  · intro cp hcp
    cases hcp
  · rfl
  · intro ws'
    rfl

/-- One import after another. -/
theorem trans (h : Imported req jobId d imported ws applied) {imported' : List ImportRecord}
    {ws' : List Change} {applied' : Nat}
    (h' : Imported req jobId (tenantSchema.applyAll ws d) imported' ws' applied') :
  Imported req jobId d (imported ++ imported') (ws ++ ws') (applied + applied')
  := by
  have hrecords := h'.records
  have happlied := h'.applied
  have houtcomes := h'.outcomes
  rw [columns_applyAll, h.records] at hrecords happlied houtcomes
  constructor
  · rw [Schema.applyAll_append, hrecords, List.foldl_append]
  · rw [Schema.applyAll_append, h'.idempotency, h.idempotency]
  · rw [appended_append]
    apply List.rel_append h.lineage h'.lineage
  · intro cp hcp
    rw [checkpointed_append] at hcp
    rcases List.mem_append.mp hcp with hcp | hcp
    · apply h.checkpointed cp hcp
    · apply h'.checkpointed cp hcp
  · rw [turns_append, List.countP_append, h.applied, happlied]
  · intro ws''
    rw [List.append_assoc, h.outcomes, houtcomes, turns_append, List.map_append,
      List.append_assoc, Schema.applyAll_append]

/-- The upserts that write are no more than the records. -/
theorem applied_le (h : Imported req jobId d imported ws applied) :
  applied ≤ imported.length
  := by
  rw [← h.applied, ← length_turns]
  apply List.countP_le_length

/-- The import of a record with which the table is not up to date. -/
theorem created {record : ImportRecord} {row : LineageRow}
    (hfound : ¬ UpToDate req d.records record) (hrow : Describes req jobId record row) :
  Imported req jobId d [record]
    [.putRecord (recordKey req record) (d.columns.taken (recordKey req record)
      (recordRow req record)), .appendLineage row] 1
  := by
  constructor
  · rw [List.foldl_cons, List.foldl_nil, importRecord, if_neg hfound]
    rfl
  · rfl
  · exact .cons hrow .nil
  · intro cp hcp
    cases hcp
  · rw [turns, turns, List.countP_singleton, if_pos (decide_eq_true hfound)]
  · intro ws'
    have hchanges : changesTable req d.columns (d.records, record)
        = changesRecord d (.putRecord (recordKey req record) (d.columns.taken
          (recordKey req record) (recordRow req record))) := by
      rw [changesTable, importRecord, if_neg hfound]
      rfl
    rw [turns, turns, List.map_singleton, hchanges]
    rfl

/-- The import of a record with which the table is up to date. -/
theorem kept {record : ImportRecord} {row : LineageRow} (hfound : UpToDate req d.records record)
    (hrow : Describes req jobId record row) :
  Imported req jobId d [record] [.appendLineage row] 0
  := by
  constructor
  · rw [List.foldl_cons, List.foldl_nil, importRecord, if_pos hfound]
    rfl
  · rfl
  · exact .cons hrow .nil
  · intro cp hcp
    cases hcp
  · rw [turns, turns, List.countP_singleton, if_neg]
    simp [hfound]
  · intro ws'
    rw [turns, turns, List.map_singleton, not_changesTable_of_upToDate hfound]
    rfl

/-- A checkpoint imports nothing. -/
theorem checkpoint (d : Tables) (cp : CheckpointRow) (hjob : cp.jobId = jobId) :
  Imported req jobId d [] [.appendCheckpoint cp] 0
  := by
  constructor
  · rfl
  · rfl
  · apply List.Forall₂.nil
  · intro cp' hcp'
    obtain rfl := List.mem_singleton.mp hcp'
    apply hjob
  · rfl
  · intro ws'
    rfl

end Imported

end ImportService
