import SnackPortal.Lineage.Forgery
import SnackPortal.Lineage.Reading

/-!
# Segments of a lineage chain

The rows of a chain carry the label of a segment, and the segments follow each other in the
chain.  The summary of a segment is made of separate reads: its first row, its last row, and a
count that takes as many pages as it needs.  Rows may be appended to the last segment between any
two of these reads.

Every summary has the markers at the ends of what it covers, and two summaries pass
`verifyContinuity` if and only if the second is of the next segment.  Its count is that of the
rows between its ends exactly where nothing was appended until the last page was read.
-/

namespace Lineage

/-- Read-only summary of one segment of the chain. -/
structure SegmentInfo where
  segmentId : Int
  firstSeq : Int
  lastSeq : Int
  openingPrevMarker : String
  closingMarker : String
  count : Nat
deriving DecidableEq, Repr

namespace Segmentation

/-- `_COUNT_PAGE`. -/
def countPage : Nat := 1000

/-- `session.page` of the rows of one segment, ordered by `seq`. -/
def page (table : List LineageRow) (segmentId : Int) (descending : Bool) (after : Option Int)
    (limit : Nat) : List LineageRow :=
  let matching := table.filter fun row => row.segmentId = segmentId
  if descending then
    Keyset.page newest matching (after.map OrderDual.toDual) limit
  else
    Keyset.page LineageRow.seq matching after limit

/-- `verify_continuity`: the next segment opens on the closing marker of the one before. -/
def verifyContinuity (prior nxt : SegmentInfo) : Bool :=
  nxt.openingPrevMarker == prior.closingMarker

/-- What a summary comes to.  `indexError` is what the source raises where the second read finds
no row, and `unfinished` says that the fuel ran out. -/
inductive Outcome where
  | absent
  | summary (info : SegmentInfo)
  | indexError
  | unfinished
deriving DecidableEq, Repr

section Reads

variable (tables : Nat → List LineageRow)

/-- `_count`, whose pages are the reads from the `n`th on, each of the table as it is then. -/
def count (segmentId : Int) : Nat → Nat → Option Int → Option Nat
  | 0, _, _ => none
  | fuel + 1, n, after =>
      let rows := page (tables n) segmentId false after countPage
      match rows.getLast? with
      | none => some 0
      | some last =>
          if rows.length < countPage then
            some rows.length
          else
            (count segmentId fuel (n + 1) (some last.seq)).map (rows.length + ·)

/-- `_summary`, whose reads are those from the `n`th on. -/
def summary (segmentId : Int) (fuel n : Nat) : Outcome :=
  match page (tables n) segmentId false none 1 with
  | [] => .absent
  | first :: _ =>
      match page (tables (n + 1)) segmentId true none 1 with
      | [] => .indexError
      | last :: _ =>
          match count tables segmentId fuel (n + 2) none with
          | none => .unfinished
          | some count =>
              .summary
                { segmentId := segmentId
                  firstSeq := first.seq
                  lastSeq := last.seq
                  openingPrevMarker := first.prevMarker
                  closingMarker := last.integrityMarker
                  count := count }

/-- `segment_summary`. -/
def segmentSummary (segmentId : Int) (fuel : Nat) : Outcome :=
  summary tables segmentId fuel 0

/-- `current_segment`: the summary of the segment of the newest row. -/
def currentSegment (fuel : Nat) : Outcome :=
  match PgRoutedSession.page (tables 0) [] true none 1 with
  | [] => .absent
  | head :: _ => summary tables (if head.segmentId = 0 then 1 else head.segmentId) fuel 1

/-- The count is the number of rows that the pages have. -/
theorem count_eq (segmentId : Int) (fuel n : Nat) (after : Option Int) :
  count tables segmentId fuel n after
    = (Keyset.follow LineageRow.seq
        (fun n => (tables n).filter fun row => row.segmentId = segmentId) countPage fuel n
        after).map List.length
  := by
  induction fuel generalizing n after with
  | zero => rfl
  | succ fuel ih =>
      have hlength : (page (tables n) segmentId false after countPage).length ≤ countPage :=
        List.length_take_le _ _
      have hpage : Keyset.page LineageRow.seq ((tables n).filter fun row => row.segmentId = segmentId)
          after countPage = page (tables n) segmentId false after countPage := rfl
      simp only [count, Keyset.follow, Keyset.next, hpage]
      generalize page (tables n) segmentId false after countPage = rows at hlength
      cases hlast : rows.getLast? with
      | none =>
          rw [List.getLast?_eq_none_iff.mp hlast]
          rfl
      | some last =>
          by_cases hfull : rows.length = countPage
          · simp only [hfull, lt_irrefl, if_false, if_true, Option.map_some, ih, Option.map_map]
            congr 1
            funext more
            simp [hfull]
          · have hshort : rows.length < countPage := by omega
            simp [hfull, hshort]

/-- The count whose reads begin with the next one. -/
theorem count_next (segmentId : Int) (fuel n : Nat) (after : Option Int) :
  count (fun n => tables (n + 1)) segmentId fuel n after
    = count tables segmentId fuel (n + 1) after
  := by
  induction fuel generalizing n after with
  | zero => rfl
  | succ fuel ih => simp only [count, ih]

theorem summary_next (segmentId : Int) (fuel n : Nat) :
  summary (fun n => tables (n + 1)) segmentId fuel n = summary tables segmentId fuel (n + 1)
  := by
  simp only [summary, count_next]

end Reads

/-! ### Labels that increase -/

section Labels

variable {rows : List LineageRow} {label : Int}

/-- The labels of neighbours are the same or consecutive. -/
def Labelled (rows : List LineageRow) : Prop :=
  rows.IsChain fun row next =>
    next.segmentId = row.segmentId ∨ next.segmentId = row.segmentId + 1

/-- The rows of a segment. -/
def segmentOf (label : Int) (rows : List LineageRow) : List LineageRow :=
  rows.filter fun row => row.segmentId = label

/-- The rows of the segments before one. -/
def beforeSegment (label : Int) (rows : List LineageRow) : List LineageRow :=
  rows.filter fun row => row.segmentId < label

theorem mem_segmentOf {row : LineageRow} :
  row ∈ segmentOf label rows ↔ row ∈ rows ∧ row.segmentId = label
  := by
  simp [segmentOf]

theorem mem_beforeSegment {row : LineageRow} :
  row ∈ beforeSegment label rows ↔ row ∈ rows ∧ row.segmentId < label
  := by
  simp [beforeSegment]

theorem Labelled.pairwise (h : Labelled rows) :
  rows.Pairwise fun row next => row.segmentId ≤ next.segmentId
  := by
  have htrans : IsTrans LineageRow fun row next => row.segmentId ≤ next.segmentId :=
    ⟨fun _ _ _ => le_trans⟩
  apply List.isChain_iff_pairwise.mp
  apply List.IsChain.imp _ h
  intro row next hnext
  omega

/-- A segment lies behind the segments before it. -/
theorem Labelled.split (h : Labelled rows) (label : Int) :
  ∃ back, rows = beforeSegment label rows ++ segmentOf label rows ++ back
    ∧ ∀ row ∈ back, label < row.segmentId
  := by
  have hpairwise := h.pairwise
  clear h
  induction rows with
  | nil => exact ⟨[], rfl, nofun⟩
  | cons row rows ih =>
      obtain ⟨hfirst, hrows⟩ := List.pairwise_cons.mp hpairwise
      obtain ⟨back, hsplit, hback⟩ := ih hrows
      rcases lt_trichotomy row.segmentId label with hlt | heq | hgt
      · have hne : row.segmentId ≠ label := ne_of_lt hlt
        use back
        constructor
        · simpa [beforeSegment, segmentOf, hlt, hne] using hsplit
        · apply hback
      · have hnone : beforeSegment label rows = [] := by
          apply List.filter_eq_nil_iff.mpr
          intro row' hrow'
          have hle := hfirst row' hrow'
          simp only [decide_eq_true_eq]
          omega
        have hlt : ¬ row.segmentId < label := by omega
        use back
        constructor
        · rw [hnone] at hsplit
          rw [beforeSegment, segmentOf, List.filter_cons_of_neg (by simpa using hlt),
            List.filter_cons_of_pos (by simpa using heq)]
          change row :: rows = beforeSegment label rows ++ row :: segmentOf label rows ++ back
          rw [hnone, List.nil_append, List.cons_append]
          congr 1
        · apply hback
      · have hbefore : beforeSegment label (row :: rows) = [] := by
          apply List.filter_eq_nil_iff.mpr
          intro row' hrow'
          have hle : row.segmentId ≤ row'.segmentId := by
            rcases List.mem_cons.mp hrow' with rfl | hrow'
            · apply le_refl
            · apply hfirst row' hrow'
          simp only [decide_eq_true_eq]
          omega
        have hsegment : segmentOf label (row :: rows) = [] := by
          apply List.filter_eq_nil_iff.mpr
          intro row' hrow'
          have hle : row.segmentId ≤ row'.segmentId := by
            rcases List.mem_cons.mp hrow' with rfl | hrow'
            · apply le_refl
            · apply hfirst row' hrow'
          simp only [decide_eq_true_eq]
          omega
        use row :: rows
        rw [hbefore, hsegment]
        use rfl
        intro row' hrow'
        rcases List.mem_cons.mp hrow' with rfl | hrow'
        · apply hgt
        · apply lt_of_lt_of_le hgt (hfirst row' hrow')

/-- The rows before the next segment end with the segment itself. -/
theorem beforeSegment_succ (h : Labelled rows) (label : Int) :
  beforeSegment (label + 1) rows = beforeSegment label rows ++ segmentOf label rows
  := by
  obtain ⟨back, hsplit, hback⟩ := h.split label
  have hall : ∀ row ∈ beforeSegment label rows ++ segmentOf label rows, row.segmentId < label + 1 := by
    intro row hrow
    rcases List.mem_append.mp hrow with hrow | hrow
    · have hlt := (mem_beforeSegment.mp hrow).2
      omega
    · have heq := (mem_segmentOf.mp hrow).2
      omega
  have hnone : back.filter (fun row => row.segmentId < label + 1) = [] := by
    apply List.filter_eq_nil_iff.mpr
    intro row hrow
    have hlt := hback row hrow
    simp only [decide_eq_true_eq]
    omega
  conv_lhs => rw [beforeSegment, hsplit, List.filter_append, hnone, List.append_nil]
  apply List.filter_eq_self.mpr
  intro row hrow
  apply decide_eq_true (hall row hrow)

/-- The row before a segment has the label before. -/
theorem Labelled.last_before (h : Labelled rows) {last : LineageRow}
    (hlast : (beforeSegment label rows).getLast? = some last) (hne : segmentOf label rows ≠ []) :
  last.segmentId + 1 = label
  := by
  obtain ⟨back, hsplit, -⟩ := h.split label
  obtain ⟨front, hfront⟩ := List.getLast?_eq_some_iff.mp hlast
  obtain ⟨first, rest, hsegment⟩ := List.exists_cons_of_ne_nil hne
  have hlt : last.segmentId < label := (mem_beforeSegment.mp (List.mem_of_getLast? hlast)).2
  have heq : first.segmentId = label := by
    have hmem : first ∈ segmentOf label rows := by
      rw [hsegment]
      apply List.mem_cons_self
    apply (mem_segmentOf.mp hmem).2
  have hchain : Labelled (front ++ last :: first :: (rest ++ back)) := by
    have hrows : rows = front ++ last :: first :: (rest ++ back) := by
      rw [hsplit, hfront, hsegment]
      simp
    rw [← hrows]
    apply h
  have hneighbours := (List.isChain_append.mp hchain).2.1
  have hnext := (List.isChain_cons_cons.mp hneighbours).1
  omega

end Labels

/-! ### A chain that grows at its end -/

/-- The chain of a tenant at every read, and the table that holds it.  Its rows lie in segments
with consecutive labels, of which the last is `top`; what is appended goes to that one. -/
structure Run (hmac : Hmac) (key : String) where
  chain : Nat → List LineageRow
  table : Nat → List LineageRow
  top : Int
  chained : ∀ n, Chained hmac key (chain n)
  hexadecimal : ∀ n, ∀ row ∈ chain n, Hexadecimal row.lineageId
  labelled : ∀ n, Labelled (chain n)
  last_top : ∀ n, ∀ row ∈ (chain n).getLast?, row.segmentId = top
  appends : ∀ n, ∃ rows, chain (n + 1) = chain n ++ rows ∧ ∀ row ∈ rows, row.segmentId = top
  stored : ∀ n, (table n).Perm (chain n)
  seqBigint : ∀ n, ∀ row ∈ chain n, row.seq < 2 ^ 63

namespace Run

variable {hmac : Hmac} {key : String} (run : Run hmac key)

/-- The rows of a segment at a read. -/
def segment (label : Int) (n : Nat) : List LineageRow :=
  segmentOf label (run.chain n)

theorem chain_prefix (n : Nat) :
  run.chain n <+: run.chain (n + 1)
  := by
  obtain ⟨rows, hrows, -⟩ := run.appends n
  rw [hrows]
  apply List.prefix_append

theorem segment_prefix (label : Int) {n m : Nat} (h : n ≤ m) :
  run.segment label n <+: run.segment label m
  := by
  induction m, h using Nat.le_induction with
  | base => apply List.prefix_refl
  | succ m _ ih =>
      apply ih.trans
      apply (run.chain_prefix m).filter

theorem chain_subset {n m : Nat} (h : n ≤ m) :
  run.chain n ⊆ run.chain m
  := by
  induction m, h using Nat.le_induction with
  | base => apply List.Subset.refl
  | succ m _ ih => apply List.Subset.trans ih (run.chain_prefix m).subset

/-- No label is above that of the last segment. -/
theorem le_top {n : Nat} {row : LineageRow} (hrow : row ∈ run.chain n) :
  row.segmentId ≤ run.top
  := by
  have hne := List.ne_nil_of_mem hrow
  have hlast := List.getLast?_eq_getLast_of_ne_nil hne
  obtain ⟨front, hfront⟩ := List.getLast?_eq_some_iff.mp hlast
  have htop := run.last_top n _ hlast
  have hpairwise := (run.labelled n).pairwise
  rw [hfront] at hrow hpairwise
  rcases List.mem_append.mp hrow with hrow | hrow
  · have hle := (List.pairwise_append.mp hpairwise).2.2 row hrow _ (List.mem_singleton_self _)
    rw [htop] at hle
    apply hle
  · rw [List.mem_singleton.mp hrow, htop]

/-- What lies before the last segment does not change. -/
theorem beforeSegment_eq {label : Int} (h : label ≤ run.top) (n m : Nat) :
  beforeSegment label (run.chain n) = beforeSegment label (run.chain m)
  := by
  have hstep : ∀ n, beforeSegment label (run.chain n) = beforeSegment label (run.chain 0) := by
    intro n
    induction n with
    | zero => rfl
    | succ n ih =>
        obtain ⟨rows, hrows, htop⟩ := run.appends n
        have hnone : rows.filter (fun row => row.segmentId < label) = [] := by
          apply List.filter_eq_nil_iff.mpr
          intro row hrow
          simp only [htop row hrow, decide_eq_true_eq]
          omega
        rw [hrows, ← ih, beforeSegment, List.filter_append, hnone, List.append_nil]
        rfl
  rw [hstep n, hstep m]

/-- A segment that is not the last does not change. -/
theorem segment_eq {label : Int} (h : label ≠ run.top) (n m : Nat) :
  run.segment label n = run.segment label m
  := by
  have hstep : ∀ n, run.segment label n = run.segment label 0 := by
    intro n
    induction n with
    | zero => rfl
    | succ n ih =>
        obtain ⟨rows, hrows, htop⟩ := run.appends n
        have hnone : rows.filter (fun row => row.segmentId = label) = [] := by
          apply List.filter_eq_nil_iff.mpr
          intro row hrow
          simp only [htop row hrow, decide_eq_true_eq]
          omega
        rw [← ih, segment, hrows, segmentOf, List.filter_append, hnone, List.append_nil]
        rfl
  rw [hstep n, hstep m]

/-- A segment is a part of the chain: it opens on the last marker of what lies before it. -/
theorem segment_linked (label : Int) (n : Nat) :
  Linked hmac key (1 + (beforeSegment label (run.chain n)).length)
    (lastMarker "" (beforeSegment label (run.chain n))) (run.segment label n)
  := by
  obtain ⟨back, hsplit, -⟩ := (run.labelled n).split label
  have hchained := run.chained n
  rw [Chained, hsplit, List.append_assoc] at hchained
  apply (Linked.append_iff.mp (Linked.append_iff.mp hchained).2).1

theorem segment_increasing (label : Int) (n : Nat) :
  Keyset.Increasing LineageRow.seq (run.segment label n)
  := (run.segment_linked label n).pairwise

/-- The rows of the table that belong to a segment are those of the chain. -/
theorem stored_segment (label : Int) (n : Nat) :
  ((run.table n).filter fun row => row.segmentId = label).Perm (run.segment label n)
  := (run.stored n).filter _

/-- The first row, as it is read. -/
theorem page_first (label : Int) (n : Nat) :
  page (run.table n) label false none 1 = (run.segment label n).take 1
  := by
  have hperm : ((run.table n).filter fun row => row.segmentId = label).Perm
      ([] ++ run.segment label n) := run.stored_segment label n
  apply Keyset.page_eq_take hperm (run.segment_increasing label n)

/-- The last row, as it is read. -/
theorem page_last (label : Int) (n : Nat) :
  page (run.table n) label true none 1 = (run.segment label n).reverse.take 1
  := by
  have hperm : ((run.table n).filter fun row => row.segmentId = label).Perm
      ([] ++ (run.segment label n).reverse) :=
    (run.stored_segment label n).trans (List.reverse_perm _).symm
  have hnewest : Keyset.Increasing newest ([] ++ (run.segment label n).reverse) :=
    List.pairwise_reverse.mpr (run.segment_increasing label n)
  apply Keyset.page_eq_take hperm hnewest

/-- The count comes to an end, and is that of the rows at the read of its last page.  Every page
before that one was full. -/
theorem exists_count (label : Int) (n : Nat) :
  ∃ fuel, (count run.table label fuel n none).isSome
  := by
  have hkeys : ∀ n, ∀ row ∈ (run.table n).filter (fun row => row.segmentId = label),
      row.seq ∈ Finset.Ico (1 : Int) (2 ^ 63) := by
    intro n row hrow
    have hmem : row ∈ run.chain n :=
      (run.stored n).mem_iff.mp (List.mem_of_mem_filter hrow)
    apply Finset.mem_Ico.mpr
    use ((run.chained n).seq_bounds hmem).1
    apply run.seqBigint n row hmem
  obtain ⟨fuel, hfuel⟩ := exists_gt
    ((Finset.Ico (1 : Int) (2 ^ 63)).filter fun k => ∀ k' ∈ (none : Option Int), k' < k).card
  use fuel
  rw [count_eq, Option.isSome_map]
  apply Keyset.follow_isSome hkeys hfuel

theorem count_spec {label : Int} {fuel n total : Nat}
    (h : count run.table label fuel n none = some total) :
  ∃ k, total = (run.segment label (n + k)).length ∧ total < (k + 1) * countPage
    ∧ ∀ j < k, (j + 1) * countPage ≤ (run.segment label (n + j)).length
  := by
  rw [count_eq] at h
  obtain ⟨rows, hrows, rfl⟩ := Option.map_eq_some_iff.mp h
  have hread : ([] : List LineageRow) <+: run.segment label n := List.nil_prefix
  obtain ⟨k, hlist, hlength, hbefore⟩ := Keyset.follow_appended (run.stored_segment label)
    (run.segment_increasing label) (fun n => run.segment_prefix label (Nat.le_succ n))
    (by decide) hread hrows
  use k
  rw [List.nil_append] at hlist
  rw [← hlist]
  use rfl, hlength
  intro j hj
  have hle := hbefore j hj
  rw [List.length_nil, Nat.zero_add] at hle
  apply hle

theorem head?_of_take {rows rest : List LineageRow} {row : LineageRow}
    (h : rows.take 1 = row :: rest) :
  rows.head? = some row
  := by
  cases rows with
  | nil => cases h
  | cons first rows => rw [List.head?_cons, (List.cons.inj h).1]

/-- The parts of a summary. -/
theorem summary_spec {label : Int} {fuel n : Nat} {info : SegmentInfo}
    (h : summary run.table label fuel n = .summary info) :
  ∃ first last, (run.segment label n).head? = some first
    ∧ (run.segment label (n + 1)).getLast? = some last
    ∧ count run.table label fuel (n + 2) none = some info.count
    ∧ info.segmentId = label ∧ info.firstSeq = first.seq ∧ info.lastSeq = last.seq
    ∧ info.openingPrevMarker = first.prevMarker ∧ info.closingMarker = last.integrityMarker
  := by
  rw [summary, page_first, page_last] at h
  split at h
  · cases h
  · rename_i first _ hfirst
    split at h
    · cases h
    · rename_i last _ hlast
      split at h
      · cases h
      · rename_i total htotal
        obtain rfl := Outcome.summary.inj h
        use first, last
        constructor
        · apply head?_of_take hfirst
        · constructor
          · rw [List.getLast?_eq_head?_reverse]
            apply head?_of_take hlast
          · exact ⟨htotal, rfl, rfl, rfl, rfl, rfl⟩

/-- A segment with rows is summarised. -/
theorem exists_summary (label : Int) (n : Nat) :
  (run.segment label n = [] ∧ ∀ fuel, summary run.table label fuel n = .absent)
    ∨ ∃ fuel info, summary run.table label fuel n = .summary info
  := by
  cases hrows : run.segment label n with
  | nil =>
      left
      use rfl
      intro fuel
      rw [summary, page_first, hrows]
      rfl
  | cons first rest =>
      right
      obtain ⟨more, hmore⟩ := run.segment_prefix label (Nat.le_succ n)
      obtain ⟨fuel, hfuel⟩ := run.exists_count label (n + 2)
      obtain ⟨total, htotal⟩ := Option.isSome_iff_exists.mp hfuel
      have hne : (run.segment label (n + 1)).reverse ≠ [] := by
        rw [← hmore, hrows]
        simp
      obtain ⟨last, before, hlast⟩ := List.exists_cons_of_ne_nil hne
      use fuel
      simp only [summary, page_first, page_last, hrows, hlast, htotal, List.take_succ_cons,
        Outcome.summary.injEq, exists_eq']

/-- The numbers at the ends of a segment. -/
theorem seq_of_ends {label : Int} {n : Nat} {first last : LineageRow}
    (hfirst : (run.segment label n).head? = some first)
    (hlast : (run.segment label n).getLast? = some last) :
  last.seq - first.seq + 1 = (run.segment label n).length
  := by
  have hlinked := run.segment_linked label n
  generalize run.segment label n = rows at *
  cases rows with
  | nil => cases hfirst
  | cons row rest =>
      obtain rfl := Option.some.inj hfirst
      have hzero := hlinked.seq_getElem (k := 0) (by simp)
      have hend := hlinked.seq_getElem (k := rest.length) (by simp)
      have hget : (row :: rest)[rest.length]? = some last := by
        rw [← hlast, List.getLast?_eq_getElem?]
        rfl
      obtain ⟨hlt, heq⟩ := List.getElem?_eq_some_iff.mp hget
      rw [heq] at hend
      simp only [List.getElem_cons_zero] at hzero
      rw [hend, hzero, List.length_cons]
      push_cast
      omega

/-- Nothing is appended to the segment between the read of its last row and that of the page on
which the count of the rows there were ends. -/
def Untouched (label : Int) (n : Nat) : Prop :=
  run.segment label (n + 2 + (run.segment label (n + 1)).length / countPage)
    = run.segment label (n + 1)

/-- The count is that of the rows at the read of the last row exactly when nothing was appended
until it was taken. -/
theorem count_iff {label : Int} {fuel n total : Nat}
    (h : count run.table label fuel (n + 2) none = some total) :
  total = (run.segment label (n + 1)).length ↔ run.Untouched label n
  := by
  obtain ⟨k, htotal, hlast, hbefore⟩ := run.count_spec h
  have hmono : ∀ {i j : Nat}, i ≤ j →
      (run.segment label i).length ≤ (run.segment label j).length :=
    fun hij => (run.segment_prefix label hij).length_le
  have hdiv := Nat.div_add_mod (run.segment label (n + 1)).length countPage
  have hmod := Nat.mod_lt (run.segment label (n + 1)).length (show 0 < countPage by decide)
  rw [Untouched]
  generalize (run.segment label (n + 1)).length / countPage = pages at *
  constructor
  · intro heq
    have hle : pages ≤ k := by
      by_contra hgt
      have hmul : (k + 1) * countPage ≤ pages * countPage := Nat.mul_le_mul_right _ (by omega)
      rw [Nat.mul_comm pages] at hmul
      omega
    symm
    apply (run.segment_prefix label (by omega)).eq_of_length
    apply le_antisymm
    · apply hmono
      omega
    · rw [← heq, htotal]
      apply hmono
      omega
  · intro hsame
    have hle : k ≤ pages := by
      by_contra hgt
      have hfull := hbefore pages (by omega)
      rw [hsame, Nat.add_mul, Nat.one_mul, Nat.mul_comm] at hfull
      omega
    apply le_antisymm
    · rw [htotal, ← hsame]
      apply hmono
      omega
    · rw [htotal]
      apply hmono
      omega

/-- The beginning of the content of a row. -/
theorem join_covered (row : LineageRow) :
  ∃ rest, Delimited.join Canonical.sep (covered row)
    = row.prevMarker ++ String.singleton Canonical.sep
      ++ (row.lineageId ++ String.singleton Canonical.sep
        ++ (row.seq.repr ++ String.singleton Canonical.sep ++ rest))
  := by
  rw [covered_eq, Delimited.join_cons, Delimited.join_cons, Delimited.join_cons]
  exact ⟨_, rfl⟩

/-- A row of the chain is determined by its marker, whatever its covered texts hold: no separator
is before the number of the row. -/
theorem eq_of_marker (hd : KeyedDigest hmac) {n : Nat} {row row' : LineageRow}
    (hrow : row ∈ run.chain n) (hrow' : row' ∈ run.chain n)
    (heq : row.integrityMarker = row'.integrityMarker) :
  row = row'
  := by
  have hhex : ∀ text, Hexadecimal text → Delimited.Clean Canonical.sep text := by
    intro text htext hsep
    apply absurd (htext _ hsep)
    decide
  have hprev : ∀ row ∈ run.chain n, Delimited.Clean Canonical.sep row.prevMarker := by
    intro row hrow
    obtain ⟨front, back, hchain⟩ := List.append_of_mem hrow
    have hchained := run.chained n
    rw [hchain] at hchained
    rw [(Linked.append_iff.mp hchained).2.2.1, lastMarker]
    cases hlast : front.getLast? with
    | none => simp [Delimited.Clean]
    | some last =>
        have hmem : last ∈ run.chain n := by
          rw [hchain]
          apply List.mem_append_left _ (List.mem_of_getLast? hlast)
        simp only [Option.map_some, Option.getD_some]
        rw [((run.chained n).marked last hmem).integrityMarker]
        apply hhex
        apply hd.hexadecimal
  rw [((run.chained n).marked row hrow).integrityMarker,
    ((run.chained n).marked row' hrow').integrityMarker] at heq
  have hbytes := hd.injective key.toUTF8 heq
  rw [String.toUTF8_eq_toByteArray, String.toUTF8_eq_toByteArray] at hbytes
  have hjoin := String.toByteArray_inj.mp hbytes
  obtain ⟨rest, hrest⟩ := join_covered row
  obtain ⟨rest', hrest'⟩ := join_covered row'
  rw [hrest, hrest'] at hjoin
  obtain ⟨-, hjoin⟩ := Delimited.cut_inj (hprev row hrow) (hprev row' hrow') hjoin
  obtain ⟨-, hjoin⟩ := Delimited.cut_inj (hhex _ (run.hexadecimal n row hrow))
    (hhex _ (run.hexadecimal n row' hrow')) hjoin
  obtain ⟨hseq, -⟩ := Delimited.cut_inj (clean_repr _) (clean_repr _) hjoin
  apply (run.chained n).increasing.eq_of_key hrow hrow' (Int.repr_injective hseq)

/-- A segment opens on the last marker before it. -/
theorem opening_eq {label : Int} {n : Nat} {first : LineageRow}
    (hfirst : (run.segment label n).head? = some first) :
  first.prevMarker = lastMarker "" (beforeSegment label (run.chain n))
  := by
  have hlinked := run.segment_linked label n
  cases hrows : run.segment label n with
  | nil =>
      rw [hrows] at hfirst
      cases hfirst
  | cons row rest =>
      rw [hrows] at hfirst hlinked
      obtain rfl := Option.some.inj hfirst
      apply hlinked.2.1

/-- The next segment, and no other, opens on the marker on which one closes. -/
theorem opening_iff (hd : KeyedDigest hmac) {label label' : Int} {n m : Nat}
    {last first : LineageRow} (hlast : (run.segment label n).getLast? = some last)
    (hfirst : (run.segment label' m).head? = some first) :
  first.prevMarker = last.integrityMarker ↔ label' = label + 1
  := by
  have hlastMem := mem_segmentOf.mp (List.mem_of_getLast? hlast)
  have hfirstMem := mem_segmentOf.mp (List.mem_of_mem_head? hfirst)
  have htop : label' ≤ run.top := by
    rw [← hfirstMem.2]
    apply run.le_top hfirstMem.1
  rw [run.opening_eq hfirst, run.beforeSegment_eq htop m (max n m)]
  have hlastMax : last ∈ run.chain (max n m) := run.chain_subset (le_max_left n m) hlastMem.1
  constructor
  · intro hopening
    rw [lastMarker] at hopening
    cases hbefore : (beforeSegment label' (run.chain (max n m))).getLast? with
    | none =>
        rw [hbefore, Option.map_none, Option.getD_none,
          ((run.chained n).marked last hlastMem.1).integrityMarker] at hopening
        cases hd.nonempty _ _ hopening.symm
    | some before =>
        rw [hbefore, Option.map_some, Option.getD_some] at hopening
        have hmem := mem_beforeSegment.mp (List.mem_of_getLast? hbefore)
        have hsame := run.eq_of_marker hd hmem.1 hlastMax hopening
        have hne : segmentOf label' (run.chain (max n m)) ≠ [] := by
          apply List.ne_nil_of_mem (a := first)
          apply mem_segmentOf.mpr
          exact ⟨run.chain_subset (le_max_right n m) hfirstMem.1, hfirstMem.2⟩
        have hnext := (run.labelled (max n m)).last_before hbefore hne
        rw [hsame, hlastMem.2] at hnext
        apply hnext.symm
  · rintro rfl
    have hclosed : run.segment label (max n m) = run.segment label n := by
      apply run.segment_eq
      omega
    have hend : (segmentOf label (run.chain (max n m))).getLast? = some last := by
      rw [← hlast, ← hclosed, segment]
    rw [beforeSegment_succ (run.labelled _) label, lastMarker, List.getLast?_append, hend]
    rfl

end Run

/-! ### The summaries -/

variable {hmac : Hmac} {key : String}

/-- The summaries of the segments of a growing chain.  A summary is made of every segment that
has rows; it has the numbers and the markers of the first and the last row that were read; two
of them pass the check of continuity exactly when the second is of the next segment; and the
count is that of the rows from the first to the last number exactly when no row was appended to
the segment until the last page of the count was read. -/
theorem summaries_spec (hd : KeyedDigest hmac) (run : Run hmac key) (label : Int) (n : Nat) :
  ((run.segment label n = [] ∧ ∀ fuel, summary run.table label fuel n = .absent)
      ∨ ∃ fuel info, summary run.table label fuel n = .summary info)
    ∧ ∀ fuel info, summary run.table label fuel n = .summary info →
      (∃ first last, (run.segment label n).head? = some first
          ∧ (run.segment label (n + 1)).getLast? = some last
          ∧ info.firstSeq = first.seq ∧ info.lastSeq = last.seq
          ∧ info.openingPrevMarker = first.prevMarker
          ∧ info.closingMarker = last.integrityMarker)
        ∧ (∀ label' fuel' m info', summary run.table label' fuel' m = .summary info' →
            (verifyContinuity info info' = true ↔ label' = label + 1))
        ∧ ((info.count : Int) = info.lastSeq - info.firstSeq + 1 ↔ run.Untouched label n)
  := by
  use run.exists_summary label n
  intro fuel info h
  obtain ⟨first, last, hfirst, hlast, hcount, -, hfirstSeq, hlastSeq, hopening, hclosing⟩ :=
    run.summary_spec h
  constructor
  · exact ⟨first, last, hfirst, hlast, hfirstSeq, hlastSeq, hopening, hclosing⟩
  · constructor
    · intro label' fuel' m info' h'
      obtain ⟨first', last', hfirst', -, -, -, -, -, hopening', -⟩ := run.summary_spec h'
      rw [verifyContinuity, beq_iff_eq, hopening', hclosing]
      apply run.opening_iff hd hlast hfirst'
    · obtain ⟨rest, hrest⟩ := run.segment_prefix label (Nat.le_succ n)
      have hfirst' : (run.segment label (n + 1)).head? = some first := by
        rw [← hrest, List.head?_append, hfirst]
        rfl
      rw [hfirstSeq, hlastSeq, run.seq_of_ends hfirst' hlast, Nat.cast_inj]
      apply run.count_iff hcount

/-- The newest row, as it is read. -/
theorem Run.page_newest (run : Run hmac key) (n : Nat) :
  PgRoutedSession.page (run.table n) [] true none 1 = (run.chain n).reverse.take 1
  := by
  have hperm : ((run.table n).filter (Where.holds [])).Perm ([] ++ (run.chain n).reverse) := by
    have hall : (run.table n).filter (Where.holds []) = run.table n :=
      List.filter_eq_self.mpr fun _ _ => rfl
    rw [hall]
    apply (run.stored n).trans (List.reverse_perm _).symm
  have hnewest : Keyset.Increasing newest ([] ++ (run.chain n).reverse) :=
    List.pairwise_reverse.mpr (run.chained n).increasing
  apply Keyset.page_eq_take hperm hnewest

/-- The current segment is the last one: where there are rows, its summary is the one of the
reads that follow the first.  Segments are numbered from one. -/
theorem currentSegment_spec (run : Run hmac key) (htop : run.top ≠ 0) (fuel : Nat) :
  (run.chain 0 = [] ∧ currentSegment run.table fuel = .absent)
    ∨ (run.chain 0 ≠ [] ∧ currentSegment run.table fuel
      = segmentSummary (fun n => run.table (n + 1)) run.top fuel)
  := by
  rw [currentSegment, segmentSummary, summary_next, run.page_newest]
  rcases List.eq_nil_or_concat (run.chain 0) with hnil | ⟨front, last, hlast⟩
  · left
    rw [hnil]
    exact ⟨rfl, rfl⟩
  · right
    rw [List.concat_eq_append] at hlast
    have htop' : last.segmentId = run.top := by
      apply run.last_top 0
      rw [hlast, List.getLast?_concat]
      rfl
    rw [hlast, List.reverse_concat]
    use List.append_ne_nil_of_right_ne_nil front (List.cons_ne_nil last [])
    simp only [List.take_succ_cons, htop', if_neg htop]

/-! ### A chain of two rows -/

def openingRow : LineageRow := firstRow "user1" "g:1" "t1:tenant_copy:1" firstMarker

def appendedRow : LineageRow :=
  (LineageEmit.row sampleHmac "chainkey" (some openingRow) "5d1f0c8e2b7a4e6c9f3b1a0d4c6e8f72"
    (importIntent "user1" "g:1" "t1:tenant_copy:2")).toOption.getD openingRow

theorem emitted_opening :
  Emitted sampleHmac "chainkey" [openingRow]
  := .emit .nil (show Hexadecimal firstLineageId by decide)
    (importIntent "user1" "g:1" "t1:tenant_copy:1") (by decide +kernel)

theorem emitted_appended :
  Emitted sampleHmac "chainkey" [openingRow, appendedRow]
  := .emit emitted_opening (show Hexadecimal "5d1f0c8e2b7a4e6c9f3b1a0d4c6e8f72" by decide)
    (importIntent "user1" "g:1" "t1:tenant_copy:2") (by decide +kernel)

/-- The second row is appended between the second read and the third. -/
def sampleChain (n : Nat) : List LineageRow :=
  if n ≤ 1 then [openingRow] else [openingRow, appendedRow]

theorem sampleChain_emitted (n : Nat) :
  Emitted sampleHmac "chainkey" (sampleChain n)
  := by
  rw [sampleChain]
  split
  · apply emitted_opening
  · apply emitted_appended

def sampleRun : Run sampleHmac "chainkey" where
  chain := sampleChain
  table := sampleChain
  top := 1
  chained n := (sampleChain_emitted n).chained
  hexadecimal n := (sampleChain_emitted n).hexadecimal
  labelled n := by
    rw [sampleChain]
    split
    · apply List.isChain_singleton
    · apply List.isChain_pair.mpr
      decide +kernel
  last_top n := by
    rw [sampleChain]
    split
    · intro row hrow
      obtain rfl := Option.some.inj hrow
      rfl
    · intro row hrow
      obtain rfl := Option.some.inj hrow
      decide +kernel
  appends n := by
    rcases Nat.lt_trichotomy n 1 with hlt | rfl | hgt
    · obtain rfl : n = 0 := by omega
      exact ⟨[], rfl, nofun⟩
    · use [appendedRow], rfl
      intro row hrow
      obtain rfl := List.mem_singleton.mp hrow
      decide +kernel
    · use []
      constructor
      · rw [sampleChain, sampleChain, if_neg (by omega), if_neg (by omega), List.append_nil]
      · nofun
  stored n := List.Perm.refl _
  seqBigint n := by
    rw [sampleChain]
    split
    · decide +kernel
    · decide +kernel

theorem sampleRun_summary :
  summary sampleRun.table 1 1 2
    = .summary ⟨1, 1, 2, "", appendedRow.integrityMarker, 2⟩
  := by
  decide +kernel

theorem summaries_spec_sample :
  ∃ info, summary sampleRun.table 1 1 2 = .summary info
    ∧ (info.count : Int) = info.lastSeq - info.firstSeq + 1
  := by
  use ⟨1, 1, 2, "", appendedRow.integrityMarker, 2⟩, sampleRun_summary
  apply ((summaries_spec sampleHmac_digest sampleRun 1 2).2 1 _ sampleRun_summary).2.2.mpr
  rfl

/-- A row that is appended after the last row was read is counted. -/
theorem summary_counts_appended :
  ∃ info, summary sampleRun.table 1 1 0 = .summary info
    ∧ (info.count : Int) ≠ info.lastSeq - info.firstSeq + 1
  := by
  use ⟨1, 1, 1, "", firstMarker, 2⟩
  decide +kernel

end Segmentation

end Lineage
