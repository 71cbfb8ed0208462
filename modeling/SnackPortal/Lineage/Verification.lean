import SnackPortal.Data.Keyset
import SnackPortal.Lineage.Chain

/-!
# Verification of a lineage chain

The verifier reads the table page by page, computes the marker of every row again, and checks
that each row names the marker of the row before it and has the number after it.  What it
reads are the rows in the order of their numbers (`scanAscending_complete`), and it finds
nothing in a chain or in a beginning of one (`verify_chained`).
-/

namespace Lineage

inductive FindingKind where
  | markerMismatch
  | brokenLink
  | seqGap
deriving DecidableEq, Repr

structure VerificationFinding where
  kind : FindingKind
  seq : Int
  lineageId : String
  detail : String
deriving DecidableEq, Repr

structure VerificationReport where
  tenantId : String
  scanned : Nat
  ok : Bool
  firstSeq : Option Int
  lastSeq : Option Int
  findings : List VerificationFinding
deriving DecidableEq, Repr

/-- The numbers of the rows are distinct, which the table's constraint on `seq` demands. -/
def UniqueSeq (table : List LineageRow) : Prop :=
  (table.map LineageRow.seq).Nodup

instance (table : List LineageRow) : Decidable (UniqueSeq table) :=
  inferInstanceAs (Decidable (table.map LineageRow.seq).Nodup)

/-! ### The scan -/

/-- `_scan_ascending`: pages until an empty or a short one, or until enough rows are read.  The
pages are the reads from the `n`th on; `none` where the fuel runs out. -/
def scanAscending (page : Nat → Option Int → List LineageRow) (scanPage : Nat)
    (maxRecords : Option Nat) :
    Nat → Nat → Option Int → List LineageRow → Option (List LineageRow)
  | 0, _, _, _ => none
  | fuel + 1, n, after, out =>
      match page n after with
      | [] => some out
      | row :: rows =>
          match maxRecords.filter (· ≤ (out ++ row :: rows).length) with
          | some most => some ((out ++ row :: rows).take most)
          | none =>
              if (row :: rows).length < scanPage then
                some (out ++ row :: rows)
              else
                scanAscending page scanPage maxRecords fuel (n + 1)
                  ((row :: rows).getLast?.map LineageRow.seq) (out ++ row :: rows)

/-- The session's pages of a table. -/
def tablePage (table : List LineageRow) (scanPage : Nat) (after : Option Int) :
    List LineageRow :=
  Keyset.page LineageRow.seq table after scanPage

/-- The rows of the table past a number. -/
def past (table : List LineageRow) (after : Option Int) : List LineageRow :=
  table.filter fun row => Keyset.Past LineageRow.seq after row

/-- Fewer rows lie past the last row of a page than past the key of the page. -/
theorem past_lt {table : List LineageRow} {scanPage : Nat} {after : Option Int}
    {last : LineageRow} (h : last ∈ tablePage table scanPage after) :
  (past table (some last.seq)).length < (past table after).length
  := by
  obtain ⟨hmem, hpast⟩ := Keyset.past_of_mem_page h
  have hle : ∀ row, Keyset.Past LineageRow.seq (some last.seq) row →
      Keyset.Past LineageRow.seq after row := by
    intro row hrow k hk
    apply lt_trans (hpast k hk) (hrow _ rfl)
  have htwice : past table (some last.seq)
      = (past table after).filter fun row =>
          Keyset.Past LineageRow.seq (some last.seq) row := by
    rw [past, past, List.filter_filter]
    apply List.filter_congr
    intro row _
    rw [Bool.eq_iff_iff]
    simp only [Bool.and_eq_true, decide_eq_true_eq]
    constructor
    · intro hrow
      exact ⟨hrow, hle row hrow⟩
    · intro hrow
      apply hrow.1
  rw [htwice]
  apply List.length_filter_lt_length_iff_exists.mpr
  use last
  constructor
  · apply List.mem_filter.mpr
    exact ⟨hmem, decide_eq_true hpast⟩
  · intro hself
    apply lt_irrefl last.seq
    apply of_decide_eq_true hself last.seq rfl

/-- The scan of a table ends. -/
theorem scanAscending_isSome {table : List LineageRow} {scanPage : Nat}
    {maxRecords : Option Nat} {fuel n : Nat} {after : Option Int} {out : List LineageRow}
    (hfuel : (past table after).length < fuel) :
  (scanAscending (fun _ => tablePage table scanPage) scanPage maxRecords fuel n after out).isSome
  := by
  induction fuel generalizing n after out with
  | zero => exact absurd hfuel (Nat.not_lt_zero _)
  | succ fuel ih =>
      rw [scanAscending]
      split
      · rfl
      · rename_i row rows hpage
        split
        · rfl
        · split
          · rfl
          · apply ih
            have hne : row :: rows ≠ [] := List.cons_ne_nil row rows
            have hlast : (row :: rows).getLast hne ∈ tablePage table scanPage after := by
              rw [hpage]
              apply List.getLast_mem
            rw [List.getLast?_eq_getLast_of_ne_nil hne]
            apply lt_of_lt_of_le (past_lt hlast) (Nat.le_of_lt_succ hfuel)

section Scan

variable {tables lists : Nat → List LineageRow} {read out : List LineageRow}
  {scanPage fuel n : Nat} {maxRecords : Option Nat}

/-- Where rows are only added at the end, whatever the page size, the scan returns a beginning of
the rows at some read; without a limit, and with pages of at least one row, it returns all. -/
theorem scanAscending_spec (hperm : ∀ n, (tables n).Perm (lists n))
    (hincreasing : ∀ n, Keyset.Increasing LineageRow.seq (lists n))
    (hgrow : ∀ n, lists n <+: lists (n + 1)) (hread : read <+: lists n)
    (hscan : scanAscending (fun n => tablePage (tables n) scanPage) scanPage maxRecords fuel n
      (read.getLast?.map LineageRow.seq) read = some out) :
  ∃ m, out <+: lists m ∧ (0 < scanPage → maxRecords = none → out = lists m)
  := by
  induction fuel generalizing n read with
  | zero => cases hscan
  | succ fuel ih =>
      obtain ⟨rest, hrest⟩ := hread
      have hpage : tablePage (tables n) scanPage (read.getLast?.map LineageRow.seq)
          = rest.take scanPage := by
        apply Keyset.page_eq_take
        · rw [hrest]
          apply hperm
        · rw [hrest]
          apply hincreasing
      have hnext : read ++ rest.take scanPage <+: lists n := by
        rw [← hrest]
        apply (List.prefix_append_right_inj read).mpr (List.take_prefix scanPage rest)
      rw [scanAscending, hpage] at hscan
      split at hscan
      · rename_i hnil
        obtain rfl := Option.some.inj hscan
        use n, ⟨rest, hrest⟩
        intro hsize _
        have hnone : rest = [] := by
          rcases List.take_eq_nil_iff.mp hnil with hzero | hnone
          · omega
          · apply hnone
        rw [← hrest, hnone, List.append_nil]
      · rename_i row rows hrows
        rw [← hrows] at hscan
        split at hscan
        · rename_i most hmost
          obtain rfl := Option.some.inj hscan
          use n, (List.take_prefix most _).trans hnext
          rintro - rfl
          cases hmost
        · split at hscan
          · rename_i hshort
            obtain rfl := Option.some.inj hscan
            use n, hnext
            intro _ _
            rw [List.length_take] at hshort
            rw [List.take_of_length_le (by omega), hrest]
          · have hlast : (rest.take scanPage).getLast?
                = (read ++ rest.take scanPage).getLast? := by
              rw [List.getLast?_append_of_ne_nil]
              rw [hrows]
              apply List.cons_ne_nil
            rw [hlast] at hscan
            apply ih (hnext.trans (hgrow n)) hscan

/-- A scan of a table from the start reads a beginning of the rows. -/
theorem scan_isPrefix {table rows : List LineageRow} (hperm : table.Perm rows)
    (h : Keyset.Increasing LineageRow.seq rows)
    (hscan : scanAscending (fun _ => tablePage table scanPage) scanPage maxRecords fuel 0 none []
      = some out) :
  out <+: rows
  := by
  obtain ⟨-, hprefix, -⟩ := scanAscending_spec (fun _ => hperm) (fun _ => h)
    (fun _ => List.prefix_rfl) List.nil_prefix hscan
  apply hprefix

/-- A scan of a table from the start reads all rows, with pages of at least one row. -/
theorem scan_complete {table rows : List LineageRow} (hpage : 0 < scanPage)
    (hperm : table.Perm rows) (h : Keyset.Increasing LineageRow.seq rows)
    (hfuel : rows.length < fuel) :
  scanAscending (fun _ => tablePage table scanPage) scanPage none fuel 0 none [] = some rows
  := by
  have hends : (scanAscending (fun _ => tablePage table scanPage) scanPage none fuel 0 none
      []).isSome := by
    apply scanAscending_isSome
    apply lt_of_le_of_lt (List.length_filter_le _ _)
    rw [hperm.length_eq]
    apply hfuel
  obtain ⟨out, hout⟩ := Option.isSome_iff_exists.mp hends
  obtain ⟨-, -, hall⟩ := scanAscending_spec (fun _ => hperm) (fun _ => h)
    (fun _ => List.prefix_rfl) List.nil_prefix hout
  rw [hout, hall hpage rfl]

end Scan

/-! ### The checks -/

section Verify

variable (hmac : Hmac) (key : String)

/-- The marker version of a row, where an absent one and zero count as the frozen one. -/
def readVersion (row : LineageRow) : Int :=
  if row.markerVersion = 0 then 1 else row.markerVersion

/-- What the verifier finds at one row, after a row with the marker and the number given. -/
def rowFindings (prevMarker : String) (prevSeq : Option Int) (row : LineageRow) :
    List VerificationFinding :=
  let marker := match Canonical.markerFor hmac key row row.prevMarker (readVersion row) with
    | .error _ => [⟨.markerMismatch, row.seq, row.lineageId, "unknown marker_version"⟩]
    | .ok expected =>
        if expected ≠ row.integrityMarker then
          [⟨.markerMismatch, row.seq, row.lineageId,
            "recomputed marker != stored (tamper-evident)"⟩]
        else []
  let link :=
    if row.prevMarker ≠ prevMarker then
      [⟨.brokenLink, row.seq, row.lineageId, "prev_marker != prior record integrity_marker"⟩]
    else []
  let gap :=
    if prevSeq.any (· + 1 ≠ row.seq) then
      [⟨.seqGap, row.seq, row.lineageId, "non-contiguous seq"⟩]
    else []
  marker ++ link ++ gap

/-- What the verifier finds at the rows, in order. -/
def findings : String → Option Int → List LineageRow → List VerificationFinding
  | _, _, [] => []
  | prevMarker, prevSeq, row :: rows =>
      rowFindings hmac key prevMarker prevSeq row
        ++ findings row.integrityMarker (some row.seq) rows

/-- The report on the rows that were read. -/
def report (tenantId : String) (rows : List LineageRow) : VerificationReport where
  tenantId := tenantId
  scanned := rows.length
  ok := (findings hmac key "" none rows).isEmpty
  firstSeq := rows.head?.map LineageRow.seq
  lastSeq := rows.getLast?.map LineageRow.seq
  findings := findings hmac key "" none rows

/-- `LineageVerifier.verify`, of the table as it is at every read; `none` where the fuel runs
out. -/
def verifyReads (scanPage : Nat) (tenantId : String) (maxRecords : Option Nat)
    (tables : Nat → List LineageRow) (fuel : Nat) : Option VerificationReport :=
  (scanAscending (fun n => tablePage (tables n) scanPage) scanPage maxRecords fuel 0 none []).map
    (report hmac key tenantId)

/-- `LineageVerifier.verify`, of a table that stays as it is. -/
def verify (scanPage : Nat) (tenantId : String) (maxRecords : Option Nat)
    (table : List LineageRow) : Option VerificationReport :=
  verifyReads hmac key scanPage tenantId maxRecords (fun _ => table) (table.length + 1)

variable {hmac key}

/-- When the verifier finds nothing at a row. -/
theorem rowFindings_eq_nil {prevMarker : String} {prevSeq : Option Int} {row : LineageRow} :
  rowFindings hmac key prevMarker prevSeq row = []
    ↔ Canonical.markerFor hmac key row row.prevMarker (readVersion row)
        = .ok row.integrityMarker
      ∧ row.prevMarker = prevMarker ∧ ∀ n ∈ prevSeq, n + 1 = row.seq
  := by
  have hgap : (if prevSeq.any (· + 1 ≠ row.seq) then
      [(⟨.seqGap, row.seq, row.lineageId, "non-contiguous seq"⟩ : VerificationFinding)]
      else []) = [] ↔ ∀ n ∈ prevSeq, n + 1 = row.seq := by
    cases prevSeq with
    | none => simp
    | some n => simp
  simp only [rowFindings, List.append_eq_nil_iff, hgap, and_assoc]
  cases Canonical.markerFor hmac key row row.prevMarker (readVersion row) with
  | error e => simp
  | ok expected => simp

/-- The verifier finds nothing in linked rows. -/
theorem findings_linked {n : Int} {prev : String} {rows : List LineageRow}
    (h : Linked hmac key n prev rows) {prevSeq : Option Int}
    (hprev : ∀ m ∈ prevSeq, m + 1 = n) :
  findings hmac key prev prevSeq rows = []
  := by
  induction rows generalizing n prev prevSeq with
  | nil => rfl
  | cons row rows ih =>
      obtain ⟨hseq, hlink, hversion, hmarker, hrows⟩ := h
      rw [findings, List.append_eq_nil_iff]
      constructor
      · apply rowFindings_eq_nil.mpr
        have hread : readVersion row = row.markerVersion := by
          rw [readVersion, hversion]
          rfl
        rw [hread, hlink, hseq]
        exact ⟨hmarker, rfl, hprev⟩
      · apply ih hrows
        intro m hm
        cases hm
        rw [hseq]

/-- The verifier finds nothing in a chain. -/
theorem Chained.findings_eq_nil {rows : List LineageRow} (h : Chained hmac key rows) :
  findings hmac key "" none rows = []
  := by
  apply findings_linked h
  intro m hm
  cases hm

/-- A verification ends with a report. -/
theorem verify_isSome (scanPage : Nat) (tenantId : String) (maxRecords : Option Nat)
    (table : List LineageRow) :
  (verify hmac key scanPage tenantId maxRecords table).isSome
  := by
  rw [verify, verifyReads, Option.isSome_map]
  apply scanAscending_isSome
  apply Nat.lt_succ_of_le
  apply List.length_filter_le

theorem Chained.increasing {rows : List LineageRow} (h : Chained hmac key rows) :
  Keyset.Increasing LineageRow.seq rows
  := Linked.pairwise h

/-- A chain that grows at its end while it is read verifies, whatever the page size and however
many rows are asked for; where all are asked for, in pages of at least one row, those of some read
are scanned. -/
theorem verifyReads_chained {tables lists : Nat → List LineageRow}
    (hperm : ∀ n, (tables n).Perm (lists n)) (hchained : ∀ n, Chained hmac key (lists n))
    (hgrow : ∀ n, lists n <+: lists (n + 1)) {scanPage fuel : Nat} {tenantId : String}
    {maxRecords : Option Nat} {rep : VerificationReport}
    (hrep : verifyReads hmac key scanPage tenantId maxRecords tables fuel = some rep) :
  rep.ok = true
    ∧ (0 < scanPage → maxRecords = none → ∃ n, rep.scanned = (lists n).length)
  := by
  obtain ⟨out, hout, rfl⟩ := Option.map_eq_some_iff.mp hrep
  obtain ⟨n, ⟨others, hothers⟩, hall⟩ := scanAscending_spec hperm
    (fun n => (hchained n).increasing) hgrow List.nil_prefix hout
  have hlinked : Chained hmac key out := Chained.of_append (hothers ▸ hchained n)
  constructor
  · simp only [report, hlinked.findings_eq_nil, List.isEmpty_nil]
  · intro hpage hmax
    use n
    rw [report, hall hpage hmax]

/-- A chain verifies, whatever the page size and however many rows are asked for; where all are
asked for, in pages of at least one row, all are read. -/
theorem verify_chained {scanPage : Nat} {tenantId : String} {maxRecords : Option Nat}
    {rows : List LineageRow} (h : Chained hmac key rows) :
  ∃ rep, verify hmac key scanPage tenantId maxRecords rows = some rep ∧ rep.ok = true
    ∧ (0 < scanPage → maxRecords = none → rep.scanned = rows.length)
  := by
  obtain ⟨rep, hrep⟩ := Option.isSome_iff_exists.mp
    (@verify_isSome hmac key scanPage tenantId maxRecords rows)
  obtain ⟨hok, hscanned⟩ := verifyReads_chained (fun _ => List.Perm.refl rows) (fun _ => h)
    (fun _ => List.prefix_rfl) hrep
  use rep, hrep, hok
  intro hpage hmax
  obtain ⟨-, hlength⟩ := hscanned hpage hmax
  apply hlength

end Verify

end Lineage
