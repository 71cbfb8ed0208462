import SnackPortal.Lineage.Canonical
import Mathlib.Data.List.MinMax

/-!
# The lineage chain

The rows of a tenant form one chain: they are numbered from one, each names the marker of the
row before it, and each carries the marker of its own content.  The head of a chain, which is
the row with the greatest number, tells what the next row has to carry.
-/

namespace Lineage

/-- The row of the table with the greatest sequence number. -/
def latest (rows : List LineageRow) : Option LineageRow :=
  -- the order is named, since there is more than one way to find one
  @List.argmax _ _ Int.instLinearOrder.toPreorder Int.decLt LineageRow.seq rows

/-- The marker that a row after these has to name. -/
def lastMarker (prev : String) (rows : List LineageRow) : String :=
  (rows.getLast?.map LineageRow.integrityMarker).getD prev

@[simp] theorem lastMarker_nil {prev : String} :
  lastMarker prev [] = prev
  := rfl

@[simp] theorem lastMarker_cons {prev : String} {row : LineageRow} {rows : List LineageRow} :
  lastMarker prev (row :: rows) = lastMarker row.integrityMarker rows
  := by
  rw [lastMarker, lastMarker, List.getLast?_cons]
  cases rows.getLast? with
  | none => rfl
  | some last => rfl

section Linked

variable (hmac : Hmac) (key : String)

/-- The rows are numbered from `n` on, the first names the marker `prev` and each further one
the marker before it, and each carries its own marker. -/
def Linked : Int → String → List LineageRow → Prop
  | _, _, [] => True
  | n, prev, row :: rows =>
      row.seq = n ∧ row.prevMarker = prev
        ∧ row.markerVersion = Canonical.currentMarkerVersion
        ∧ Canonical.markerFor hmac key row prev row.markerVersion = .ok row.integrityMarker
        ∧ Linked (n + 1) row.integrityMarker rows

/-- The rows of a whole chain. -/
def Chained (rows : List LineageRow) : Prop :=
  Linked hmac key 1 "" rows

variable {hmac key}

theorem Linked.append_iff {n : Int} {prev : String} {rows rows' : List LineageRow} :
  Linked hmac key n prev (rows ++ rows')
    ↔ Linked hmac key n prev rows
      ∧ Linked hmac key (n + rows.length) (lastMarker prev rows) rows'
  := by
  induction rows generalizing n prev with
  | nil => simp [Linked]
  | cons row rows ih =>
      have hlength : n + ((row :: rows).length : Int) = n + 1 + (rows.length : Int) := by
        rw [List.length_cons]
        omega
      rw [List.cons_append, Linked, Linked, ih, lastMarker_cons, hlength]
      simp only [and_assoc]

/-- The number of a row is its place. -/
theorem Linked.seq_getElem {n : Int} {prev : String} {rows : List LineageRow}
    (h : Linked hmac key n prev rows) {k : Nat} (hk : k < rows.length) :
  rows[k].seq = n + k
  := by
  induction rows generalizing n prev k with
  | nil => cases hk
  | cons row rows ih =>
      obtain ⟨hseq, -, -, -, hrows⟩ := h
      cases k with
      | zero =>
          rw [List.getElem_cons_zero, hseq]
          simp
      | succ k =>
          rw [List.getElem_cons_succ, ih hrows]
          push_cast
          omega

/-- The numbers of the rows. -/
theorem Linked.seq_bounds {n : Int} {prev : String} {rows : List LineageRow}
    (h : Linked hmac key n prev rows) {row : LineageRow} (hrow : row ∈ rows) :
  n ≤ row.seq ∧ row.seq < n + rows.length
  := by
  obtain ⟨k, hk, rfl⟩ := List.getElem_of_mem hrow
  rw [h.seq_getElem hk]
  omega

/-- The numbers of the rows increase. -/
theorem Linked.pairwise {n : Int} {prev : String} {rows : List LineageRow}
    (h : Linked hmac key n prev rows) :
  rows.Pairwise fun row row' => row.seq < row'.seq
  := by
  rw [List.pairwise_iff_getElem]
  intro k k' hk hk' hlt
  rw [h.seq_getElem hk, h.seq_getElem hk']
  omega

theorem Chained.nil :
  Chained hmac key []
  := trivial

/-- A beginning of a chain is a chain. -/
theorem Chained.of_append {rows rows' : List LineageRow}
    (h : Chained hmac key (rows ++ rows')) :
  Chained hmac key rows
  := (Linked.append_iff.mp h).1

/-- The greatest number is that of the last row. -/
theorem Chained.latest_eq {rows : List LineageRow} (h : Chained hmac key rows) :
  latest rows = rows.getLast?
  := by
  induction rows using List.reverseRecOn with
  | nil => rfl
  | append_singleton rows row ih =>
      have hlast := (Linked.append_iff.mp h).2.1
      rw [latest, List.argmax_concat, List.getLast?_concat]
      have ih := ih h.of_append
      rw [latest] at ih
      rw [ih]
      cases hrows : rows.getLast? with
      | none => rfl
      | some row' =>
          have hlt : row'.seq < row.seq := by
            have hbounds := Linked.seq_bounds h.of_append (List.mem_of_getLast? hrows)
            omega
          simp only [if_pos hlt]

/-- What the head of a chain tells about the next row. -/
theorem Chained.head {rows : List LineageRow} (h : Chained hmac key rows) :
  ((latest rows).elim 1 fun prev => prev.seq + 1) = rows.length + 1
    ∧ ((latest rows).elim "" fun prev => prev.integrityMarker) = lastMarker "" rows
  := by
  rw [h.latest_eq]
  cases hlast : rows.getLast? with
  | none =>
      obtain rfl := List.getLast?_eq_none_iff.mp hlast
      exact ⟨rfl, rfl⟩
  | some prev =>
      constructor
      · obtain ⟨front, rfl⟩ := List.getLast?_eq_some_iff.mp hlast
        have hseq := (Linked.append_iff.mp h).2.1
        simp only [Option.elim, List.length_append, List.length_singleton]
        push_cast
        omega
      · rw [lastMarker, hlast]
        rfl

/-- A further row with the next number, the last marker and its own marker. -/
theorem Chained.snoc {rows : List LineageRow} (h : Chained hmac key rows) {row : LineageRow}
    (hseq : row.seq = rows.length + 1) (hprev : row.prevMarker = lastMarker "" rows)
    (hversion : row.markerVersion = Canonical.currentMarkerVersion)
    (hmarker : Canonical.markerFor hmac key row row.prevMarker row.markerVersion
      = .ok row.integrityMarker) :
  Chained hmac key (rows ++ [row])
  := by
  apply Linked.append_iff.mpr
  rw [hprev] at hmarker
  refine ⟨h, ?_, hprev, hversion, hmarker, trivial⟩
  omega

/-- Two chains with the same rows at the end, where one has grown before them: as long as the
next number is free, nothing has grown. -/
theorem Chained.grown {front grown back : List LineageRow}
    (h : Chained hmac key (front ++ back)) (h' : Chained hmac key (front ++ grown ++ back))
    (hfree : ∀ row ∈ front ++ grown ++ back, row.seq ≠ (front ++ back).length + 1) :
  grown = []
  := by
  cases grown with
  | nil => rfl
  | cons row grown =>
      exfalso
      have hrow := (Linked.append_iff.mp h'.of_append).2.1
      cases back with
      | nil =>
          apply hfree row (by simp)
          simp only [List.append_nil]
          omega
      | cons row' back =>
          have hfirst := (Linked.append_iff.mp h).2.1
          have hfirst' := (Linked.append_iff.mp h').2.1
          simp only [List.length_append, List.length_cons] at hfirst'
          push_cast at hfirst'
          omega

end Linked

end Lineage
