import Mathlib.Data.List.Sort

/-!
# Pages by key

A table read in pages: the rows past a key, in the order of their keys, up to a limit.  Where
the keys are distinct the rows in order are a list that increases strictly, and a page is the
part of it that follows the rows read before (`page_eq_take`).  Whether a first page is also
the end of the table depends on the order of the table (`page_eq_drop_iff`).
-/

namespace Keyset

variable {α κ : Type} [LinearOrder κ] (key : α → κ)

/-- The row lies past the key, where one is given. -/
def Past (after : Option κ) (row : α) : Prop :=
  ∀ k ∈ after, k < key row

instance (after : Option κ) (row : α) : Decidable (Past key after row) :=
  match after with
  | none => .isTrue fun _ h => nomatch h
  | some k => decidable_of_iff (k < key row) (by simp [Past])

/-- The order of the rows. -/
def Before (row row' : α) : Prop :=
  key row ≤ key row'

instance : DecidableRel (Before key) :=
  fun row row' => inferInstanceAs (Decidable (key row ≤ key row'))

instance : Std.Total (Before key) :=
  ⟨fun row row' => le_total (key row) (key row')⟩

instance : IsTrans α (Before key) :=
  ⟨fun _ _ _ h h' => le_trans (α := κ) h h'⟩

/-- A page: the rows past the key, in order, up to the limit. -/
def page (table : List α) (after : Option κ) (limit : Nat) : List α :=
  ((table.filter fun row => Past key after row).insertionSort (Before key)).take limit

/-- The rows increase strictly. -/
def Increasing (rows : List α) : Prop :=
  rows.Pairwise fun row row' => key row < key row'

variable {key}

/-- Rows of an increasing list are told apart by their keys. -/
theorem Increasing.eq_of_key {rows : List α} (h : Increasing key rows) {row row' : α}
    (hrow : row ∈ rows) (hrow' : row' ∈ rows) (hkey : key row = key row') :
  row = row'
  := by
  obtain ⟨m, hm, rfl⟩ := List.getElem_of_mem hrow
  obtain ⟨n, hn, rfl⟩ := List.getElem_of_mem hrow'
  have hlt := List.pairwise_iff_getElem.mp h
  rcases lt_trichotomy m n with hmn | rfl | hmn
  · exact absurd hkey (ne_of_lt (hlt m n hm hn hmn))
  · rfl
  · exact absurd hkey.symm (ne_of_lt (hlt n m hn hm hmn))

/-- The rows with distinct keys, in order, increase strictly. -/
theorem increasing_insertionSort {table : List α} (h : (table.map key).Nodup) :
  Increasing key (table.insertionSort (Before key))
  := by
  have hperm := List.perm_insertionSort (Before key) table
  have hnodup : ((table.insertionSort (Before key)).map key).Nodup :=
    (hperm.map key).nodup_iff.mpr h
  have hsorted := List.pairwise_insertionSort (Before key) table
  have hboth := hsorted.and (List.pairwise_map.mp hnodup)
  apply hboth.imp
  intro row row' hrow
  exact lt_of_le_of_ne hrow.1 hrow.2

/-- Sorting what increases already, in whatever order it comes. -/
theorem insertionSort_eq_of_perm {table rows : List α} (hperm : table.Perm rows)
    (h : Increasing key rows) :
  table.insertionSort (Before key) = rows
  := by
  have hsort := List.perm_insertionSort (Before key) table
  apply @List.Perm.eq_of_pairwise _ (Before key)
  · intro row row' hrow hrow' hle hle'
    apply h.eq_of_key _ hrow' (le_antisymm hle hle')
    apply hperm.mem_iff.mp
    apply hsort.mem_iff.mp hrow
  · apply List.pairwise_insertionSort
  · apply h.imp
    intro row row' hlt
    exact le_of_lt hlt
  · apply hsort.trans hperm

/-- The page that follows the rows read before. -/
theorem page_eq_take {table read rest : List α} (hperm : table.Perm (read ++ rest))
    (h : Increasing key (read ++ rest)) {limit : Nat} :
  page key table (read.getLast?.map key) limit = rest.take limit
  := by
  have hrest : (read ++ rest).filter (fun row => Past key (read.getLast?.map key) row)
      = rest := by
    have hlast : ∀ last ∈ read.getLast?, ∀ row ∈ read, key row ≤ key last := by
      intro last hlast row hrow
      obtain ⟨front, rfl⟩ := List.getLast?_eq_some_iff.mp hlast
      have hfront := (List.pairwise_append.mp (List.pairwise_append.mp h).1).2.2
      rcases List.mem_append.mp hrow with hrow | hrow
      · apply le_of_lt (hfront row hrow last (List.mem_singleton_self last))
      · rw [List.mem_singleton.mp hrow]
    rw [List.filter_append]
    have hread : read.filter (fun row => Past key (read.getLast?.map key) row) = [] := by
      apply List.filter_eq_nil_iff.mpr
      intro row hrow hpast
      have hne : read ≠ [] := List.ne_nil_of_mem hrow
      have hsome := List.getLast?_eq_getLast_of_ne_nil hne
      have hpast := of_decide_eq_true hpast (key (read.getLast hne)) (by rw [hsome]; rfl)
      apply absurd (hlast _ hsome row hrow)
      apply not_le_of_gt hpast
    have hall : rest.filter (fun row => Past key (read.getLast?.map key) row) = rest := by
      apply List.filter_eq_self.mpr
      intro row hrow
      apply decide_eq_true
      intro k hk
      obtain ⟨last, hlast, rfl⟩ := Option.map_eq_some_iff.mp hk
      apply (List.pairwise_append.mp h).2.2 last (List.mem_of_getLast? hlast) row hrow
    rw [hread, hall, List.nil_append]
  suffices hsorted : (table.filter fun row =>
      Past key (read.getLast?.map key) row).insertionSort (Before key) = rest by
    rw [page, hsorted]
  apply insertionSort_eq_of_perm
  · have hfilter := hperm.filter fun row => decide (Past key (read.getLast?.map key) row)
    rw [hrest] at hfilter
    apply hfilter
  · apply (List.pairwise_append.mp h).2.1

section First

variable (key) (table : List α)

/-- A first page is the beginning of the table in order. -/
theorem page_eq_take_insertionSort (limit : Nat) :
  page key table none limit = (table.insertionSort (Before key)).take limit
  := by
  have hfilter : (table.filter fun row => Past key none row) = table := by
    apply List.filter_eq_self.mpr
    intro row _
    apply decide_eq_true
    intro k hk
    cases hk
  rw [page, hfilter]

/-- A first page is the beginning of one as long as the table. -/
theorem page_eq_take_page_length (limit : Nat) :
  page key table none limit = (page key table none table.length).take limit
  := by
  rw [page_eq_take_insertionSort, page_eq_take_insertionSort, List.take_take]
  have hlength := (List.perm_insertionSort (Before key) table).length_eq
  rcases Nat.le_total limit table.length with hle | hle
  · rw [Nat.min_eq_left hle]
  · rw [Nat.min_eq_right hle, List.take_of_length_le (hlength.le.trans hle),
      List.take_of_length_le hlength.le]

/-- A first page as long as the table has all its rows. -/
theorem page_length_perm :
  (page key table none table.length).Perm table
  := by
  rw [page_eq_take_insertionSort, List.take_of_length_le]
  · apply List.perm_insertionSort
  · exact (List.perm_insertionSort _ _).length_eq.le

end First

/-- The first page of a table with distinct keys is its end, in the order of the table, if and
only if that end increases and everything before it lies past it. -/
theorem page_eq_drop_iff {table : List α} (h : (table.map key).Nodup) (limit : Nat) :
  page key table none limit = table.drop (table.length - limit)
    ↔ Increasing key (table.drop (table.length - limit))
      ∧ ∀ earlier ∈ table.take (table.length - limit),
        ∀ row ∈ table.drop (table.length - limit), key row < key earlier
  := by
  have hall := page_eq_take_insertionSort key table limit
  have hsplit : table.Perm (table.drop (table.length - limit)
      ++ table.take (table.length - limit)) := by
    nth_rewrite 1 [← List.take_append_drop (table.length - limit) table]
    apply List.perm_append_comm
  rw [hall]
  constructor
  · intro heq
    have hincreasing := increasing_insertionSort h
    rw [← List.take_append_drop limit (table.insertionSort (Before key)), heq] at hincreasing
    obtain ⟨hend, -, hpast⟩ := List.pairwise_append.mp hincreasing
    have hrest : (table.take (table.length - limit)).Perm
        ((table.insertionSort (Before key)).drop limit) := by
      have hperm := (List.perm_insertionSort (Before key) table).trans hsplit
      rw [← List.take_append_drop limit (table.insertionSort (Before key)), heq] at hperm
      apply ((List.perm_append_left_iff _).mp hperm).symm
    use hend
    intro earlier hearlier row hrow
    apply hpast row hrow earlier (hrest.mem_iff.mp hearlier)
  · intro ⟨hend, hpast⟩
    have htake : ((table.take (table.length - limit)).map key).Nodup := by
      rw [List.map_take]
      apply h.sublist (List.take_sublist _ _)
    have hsorted : table.insertionSort (Before key) = table.drop (table.length - limit)
        ++ (table.take (table.length - limit)).insertionSort (Before key) := by
      apply insertionSort_eq_of_perm
      · apply hsplit.trans
        apply List.Perm.append_left
        apply (List.perm_insertionSort (Before key) _).symm
      · apply List.pairwise_append.mpr
        use hend, increasing_insertionSort htake
        intro row hrow earlier hearlier
        apply hpast earlier _ row hrow
        apply (List.perm_insertionSort (Before key) _).mem_iff.mp hearlier
    rw [hsorted]
    rcases le_total table.length limit with hle | hle
    · have hnone : table.length - limit = 0 := by omega
      rw [hnone, List.take_zero, List.insertionSort_nil, List.append_nil, List.drop_zero]
      apply List.take_of_length_le hle
    · apply List.take_left'
      rw [List.length_drop]
      omega

/-- Every row of a page lies past the key it was asked for. -/
theorem past_of_mem_page {table : List α} {after : Option κ} {limit : Nat} {row : α}
    (h : row ∈ page key table after limit) :
  row ∈ table ∧ Past key after row
  := by
  have hsorted := List.mem_of_mem_take h
  have hfilter := (List.perm_insertionSort (Before key) _).mem_iff.mp hsorted
  obtain ⟨hrow, hpast⟩ := List.mem_filter.mp hfilter
  exact ⟨hrow, of_decide_eq_true hpast⟩

end Keyset
