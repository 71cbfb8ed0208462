import Mathlib.Data.Finset.Card
import SnackPortal.Data.Keyset

/-!
# Reading a growing table by pages

A reader takes page after page, each past the last row of the one before, until a page is not
full.  The table may take rows between two pages.  What is read increases strictly and has every
row that the table had at the first page (`follow_spec`); the reading ends where the keys come
from a finite set (`follow_isSome`); and where no row is added past the first page, the rows of
the table at the first page are all that is read (`follow_eq_first`).
-/

namespace Keyset

variable {α κ : Type} [LinearOrder κ] {key : α → κ}

/-- Increasing lists with the same rows are equal. -/
theorem Increasing.eq_of_mem_iff {rows rows' : List α} (h : Increasing key rows)
    (h' : Increasing key rows') (hmem : ∀ row, row ∈ rows ↔ row ∈ rows') :
  rows = rows'
  := by
  have hirrefl : ∀ {l : List α}, Increasing key l → l.Nodup := by
    intro l hl
    apply hl.imp
    intro row row' hlt heq
    rw [heq] at hlt
    apply lt_irrefl _ hlt
  have hperm : rows.Perm rows' :=
    (List.perm_ext_iff_of_nodup (hirrefl h) (hirrefl h')).mpr hmem
  rw [← insertionSort_eq_of_perm (List.Perm.refl rows) h]
  apply insertionSort_eq_of_perm hperm h'

/-! ### One page -/

section Page

variable {table : List α} {after : Option κ} {limit : Nat}

/-- The rows of a page increase. -/
theorem increasing_page (h : (table.map key).Nodup) :
  Increasing key (page key table after limit)
  := by
  have hfilter : ((table.filter fun row => Past key after row).map key).Nodup :=
    h.sublist (List.filter_sublist.map key)
  apply List.Pairwise.sublist (List.take_sublist _ _)
  apply increasing_insertionSort hfilter

/-- A page that is not full has every row past its key. -/
theorem mem_page_of_short (hshort : (page key table after limit).length ≠ limit) {row : α}
    (hrow : row ∈ table) (hpast : Past key after row) :
  row ∈ page key table after limit
  := by
  have hsorted : row ∈ (table.filter fun row => Past key after row).insertionSort
      (Before key) := by
    apply (List.perm_insertionSort _ _).mem_iff.mpr
    apply List.mem_filter.mpr
    exact ⟨hrow, decide_eq_true hpast⟩
  have htake : page key table after limit
      = (table.filter fun row => Past key after row).insertionSort (Before key) := by
    apply List.take_of_length_le
    rw [page, List.length_take] at hshort
    omega
  rw [htake]
  apply hsorted

/-- A row past the key of a page is in it or lies past its last row. -/
theorem mem_page_or_past (h : (table.map key).Nodup) {last : α}
    (hlast : (page key table after limit).getLast? = some last) {row : α}
    (hrow : row ∈ table) (hpast : Past key after row) :
  row ∈ page key table after limit ∨ key last < key row
  := by
  have hfilter : ((table.filter fun row => Past key after row).map key).Nodup :=
    h.sublist (List.filter_sublist.map key)
  have hincreasing := increasing_insertionSort hfilter
  have hsorted : row ∈ (table.filter fun row => Past key after row).insertionSort
      (Before key) := by
    apply (List.perm_insertionSort _ _).mem_iff.mpr
    apply List.mem_filter.mpr
    exact ⟨hrow, decide_eq_true hpast⟩
  rw [← List.take_append_drop limit (List.insertionSort _ _)] at hincreasing hsorted
  rcases List.mem_append.mp hsorted with htake | hdrop
  · apply Or.inl htake
  · apply Or.inr
    apply (List.pairwise_append.mp hincreasing).2.2 last (List.mem_of_getLast? hlast) row hdrop

end Page

/-! ### Page after page -/

/-- The key after which the next page begins, where the page is full. -/
def next (key : α → κ) (limit : Nat) (rows : List α) : Option κ :=
  if rows.length = limit then rows.getLast?.map key else none

omit [LinearOrder κ] in
theorem next_eq_some {limit : Nat} {rows : List α} {k : κ}
    (h : next key limit rows = some k) :
  rows.length = limit ∧ ∃ last, rows.getLast? = some last ∧ key last = k
  := by
  rw [next] at h
  split at h
  · rename_i hfull
    apply And.intro hfull (Option.map_eq_some_iff.mp h)
  · cases h

omit [LinearOrder κ] in
/-- A page of at least one row that leaves no key is not full. -/
theorem short_of_next {limit : Nat} (hlimit : 0 < limit) {rows : List α}
    (h : next key limit rows = none) :
  rows.length ≠ limit
  := by
  intro hfull
  rw [next, if_pos hfull, Option.map_eq_none_iff, List.getLast?_eq_none_iff] at h
  rw [h, List.length_nil] at hfull
  omega

/-- Page after page from the `n`th on, each of the table as it is then, until one leaves no key.
`none` where the fuel runs out. -/
def follow (key : α → κ) (tables : Nat → List α) (limit : Nat) :
    Nat → Nat → Option κ → Option (List α)
  | 0, _, _ => none
  | fuel + 1, n, after =>
      match next key limit (page key (tables n) after limit) with
      | none => some (page key (tables n) after limit)
      | some k =>
          (follow key tables limit fuel (n + 1) (some k)).map
            (page key (tables n) after limit ++ ·)

section Follow

variable {tables : Nat → List α} {limit fuel n : Nat} {after : Option κ} {rows : List α}

/-- The rows past a later key lie past the key before it. -/
theorem Past.of_later {row last : α} (hlast : Past key after last)
    (hrow : Past key (some (key last)) row) :
  Past key after row
  := by
  intro k hk
  apply lt_trans (hlast k hk) (hrow _ rfl)

/-- What is read of a growing table increases, lies past the key, comes from the table, and has
every row past the key that the table had at the first page. -/
theorem follow_spec (hnodup : ∀ n, ((tables n).map key).Nodup)
    (hgrow : ∀ n, tables n ⊆ tables (n + 1)) (hlimit : 0 < limit)
    (h : follow key tables limit fuel n after = some rows) :
  Increasing key rows
    ∧ (∀ row ∈ rows, Past key after row ∧ ∃ m, row ∈ tables m)
    ∧ ∀ row ∈ tables n, Past key after row → row ∈ rows
  := by
  induction fuel generalizing n after rows with
  | zero => cases h
  | succ fuel ih =>
      rw [follow] at h
      have hpage : Increasing key (page key (tables n) after limit) :=
        increasing_page (hnodup n)
      split at h
      · rename_i hnext
        obtain rfl := Option.some.inj h
        use hpage
        constructor
        · intro row hrow
          obtain ⟨hmem, hpast⟩ := past_of_mem_page hrow
          exact ⟨hpast, n, hmem⟩
        · intro row hrow hpast
          apply mem_page_of_short (short_of_next hlimit hnext) hrow hpast
      · rename_i k hnext
        obtain ⟨rest, hrest, rfl⟩ := Option.map_eq_some_iff.mp h
        obtain ⟨-, last, hlast, rfl⟩ := next_eq_some hnext
        obtain ⟨hincreasing, hsound, hcomplete⟩ := ih hrest
        have hlastPast := (past_of_mem_page (List.mem_of_getLast? hlast)).2
        constructor
        · apply List.pairwise_append.mpr
          use hpage, hincreasing
          intro row hrow row' hrow'
          have hbeyond := (hsound row' hrow').1 _ rfl
          obtain ⟨front, hfront⟩ := List.getLast?_eq_some_iff.mp hlast
          rw [hfront] at hrow hpage
          rcases List.mem_append.mp hrow with hrow | hrow
          · apply lt_trans _ hbeyond
            apply (List.pairwise_append.mp hpage).2.2 row hrow last (List.mem_singleton_self last)
          · rw [List.mem_singleton.mp hrow]
            apply hbeyond
        · constructor
          · intro row hrow
            rcases List.mem_append.mp hrow with hrow | hrow
            · obtain ⟨hmem, hpast⟩ := past_of_mem_page hrow
              exact ⟨hpast, n, hmem⟩
            · obtain ⟨hpast, hmem⟩ := hsound row hrow
              exact ⟨hlastPast.of_later hpast, hmem⟩
          · intro row hrow hpast
            apply List.mem_append.mpr
            rcases mem_page_or_past (hnodup n) hlast hrow hpast with hread | hbeyond
            · apply Or.inl hread
            · apply Or.inr
              apply hcomplete row (hgrow n hrow)
              intro k hk
              obtain rfl := Option.some.inj hk
              apply hbeyond

/-- The reading ends where the keys come from a finite set. -/
theorem follow_isSome {keys : Finset κ} (hkeys : ∀ n, ∀ row ∈ tables n, key row ∈ keys)
    (hfuel : (keys.filter fun k => ∀ k' ∈ after, k' < k).card < fuel) :
  (follow key tables limit fuel n after).isSome
  := by
  induction fuel generalizing n after with
  | zero => exact absurd hfuel (Nat.not_lt_zero _)
  | succ fuel ih =>
      rw [follow]
      split
      · rfl
      · rename_i k hnext
        obtain ⟨-, last, hlast, rfl⟩ := next_eq_some hnext
        obtain ⟨hmem, hpast⟩ := past_of_mem_page (List.mem_of_getLast? hlast)
        rw [Option.isSome_map]
        apply ih
        apply lt_of_lt_of_le _ (Nat.le_of_lt_succ hfuel)
        apply Finset.card_lt_card
        apply Finset.ssubset_iff_of_subset _ |>.mpr
        · use key last
          constructor
          · apply Finset.mem_filter.mpr
            exact ⟨hkeys n last hmem, hpast⟩
          · intro hself
            apply lt_irrefl (key last)
            apply (Finset.mem_filter.mp hself).2 _ rfl
        · intro k hk
          obtain ⟨hmem, hlater⟩ := Finset.mem_filter.mp hk
          apply Finset.mem_filter.mpr
          use hmem
          intro k' hk'
          apply lt_trans (hpast k' hk') (hlater _ rfl)

/-- Where no row is added behind one of the first table, the rows of the first table in order
are what is read. -/
theorem follow_eq_first (hnodup : ∀ n, ((tables n).map key).Nodup)
    (hgrow : ∀ n, tables n ⊆ tables (n + 1)) (hlimit : 0 < limit)
    (hfirst : ∀ m, ∀ row ∈ tables m, row ∈ tables 0 ∨ ∀ row' ∈ tables 0, key row < key row')
    (h : follow key tables limit fuel 0 none = some rows) :
  rows = (tables 0).insertionSort (Before key)
  := by
  obtain ⟨hincreasing, -, hcomplete⟩ := follow_spec hnodup hgrow hlimit h
  have hread : ∀ row ∈ rows, row ∈ tables 0 := by
    cases fuel with
    | zero => cases h
    | succ fuel =>
        rw [follow] at h
        split at h
        · obtain rfl := Option.some.inj h
          intro row hrow
          apply (past_of_mem_page hrow).1
        · rename_i k hnext
          obtain ⟨rest, hrest, rfl⟩ := Option.map_eq_some_iff.mp h
          obtain ⟨-, last, hlast, rfl⟩ := next_eq_some hnext
          have hfront := (past_of_mem_page (List.mem_of_getLast? hlast)).1
          intro row hrow
          rcases List.mem_append.mp hrow with hrow | hrow
          · apply (past_of_mem_page hrow).1
          · obtain ⟨hbeyond, m, hmem⟩ := (follow_spec hnodup hgrow hlimit hrest).2.1 row hrow
            apply (hfirst m row hmem).resolve_right
            intro hbefore
            apply lt_asymm (hbeyond _ rfl) (hbefore last hfront)
  apply hincreasing.eq_of_mem_iff (increasing_insertionSort (hnodup 0))
  intro row
  rw [(List.perm_insertionSort (Before key) (tables 0)).mem_iff]
  constructor
  · apply hread
  · intro hrow
    apply hcomplete row hrow
    intro k hk
    cases hk

/-- Where rows are only added at the end, what is read together with what was read before is
the table at the last page.  Every page before it is full, and it is not. -/
theorem follow_appended {lists : Nat → List α} (hperm : ∀ n, (tables n).Perm (lists n))
    (hincreasing : ∀ n, Increasing key (lists n)) (hgrow : ∀ n, lists n <+: lists (n + 1))
    (hlimit : 0 < limit) {read : List α} (hread : read <+: lists n)
    (h : follow key tables limit fuel n (read.getLast?.map key) = some rows) :
  ∃ k, read ++ rows = lists (n + k) ∧ rows.length < (k + 1) * limit
    ∧ ∀ j < k, read.length + (j + 1) * limit ≤ (lists (n + j)).length
  := by
  induction fuel generalizing n read rows with
  | zero => cases h
  | succ fuel ih =>
      obtain ⟨rest, hrest⟩ := hread
      have hpage : page key (tables n) (read.getLast?.map key) limit = rest.take limit := by
        apply page_eq_take
        · rw [hrest]
          apply hperm
        · rw [hrest]
          apply hincreasing
      rw [follow, hpage] at h
      split at h
      · rename_i hnext
        obtain rfl := Option.some.inj h
        have hshort := short_of_next hlimit hnext
        rw [List.length_take] at hshort
        use 0
        rw [List.take_of_length_le (by omega)]
        use hrest
        constructor
        · omega
        · intro j hj
          omega
      · rename_i k hnext
        obtain ⟨more, hmore, rfl⟩ := Option.map_eq_some_iff.mp h
        obtain ⟨hfull, last, hlast, rfl⟩ := next_eq_some hnext
        have hnew : (read ++ rest.take limit).getLast?.map key = some (key last) := by
          rw [List.getLast?_append, hlast]
          rfl
        have hprefix : read ++ rest.take limit <+: lists (n + 1) := by
          apply List.IsPrefix.trans _ (hgrow n)
          rw [← hrest]
          apply (List.prefix_append_right_inj read).mpr (List.take_prefix limit rest)
        rw [← hnew] at hmore
        obtain ⟨k, hlists, hlength, hbefore⟩ := ih hprefix hmore
        have hplace : n + 1 + k = n + (k + 1) := by
          omega
        use k + 1
        rw [← List.append_assoc, hlists, hplace]
        use rfl
        constructor
        · rw [List.length_append, hfull, Nat.add_mul (k + 1) 1]
          omega
        · intro j hj
          cases j with
          | zero =>
              rw [Nat.add_zero n, ← hrest, List.length_append]
              rw [List.length_take] at hfull
              omega
          | succ j =>
              have hle := hbefore j (by omega)
              have hplace : n + 1 + j = n + (j + 1) := by
                omega
              rw [List.length_append, hfull, hplace] at hle
              rw [Nat.add_mul (j + 1) 1]
              omega

end Follow

end Keyset
