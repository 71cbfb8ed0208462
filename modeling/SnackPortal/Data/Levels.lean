import Mathlib.Data.List.Nodup
import Mathlib.Logic.Relation

/-!
# Walking a graph level by level

A recursive query begins with some rows, joins the rows of each round with those they lead to,
and ends with the round that finds none.  With a bound on the depth it has the nodes of every
level up to the bound (`recursive_walkStep`), and a node is on some level if and only if a path
leads to it (`exists_mem_level_iff`).  A listing of the rows by depth that is cut off has the
levels whose rows fit (`mem_take_of_count`); those that do not fit may be lost
(`not_mem_take_of_count`).
-/

namespace Levels

variable {α : Type} (next : α → List α)

/-! ### Levels and paths -/

/-- The nodes that paths of `k` edges lead to. -/
def level (start : List α) : Nat → List α
  | 0 => start
  | k + 1 => (level start k).flatMap next

/-- An edge of the graph. -/
def Edge (a b : α) : Prop :=
  b ∈ next a

variable {next} {start : List α}

/-- A node is on some level if and only if it is reached from the start. -/
theorem exists_mem_level_iff {b : α} :
  (∃ k, b ∈ level next start k) ↔ ∃ a ∈ start, Relation.ReflTransGen (Edge next) a b
  := by
  constructor
  · intro ⟨k, hb⟩
    induction k generalizing b with
    | zero => exact ⟨b, hb, Relation.ReflTransGen.refl⟩
    | succ k ih =>
        obtain ⟨c, hc, hedge⟩ := List.mem_flatMap.mp hb
        obtain ⟨a, ha, hpath⟩ := ih hc
        exact ⟨a, ha, hpath.tail hedge⟩
  · intro ⟨a, ha, hpath⟩
    induction hpath with
    | refl => exact ⟨0, ha⟩
    | tail _ hedge ih =>
        obtain ⟨k, hc⟩ := ih
        use k + 1
        apply List.mem_flatMap.mpr
        exact ⟨_, hc, hedge⟩

/-- Below an empty level all levels are empty. -/
theorem level_eq_nil {k m : Nat} (hkm : k ≤ m) (h : level next start k = []) :
  level next start m = []
  := by
  induction hkm with
  | refl => apply h
  | step _ ih => rw [level, ih, List.flatMap_nil]

/-- Where every node has at most one edge into it from each level, no level has a node twice. -/
theorem level_nodup_of_unique_source (hstart : start.Nodup) (hnext : ∀ a, (next a).Nodup)
    (hsource : ∀ {k a a' b}, a ∈ level next start k → a' ∈ level next start k →
      b ∈ next a → b ∈ next a' → a = a') (k : Nat) :
  (level next start k).Nodup
  := by
  induction k with
  | zero => apply hstart
  | succ k ih =>
      apply List.nodup_flatMap.mpr
      constructor
      · intro a _
        apply hnext
      · apply ih.imp_of_mem
        intro a a' ha ha' hne b hb hb'
        apply hne (hsource ha ha' hb hb')

/-- Where every node has at most one edge out of it, so does every level of one node. -/
theorem level_length_le_one (hstart : start.length ≤ 1) (hnext : ∀ a, (next a).length ≤ 1)
    (k : Nat) :
  (level next start k).length ≤ 1
  := by
  induction k with
  | zero => apply hstart
  | succ k ih =>
      rw [level]
      rcases hlevel : level next start k with _ | ⟨a, rest⟩
      · apply Nat.zero_le
      · rw [hlevel] at ih
        obtain rfl := List.eq_nil_of_length_eq_zero (l := rest) (by simpa using ih)
        rw [List.flatMap_singleton]
        apply hnext

/-! ### The recursive query -/

section Recursive

variable {β : Type} (join : β → List β)

/-- The rows of all rounds; `none` where the fuel runs out. -/
def recursive : Nat → List β → Option (List β)
  | 0, _ => none
  | fuel + 1, working =>
      if working.isEmpty then some []
      else (recursive fuel (working.flatMap join)).map (working ++ ·)

variable {join}

/-- More fuel does not change the rows. -/
theorem recursive_mono {fuel fuel' : Nat} (hle : fuel ≤ fuel') {working rows : List β}
    (h : recursive join fuel working = some rows) :
  recursive join fuel' working = some rows
  := by
  induction fuel generalizing fuel' working rows with
  | zero => cases h
  | succ fuel ih =>
      obtain ⟨fuel', rfl⟩ := Nat.exists_eq_succ_of_ne_zero
        (Nat.ne_of_gt (Nat.lt_of_lt_of_le (Nat.succ_pos fuel) hle))
      rw [recursive] at h ⊢
      split at h
      · rename_i hempty
        rw [if_pos hempty]
        apply h
      · rename_i hworking
        obtain ⟨rest, hrest, rfl⟩ := Option.map_eq_some_iff.mp h
        rw [if_neg hworking, ih (Nat.le_of_succ_le_succ hle) hrest]
        rfl

/-- The rows do not depend on the fuel. -/
theorem recursive_unique {fuel fuel' : Nat} {working rows rows' : List β}
    (h : recursive join fuel working = some rows)
    (h' : recursive join fuel' working = some rows') :
  rows = rows'
  := by
  rcases Nat.le_total fuel fuel' with hle | hle
  · have hmono := recursive_mono hle h
    apply Option.some.inj (hmono.symm.trans h')
  · have hmono := recursive_mono hle h'
    apply Option.some.inj (h.symm.trans hmono)

end Recursive

/-- The join that counts the depth, up to a bound. -/
def walkStep (next : α → List α) (bound : Nat) (row : α × Nat) : List (α × Nat) :=
  if row.2 < bound then (next row.1).map (·, row.2 + 1) else []

/-- The nodes of a level with their depth. -/
def rowsAt (next : α → List α) (start : List α) (k : Nat) : List (α × Nat) :=
  (level next start k).map (·, k)

/-- The nodes of the levels up to a bound with their depths. -/
def walk (next : α → List α) (start : List α) (bound : Nat) : List (α × Nat) :=
  (List.range (bound + 1)).flatMap (rowsAt next start)

theorem mem_walk {bound : Nat} {row : α × Nat} :
  row ∈ walk next start bound ↔ row.2 ≤ bound ∧ row.1 ∈ level next start row.2
  := by
  obtain ⟨a, k⟩ := row
  simp only [walk, rowsAt, List.mem_flatMap, List.mem_range, List.mem_map, Prod.mk.injEq,
    Nat.lt_succ_iff]
  constructor
  · intro ⟨j, hj, b, hb, hab, hjk⟩
    subst hab hjk
    exact ⟨hj, hb⟩
  · intro ⟨hk, ha⟩
    exact ⟨k, hk, a, ha, rfl, rfl⟩

theorem walk_succ (bound : Nat) :
  walk next start (bound + 1) = walk next start bound ++ rowsAt next start (bound + 1)
  := by
  rw [walk, List.range_succ, List.flatMap_append, List.flatMap_singleton]
  rfl

/-- The rows up to a depth are those of the walk that ends there. -/
theorem countP_walk {d bound : Nat} (h : d ≤ bound) :
  (walk next start bound).countP (fun row => row.2 ≤ d) = (walk next start d).length
  := by
  induction h with
  | refl =>
      apply List.countP_eq_length.mpr
      intro row hrow
      apply decide_eq_true (mem_walk.mp hrow).1
  | step hle ih =>
      rename_i bound
      have hbeyond : (rowsAt next start (bound + 1)).countP (fun row => row.2 ≤ d) = 0 := by
        apply List.countP_eq_zero.mpr
        intro row hrow hd
        obtain ⟨a, -, rfl⟩ := List.mem_map.mp hrow
        have hd := of_decide_eq_true hd
        have hle : d ≤ bound := hle
        omega
      rw [walk_succ, List.countP_append, ih, hbeyond, Nat.add_zero]

/-- Where no level has a node twice, the walk has no row twice. -/
theorem walk_nodup (hlevel : ∀ k, (level next start k).Nodup) (bound : Nat) :
  (walk next start bound).Nodup
  := by
  apply List.nodup_flatMap.mpr
  constructor
  · intro k _
    apply (hlevel k).map
    intro a b hab
    apply congrArg Prod.fst hab
  · apply List.nodup_range.imp
    intro k m hkm row hrow hrow'
    obtain ⟨a, -, rfl⟩ := List.mem_map.mp hrow
    obtain ⟨b, -, hb⟩ := List.mem_map.mp hrow'
    apply hkm (congrArg Prod.snd hb).symm

/-- A round joins a level with the next one, until the bound. -/
theorem rowsAt_flatMap_walkStep (bound k : Nat) :
  (rowsAt next start k).flatMap (walkStep next bound)
    = if k < bound then rowsAt next start (k + 1) else []
  := by
  rw [rowsAt, List.flatMap_map]
  split
  · rename_i hk
    simp only [walkStep, if_pos hk, rowsAt, level, List.map_flatMap]
  · rename_i hk
    simp only [walkStep, if_neg hk, List.flatMap_eq_nil_iff, implies_true]

/-- From a level on, the query has the levels up to the bound. -/
theorem recursive_rowsAt {bound k fuel : Nat} (hk : k ≤ bound) (hfuel : bound + 1 < fuel + k) :
  recursive (walkStep next bound) fuel (rowsAt next start k)
    = some ((List.range' k (bound + 1 - k)).flatMap (rowsAt next start))
  := by
  induction fuel generalizing k with
  | zero => omega
  | succ fuel ih =>
      have hsplit : bound + 1 - k = bound - k + 1 := by omega
      rw [recursive, hsplit, List.range'_succ, List.flatMap_cons]
      split
      · rename_i hempty
        have hlevel : level next start k = [] :=
          List.map_eq_nil_iff.mp (List.isEmpty_iff.mp hempty)
        have hbelow : (List.range' (k + 1) (bound - k)).flatMap (rowsAt next start) = [] := by
          apply List.flatMap_eq_nil_iff.mpr
          intro m hm
          have hkm : k ≤ m := Nat.le_of_succ_le (List.mem_range'_1.mp hm).1
          rw [rowsAt, level_eq_nil hkm hlevel, List.map_nil]
        rw [List.isEmpty_iff.mp hempty, hbelow]
        rfl
      · rw [rowsAt_flatMap_walkStep]
        split
        · rename_i hbound
          have hlength : bound - k = bound + 1 - (k + 1) := by omega
          rw [ih hbound (by omega), hlength]
          rfl
        · have hlast : bound - k = 0 := by omega
          obtain ⟨fuel, rfl⟩ : ∃ n, fuel = n + 1 := ⟨fuel - 1, by omega⟩
          rw [hlast, recursive, List.range'_zero, List.flatMap_nil]
          rfl

/-- The query has the levels up to the bound. -/
theorem recursive_walkStep {bound fuel : Nat} (hfuel : bound + 1 < fuel) :
  recursive (walkStep next bound) fuel (start.map (·, 0)) = some (walk next start bound)
  := by
  rw [walk, List.range_eq_range']
  apply recursive_rowsAt (Nat.zero_le bound) hfuel

/-! ### Listings that are cut off -/

/-- A property that holds of every row before one it holds of, holds of the beginning. -/
theorem filter_prefix {β : Type} {P : β → Bool} {rows : List β}
    (h : rows.Pairwise fun row row' => P row' → P row) :
  rows.filter P <+: rows
  := by
  induction rows with
  | nil => exact List.prefix_rfl
  | cons row rows ih =>
      obtain ⟨hrow, hrows⟩ := List.pairwise_cons.mp h
      cases hP : P row with
      | true =>
          rw [List.filter_cons_of_pos hP]
          apply (List.prefix_cons_inj row).mpr (ih hrows)
      | false =>
          have hnone : rows.filter P = [] := by
            apply List.filter_eq_nil_iff.mpr
            intro row' hrow' hP'
            rw [hrow row' hrow' hP'] at hP
            cases hP
          rw [List.filter_cons_of_neg (by rw [hP]; exact Bool.false_ne_true), hnone]
          apply List.nil_prefix

/-- The rows up to a depth are kept where they fit. -/
theorem mem_take_of_count {rows : List (α × Nat)} {cap d : Nat}
    (hsorted : rows.Pairwise fun row row' => row.2 ≤ row'.2)
    (hcount : rows.countP (fun row => row.2 ≤ d) ≤ cap) {row : α × Nat} (hrow : row ∈ rows)
    (hd : row.2 ≤ d) :
  row ∈ rows.take cap
  := by
  have hprefix : rows.filter (fun row => row.2 ≤ d) <+: rows := by
    apply filter_prefix
    apply hsorted.imp
    intro r r' hle hr'
    apply decide_eq_true
    apply Nat.le_trans hle (of_decide_eq_true hr')
  have hmem : row ∈ rows.filter fun row => row.2 ≤ d := by
    apply List.mem_filter.mpr
    exact ⟨hrow, decide_eq_true hd⟩
  rw [List.prefix_iff_eq_take.mp hprefix, ← List.countP_eq_length_filter] at hmem
  apply List.take_subset_take_left rows hcount hmem

/-- Rows of a kind that lacks one row only are at most one fewer. -/
theorem countP_le_succ {β : Type} {P Q : β → Bool} {rows : List β} (hnodup : rows.Nodup)
    {x : β} (h : ∀ row ∈ rows, P row → Q row ∨ row = x) :
  rows.countP P ≤ rows.countP Q + 1
  := by
  induction rows with
  | nil => exact Nat.zero_le _
  | cons row rows ih =>
      obtain ⟨hrow, hrows⟩ := List.nodup_cons.mp hnodup
      have hrest : ∀ r ∈ rows, P r → Q r ∨ r = x := by
        intro r hr
        apply h r (List.mem_cons_of_mem row hr)
      by_cases hx : row = x
      · -- the row is the one that may lack, so the others are of both kinds
        have hmono : rows.countP P ≤ rows.countP Q := by
          apply List.countP_mono_left
          intro r hr hP
          apply (hrest r hr hP).resolve_right
          intro heq
          rw [heq, ← hx] at hr
          apply hrow hr
        simp only [List.countP_cons]
        split <;> split <;> omega
      · have hkind : P row → Q row := by
          intro hP
          apply (h row List.mem_cons_self hP).resolve_right hx
        have ih := ih hrows hrest
        simp only [List.countP_cons]
        split
        · rename_i hP
          rw [if_pos (hkind hP)]
          omega
        · omega

/-- Rows that come behind enough others are cut off. -/
theorem not_mem_take_of_count {β : Type} {P : β → Bool} {rows : List β} {cap : Nat}
    (hsorted : rows.Pairwise fun row row' => P row' → P row) (hcount : cap ≤ rows.countP P)
    {row : β} (hrow : P row = false) :
  row ∉ rows.take cap
  := by
  have hprefix := filter_prefix hsorted
  rw [List.countP_eq_length_filter] at hcount
  have htake := List.prefix_of_prefix_length_le (List.take_prefix cap rows) hprefix
    (Nat.le_trans (List.length_take_le cap rows) hcount)
  intro hmem
  have hP := (List.mem_filter.mp (htake.subset hmem)).2
  rw [hrow] at hP
  cases hP

end Levels
