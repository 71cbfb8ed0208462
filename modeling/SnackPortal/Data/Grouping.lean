import Mathlib.Data.List.Sort

/-!
# The least item of every group

Items that are sorted by their group and inside a group by their rank, and of which the first one
of every group is kept.  What is left says of every group its least rank (`mem_least`), in the
order of the groups, and nothing else: two lists leave the same exactly when each rank is least
in a group of the one where it is in the other (`least_eq_iff`).
-/

namespace Grouping

variable {α G R : Type} [LinearOrder G] [LinearOrder R] (group : α → G) (rank : α → R)

/-- The order of the groups, and inside a group of the ranks. -/
def Before (a b : α) : Prop :=
  group a < group b ∨ group a = group b ∧ rank a ≤ rank b

instance : DecidableRel (Before group rank) :=
  fun a b => inferInstanceAs (Decidable (group a < group b ∨ group a = group b ∧ rank a ≤ rank b))

instance : Std.Total (Before group rank) where
  total a b := by
    rcases lt_trichotomy (group a) (group b) with hlt | heq | hlt
    · exact .inl (.inl hlt)
    · rcases le_total (rank a) (rank b) with hle | hle
      · exact .inl (.inr ⟨heq, hle⟩)
      · exact .inr (.inr ⟨heq.symm, hle⟩)
    · exact .inr (.inl hlt)

instance : IsTrans α (Before group rank) where
  trans a b c hab hbc := by
    rcases hab with hab | ⟨hab, hab'⟩
    · rcases hbc with hbc | ⟨hbc, _⟩
      · exact .inl (hab.trans hbc)
      · exact .inl (hbc ▸ hab)
    · rcases hbc with hbc | ⟨hbc, hbc'⟩
      · exact .inl (hab ▸ hbc)
      · exact .inr ⟨hab.trans hbc, hab'.trans hbc'⟩

/-- The items in order. -/
def sorted (items : List α) : List α :=
  items.insertionSort (Before group rank)

/-- The first item of each group that has not been seen. -/
def firsts (seen : List G) : List α → List α
  | [] => []
  | a :: items =>
      if group a ∈ seen then firsts seen items else a :: firsts (group a :: seen) items

/-- Of every group the first item in order, with its group and its rank. -/
def least (items : List α) : List (G × R) :=
  (firsts group [] (sorted group rank items)).map fun a => (group a, rank a)

/-- The rank is the least one of a group. -/
def IsLeast (items : List α) (g : G) (r : R) : Prop :=
  (∃ a ∈ items, group a = g ∧ rank a = r) ∧ ∀ a ∈ items, group a = g → r ≤ rank a

variable {group rank}

theorem firsts_sublist (seen : List G) (items : List α) :
  (firsts group seen items).Sublist items
  := by
  induction items generalizing seen with
  | nil => apply List.Sublist.refl
  | cons a items ih =>
      rw [firsts]
      split
      · apply (ih seen).cons
      · apply (ih (group a :: seen)).cons_cons

/-- A group is left exactly where it occurs and has not been seen. -/
theorem group_mem_firsts {seen : List G} {items : List α} {g : G} :
  (∃ a ∈ firsts group seen items, group a = g) ↔ g ∉ seen ∧ ∃ a ∈ items, group a = g
  := by
  induction items generalizing seen with
  | nil => simp [firsts]
  | cons a items ih =>
      rw [firsts]
      split
      · rename_i hseen
        rw [ih, List.exists_mem_cons_iff]
        constructor
        · exact fun h => ⟨h.1, .inr h.2⟩
        · rintro ⟨hg, rfl | h⟩
          · exact absurd hseen hg
          · exact ⟨hg, h⟩
      · rename_i hseen
        rw [List.exists_mem_cons_iff, ih, List.exists_mem_cons_iff, List.mem_cons, not_or]
        constructor
        · rintro (rfl | ⟨⟨_, hg⟩, h⟩)
          · exact ⟨hseen, .inl rfl⟩
          · exact ⟨hg, .inr h⟩
        · rintro ⟨hg, h⟩
          by_cases hga : group a = g
          · exact .inl hga
          · refine .inr ⟨⟨fun h => hga h.symm, hg⟩, ?_⟩
            exact h.resolve_left hga

/-- The kept items are in the order of their groups, and each is the least of its group. -/
theorem firsts_of_pairwise {items : List α} (h : items.Pairwise (Before group rank))
    (seen : List G) :
  ((firsts group seen items).Pairwise fun a b => group a < group b)
    ∧ ∀ a ∈ firsts group seen items, ∀ b ∈ items, group b = group a → rank a ≤ rank b
  := by
  induction items generalizing seen with
  | nil => exact ⟨.nil, fun _ h => nomatch h⟩
  | cons a items ih =>
      obtain ⟨hhead, htail⟩ := List.pairwise_cons.mp h
      obtain ⟨hincreasing, hleast⟩ := ih htail (group a :: seen)
      rw [firsts]
      split
      · rename_i hseen
        obtain ⟨hincreasing, hleast⟩ := ih htail seen
        refine ⟨hincreasing, ?_⟩
        intro c hc b hb hgroup
        rcases List.mem_cons.mp hb with rfl | hb
        · obtain ⟨hunseen, _⟩ := group_mem_firsts.mp ⟨c, hc, rfl⟩
          rw [← hgroup] at hunseen
          exact absurd hseen hunseen
        · exact hleast c hc b hb hgroup
      · constructor
        · apply List.pairwise_cons.mpr
          refine ⟨?_, hincreasing⟩
          intro c hc
          obtain ⟨hunseen, _⟩ := group_mem_firsts.mp ⟨c, hc, rfl⟩
          rcases hhead c ((firsts_sublist _ _).mem hc) with hlt | ⟨heq, _⟩
          · exact hlt
          · exact absurd (heq ▸ List.mem_cons_self) hunseen
        · intro c hc b hb hgroup
          rcases List.mem_cons.mp hc with rfl | hc
          · rcases List.mem_cons.mp hb with rfl | hb
            · apply le_refl
            · rcases hhead b hb with hlt | ⟨_, hle⟩
              · exact absurd hgroup.symm (ne_of_lt hlt)
              · exact hle
          · rcases List.mem_cons.mp hb with rfl | hb
            · obtain ⟨hunseen, _⟩ := group_mem_firsts.mp ⟨c, hc, rfl⟩
              exact absurd (hgroup ▸ List.mem_cons_self) hunseen
            · exact hleast c hc b hb hgroup

section Least

variable (group rank) (items items' : List α)

theorem pairwise_sorted :
  (sorted group rank items).Pairwise (Before group rank)
  := List.pairwise_insertionSort _ _

theorem mem_sorted {a : α} :
  a ∈ sorted group rank items ↔ a ∈ items
  := (List.perm_insertionSort (Before group rank) items).mem_iff

variable {items} in
/-- A group that occurs is left. -/
theorem exists_firsts {a : α} (ha : a ∈ items) :
  ∃ b ∈ firsts group [] (sorted group rank items), group b = group a
  := group_mem_firsts.mpr
    ⟨List.not_mem_nil, a, (mem_sorted group rank items).mpr ha, rfl⟩

variable {group rank}

/-- The groups increase. -/
theorem increasing_least :
  (least group rank items).Pairwise fun p q => p.1 < q.1
  := by
  apply List.pairwise_map.mpr
  exact (firsts_of_pairwise (pairwise_sorted group rank items) []).1

/-- What is left says the least rank of every group. -/
theorem mem_least {g : G} {r : R} :
  (g, r) ∈ least group rank items ↔ IsLeast group rank items g r
  := by
  obtain ⟨_, hleast⟩ := firsts_of_pairwise (pairwise_sorted group rank items) []
  have hmem : ∀ {a}, a ∈ firsts group [] (sorted group rank items) → a ∈ items := fun ha =>
    (mem_sorted group rank items).mp ((firsts_sublist _ _).mem ha)
  simp only [least, List.mem_map]
  constructor
  · rintro ⟨a, ha, hpair⟩
    obtain ⟨rfl, rfl⟩ := Prod.mk.inj hpair
    refine ⟨⟨a, hmem ha, rfl, rfl⟩, ?_⟩
    intro b hb hgroup
    exact hleast a ha b ((mem_sorted group rank items).mpr hb) hgroup
  · rintro ⟨⟨a, ha, rfl, rfl⟩, hle⟩
    obtain ⟨b, hb, hgroup⟩ := exists_firsts group rank ha
    refine ⟨b, hb, Prod.ext hgroup ?_⟩
    apply le_antisymm
    · exact hleast b hb a ((mem_sorted group rank items).mpr ha) hgroup.symm
    · exact hle b (hmem hb) hgroup

variable {items items'}

/-- Two lists leave the same exactly where they have the same least ranks. -/
theorem least_eq_iff :
  least group rank items = least group rank items'
    ↔ ∀ g r, IsLeast group rank items g r ↔ IsLeast group rank items' g r
  := by
  constructor
  · intro h g r
    rw [← mem_least, ← mem_least, h]
  · intro h
    have hirrefl : Std.Irrefl fun p q : G × R => p.1 < q.1 := ⟨fun p => lt_irrefl p.1⟩
    have hasymm : Std.Antisymm fun p q : G × R => p.1 < q.1 :=
      ⟨fun p q hpq hqp => absurd (hpq.trans hqp) (lt_irrefl p.1)⟩
    apply (increasing_least items).eq_of_mem_iff (increasing_least items')
    rintro ⟨g, r⟩
    rw [mem_least, mem_least]
    apply h

/-- What is left of one group is its least rank. -/
theorem filter_least_eq {g : G} {r : Option R} (h : ∀ r', r' ∈ r ↔ IsLeast group rank items g r') :
  (least group rank items).filter (·.1 = g) = r.toList.map (g, ·)
  := by
  have hirrefl : Std.Irrefl fun p q : G × R => p.1 < q.1 := ⟨fun p => lt_irrefl p.1⟩
  have hasymm : Std.Antisymm fun p q : G × R => p.1 < q.1 :=
    ⟨fun p q hpq hqp => absurd (hpq.trans hqp) (lt_irrefl p.1)⟩
  have hsingle : (r.toList.map fun r' => (g, r')).Pairwise fun p q => p.1 < q.1 := by
    cases r with
    | none => apply List.Pairwise.nil
    | some r' => apply List.pairwise_singleton
  apply ((increasing_least items).filter _).eq_of_mem_iff hsingle
  rintro ⟨g', r'⟩
  rw [List.mem_filter, mem_least, List.mem_map, decide_eq_true_iff]
  constructor
  · rintro ⟨hleast, rfl⟩
    exact ⟨r', Option.mem_toList.mpr ((h r').mpr hleast), rfl⟩
  · rintro ⟨r', hr', hpair⟩
    obtain ⟨rfl, rfl⟩ := Prod.mk.inj hpair
    exact ⟨(h r').mp (Option.mem_toList.mp hr'), rfl⟩

variable (group rank) in
/-- A group that occurs has a least rank. -/
theorem exists_isLeast {a : α} (ha : a ∈ items) :
  ∃ r, IsLeast group rank items (group a) r
  := by
  obtain ⟨b, hb, hgroup⟩ := exists_firsts group rank ha
  use rank b
  rw [← hgroup, ← mem_least]
  exact List.mem_map_of_mem hb

end Least

end Grouping
