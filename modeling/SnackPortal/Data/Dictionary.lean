import Mathlib.Data.List.AList

/-!
# Dictionaries that keep the order of insertion

An association list whose first entry is the one inserted last.  Assigning to a key that is
present replaces its value in place; whatever an operation leaves under a key was there before,
or is what was assigned.
-/

namespace Dictionary

variable {κ ν : Type} [DecidableEq κ]

/-- The dictionary after an assignment: a new key comes first, a key that is present stays where
it is. -/
def assign (k : κ) (v : ν) (d : AList fun _ : κ => ν) : AList fun _ : κ => ν :=
  if k ∈ d then d.replace k v else d.insert k v

theorem lookup_of_erase {d : AList fun _ : κ => ν} {k l : κ} {v : ν}
    (h : (d.erase l).lookup k = some v) :
  d.lookup k = some v
  := by
  by_cases hk : k = l
  · subst hk
    rw [AList.lookup_erase] at h
    cases h
  · rw [AList.lookup_erase_ne hk] at h
    apply h

/-- An entry after a replacement is the new one or was there before. -/
theorem mem_kreplace {k : κ} {v : ν} {l : List (Sigma fun _ : κ => ν)}
    {e : Sigma fun _ : κ => ν} (h : e ∈ List.kreplace k v l) :
  e = ⟨k, v⟩ ∨ e ∈ l
  := by
  induction l with
  | nil => cases h
  | cons head l ih =>
      rw [List.kreplace, List.lookmap_cons] at h
      split at h
      · rcases List.mem_cons.mp h with rfl | h
        · right
          apply List.mem_cons_self
        · rcases ih h with he | he
          · left
            apply he
          · right
            apply List.mem_cons_of_mem head he
      · rename_i replaced hreplaced
        split at hreplaced
        · obtain rfl := Option.some.inj hreplaced
          rcases List.mem_cons.mp h with rfl | h
          · left
            rfl
          · right
            apply List.mem_cons_of_mem head h
        · cases hreplaced

/-- What is found after an assignment was assigned or was there before. -/
theorem lookup_of_assign {d : AList fun _ : κ => ν} {k l : κ} {v w : ν}
    (h : (assign l w d).lookup k = some v) :
  k = l ∧ v = w ∨ d.lookup k = some v
  := by
  rw [assign] at h
  split at h
  · have hmem : (⟨k, v⟩ : Sigma fun _ : κ => ν) ∈ List.kreplace l w d.entries :=
      AList.mem_lookup_iff.mp h
    rcases mem_kreplace hmem with he | he
    · cases he
      exact .inl ⟨rfl, rfl⟩
    · exact .inr (AList.mem_lookup_iff.mpr he)
  · by_cases hk : k = l
    · subst hk
      rw [AList.lookup_insert] at h
      exact .inl ⟨rfl, (Option.some.inj h).symm⟩
    · rw [AList.lookup_insert_ne hk] at h
      exact .inr h

end Dictionary
