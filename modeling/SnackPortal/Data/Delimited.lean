import Mathlib.Data.List.Basic
import Mathlib.Data.List.Count
import Mathlib.Algebra.BigOperators.Group.List.Basic
import Mathlib.Algebra.GroupWithZero.Nat

/-!
# Delimited texts

Texts joined by a separator character.  Lists of as many texts have the same join only when
they are equal, as long as one of them holds no separator (`join_inj`); a text that holds the
separator can give a part of itself to its neighbour without changing the join (`join_shift`).
-/

namespace Delimited

variable {sep : Char}

/-- The texts, with the separator between them. -/
def join (sep : Char) (texts : List String) : String :=
  (String.singleton sep).intercalate texts

/-- The text does not hold the separator. -/
def Clean (sep : Char) (text : String) : Prop :=
  sep ∉ text.toList

instance (text : String) : Decidable (Clean sep text) :=
  inferInstanceAs (Decidable (sep ∉ text.toList))

theorem toList_join {texts : List String} :
  (join sep texts).toList = [sep].intercalate (texts.map String.toList)
  := by
  rw [join, String.toList_intercalate, String.toList_singleton]

/-- The separators of a join, and those that its texts hold. -/
theorem count_intercalate (sep : Char) (texts : List (List Char)) (h : texts ≠ []) :
  ([sep].intercalate texts).count sep + 1
    = texts.length + (texts.map (List.count sep)).sum
  := by
  induction texts with
  | nil => exact absurd rfl h
  | cons text texts ih =>
      cases texts with
      | nil => simp [List.intercalate_singleton, Nat.add_comm]
      | cons text' texts =>
          have ih := ih (by simp)
          rw [List.intercalate_cons_cons, List.append_assoc, List.count_append,
            List.count_append, List.count_singleton_self, List.map_cons, List.sum_cons,
            List.length_cons]
          omega

/-- A list of texts with the join of as many clean texts is clean itself. -/
theorem clean_of_join {texts texts' : List String} (hlength : texts.length = texts'.length)
    (hclean : ∀ text ∈ texts, Clean sep text) (hjoin : join sep texts = join sep texts') :
  ∀ text ∈ texts', Clean sep text
  := by
  rcases eq_or_ne texts [] with rfl | hne
  · have hnil : texts' = [] := List.eq_nil_of_length_eq_zero hlength.symm
    subst hnil
    intro text htext
    cases htext
  · have hne' : texts' ≠ [] := by
      rintro rfl
      apply hne
      apply List.eq_nil_of_length_eq_zero hlength
    have hlists := congrArg String.toList hjoin
    rw [toList_join, toList_join] at hlists
    have hcount := count_intercalate sep (texts.map String.toList) (by simpa using hne)
    have hcount' := count_intercalate sep (texts'.map String.toList) (by simpa using hne')
    rw [hlists, hcount', List.length_map, List.length_map, hlength] at hcount
    have hzero : (((texts.map String.toList).map (List.count sep)).sum : Nat) = 0 := by
      apply List.sum_eq_zero
      intro n hn
      obtain ⟨chars, hchars, rfl⟩ := List.mem_map.mp hn
      obtain ⟨text, htext, rfl⟩ := List.mem_map.mp hchars
      apply List.count_eq_zero.mpr (hclean text htext)
    have hzero' : (((texts'.map String.toList).map (List.count sep)).sum : Nat) = 0 := by
      omega
    intro text htext
    apply List.count_eq_zero.mp
    apply List.sum_eq_zero_iff_forall_eq_nat.mp hzero'
    apply List.mem_map_of_mem
    apply List.mem_map_of_mem htext

/-- As many texts, clean on one side, have the same join only when they are equal. -/
theorem join_inj {texts texts' : List String} (hlength : texts.length = texts'.length)
    (hclean : ∀ text ∈ texts, Clean sep text) (hjoin : join sep texts = join sep texts') :
  texts = texts'
  := by
  have hclean' := clean_of_join hlength hclean hjoin
  rcases eq_or_ne texts [] with rfl | hne
  · exact (List.eq_nil_of_length_eq_zero hlength.symm).symm
  · have hne' : texts' ≠ [] := by
      rintro rfl
      apply hne
      apply List.eq_nil_of_length_eq_zero hlength
    have hsplit : ∀ {l : List String}, l ≠ [] → (∀ text ∈ l, Clean sep text) →
        ([sep].intercalate (l.map String.toList)).splitOn sep = l.map String.toList := by
      intro l hl hcl
      apply List.splitOn_intercalate
      · intro chars hchars
        obtain ⟨text, htext, rfl⟩ := List.mem_map.mp hchars
        apply hcl text htext
      · simpa using hl
    have hlists := congrArg String.toList hjoin
    rw [toList_join, toList_join] at hlists
    have hmap : texts.map String.toList = texts'.map String.toList := by
      rw [← hsplit hne hclean, hlists, hsplit hne' hclean']
    apply List.map_injective_iff.mpr (fun _ _ => String.toList_injective) hmap

/-- A text can give what follows a separator in it to the next one. -/
theorem join_shift {before after : List String} {a b c : String} :
  join sep (before ++ (a ++ String.singleton sep ++ b) :: c :: after)
    = join sep (before ++ a :: (b ++ String.singleton sep ++ c) :: after)
  := by
  apply String.toList_injective
  rw [toList_join, toList_join]
  induction before with
  | nil =>
      cases after with
      | nil => simp [List.intercalate_cons_cons]
      | cons d after => simp [List.intercalate_cons_cons]
  | cons d before ih =>
      cases before with
      | nil =>
          simp only [List.nil_append, List.map_cons, List.cons_append] at ih ⊢
          rw [List.intercalate_cons_cons, ih]
          apply List.intercalate_cons_cons.symm
      | cons e before =>
          simp only [List.map_cons, List.cons_append] at ih ⊢
          rw [List.intercalate_cons_cons, ih, List.intercalate_cons_cons]

/-- A text that holds the separator, cut at its first separator. -/
theorem exists_cut {text : String} (h : ¬ Clean sep text) :
  ∃ a b : String, text = a ++ String.singleton sep ++ b
  := by
  obtain ⟨s, t, hst⟩ := List.append_of_mem (not_not.mp h)
  use String.ofList s, String.ofList t
  apply String.toList_injective
  simp [hst]

/-- A text with something before or after it is another text. -/
theorem ne_append_of_cut (sep : Char) (a b : String) :
  a ≠ a ++ String.singleton sep ++ b ∧ b ≠ a ++ String.singleton sep ++ b
  := by
  constructor
  · intro h
    have hlength := congrArg (fun text : String => text.toList.length) h
    simp at hlength
  · intro h
    have hlength := congrArg (fun text : String => text.toList.length) h
    simp at hlength
    omega

/-- Two texts or more, one of which holds the separator, have the join of other texts, whatever
stands before them. -/
theorem exists_shift {texts : List String} (hlength : 2 ≤ texts.length)
    (h : ∃ text ∈ texts, ¬ Clean sep text) :
  ∃ texts' : List String, texts'.length = texts.length ∧ texts' ≠ texts
    ∧ ∀ before, join sep (before ++ texts') = join sep (before ++ texts)
  := by
  obtain ⟨text, htext, hclean⟩ := h
  obtain ⟨a, b, rfl⟩ := exists_cut hclean
  obtain ⟨hfirst, hsecond⟩ := ne_append_of_cut sep a b
  obtain ⟨front, back, rfl⟩ := List.append_of_mem htext
  cases back with
  | cons next back =>
      -- what follows the separator goes to the next text
      use front ++ a :: (b ++ String.singleton sep ++ next) :: back
      refine ⟨by simp, ?_, ?_⟩
      · intro heq
        apply hfirst
        apply (List.cons.inj (List.append_cancel_left heq)).1
      · intro before
        rw [← List.append_assoc, ← List.append_assoc, join_shift]
  | nil =>
      -- what stands before the separator goes to the text before
      obtain rfl | ⟨front, last, rfl⟩ := List.eq_nil_or_concat' front
      · simp at hlength
      use front ++ (last ++ String.singleton sep ++ a) :: b :: []
      refine ⟨by simp, ?_, ?_⟩
      · intro heq
        rw [List.append_assoc] at heq
        have hrest := (List.cons.inj (List.append_cancel_left heq)).2
        apply hsecond
        apply (List.cons.inj hrest).1
      · intro before
        rw [← List.append_assoc, join_shift]
        simp

/-- A text with a separator in it is not clean. -/
theorem not_clean {a b : String} :
  ¬ Clean sep (a ++ String.singleton sep ++ b)
  := by
  simp [Clean]

/-- Two texts on the sides of a separator with the join of two others: the same texts, or the
separator of one join lies in a text of the other. -/
theorem cut_cases {a b c d : String}
    (h : a ++ String.singleton sep ++ b = c ++ String.singleton sep ++ d) :
  (a = c ∧ b = d)
    ∨ (∃ m, c = a ++ String.singleton sep ++ m ∧ b = m ++ String.singleton sep ++ d)
    ∨ ∃ m, a = c ++ String.singleton sep ++ m ∧ d = m ++ String.singleton sep ++ b
  := by
  have hlists := congrArg String.toList h
  simp only [String.toList_append, String.toList_singleton, List.append_assoc,
    List.singleton_append] at hlists
  rcases List.append_eq_append_iff.mp hlists with ⟨m, hc, hb⟩ | ⟨m, ha, hd⟩
  · cases m with
    | nil =>
        left
        rw [List.nil_append, List.cons.injEq] at hb
        rw [List.append_nil] at hc
        apply And.intro (String.toList_injective hc.symm) (String.toList_injective hb.2)
    | cons x m =>
        right
        left
        rw [List.cons_append, List.cons.injEq] at hb
        obtain ⟨rfl, hb⟩ := hb
        use String.ofList m
        constructor
        · apply String.toList_injective
          simp [hc]
        · apply String.toList_injective
          simp [hb]
  · cases m with
    | nil =>
        left
        rw [List.nil_append, List.cons.injEq] at hd
        rw [List.append_nil] at ha
        apply And.intro (String.toList_injective ha) (String.toList_injective hd.2.symm)
    | cons x m =>
        right
        right
        rw [List.cons_append, List.cons.injEq] at hd
        obtain ⟨rfl, hd⟩ := hd
        use String.ofList m
        constructor
        · apply String.toList_injective
          simp [ha]
        · apply String.toList_injective
          simp [hd]

/-- A separator behind a clean text is the first. -/
theorem cut_inj {a b c d : String} (ha : Clean sep a) (hc : Clean sep c)
    (h : a ++ String.singleton sep ++ b = c ++ String.singleton sep ++ d) :
  a = c ∧ b = d
  := by
  rcases cut_cases h with heq | ⟨m, rfl, -⟩ | ⟨m, rfl, -⟩
  · apply heq
  · cases not_clean hc
  · cases not_clean ha

/-- A separator before a clean text is the last. -/
theorem cut_inj_last {a b c d : String} (hb : Clean sep b) (hd : Clean sep d)
    (h : a ++ String.singleton sep ++ b = c ++ String.singleton sep ++ d) :
  a = c ∧ b = d
  := by
  rcases cut_cases h with heq | ⟨m, -, rfl⟩ | ⟨m, -, rfl⟩
  · apply heq
  · cases not_clean hb
  · cases not_clean hd

theorem join_cons (sep : Char) (a b : String) (texts : List String) :
  join sep (a :: b :: texts) = a ++ String.singleton sep ++ join sep (b :: texts)
  := by
  apply String.toList_injective
  rw [toList_join, String.toList_append, String.toList_append, toList_join]
  simp [List.intercalate]

/-- The text of a natural number holds digits only. -/
theorem clean_repr (hsep : sep.isDigit = false) (n : Nat) :
  Clean sep n.repr
  := by
  intro h
  rw [Nat.toList_repr] at h
  have hdigit := Nat.isDigit_of_mem_toDigits (by decide) (by decide) h
  rw [hsep] at hdigit
  cases hdigit

end Delimited
