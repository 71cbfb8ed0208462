import SnackPortal.SnackPortal2.WebsiteForms

/-!
# The value of a website's value

Where `normalize_website` returns at all, and where it returns its own values: where the host
begins with `www.` at most once, and the value does not end in a blank.
-/

namespace SnackPortal2.Urls

open Text (isSpace)

/-! ## The text that is split -/

/-- The text without blanks around it. -/
def stripped (raw : List Char) : List Char :=
  (raw.dropWhile isSpace).rdropWhile isSpace

theorem toList_strip (raw : String) :
  (Text.strip raw).toList = stripped raw.toList
  := by
  rw [Text.strip, String.toList_ofList]
  rfl

/-- The text names a scheme. -/
def NamesScheme (text : List Char) : Prop :=
  "://".toList <:+: text

theorem contains_iff {text : String} :
  Text.contains text "://" ↔ NamesScheme text.toList
  := by
  rw [Text.contains, List.any_eq_true]
  constructor
  · rintro ⟨tail, htail, hprefix⟩
    obtain ⟨rest, hrest⟩ := List.isPrefixOf_iff_prefix.mp hprefix
    obtain ⟨front, hfront⟩ := (List.mem_tails _ _).mp htail
    use front, rest
    rw [List.append_assoc, hrest, hfront]
  · rintro ⟨front, rest, hsplit⟩
    use "://".toList ++ rest
    constructor
    · apply (List.mem_tails _ _).mpr
      use front
      rw [← List.append_assoc, hsplit]
    · apply List.isPrefixOf_iff_prefix.mpr
      apply List.prefix_append

theorem toList_candidate_of_names {raw : String} (h : NamesScheme (stripped raw.toList)) :
  (candidate raw).toList = stripped raw.toList
  := by
  rw [← toList_strip] at h
  rw [candidate, if_pos (contains_iff.mpr h), toList_strip]

theorem toList_candidate_of_not_names {raw : String} (h : ¬ NamesScheme (stripped raw.toList)) :
  (candidate raw).toList = "https://".toList ++ stripped raw.toList
  := by
  rw [← toList_strip] at h
  rw [candidate, if_neg (contains_iff.not.mpr h), String.toList_append, toList_strip]

/-! ### Dropping blanks -/

theorem dropWhile_of_head {P : Char → Bool} {text : List Char} (h : ∀ c ∈ text.head?, P c = false) :
  text.dropWhile P = text
  := by
  cases text with
  | nil => rfl
  | cons c text =>
      rw [List.dropWhile_cons_of_neg]
      rw [h c rfl]
      apply Bool.false_ne_true

/-- Dropping at the end leaves what has a character that stays at its end. -/
theorem rdropWhile_append {P : Char → Bool} {front back : List Char}
    (h : ∀ c ∈ front.getLast?, P c = false) :
  (front ++ back).rdropWhile P = front ++ back.rdropWhile P
  := by
  induction back using List.reverseRecOn with
  | nil =>
      rw [List.append_nil, List.rdropWhile_nil, List.append_nil]
      apply List.rdropWhile_eq_self_iff.mpr
      intro hne hlast
      rw [h _ (List.getLast?_eq_getLast_of_ne_nil hne)] at hlast
      cases hlast
  | append_singleton back c ih =>
      rw [← List.append_assoc]
      by_cases hc : P c
      · rw [List.rdropWhile_concat_pos _ _ _ hc, List.rdropWhile_concat_pos _ _ _ hc, ih]
      · rw [List.rdropWhile_concat_neg _ _ _ hc, List.rdropWhile_concat_neg _ _ _ hc,
          List.append_assoc]

/-- A text that begins and ends with characters that stay, with others behind. -/
theorem stripped_append {front back : List Char} (hne : front ≠ [])
    (hhead : ∀ c ∈ front.head?, isSpace c = false)
    (hlast : ∀ c ∈ front.getLast?, isSpace c = false) :
  stripped (front ++ back) = front ++ back.rdropWhile isSpace
  := by
  have hdrop : (front ++ back).dropWhile isSpace = front ++ back := by
    apply dropWhile_of_head
    intro c hc
    apply hhead
    rw [List.head?_append_of_ne_nil _ hne] at hc
    apply hc
  rw [stripped, hdrop, rdropWhile_append hlast]

/-- The characters that are removed from a text before it is split. -/
def removed (text : List Char) : List Char :=
  text.filter fun c => c != '\t' && c != '\r' && c != '\n'

/-- A text with a visible character is cleaned up to what follows it. -/
theorem cleaned_append {front back : List Char} (h : ∃ c ∈ front, 0x20 < c.toNat) :
  Url.cleaned (front ++ back) = Url.cleaned front ++ removed back
  := by
  obtain ⟨c, hc, hvisible⟩ := h
  have hdrop : (front ++ back).dropWhile (fun c => c.toNat ≤ 0x20)
      = front.dropWhile (fun c => c.toNat ≤ 0x20) ++ back := by
    rw [List.dropWhile_append, if_neg]
    intro hempty
    have hall := List.dropWhile_eq_nil_iff.mp (List.isEmpty_iff.mp hempty) c hc
    have hle := of_decide_eq_true hall
    omega
  rw [Url.cleaned, hdrop, List.filter_append]
  rfl

/-! ## The parts of a text -/

/-- The host part of a text that is split. -/
def hostPart (text : List Char) : List Char :=
  (Url.splitNetloc (Url.splitScheme (Url.cleaned text)).2).1

/-- What follows the host part. -/
def restPart (text : List Char) : List Char :=
  (Url.splitNetloc (Url.splitScheme (Url.cleaned text)).2).2

/-- The parser of URLs takes the host part of every text that is given and not blank. -/
def Parses (nfkc : String → String) (raw : Option String) : Prop :=
  ∀ text, raw = some text → Text.strip text ≠ "" →
    Url.netlocOk nfkc (hostPart (candidate text).toList)

/-- The host begins with `www.` at most once, and the value ends in no blank. -/
def Settled (unicode : Unicode) (raw : String) : Prop :=
  ¬ "www.www.".toList <+: fold unicode (hostPart (candidate raw).toList)
    ∧ ∀ c ∈ (tailOf (restPart (candidate raw).toList)).getLast?, isSpace c = false

/-- The text is that of a website. -/
def IsSite (unicode : Unicode) (raw : String) : Prop :=
  ∃ scheme netloc rest, Website unicode (candidate raw).toList scheme netloc rest

section Parts

variable {nfkc : String → String} {unicode : Unicode} {text scheme netloc rest : List Char}

theorem Website.hostPart_eq (h : Website unicode text scheme netloc rest) :
  hostPart text = netloc
  := by
  rw [hostPart, h.split, splitNetloc_append h.netlocEnds h.restBegins]

theorem Website.restPart_eq (h : Website unicode text scheme netloc rest) :
  restPart text = rest
  := by
  rw [restPart, h.split, splitNetloc_append h.netlocEnds h.restBegins]

theorem urlsplit_eq_parts (nfkc : String → String) (text : String) :
  Url.urlsplit nfkc text
    = if Url.netlocOk nfkc (hostPart text.toList) then
        .ok (Url.parts (Url.splitScheme (Url.cleaned text.toList)).1 (hostPart text.toList)
          (restPart text.toList))
      else .error .valueError
  := by
  rw [hostPart, restPart, Url.urlsplit]

/-- A text is that of one website at most. -/
theorem Website.unique {scheme' netloc' rest' : List Char}
    (h : Website unicode text scheme netloc rest)
    (h' : Website unicode text scheme' netloc' rest') :
  scheme = scheme' ∧ netloc = netloc' ∧ rest = rest'
  := by
  constructor
  · have hscheme := h.split.symm.trans h'.split
    apply (Prod.mk.inj hscheme).1
  · constructor
    · rw [← h.hostPart_eq, ← h'.hostPart_eq]
    · rw [← h.restPart_eq, ← h'.restPart_eq]

/-- The refusal, an error of the parser, none of a blank text, or a value. -/
theorem normalizeWebsite_eq_none_iff {raw : String} :
  normalizeWebsite nfkc unicode (some raw) = .ok none ↔ Text.strip raw = ""
  := by
  constructor
  · intro h
    by_contra hblank
    rw [normalizeWebsite, if_neg hblank] at h
    split at h
    · cases h
    · split at h
      · cases h
      · split at h
        · cases h
        · cases h
  · intro hblank
    rw [normalizeWebsite, if_pos hblank]

/-- A value or the refusal, of every text that the parser takes and of no other. -/
theorem normalizeWebsite_total {raw : Option String} :
  (∃ v, normalizeWebsite nfkc unicode raw = .ok v)
      ∨ normalizeWebsite nfkc unicode raw = .error (.app invalidRequest)
    ↔ Parses nfkc raw
  := by
  cases raw with
  | none =>
      constructor
      · intro _ text htext
        cases htext
      · intro _
        apply Or.inl
        use none
        rfl
  | some raw =>
      by_cases hblank : Text.strip raw = ""
      · constructor
        · intro _ text htext hne
          obtain rfl := Option.some.inj htext
          exact absurd hblank hne
        · intro _
          apply Or.inl
          use none
          apply normalizeWebsite_eq_none_iff.mpr hblank
      · have hsplit := urlsplit_eq_parts nfkc (candidate raw)
        constructor
        · intro h text htext _
          obtain rfl := Option.some.inj htext
          by_contra hnot
          rw [normalizeWebsite, if_neg hblank, hsplit, if_neg hnot] at h
          rcases h with ⟨v, h⟩ | h
          · cases h
          · cases h
        · intro h
          rw [normalizeWebsite, if_neg hblank, hsplit, if_pos (h raw rfl hblank)]
          simp only
          split
          · apply Or.inr rfl
          · split
            · apply Or.inl
              exact ⟨_, rfl⟩
            · apply Or.inr rfl

end Parts

/-! ## The value of a value -/

section Value

variable {nfkc : String → String} {unicode : Unicode} (laws : Lawful nfkc unicode)
variable {text scheme netloc rest : List Char}

include laws

theorem fold_ascii (h : ∀ c ∈ text, c.toNat < 0x80) :
  fold unicode text = text.map Char.toLower
  := by
  induction text with
  | nil => apply fold_nil laws
  | cons c text ih =>
      rw [List.forall_mem_cons] at h
      rw [← List.singleton_append, fold_append laws, fold_singleton_ascii laws h.1, ih h.2]
      rfl

theorem fold_www :
  fold unicode "www.".toList = "www.".toList
  := by
  rw [fold_ascii laws]
  · rfl
  · exact List.all_iff_forall_prop.mp (by decide)

/-- The folding of a host with `www.` before it. -/
theorem fold_www_append (host : List Char) :
  fold unicode ("www.".toList ++ host) = "www.".toList ++ fold unicode host
  := by
  rw [fold_append laws, fold_www laws]

/-- A host is folded. -/
theorem fold_hostOf :
  fold unicode (hostOf unicode netloc) = hostOf unicode netloc
  := by
  rw [hostOf]
  split
  · rename_i hwww
    obtain ⟨tail, htail⟩ := List.isPrefixOf_iff_prefix.mp hwww
    have hfold : fold unicode ("www.".toList ++ tail) = "www.".toList ++ tail := by
      rw [htail, fold_idem laws]
    rw [fold_www_append laws] at hfold
    rw [← htail]
    apply List.append_cancel_left hfold
  · apply fold_idem laws

omit laws in
/-- A host that begins with `www.` is that of a host part that begins with it twice. -/
theorem www_hostOf :
  "www.".toList <+: hostOf unicode netloc ↔ "www.www.".toList <+: fold unicode netloc
  := by
  rw [hostOf]
  split
  · rename_i hwww
    obtain ⟨tail, htail⟩ := List.isPrefixOf_iff_prefix.mp hwww
    rw [← htail]
    apply (List.prefix_append_right_inj "www.".toList).symm
  · rename_i hwww
    constructor
    · intro hprefix
      exact absurd (List.isPrefixOf_iff_prefix.mpr hprefix) hwww
    · intro hprefix
      apply absurd (List.isPrefixOf_iff_prefix.mpr _) hwww
      apply List.IsPrefix.trans _ hprefix
      apply List.prefix_append "www.".toList "www.".toList

/-- The host of a host. -/
theorem hostOf_hostOf :
  hostOf unicode (hostOf unicode netloc)
    = if "www.".toList.isPrefixOf (hostOf unicode netloc) then (hostOf unicode netloc).drop 4
      else hostOf unicode netloc
  := by
  rw [hostOf, fold_hostOf laws]

omit laws

/-- The tail of a rest without a number sign and a question mark. -/
theorem tailOf_path (hfragment : '#' ∉ rest) (hquery : '?' ∉ rest) :
  tailOf rest = rest.rdropWhile (· == '/')
  := by
  rw [tailOf, Url.partition_of_not_mem hfragment]
  simp only [Url.partition_of_not_mem hquery, if_pos, List.append_nil]

/-- The tail of a path and a query, without a number sign. -/
theorem tailOf_query {path query : List Char} (hfragment : '#' ∉ path ++ '?' :: query)
    (hpath : '?' ∉ path) :
  tailOf (path ++ '?' :: query)
    = path.rdropWhile (· == '/') ++ if query = [] then [] else '?' :: query
  := by
  rw [tailOf, Url.partition_of_not_mem hfragment, Url.partition_append hpath]

/-- A tail does not depend on what follows a number sign. -/
theorem tailOf_fragment :
  tailOf (Url.partition '#' rest).1 = tailOf rest
  := by
  rw [tailOf, Url.partition_of_not_mem Url.not_mem_partition, tailOf]

/-- The tail is no longer than the rest, and has only its characters. -/
theorem tailOf_le :
  (tailOf rest).length ≤ rest.length ∧ tailOf rest ⊆ rest ∧ '#' ∉ tailOf rest
  := by
  have hplain : ∀ front : List Char, '#' ∉ front →
      (tailOf front).length ≤ front.length ∧ tailOf front ⊆ front := by
    intro front hfragment
    by_cases hquery : '?' ∈ front
    · have hsplit := Url.partition_of_mem hquery
      have hfragment' : '#' ∉ (Url.partition '?' front).1 ++ '?' :: (Url.partition '?' front).2 := by
        rw [← hsplit]
        apply hfragment
      have hpath : (Url.partition '?' front).1.rdropWhile (· == '/') <+:
          (Url.partition '?' front).1 := List.rdropWhile_prefix _ _
      rw [hsplit, tailOf_query hfragment' Url.not_mem_partition]
      split
      · rw [List.append_nil, List.length_append]
        constructor
        · have hlength := hpath.length_le
          omega
        · intro c hc
          apply List.mem_append_left
          apply hpath.subset hc
      · rw [List.length_append, List.length_append]
        constructor
        · have hlength := hpath.length_le
          omega
        · apply List.append_subset.mpr
          constructor
          · intro c hc
            apply List.mem_append_left
            apply hpath.subset hc
          · apply List.subset_append_right
    · rw [tailOf_path hfragment hquery]
      constructor
      · apply (List.rdropWhile_prefix _ _).length_le
      · apply (List.rdropWhile_prefix _ _).subset
  obtain ⟨hlength, hsubset⟩ := hplain (Url.partition '#' rest).1 Url.not_mem_partition
  have hfront : (Url.partition '#' rest).1 <+: rest := Url.partition_fst_prefix
  rw [tailOf_fragment] at hlength hsubset
  constructor
  · apply hlength.trans hfront.length_le
  · constructor
    · intro c hc
      apply hfront.subset (hsubset hc)
    · intro hmem
      apply Url.not_mem_partition (hsubset hmem)

/-- The tail of a tail is the tail. -/
theorem tailOf_tailOf :
  tailOf (tailOf rest) = tailOf rest
  := by
  have hplain : ∀ front : List Char, '#' ∉ front → tailOf (tailOf front) = tailOf front := by
    intro front hfragment
    have hfragment' : '#' ∉ tailOf front := by
      intro hmem
      apply hfragment (tailOf_le.2.1 hmem)
    by_cases hquery : '?' ∈ front
    · have hsplit := Url.partition_of_mem hquery
      have hpath : '?' ∉ (Url.partition '?' front).1.rdropWhile (· == '/') := by
        intro hmem
        apply Url.not_mem_partition ((List.rdropWhile_prefix _ _).subset hmem)
      have htail : tailOf front = (Url.partition '?' front).1.rdropWhile (· == '/')
          ++ if (Url.partition '?' front).2 = [] then []
            else '?' :: (Url.partition '?' front).2 := by
        rw [hsplit] at hfragment
        nth_rewrite 1 [hsplit]
        apply tailOf_query hfragment Url.not_mem_partition
      rw [htail] at hfragment' ⊢
      by_cases hnil : (Url.partition '?' front).2 = []
      · rw [if_pos hnil, List.append_nil] at hfragment' ⊢
        rw [tailOf_path hfragment' hpath, List.rdropWhile_idempotent]
      · rw [if_neg hnil] at hfragment' ⊢
        rw [tailOf_query hfragment' hpath, if_neg hnil, List.rdropWhile_idempotent]
    · have hquery' : '?' ∉ tailOf front := by
        intro hmem
        apply hquery (tailOf_le.2.1 hmem)
      rw [tailOf_path hfragment' hquery', tailOf_path hfragment hquery,
        List.rdropWhile_idempotent]
  have hfront := hplain (Url.partition '#' rest).1 Url.not_mem_partition
  rw [tailOf_fragment] at hfront
  apply hfront

/-- The tail of a rest that ends a host ends it, too. -/
theorem tailOf_begins (h : ∀ c ∈ rest.head?, Url.endsHost c) :
  ∀ c ∈ (tailOf rest).head?, Url.endsHost c
  := by
  intro c hc
  rw [tailOf] at hc
  simp only at hc
  by_cases hpath : (Url.partition '?' (Url.partition '#' rest).1).1.rdropWhile (· == '/') = []
  · rw [hpath, List.nil_append] at hc
    split at hc
    · cases hc
    · obtain rfl := Option.some.inj hc
      rfl
  · rw [List.head?_append_of_ne_nil _ hpath] at hc
    rw [path_begins h c hc]
    rfl

theorem visible_of_isHostChar (laws : Lawful nfkc unicode) {c : Char} (h : isHostChar unicode c) :
  0x20 < c.toNat ∧ isSpace c = false ∧ Url.endsHost c = false
  := by
  have hcontrol : ∀ d : Char, d.toNat < 0x80 → d.isDigit = false →
      (d.isAlphanum || d == '-' || d == '.' || d == ':') = false → c ≠ d := by
    rintro d hascii hdigit hchar rfl
    rw [isHostChar, hchar, Bool.false_or] at h
    rw [laws.decimal_ascii c hascii h] at hdigit
    cases hdigit
  constructor
  · by_contra hlow
    rw [isHostChar] at h
    simp only [Bool.or_eq_true, beq_iff_eq] at h
    rcases h with (((halnum | rfl) | rfl) | rfl) | hdecimal
    · apply hlow (toNat_of_isAlphanum halnum).1
    · apply hlow
      decide
    · apply hlow
      decide
    · apply hlow
      decide
    · have hdigit := laws.decimal_ascii c (by omega) hdecimal
      apply hlow (toNat_of_isAlphanum (c := c) _).1
      rw [Char.isAlphanum, hdigit, Bool.or_true]
  · constructor
    · apply Bool.eq_false_iff.mpr
      intro hspace
      rw [isHostChar_of_space laws hspace] at h
      cases h
    · rw [Url.endsHost]
      simp only [Bool.or_eq_false_iff, beq_eq_false_iff_ne]
      constructor
      · constructor
        · apply hcontrol <;> decide
        · apply hcontrol <;> decide
      · apply hcontrol <;> decide

/-- How a text of scheme characters before a colon is split. -/
theorem splitScheme_append {after : List Char} (h : ∀ c ∈ scheme, Url.isSchemeChar c) :
  Url.splitScheme (scheme ++ ':' :: after)
    = if scheme.head?.any Char.isAlpha then (scheme.map Char.toLower, after)
      else ([], scheme ++ ':' :: after)
  := by
  have hcolon : ':' ∉ scheme := by
    intro hmem
    have hchar := h ':' hmem
    revert hchar
    decide
  have hcontains : (scheme ++ ':' :: after).contains ':' = true := by
    apply List.contains_iff_mem.mpr
    apply List.mem_append_right
    apply List.mem_cons_self
  rw [Url.splitScheme, Url.hasScheme, hcontains, Bool.true_and, Url.partition_append hcolon,
    List.all_eq_true.mpr h, Bool.and_true]

theorem splitScheme_suffix :
  (Url.splitScheme text).2 <:+ text
  := by
  rw [Url.splitScheme]
  split
  · apply (List.drop_suffix _ _).trans
    apply List.dropWhile_suffix
  · apply List.suffix_refl

/-- The rest of a website is in the text without tabs and ends of lines. -/
theorem Website.rest_suffix (h : Website unicode text scheme netloc rest) :
  rest <:+ Url.cleaned text
  := by
  have hsuffix : (Url.splitScheme (Url.cleaned text)).2 <:+ Url.cleaned text := splitScheme_suffix
  rw [h.split] at hsuffix
  apply List.IsSuffix.trans _ hsuffix
  use '/' :: '/' :: netloc
  rw [List.cons_append, List.cons_append]

theorem scheme_permitted (h : String.ofList scheme ∈ permittedSchemes) :
  scheme = "http".toList ∨ scheme = "https".toList
  := by
  have hcases : String.ofList scheme = "http" ∨ String.ofList scheme = "https" := by
    simpa [permittedSchemes] using h
  rcases hcases with heq | heq
  · apply Or.inl
    rw [← heq, String.toList_ofList]
  · apply Or.inr
    rw [← heq, String.toList_ofList]

theorem visible_of_isAlphanum {c : Char} (h : c.isAlphanum) :
  isSpace c = false ∧ Url.endsHost c = false
  := by
  constructor
  · have hrange := toNat_of_isAlphanum h
    apply Bool.eq_false_iff.mpr
    intro hspace
    simp only [isSpace, Bool.or_eq_true, Bool.and_eq_true, decide_eq_true_eq,
      List.contains_iff_mem, List.mem_cons, List.not_mem_nil, or_false] at hspace
    omega
  · apply Bool.eq_false_iff.mpr
    intro hends
    rw [Url.endsHost] at hends
    simp only [Bool.or_eq_true, beq_iff_eq] at hends
    rcases hends with (rfl | rfl) | rfl
    · revert h
      decide
    · revert h
      decide
    · revert h
      decide

theorem visible_of_isSchemeChar {c : Char} (h : Url.isSchemeChar c) :
  (0x20 < c.toNat ∧ c.toNat < 0x80) ∧ isSpace c = false ∧ Url.endsHost c = false
  := by
  rw [Url.isSchemeChar] at h
  simp only [Bool.or_eq_true, beq_iff_eq] at h
  rcases h with ((halnum | rfl) | rfl) | rfl
  · constructor
    · apply toNat_of_isAlphanum halnum
    · apply visible_of_isAlphanum halnum
  · decide
  · decide
  · decide

/-- A text that names a scheme before its host part, split where no character is removed. -/
theorem split_named {after : List Char} (hscheme : ∀ c ∈ scheme, Url.isSchemeChar c) :
  Url.splitScheme (Url.cleaned (scheme ++ "://".toList ++ after))
    = if scheme.head?.any Char.isAlpha then
        (scheme.map Char.toLower, '/' :: '/' :: removed after)
      else ([], scheme ++ "://".toList ++ removed after)
  := by
  have hvisible : ∀ c ∈ scheme ++ "://".toList, 0x20 < c.toNat := by
    intro c hc
    rcases List.mem_append.mp hc with hmem | hmem
    · apply (visible_of_isSchemeChar (hscheme c hmem)).1.1
    · have hcases : c = ':' ∨ c = '/' := by simpa using hmem
      rcases hcases with rfl | rfl <;> decide
  have hsome : ∃ c ∈ scheme ++ "://".toList, 0x20 < c.toNat := by
    use ':'
    constructor
    · simp
    · decide
  rw [cleaned_append hsome, Url.cleaned_of_visible hvisible, List.append_assoc]
  apply splitScheme_append hscheme

/-- How a text is split that the default scheme is put before. -/
theorem split_https (text : List Char) :
  Url.splitScheme (Url.cleaned ("https://".toList ++ text))
    = ("https".toList, '/' :: '/' :: removed text)
  := by
  have hchars : ∀ c ∈ "https".toList, Url.isSchemeChar c :=
    List.all_iff_forall_prop.mp (by decide)
  have halpha : "https".toList.head?.any Char.isAlpha = true := rfl
  have hsplit := @split_named _ text hchars
  rw [if_pos halpha] at hsplit
  apply hsplit

/-- A text that begins with a scheme, without the blanks at its end. -/
theorem stripped_named {raw : String} {back : List Char}
    (hraw : raw.toList = scheme ++ "://".toList ++ back)
    (hscheme : ∀ c ∈ scheme, Url.isSchemeChar c) :
  stripped raw.toList = scheme ++ "://".toList ++ back.rdropWhile isSpace
  := by
  rw [hraw]
  apply stripped_append
  · simp
  · intro c hc
    cases hcase : scheme with
    | nil =>
        rw [hcase] at hc
        obtain rfl := Option.some.inj hc
        decide
    | cons d others =>
        rw [hcase] at hc
        obtain rfl := Option.some.inj hc
        have hd : d ∈ scheme := by
          rw [hcase]
          apply List.mem_cons_self
        apply (visible_of_isSchemeChar (hscheme d hd)).2.1
  · intro c hc
    rw [List.getLast?_append_of_ne_nil _ (by decide)] at hc
    obtain rfl := Option.some.inj hc
    decide

/-- A text that begins with a scheme is split as it stands, without the blanks at its end. -/
theorem candidate_named {raw : String} {back : List Char}
    (hraw : raw.toList = scheme ++ "://".toList ++ back)
    (hscheme : ∀ c ∈ scheme, Url.isSchemeChar c) :
  (candidate raw).toList = scheme ++ "://".toList ++ back.rdropWhile isSpace
  := by
  have hstripped := stripped_named hraw hscheme
  rw [toList_candidate_of_names, hstripped]
  rw [hstripped, NamesScheme, List.append_assoc]
  use scheme, back.rdropWhile isSpace
  rw [List.append_assoc]

theorem removed_append (front back : List Char) :
  removed (front ++ back) = removed front ++ removed back
  := by
  apply List.filter_append

/-- Only blanks are removed. -/
theorem removed_of_visible (h : ∀ c ∈ text, isSpace c = false) :
  removed text = text
  := by
  apply List.filter_eq_self.mpr
  intro c hc
  have hspace := h c hc
  simp only [Bool.and_eq_true, bne_iff_ne]
  constructor
  · constructor
    · rintro rfl
      revert hspace
      decide
    · rintro rfl
      revert hspace
      decide
  · rintro rfl
    revert hspace
    decide

/-- The characters of the host of a website. -/
theorem Website.host_chars (h : Website unicode text scheme netloc rest) :
  ∀ c ∈ hostOf unicode netloc, isHostChar unicode c
  := by
  intro c hc
  apply isHost_chars h.host
  rw [String.toList_ofList]
  apply hc

/-- How the value of a website is split. -/
theorem Website.split_value (laws : Lawful nfkc unicode)
    (h : Website unicode text scheme netloc rest) :
  Url.splitScheme (Url.cleaned
      (candidate (String.ofList (valueOf unicode scheme netloc rest))).toList)
    = (scheme, '/' :: '/' :: (hostOf unicode netloc ++ (tailOf rest).rdropWhile isSpace))
  := by
  have hhost := h.host_chars
  have hchars : ∀ c ∈ scheme, Url.isSchemeChar c := by
    rcases scheme_permitted h.permitted with rfl | rfl
    · exact List.all_iff_forall_prop.mp (by decide)
    · exact List.all_iff_forall_prop.mp (by decide)
  have hlower : scheme.head?.any Char.isAlpha ∧ scheme.map Char.toLower = scheme := by
    rcases scheme_permitted h.permitted with rfl | rfl <;> decide
  have hback : (hostOf unicode netloc ++ tailOf rest).rdropWhile isSpace
      = hostOf unicode netloc ++ (tailOf rest).rdropWhile isSpace := by
    apply rdropWhile_append
    intro c hc
    apply (visible_of_isHostChar laws (hhost c (List.mem_of_mem_getLast? hc))).2.1
  have htail : removed ((tailOf rest).rdropWhile isSpace) = (tailOf rest).rdropWhile isSpace := by
    apply List.filter_eq_self.mpr
    intro c hc
    have hmem := h.rest_suffix.subset (tailOf_le.2.1 ((List.rdropWhile_prefix _ _).subset hc))
    apply (List.mem_filter.mp hmem).2
  have hraw : (String.ofList (valueOf unicode scheme netloc rest)).toList
      = scheme ++ "://".toList ++ (hostOf unicode netloc ++ tailOf rest) := by
    rw [String.toList_ofList, valueOf, List.append_assoc]
  have hkept : removed (hostOf unicode netloc) = hostOf unicode netloc := by
    apply removed_of_visible
    intro c hc
    apply (visible_of_isHostChar laws (hhost c hc)).2.1
  rw [candidate_named hraw hchars, split_named hchars, if_pos hlower.1, hlower.2, hback,
    removed_append, hkept, htail]

theorem Website.host_ends (laws : Lawful nfkc unicode)
    (h : Website unicode text scheme netloc rest) :
  ∀ c ∈ hostOf unicode netloc, Url.endsHost c = false
  := by
  intro c hc
  apply (visible_of_isHostChar laws (h.host_chars c hc)).2.2

theorem Website.tail_begins (h : Website unicode text scheme netloc rest) :
  ∀ c ∈ ((tailOf rest).rdropWhile isSpace).head?, Url.endsHost c
  := by
  intro c hc
  apply tailOf_begins h.restBegins
  obtain ⟨back, hback⟩ := List.rdropWhile_prefix isSpace (tailOf rest)
  rw [← hback, List.head?_append, hc]
  rfl

/-- The value of a website, read again: where its host is one. -/
theorem Website.again (laws : Lawful nfkc unicode)
    (h : Website unicode text scheme netloc rest)
    (hhost : isHost unicode (String.ofList (hostOf unicode (hostOf unicode netloc)))) :
  Website unicode (candidate (String.ofList (valueOf unicode scheme netloc rest))).toList scheme
    (hostOf unicode netloc) ((tailOf rest).rdropWhile isSpace)
  := by
  constructor
  · apply h.split_value laws
  · apply h.host_ends laws
  · apply h.tail_begins
  · apply h.permitted
  · apply hhost

/-- A value is its own value where it is settled. -/
theorem Website.settled_iff (laws : Lawful nfkc unicode)
    (h : Website unicode text scheme netloc rest) :
  normalizeWebsite nfkc unicode (some (String.ofList (valueOf unicode scheme netloc rest)))
      = .ok (some (String.ofList (valueOf unicode scheme netloc rest)))
    ↔ ¬ "www.www.".toList <+: fold unicode netloc
      ∧ ∀ c ∈ (tailOf rest).getLast?, isSpace c = false
  := by
  have hagain : hostOf unicode (hostOf unicode netloc)
      = if "www.".toList.isPrefixOf (hostOf unicode netloc) then (hostOf unicode netloc).drop 4
        else hostOf unicode netloc := hostOf_hostOf laws
  rw [normalizeWebsite_eq_some_iff laws, ← www_hostOf]
  constructor
  · rintro ⟨scheme', netloc', rest', hsite, hvalue⟩
    have hsplit := hsite.split
    rw [h.split_value laws] at hsplit
    obtain ⟨rfl, hafter⟩ := Prod.mk.inj hsplit
    have hparts := splitNetloc_append (h.host_ends laws) h.tail_begins
    rw [hafter, splitNetloc_append hsite.netlocEnds hsite.restBegins] at hparts
    obtain ⟨rfl, rfl⟩ := Prod.mk.inj hparts
    have hvalues := String.ofList_injective hvalue
    rw [valueOf, valueOf, List.append_assoc, List.append_assoc (_ ++ _)] at hvalues
    have hrest := congrArg List.length (List.append_cancel_left hvalues)
    have hback : ((tailOf rest).rdropWhile isSpace).length ≤ (tailOf rest).length :=
      (List.rdropWhile_prefix _ _).length_le
    have htail : (tailOf ((tailOf rest).rdropWhile isSpace)).length
        ≤ ((tailOf rest).rdropWhile isSpace).length := tailOf_le.1
    rw [List.length_append, List.length_append, hagain] at hrest
    -- the host and the tail are no longer than before, and neither is shorter
    have hhost : ¬ "www.".toList <+: hostOf unicode netloc := by
      intro hwww
      have hlong := hwww.length_le
      rw [if_pos (List.isPrefixOf_iff_prefix.mpr hwww), List.length_drop] at hrest
      have hfour : "www.".toList.length = 4 := rfl
      omega
    rw [if_neg (List.isPrefixOf_iff_prefix.not.mpr hhost)] at hrest
    constructor
    · apply hhost
    · intro c hc
      have hsame : (tailOf rest).rdropWhile isSpace = tailOf rest := by
        apply (List.rdropWhile_prefix _ _).eq_of_length
        omega
      have hlast := List.rdropWhile_eq_self_iff.mp hsame
      have hne : tailOf rest ≠ [] := by
        intro hnil
        rw [hnil] at hc
        cases hc
      rw [List.getLast?_eq_getLast_of_ne_nil hne] at hc
      obtain rfl := Option.some.inj hc
      apply Bool.eq_false_iff.mpr (hlast hne)
  · rintro ⟨hwww, hblank⟩
    have hhost : hostOf unicode (hostOf unicode netloc) = hostOf unicode netloc := by
      rw [hagain, if_neg]
      intro hprefix
      apply hwww (List.isPrefixOf_iff_prefix.mp hprefix)
    have htail : (tailOf rest).rdropWhile isSpace = tailOf rest := by
      apply List.rdropWhile_eq_self_iff.mpr
      intro hne hlast
      rw [hblank _ (List.getLast?_eq_getLast_of_ne_nil hne)] at hlast
      cases hlast
    use scheme, hostOf unicode netloc, (tailOf rest).rdropWhile isSpace
    constructor
    · apply h.again laws
      rw [hhost]
      apply h.host
    · rw [htail, valueOf, valueOf, hhost, tailOf_tailOf]

end Value

end SnackPortal2.Urls
