import SnackPortal.SnackPortal2.WebsiteValues

/-!
# Variants of a website

What `normalize_website` makes of inputs that differ by the case of the scheme, by one leading
`www.` or by slashes at their end: the same value, save for the cases of `normalizeWebsite_forms`.
-/

namespace SnackPortal2.Urls

open Text (isSpace)

/-! ## Inputs with the same value -/

/-- The inputs have the same value, or neither has one. -/
def SameValue (nfkc : String → String) (unicode : Unicode) (x y : String) : Prop :=
  ∀ v, normalizeWebsite nfkc unicode (some x) = .ok v
    ↔ normalizeWebsite nfkc unicode (some y) = .ok v

section Same

variable {nfkc : String → String} {unicode : Unicode} (laws : Lawful nfkc unicode)
variable {x y : String} {scheme netloc rest scheme' netloc' rest' : List Char}

theorem SameValue.symm (h : SameValue nfkc unicode x y) :
  SameValue nfkc unicode y x
  := by
  intro v
  apply (h v).symm

/-- A blank text has none for its value, and no other text has. -/
theorem SameValue.blank_iff (h : SameValue nfkc unicode x y) :
  Text.strip x = "" ↔ Text.strip y = ""
  := by
  have hnone : ∀ {raw}, normalizeWebsite nfkc unicode (some raw) = .ok none ↔ Text.strip raw = "" :=
    normalizeWebsite_eq_none_iff
  rw [← hnone, ← hnone]
  apply h

include laws

theorem SameValue.isSite_iff (h : SameValue nfkc unicode x y) :
  IsSite unicode x ↔ IsSite unicode y
  := by
  have himplies : ∀ {x y}, SameValue nfkc unicode x y → IsSite unicode x → IsSite unicode y := by
    intro x y hsame ⟨scheme, netloc, rest, hsite⟩
    have hvalue := (normalizeWebsite_eq_some_iff laws).mpr
      ⟨scheme, netloc, rest, hsite, rfl⟩
    obtain ⟨scheme', netloc', rest', hsite', -⟩ := (normalizeWebsite_eq_some_iff laws).mp
      ((hsame _).mp hvalue)
    use scheme', netloc', rest'
  constructor
  · apply himplies h
  · apply himplies h.symm

/-- Inputs of which neither is a website and neither is blank have no value. -/
theorem sameValue_of_neither (hblank : Text.strip x = "" ↔ Text.strip y = "")
    (hx : ¬ IsSite unicode x) (hy : ¬ IsSite unicode y) :
  SameValue nfkc unicode x y
  := by
  intro v
  cases v with
  | none => rw [normalizeWebsite_eq_none_iff, normalizeWebsite_eq_none_iff, hblank]
  | some v =>
      have hno : ∀ {x}, ¬ IsSite unicode x →
          normalizeWebsite nfkc unicode (some x) ≠ .ok (some v) := by
        intro x hsite hvalue
        obtain ⟨scheme, netloc, rest, h, -⟩ := (normalizeWebsite_eq_some_iff laws).mp hvalue
        apply hsite
        use scheme, netloc, rest
      constructor
      · intro hvalue
        exact absurd hvalue (hno hx)
      · intro hvalue
        exact absurd hvalue (hno hy)

/-- Two websites have the same value where their forms are the same. -/
theorem sameValue_iff_of_sites (hx : Website unicode (candidate x).toList scheme netloc rest)
    (hy : Website unicode (candidate y).toList scheme' netloc' rest') :
  SameValue nfkc unicode x y
    ↔ valueOf unicode scheme netloc rest = valueOf unicode scheme' netloc' rest'
  := by
  have hvaluex := (normalizeWebsite_eq_some_iff laws).mpr ⟨scheme, netloc, rest, hx, rfl⟩
  have hvaluey := (normalizeWebsite_eq_some_iff laws).mpr ⟨scheme', netloc', rest', hy, rfl⟩
  constructor
  · intro h
    rw [(h _).mp hvaluex] at hvaluey
    apply String.ofList_injective (Option.some.inj (Except.ok.inj hvaluey))
  · intro h v
    rw [hvaluex, hvaluey, h]

end Same

/-! ### One leading `www.` -/

section Www

variable {unicode : Unicode}

/-- A host with `www.` before it is one where the host is. -/
theorem isHost_www (host : List Char) :
  isHost unicode (String.ofList ("www.".toList ++ host)) = isHost unicode (String.ofList host)
  := by
  have htext : (String.ofList ("www.".toList ++ host)).toList = "www.".toList ++ host :=
    String.toList_ofList
  have hhost : (String.ofList host).toList = host := String.toList_ofList
  have hletters : ∀ c ∈ "www.".toList, (c != ':') = true := by
    intro c hc
    have hcases : c = 'w' ∨ c = '.' := by simpa using hc
    rcases hcases with rfl | rfl <;> rfl
  have htake : ("www.".toList ++ host).takeWhile (· != ':')
      = "www".toList ++ '.' :: host.takeWhile (· != ':') := by
    rw [List.takeWhile_append_of_pos hletters]
    rfl
  have hdrop : ("www.".toList ++ host).dropWhile (· != ':') = host.dropWhile (· != ':') := by
    rw [List.dropWhile_append_of_pos hletters]
  have hcontains : Text.contains (String.ofList ("www.".toList ++ host)) ":"
      = Text.contains (String.ofList host) ":" := by
    apply Bool.eq_iff_iff.mpr
    rw [contains_colon, contains_colon, htext, hhost, List.mem_append]
    constructor
    · intro hmem
      apply hmem.resolve_left
      decide
    · apply Or.inr
  have hlabel : isLabel (String.ofList "www".toList) = true := rfl
  have hsplit : ("www".toList ++ '.' :: host.takeWhile (· != ':')).splitOn '.'
      = "www".toList :: (host.takeWhile (· != ':')).splitOn '.' :=
    List.splitOn_append_cons_self_of_not_mem (by decide) _
  rw [isHost, isHost, hcontains]
  simp only [Text.split, Text.before, Text.after, htext, String.toList_ofList, htake, hdrop,
    hsplit, List.map_cons, List.all_cons, hlabel, Bool.true_and]

/-- A host part has a host where what it folds to is one. -/
theorem isHost_hostOf (netloc : List Char) :
  isHost unicode (String.ofList (hostOf unicode netloc))
    = isHost unicode (String.ofList (fold unicode netloc))
  := by
  rw [hostOf]
  split
  · rename_i hwww
    obtain ⟨tail, htail⟩ := List.isPrefixOf_iff_prefix.mp hwww
    rw [← htail, isHost_www]
    rfl
  · rfl

/-- A spelling of `www.`. -/
def IsWww (www : List Char) : Prop :=
  www.map Char.toLower = "www.".toList

theorem IsWww.ascii {www : List Char} (h : IsWww www) :
  ∀ c ∈ www, (0x20 < c.toNat ∧ c.toNat < 0x80) ∧ isSpace c = false ∧ Url.endsHost c = false
  := by
  intro c hc
  have hlower : c.toLower = 'w' ∨ c.toLower = '.' := by
    have hmem := List.mem_map_of_mem (f := Char.toLower) hc
    rw [h] at hmem
    simpa using hmem
  by_cases hupper : c.isUpper
  · have halnum : c.isAlphanum := by
      rw [Char.isAlphanum, Char.isAlpha, hupper, Bool.true_or, Bool.true_or]
    constructor
    · apply toNat_of_isAlphanum halnum
    · apply visible_of_isAlphanum halnum
  · rw [Char.toLower_eq_of_not_isUpper hupper] at hlower
    rcases hlower with rfl | rfl <;> decide

theorem IsWww.removed {www : List Char} (h : IsWww www) :
  removed www = www
  := by
  apply removed_of_visible
  intro c hc
  apply (h.ascii c hc).2.1

section Split

variable {nfkc : String → String} (laws : Lawful nfkc unicode)
variable {x y : String} {www scheme after : List Char} (hwww : IsWww www)
variable (hx : Url.splitScheme (Url.cleaned (candidate x).toList)
  = (scheme, '/' :: '/' :: (www ++ after)))
variable (hy : Url.splitScheme (Url.cleaned (candidate y).toList) = (scheme, '/' :: '/' :: after))

include laws hwww

theorem IsWww.fold_append (netloc : List Char) :
  fold unicode (www ++ netloc) = "www.".toList ++ fold unicode netloc
  := by
  have hascii : ∀ c ∈ www, c.toNat < 0x80 := by
    intro c hc
    apply (hwww.ascii c hc).1.2
  rw [Urls.fold_append laws, fold_ascii laws hascii, hwww]

theorem IsWww.hostOf_append (netloc : List Char) :
  hostOf unicode (www ++ netloc) = fold unicode netloc
  := by
  have hprefix : "www.".toList.isPrefixOf ("www.".toList ++ fold unicode netloc) = true := by
    apply List.isPrefixOf_iff_prefix.mpr
    apply List.prefix_append
  rw [hostOf, hwww.fold_append laws, if_pos hprefix]
  rfl

include hx hy

/-- An input with `www.` before the host of the other is a website where the other is. -/
theorem website_www {netloc rest : List Char} :
  Website unicode (candidate x).toList scheme (www ++ netloc) rest
    ↔ Website unicode (candidate y).toList scheme netloc rest
  := by
  have hhost : isHost unicode (String.ofList (hostOf unicode (www ++ netloc)))
      = isHost unicode (String.ofList (hostOf unicode netloc)) := by
    rw [hwww.hostOf_append laws, isHost_hostOf]
  constructor
  · intro h
    constructor
    · have hsplit := h.split
      rw [hx, List.append_assoc] at hsplit
      have hafter := (Prod.mk.inj hsplit).2
      simp only [List.cons.injEq, true_and, List.append_cancel_left_eq] at hafter
      rw [hy, hafter]
    · intro c hc
      apply h.netlocEnds
      apply List.mem_append_right www hc
    · apply h.restBegins
    · apply h.permitted
    · rw [← hhost]
      apply h.host
  · intro h
    constructor
    · have hsplit := h.split
      rw [hy] at hsplit
      have hafter := (Prod.mk.inj hsplit).2
      simp only [List.cons.injEq, true_and] at hafter
      rw [hx, hafter, List.append_assoc]
    · intro c hc
      rcases List.mem_append.mp hc with hmem | hmem
      · apply (hwww.ascii c hmem).2.2
      · apply h.netlocEnds c hmem
    · apply h.restBegins
    · apply h.permitted
    · rw [hhost]
      apply h.host

/-- The host part of a website that begins with `www.` is that of the other input with it. -/
theorem website_www_cases {scheme' netloc' rest : List Char}
    (h : Website unicode (candidate x).toList scheme' netloc' rest) :
  ∃ netloc, netloc' = www ++ netloc
    ∧ Website unicode (candidate y).toList scheme' netloc rest
  := by
  have hsplit := h.split
  rw [hx] at hsplit
  obtain ⟨rfl, hafter⟩ := Prod.mk.inj hsplit
  simp only [List.cons.injEq, true_and] at hafter
  rcases List.append_eq_append_iff.mp hafter with ⟨netloc, rfl, -⟩ | ⟨back, hwww', hrest⟩
  · use netloc, rfl
    apply (website_www laws hwww hx hy).mp h
  · cases back with
    | nil =>
        rw [List.append_nil] at hwww'
        subst hwww'
        use []
        constructor
        · rw [List.append_nil]
        · rw [← List.append_nil www] at h
          apply (website_www laws hwww hx hy).mp h
    | cons c back =>
        have hends := h.restBegins c (by rw [hrest]; rfl)
        rw [(hwww.ascii c (by rw [hwww']; simp)).2.2] at hends
        cases hends

/-- The two inputs have the same value unless the host still begins with `www.`. -/
theorem sameValue_www (hblank : Text.strip x = "" ↔ Text.strip y = "") :
  SameValue nfkc unicode x y
    ↔ (IsSite unicode y → ¬ "www.".toList <+: fold unicode (hostPart (candidate y).toList))
  := by
  by_cases hsite : IsSite unicode y
  · obtain ⟨scheme', netloc, rest, h⟩ := id hsite
    have hscheme : scheme = scheme' := by
      have hsplit := h.split
      rw [hy] at hsplit
      apply (Prod.mk.inj hsplit).1
    subst hscheme
    rw [sameValue_iff_of_sites laws ((website_www laws hwww hx hy).mpr h) h, valueOf, valueOf,
      hwww.hostOf_append laws, h.hostPart_eq, List.append_left_inj, List.append_right_inj]
    constructor
    · intro heq _ hprefix
      rw [hostOf, if_pos (List.isPrefixOf_iff_prefix.mpr hprefix)] at heq
      have hlength := congrArg List.length heq
      have hlong : 4 ≤ (fold unicode netloc).length := hprefix.length_le
      rw [List.length_drop] at hlength
      omega
    · intro hnot
      rw [hostOf, if_neg (List.isPrefixOf_iff_prefix.not.mpr (hnot hsite))]
  · have hother : ¬ IsSite unicode x := by
      rintro ⟨scheme', netloc', rest, h⟩
      obtain ⟨netloc, -, h'⟩ := website_www_cases laws hwww hx hy h
      apply hsite
      use scheme', netloc, rest
    constructor
    · intro _ h
      exact absurd h hsite
    · intro _
      apply sameValue_of_neither laws hblank hother hsite

end Split

end Www

/-! ### The case of the scheme -/

section Scheme

variable {nfkc : String → String} {unicode : Unicode}
variable {x y : String} {scheme scheme' back : List Char}

theorem strip_named (hx : x.toList = scheme ++ "://".toList ++ back)
    (hscheme : ∀ c ∈ scheme, Url.isSchemeChar c) :
  Text.strip x ≠ ""
  := by
  intro hblank
  have hstripped := stripped_named hx hscheme
  rw [← toList_strip, hblank] at hstripped
  have hlength := congrArg List.length hstripped
  simp at hlength

/-- A text whose scheme does not begin with a letter is refused. -/
theorem refused_of_not_alpha (hx : x.toList = scheme ++ "://".toList ++ back)
    (hscheme : ∀ c ∈ scheme, Url.isSchemeChar c) (halpha : ¬ scheme.head?.any Char.isAlpha) :
  normalizeWebsite nfkc unicode (some x) = .error (.app invalidRequest)
  := by
  have hsplit : Url.splitScheme (Url.cleaned (candidate x).toList)
      = ([], scheme ++ "://".toList ++ removed (back.rdropWhile isSpace)) := by
    rw [candidate_named hx hscheme, split_named hscheme, if_neg halpha]
  have hslashes : ¬ ['/', '/'].isPrefixOf
      (scheme ++ "://".toList ++ removed (back.rdropWhile isSpace)) := by
    cases scheme with
    | nil => simp
    | cons c others =>
        have hc := hscheme c List.mem_cons_self
        intro hprefix
        rw [List.cons_append, List.cons_append, List.isPrefixOf, Bool.and_eq_true,
          beq_iff_eq] at hprefix
        rw [← hprefix.1] at hc
        revert hc
        decide
  have hhost : hostPart (candidate x).toList = [] := by
    rw [hostPart, hsplit, Url.splitNetloc, if_neg hslashes]
  have hok : Url.netlocOk nfkc [] = true := rfl
  have hbad : ∀ rest, (Url.parts [] [] rest).scheme ∉ permittedSchemes
      ∨ (Url.parts [] [] rest).netloc = "" := by
    intro rest
    apply Or.inr rfl
  rw [normalizeWebsite, if_neg (strip_named hx hscheme), urlsplit_eq_parts, hhost, if_pos hok,
    hsplit]
  simp only [if_pos (hbad _)]

/-- The case of the scheme makes no difference. -/
theorem normalizeWebsite_scheme (hx : x.toList = scheme ++ "://".toList ++ back)
    (hy : y.toList = scheme' ++ "://".toList ++ back)
    (hscheme : ∀ c ∈ scheme, Url.isSchemeChar c) (hscheme' : ∀ c ∈ scheme', Url.isSchemeChar c)
    (hcase : scheme.map Char.toLower = scheme'.map Char.toLower) :
  normalizeWebsite nfkc unicode (some x) = normalizeWebsite nfkc unicode (some y)
  := by
  have hhead : scheme.head?.any Char.isAlpha = scheme'.head?.any Char.isAlpha := by
    have hlower : ∀ chars : List Char, chars.head?.any Char.isAlpha
        = (chars.map Char.toLower).head?.any Char.isAlpha := by
      intro chars
      cases chars with
      | nil => rfl
      | cons c chars => exact (Char.isAlpha_toLower_eq_isAlpha c).symm
    rw [hlower, hlower scheme', hcase]
  by_cases halpha : scheme.head?.any Char.isAlpha
  · have hsplit : Url.splitScheme (Url.cleaned (candidate x).toList)
        = Url.splitScheme (Url.cleaned (candidate y).toList) := by
      rw [candidate_named hx hscheme, candidate_named hy hscheme', split_named hscheme,
        split_named hscheme', ← hhead, if_pos halpha, if_pos halpha, hcase]
    have hurl : Url.urlsplit nfkc (candidate x) = Url.urlsplit nfkc (candidate y) := by
      rw [urlsplit_eq_parts, urlsplit_eq_parts, hostPart, hostPart, restPart, restPart, hsplit]
    rw [normalizeWebsite, normalizeWebsite, if_neg (strip_named hx hscheme),
      if_neg (strip_named hy hscheme'), hurl]
  · rw [refused_of_not_alpha hx hscheme halpha,
      refused_of_not_alpha hy hscheme' (by rw [← hhead]; exact halpha)]

end Scheme

/-! ### Blanks before the host -/

section Bare

variable {nfkc : String → String} {unicode : Unicode} (laws : Lawful nfkc unicode)
variable {x y : String} {www scheme front after text : List Char}

/-- The characters that are removed from a text before it is split. -/
def Removable (c : Char) : Prop :=
  c = '\t' ∨ c = '\r' ∨ c = '\n'

theorem removed_eq_nil_iff :
  removed text = [] ↔ ∀ c ∈ text, Removable c
  := by
  rw [removed, List.filter_eq_nil_iff]
  apply forall₂_congr
  intro c _
  rw [Removable]
  simp only [Bool.and_eq_true, bne_iff_ne]
  tauto

include laws in
/-- A text with a blank before what ends its host is not that of a website. -/
theorem not_isSite_of_blank
    (hx : Url.splitScheme (Url.cleaned (candidate x).toList)
      = (scheme, '/' :: '/' :: (front ++ after)))
    (hfront : ∀ c ∈ front, Url.endsHost c = false) {c : Char} (hc : c ∈ front)
    (hspace : isSpace c) :
  ¬ IsSite unicode x
  := by
  intro ⟨scheme', netloc, rest, h⟩
  have hmem : c ∈ netloc := by
    have hsplit := h.split
    rw [hx] at hsplit
    have hafter := (Prod.mk.inj hsplit).2
    simp only [List.cons.injEq, true_and] at hafter
    rcases List.append_eq_append_iff.mp hafter with ⟨back, rfl, -⟩ | ⟨back, rfl, hrest⟩
    · apply List.mem_append_left back hc
    · cases back with
      | nil => simpa using hc
      | cons d back =>
          have hends := h.restBegins d (by rw [hrest]; rfl)
          rw [hfront d (by simp)] at hends
          cases hends
  apply not_mem_netloc laws h.host _ (isHostChar_of_space laws hspace) hmem
  rw [fold_singleton_space laws hspace]
  apply List.mem_singleton_self

theorem endsHost_of_space {c : Char} (h : isSpace c) :
  Url.endsHost c = false
  := by
  apply Bool.eq_false_iff.mpr
  intro hends
  rw [Url.endsHost] at hends
  simp only [Bool.or_eq_true, beq_iff_eq] at hends
  rcases hends with (rfl | rfl) | rfl
  · revert h
    decide
  · revert h
    decide
  · revert h
    decide

/-- The scheme of a text with a separator that is not in its front is behind it. -/
theorem names_append {front back : List Char} (h : NamesScheme (front ++ back))
    (hfront : ':' ∉ front) :
  NamesScheme back
  := by
  induction front with
  | nil => apply h
  | cons c front ih =>
      rw [List.mem_cons, not_or] at hfront
      apply ih _ hfront.2
      rw [List.cons_append] at h
      rcases List.infix_cons_iff.mp h with hprefix | hinfix
      · obtain ⟨rest, hrest⟩ := hprefix
        exact absurd (List.cons.inj hrest).1 hfront.1
      · apply hinfix

theorem not_mem_of_spaces {c : Char} (h : ∀ d ∈ text, isSpace d) (hc : isSpace c = false) :
  c ∉ text
  := by
  intro hmem
  rw [h c hmem] at hc
  cases hc

/-- The blanks at the beginning of a text, and the text without blanks around it. -/
theorem rdropWhile_eq (hne : stripped text ≠ []) :
  text.rdropWhile isSpace = text.takeWhile isSpace ++ stripped text
  := by
  have hback : (text.dropWhile isSpace).reverse.dropWhile isSpace ≠ [] := by
    intro hnil
    apply hne
    rw [stripped, List.rdropWhile, hnil]
    rfl
  nth_rewrite 1 [← List.takeWhile_append_dropWhile (p := isSpace) (l := text)]
  rw [stripped, List.rdropWhile, List.reverse_append, List.dropWhile_append,
    if_neg (List.isEmpty_iff.not.mpr hback), List.reverse_append, List.reverse_reverse,
    List.rdropWhile]

include laws

/-- Where an input with `www.` after its scheme has the value of the one without. -/
theorem sameValue_www_named {back : List Char} (hwww : IsWww www)
    (hscheme : ∀ c ∈ scheme, Url.isSchemeChar c)
    (hx : x.toList = scheme ++ "://".toList ++ (www ++ back))
    (hy : y.toList = scheme ++ "://".toList ++ back) :
  SameValue nfkc unicode x y
    ↔ (IsSite unicode y → ¬ "www.".toList <+: fold unicode (hostPart (candidate y).toList))
  := by
  have hblank : Text.strip x = "" ↔ Text.strip y = "" := by
    constructor
    · intro h
      exact absurd h (strip_named hx hscheme)
    · intro h
      exact absurd h (strip_named hy hscheme)
  by_cases halpha : scheme.head?.any Char.isAlpha
  · have hback : (www ++ back).rdropWhile isSpace = www ++ back.rdropWhile isSpace := by
      apply rdropWhile_append
      intro c hc
      apply (hwww.ascii c (List.mem_of_mem_getLast? hc)).2.1
    have hremoved : removed (www ++ back.rdropWhile isSpace)
        = www ++ removed (back.rdropWhile isSpace) := by
      rw [removed_append, hwww.removed]
    have hsplitx : Url.splitScheme (Url.cleaned (candidate x).toList) = (scheme.map Char.toLower,
        '/' :: '/' :: (www ++ removed (back.rdropWhile isSpace))) := by
      rw [candidate_named hx hscheme, split_named hscheme, if_pos halpha, hback, hremoved]
    have hsplity : Url.splitScheme (Url.cleaned (candidate y).toList) = (scheme.map Char.toLower,
        '/' :: '/' :: removed (back.rdropWhile isSpace)) := by
      rw [candidate_named hy hscheme, split_named hscheme, if_pos halpha]
    apply sameValue_www laws hwww hsplitx hsplity hblank
  · have hno : ∀ {z : String} {back : List Char}, z.toList = scheme ++ "://".toList ++ back →
        ¬ IsSite unicode z := by
      intro z back hz ⟨scheme', netloc, rest, h⟩
      have hvalue := (normalizeWebsite_eq_some_iff laws).mpr ⟨scheme', netloc, rest, h, rfl⟩
      rw [refused_of_not_alpha hz hscheme halpha] at hvalue
      cases hvalue
    constructor
    · intro _ hsite
      exact absurd hsite (hno hy)
    · intro _
      apply sameValue_of_neither laws hblank (hno hx) (hno hy)

omit laws in
/-- A text that begins with `www.` has no scheme that is permitted. -/
theorem not_isSite_of_www (hwww : IsWww www)
    (hx : (candidate x).toList = www ++ after) :
  ¬ IsSite unicode x
  := by
  intro ⟨scheme', netloc, rest, h⟩
  have hlength : www.length = 4 := by
    rw [← List.length_map Char.toLower, hwww]
    rfl
  obtain ⟨c, others, hc⟩ := List.exists_cons_of_length_pos (l := www) (by omega)
  have hclean : Url.cleaned (www ++ after) = www ++ removed after := by
    rw [cleaned_append, Url.cleaned_of_visible]
    · intro d hd
      apply (hwww.ascii d hd).1.1
    · use c
      have hmem : c ∈ www := by
        rw [hc]
        apply List.mem_cons_self
      constructor
      · apply hmem
      · apply (hwww.ascii c hmem).1.1
  have hcolon : ∀ d ∈ www, (d != ':') = true := by
    intro d hd
    apply bne_iff_ne.mpr
    rintro rfl
    have hlower := List.mem_map_of_mem (f := Char.toLower) hd
    rw [hwww] at hlower
    revert hlower
    decide
  have hsplit := h.split
  rw [hx, hclean, Url.splitScheme] at hsplit
  split at hsplit
  · have hscheme := (Prod.mk.inj hsplit).1
    rw [Url.partition, List.takeWhile_append_of_pos hcolon, List.map_append, hwww] at hscheme
    rcases scheme_permitted h.permitted with rfl | rfl
    · cases hscheme
    · cases hscheme
  · have hscheme := (Prod.mk.inj hsplit).1
    rcases scheme_permitted h.permitted with rfl | rfl
    · cases hscheme
    · cases hscheme

/-- Where an input that begins with `www.` has the value of the one without. -/
theorem sameValue_www_bare (hwww : IsWww www) (hx : x.toList = www ++ y.toList) :
  SameValue nfkc unicode x y
    ↔ Text.strip y ≠ "" ∧ (IsSite unicode y → ¬ Text.contains (Text.strip y) "://"
      ∧ (∀ c ∈ y.toList.takeWhile isSpace, Removable c)
      ∧ ¬ "www.".toList <+: fold unicode (hostPart (candidate y).toList))
  := by
  have hne : www ≠ [] := by
    rintro rfl
    cases hwww
  have hstripped : stripped x.toList = www ++ y.toList.rdropWhile isSpace := by
    rw [hx]
    apply stripped_append hne
    · intro c hc
      apply (hwww.ascii c (List.mem_of_mem_head? hc)).2.1
    · intro c hc
      apply (hwww.ascii c (List.mem_of_mem_getLast? hc)).2.1
  have hvisible : Text.strip x ≠ "" := by
    intro hblank
    rw [← toList_strip, hblank] at hstripped
    apply hne (List.append_eq_nil_iff.mp hstripped.symm).1
  by_cases hblank : Text.strip y = ""
  · constructor
    · intro h
      exact absurd (h.blank_iff.mpr hblank) hvisible
    · intro h
      exact absurd hblank h.1
  · have hblanks : Text.strip x = "" ↔ Text.strip y = "" := by
      constructor
      · intro h
        exact absurd h hvisible
      · intro h
        exact absurd h hblank
    have htext : stripped y.toList ≠ [] := by
      intro hnil
      apply hblank
      apply String.toList_injective
      rw [toList_strip, hnil]
      rfl
    rw [rdropWhile_eq htext] at hstripped
    -- without a site for the first, the inputs agree unless the other is a site
    have hother : ¬ IsSite unicode x → (SameValue nfkc unicode x y ↔ ¬ IsSite unicode y) := by
      intro hsite
      constructor
      · intro h
        rw [← h.isSite_iff laws]
        apply hsite
      · intro h
        apply sameValue_of_neither laws hblanks hsite h
    by_cases hnames : NamesScheme (stripped y.toList)
    · have hsite : ¬ IsSite unicode x := by
        have hcandidate : (candidate x).toList
            = www ++ (y.toList.takeWhile isSpace ++ stripped y.toList) := by
          rw [toList_candidate_of_names, hstripped]
          rw [hstripped]
          apply hnames.trans
          apply List.IsSuffix.isInfix
          rw [← List.append_assoc]
          apply List.suffix_append
        apply not_isSite_of_www hwww hcandidate
      rw [hother hsite]
      constructor
      · intro hno
        constructor
        · apply hblank
        · intro h
          exact absurd h hno
      · intro ⟨_, h⟩ hsite'
        apply (h hsite').1
        apply contains_iff.mpr
        rw [toList_strip]
        apply hnames
    · have hbackx : ¬ NamesScheme (stripped x.toList) := by
        intro h
        rw [hstripped, ← List.append_assoc] at h
        apply hnames
        apply names_append h
        intro hmem
        rcases List.mem_append.mp hmem with hmem | hmem
        · have hlower := List.mem_map_of_mem (f := Char.toLower) hmem
          rw [hwww] at hlower
          revert hlower
          decide
        · have hspace := List.mem_takeWhile_imp hmem
          revert hspace
          decide
      have hsplitx := split_https (stripped x.toList)
      have hsplity := split_https (stripped y.toList)
      rw [← toList_candidate_of_not_names hbackx, hstripped, removed_append, removed_append,
        hwww.removed] at hsplitx
      rw [← toList_candidate_of_not_names hnames] at hsplity
      by_cases hremovable : ∀ c ∈ y.toList.takeWhile isSpace, Removable c
      · rw [removed_eq_nil_iff.mpr hremovable, List.nil_append] at hsplitx
        rw [sameValue_www laws hwww hsplitx hsplity hblanks]
        constructor
        · intro h
          constructor
          · apply hblank
          · intro hsite
            constructor
            · rw [contains_iff, toList_strip]
              apply hnames
            · constructor
              · apply hremovable
              · apply h hsite
        · intro h hsite
          apply (h.2 hsite).2.2
      · obtain ⟨c, hc⟩ : ∃ c, c ∈ removed (y.toList.takeWhile isSpace) := by
          apply List.exists_mem_of_ne_nil
          apply removed_eq_nil_iff.not.mpr hremovable
        have hspace : ∀ d ∈ removed (y.toList.takeWhile isSpace), isSpace d := by
          intro d hd
          apply List.mem_takeWhile_imp (List.mem_of_mem_filter hd)
        have hsite : ¬ IsSite unicode x := by
          rw [← List.append_assoc] at hsplitx
          apply not_isSite_of_blank laws hsplitx _ (List.mem_append_right www hc) (hspace c hc)
          intro d hd
          rcases List.mem_append.mp hd with hmem | hmem
          · apply (hwww.ascii d hmem).2.2
          · apply endsHost_of_space (hspace d hmem)
        rw [hother hsite]
        constructor
        · intro hno
          constructor
          · apply hblank
          · intro h
            exact absurd h hno
        · intro ⟨_, h⟩ hsite'
          apply hremovable (h hsite').2.1

end Bare

/-! ### Slashes at the end -/

section Slashes

variable {nfkc : String → String} {unicode : Unicode}
variable {x y : String} {text rest blanks slashes : List Char}
variable (hslashes : slashes ≠ []) (hall : ∀ c ∈ slashes, c = '/')

include hslashes hall

omit hslashes in
theorem rdropWhile_slashes (front : List Char) :
  (front ++ slashes).rdropWhile (· == '/') = front.rdropWhile (· == '/')
  := by
  have hdrop : slashes.reverse.dropWhile (· == '/') = [] := by
    apply List.dropWhile_eq_nil_iff.mpr
    intro c hc
    rw [hall c (List.mem_reverse.mp hc)]
    rfl
  rw [List.rdropWhile, List.rdropWhile, List.reverse_append, List.dropWhile_append, hdrop]
  rfl

/-- The tail of a rest with slashes, and perhaps blanks before them, is that of the rest where a
fragment swallows them, or where they end a path. -/
theorem tailOf_slashes (hblanks : ∀ c ∈ blanks, isSpace c) :
  tailOf (rest ++ (blanks ++ slashes)) = tailOf rest
    ↔ '#' ∈ rest ∨ ('?' ∉ rest ∧ blanks = [])
  := by
  have hchars : ∀ c : Char, c ≠ '/' → isSpace c = false → c ∉ blanks ++ slashes := by
    intro c hne hc hmem
    rcases List.mem_append.mp hmem with hmem | hmem
    · apply not_mem_of_spaces hblanks hc hmem
    · apply hne (hall c hmem)
  by_cases hfragment : '#' ∈ rest
  · have hsplit := Url.partition_of_mem hfragment
    have hfront : (Url.partition '#' (rest ++ (blanks ++ slashes))).1
        = (Url.partition '#' rest).1 := by
      nth_rewrite 1 [hsplit]
      rw [List.append_assoc, List.cons_append, Url.partition_append Url.not_mem_partition]
    constructor
    · intro _
      apply Or.inl hfragment
    · intro _
      rw [← tailOf_fragment, hfront, tailOf_fragment]
  · have hfragment' : '#' ∉ rest ++ (blanks ++ slashes) := by
      rw [List.mem_append, not_or]
      constructor
      · apply hfragment
      · apply hchars <;> decide
    by_cases hquery : '?' ∈ rest
    · have hsplit := Url.partition_of_mem hquery
      have hlong : 0 < (blanks ++ slashes).length := by
        rw [List.length_append]
        have hpositive := List.length_pos_of_ne_nil hslashes
        omega
      have hmore : (Url.partition '?' rest).2 ++ (blanks ++ slashes) ≠ [] := by
        intro hnil
        rw [(List.append_eq_nil_iff.mp hnil).2] at hlong
        cases hlong
      rw [hsplit, List.append_assoc, List.cons_append] at hfragment'
      constructor
      · intro h
        rw [hsplit, List.append_assoc, List.cons_append,
          tailOf_query hfragment' Url.not_mem_partition] at h
        rw [hsplit] at hfragment
        rw [tailOf_query hfragment Url.not_mem_partition, List.append_cancel_left_eq,
          if_neg hmore] at h
        have hlength := congrArg List.length h
        split at hlength
        · cases hlength
        · rw [List.length_cons, List.length_cons, List.length_append] at hlength
          omega
      · rintro (hmem | ⟨hno, -⟩)
        · exact absurd hmem hfragment
        · exact absurd hquery hno
    · have hquery' : '?' ∉ rest ++ (blanks ++ slashes) := by
        rw [List.mem_append, not_or]
        constructor
        · apply hquery
        · apply hchars <;> decide
      rw [tailOf_path hfragment hquery, tailOf_path hfragment' hquery', ← List.append_assoc,
        rdropWhile_slashes hall]
      by_cases hnil : blanks = []
      · rw [hnil, List.append_nil]
        constructor
        · intro _
          apply Or.inr
          exact ⟨hquery, rfl⟩
        · intro _
          rfl
      · have hlast : (rest ++ blanks).rdropWhile (· == '/') = rest ++ blanks := by
          apply List.rdropWhile_eq_self_iff.mpr
          intro hne hslash
          rw [List.getLast_append_of_ne_nil _ hnil] at hslash
          have hspace := hblanks _ (List.getLast_mem hnil)
          rw [beq_iff_eq.mp hslash] at hspace
          revert hspace
          decide
        rw [hlast]
        constructor
        · intro h
          have hlength := congrArg List.length h
          have hprefix : (rest.rdropWhile (· == '/')).length ≤ rest.length :=
            (List.rdropWhile_prefix _ _).length_le
          have hpositive := List.length_pos_of_ne_nil hnil
          rw [List.length_append] at hlength
          omega
        · rintro (hmem | ⟨-, hno⟩)
          · exact absurd hmem hfragment
          · exact absurd hno hnil

/-- A text with slashes behind it, without blanks around it. -/
theorem stripped_slashes (hne : stripped text ≠ []) :
  stripped (text ++ slashes) = stripped text ++ (text.rtakeWhile isSpace ++ slashes)
  := by
  have hfront : text.dropWhile isSpace ≠ [] := by
    intro hnil
    apply hne
    rw [stripped, hnil]
    rfl
  have hdrop : text.dropWhile isSpace = stripped text ++ text.rtakeWhile isSpace := by
    have hsame : text.takeWhile isSpace ++ text.dropWhile isSpace
        = text.takeWhile isSpace ++ (stripped text ++ text.rtakeWhile isSpace) := by
      rw [List.takeWhile_append_dropWhile, ← List.append_assoc, ← rdropWhile_eq hne,
        List.rdropWhile_append_rtakeWhile]
    apply List.append_cancel_left hsame
  have hlast : (text.dropWhile isSpace ++ slashes).rdropWhile isSpace
      = text.dropWhile isSpace ++ slashes := by
    apply List.rdropWhile_eq_self_iff.mpr
    intro hnonempty hspace
    rw [List.getLast_append_of_ne_nil _ hslashes, hall _ (List.getLast_mem hslashes)] at hspace
    revert hspace
    decide
  rw [stripped, List.dropWhile_append, if_neg (List.isEmpty_iff.not.mpr hfront), hlast, hdrop,
    List.append_assoc]

omit hslashes hall in
theorem names_candidate (raw : String) :
  NamesScheme (candidate raw).toList
  := by
  by_cases h : NamesScheme (stripped raw.toList)
  · rw [toList_candidate_of_names h]
    apply h
  · rw [toList_candidate_of_not_names h]
    use "https".toList, stripped raw.toList
    rfl

omit hslashes hall in
/-- A text with a colon is split as before when more comes behind it. -/
theorem splitScheme_append_right {front : List Char} (h : ':' ∈ front) (back : List Char) :
  Url.splitScheme (front ++ back)
    = ((Url.splitScheme front).1, (Url.splitScheme front).2 ++ back)
  := by
  obtain ⟨before, after, rfl, hfirst⟩ := List.eq_append_cons_of_mem h
  have hcontains : ∀ after, (before ++ ':' :: after).contains ':' = true := by
    intro after
    apply List.contains_iff_mem.mpr
    simp
  have hscheme : Url.hasScheme (before ++ ':' :: (after ++ back))
      = Url.hasScheme (before ++ ':' :: after) := by
    rw [Url.hasScheme, Url.hasScheme, hcontains, hcontains, Url.partition_append hfirst,
      Url.partition_append hfirst]
  rw [List.append_assoc, List.cons_append, Url.splitScheme, Url.splitScheme, hscheme]
  split
  · rw [Url.partition_append hfirst, Url.partition_append hfirst]
  · rw [List.append_assoc, List.cons_append]

omit hslashes hall in
/-- A text that names a scheme does, when it is cleaned up. -/
theorem names_cleaned (h : NamesScheme text) :
  NamesScheme (Url.cleaned text)
  := by
  obtain ⟨front, back, rfl⟩ := h
  have hvisible : ∃ c ∈ front ++ "://".toList, 0x20 < c.toNat := by
    use ':'
    constructor
    · simp
    · decide
  have hdrop : ∃ front', (front ++ "://".toList).dropWhile (fun c => c.toNat ≤ 0x20)
      = front' ++ "://".toList := by
    rw [List.dropWhile_append]
    split
    · use []
      rfl
    · exact ⟨_, rfl⟩
  obtain ⟨front', hfront'⟩ := hdrop
  rw [cleaned_append hvisible, Url.cleaned, hfront', List.filter_append]
  use front'.filter fun c => c != '\t' && c != '\r' && c != '\n'
  use removed back
  rfl

/-- Slashes behind a text, where they make no scheme of it. -/
theorem split_slashes (hx : x.toList = y.toList ++ slashes) (hne : stripped y.toList ≠ [])
    (hnames : NamesScheme (stripped x.toList) → NamesScheme (stripped y.toList)) :
  Url.splitScheme (Url.cleaned (candidate x).toList)
    = ((Url.splitScheme (Url.cleaned (candidate y).toList)).1,
        (Url.splitScheme (Url.cleaned (candidate y).toList)).2
          ++ (removed (y.toList.rtakeWhile isSpace) ++ slashes))
  := by
  have hstripped : stripped x.toList
      = stripped y.toList ++ (y.toList.rtakeWhile isSpace ++ slashes) := by
    rw [hx, stripped_slashes hslashes hall hne]
  have hcandidate : (candidate x).toList
      = (candidate y).toList ++ (y.toList.rtakeWhile isSpace ++ slashes) := by
    by_cases h : NamesScheme (stripped y.toList)
    · have h' : NamesScheme (stripped x.toList) := by
        rw [hstripped]
        apply h.trans
        apply (List.prefix_append _ _).isInfix
      rw [toList_candidate_of_names h, toList_candidate_of_names h', hstripped]
    · have h' : ¬ NamesScheme (stripped x.toList) := by
        intro hx'
        apply h (hnames hx')
      rw [toList_candidate_of_not_names h, toList_candidate_of_not_names h', hstripped,
        List.append_assoc]
  have hkept : removed slashes = slashes := by
    apply removed_of_visible
    intro c hc
    rw [hall c hc]
    decide
  have hvisible : ∃ c ∈ (candidate y).toList, 0x20 < c.toNat := by
    use ':'
    constructor
    · apply (names_candidate y).subset
      simp
    · decide
  have hcolon : ':' ∈ Url.cleaned (candidate y).toList := by
    apply (names_cleaned (names_candidate y)).subset
    simp
  rw [hcandidate, cleaned_append hvisible, splitScheme_append_right hcolon, removed_append, hkept]

omit hslashes hall in
/-- A text with a scheme is the scheme, in some case, before a colon. -/
theorem splitScheme_eq {scheme after : List Char} (h : Url.splitScheme text = (scheme, after))
    (hne : scheme ≠ []) :
  ∃ before, (∀ c ∈ before, Url.isSchemeChar c) ∧ before.map Char.toLower = scheme
    ∧ text = before ++ ':' :: after
  := by
  rw [Url.splitScheme] at h
  split at h
  · rename_i hhas
    obtain ⟨rfl, rfl⟩ := Prod.mk.inj h
    rw [Url.hasScheme, Bool.and_eq_true, Bool.and_eq_true, List.all_eq_true] at hhas
    use (Url.partition ':' text).1, hhas.2.2, rfl
    apply Url.partition_of_mem (List.contains_iff_mem.mp hhas.1)
  · exact absurd (Prod.mk.inj h).1.symm hne

omit hslashes hall in
/-- What comes behind the scheme of a text that names one. -/
theorem length_of_names (h : NamesScheme text) (hscheme : (Url.splitScheme text).1 ≠ []) :
  2 ≤ (Url.splitScheme text).2.length
  := by
  have hhas : Url.hasScheme text := by
    by_contra hno
    apply hscheme
    rw [Url.splitScheme, if_neg hno]
  have hcolon : ':' ∈ text := by
    rw [Url.hasScheme, Bool.and_eq_true] at hhas
    apply List.contains_iff_mem.mp hhas.1
  rw [Url.splitScheme, if_pos hhas]
  rw [Url.partition_of_mem hcolon] at h
  have hback := names_append h Url.not_mem_partition
  have hlength := hback.length_le
  rw [List.length_cons] at hlength
  have hthree : "://".toList.length = 3 := rfl
  show 2 ≤ (Url.partition ':' text).2.length
  omega

section Behind

variable (laws : Lawful nfkc unicode) (hblanks : ∀ c ∈ blanks, isSpace c)
variable (hx : Url.splitScheme (Url.cleaned (candidate x).toList)
  = ((Url.splitScheme (Url.cleaned (candidate y).toList)).1,
      (Url.splitScheme (Url.cleaned (candidate y).toList)).2 ++ (blanks ++ slashes)))

include hx

omit hslashes in
/-- Slashes behind a website, where blanks before them do not belong to its host. -/
theorem website_slashes {scheme netloc : List Char}
    (h : Website unicode (candidate y).toList scheme netloc rest)
    (hrest : rest = [] → blanks = []) :
  Website unicode (candidate x).toList scheme netloc (rest ++ (blanks ++ slashes))
  := by
  constructor
  · rw [hx, h.split, List.cons_append, List.cons_append, List.append_assoc]
  · apply h.netlocEnds
  · intro c hc
    cases hcase : rest with
    | nil =>
        rw [hcase, hrest hcase, List.nil_append, List.nil_append] at hc
        rw [hall c (List.mem_of_mem_head? hc)]
        rfl
    | cons d others =>
        apply h.restBegins
        rw [hcase] at hc ⊢
        apply hc
  · apply h.permitted
  · apply h.host

include laws hblanks

omit hslashes in
/-- What is a website with slashes behind it is one without them. -/
theorem isSite_of_slashes (h : IsSite unicode x) :
  IsSite unicode y
  := by
  obtain ⟨scheme, netloc, rest, hsite⟩ := h
  have hsplit := hsite.split
  rw [hx] at hsplit
  obtain ⟨hscheme, hafter⟩ := Prod.mk.inj hsplit
  have hne : (Url.splitScheme (Url.cleaned (candidate y).toList)).1 ≠ [] := by
    rw [hscheme]
    rcases scheme_permitted hsite.permitted with rfl | rfl
    · apply List.cons_ne_nil
    · apply List.cons_ne_nil
  have hlength := length_of_names (names_cleaned (names_candidate y)) hne
  obtain ⟨behind, hbehind⟩ : ∃ behind, (Url.splitScheme (Url.cleaned (candidate y).toList)).2
      = '/' :: '/' :: behind := by
    match hsnd : (Url.splitScheme (Url.cleaned (candidate y).toList)).2 with
    | [] =>
        rw [hsnd] at hlength
        cases hlength
    | [c] =>
        rw [hsnd, List.length_singleton] at hlength
        omega
    | c :: d :: behind =>
        rw [hsnd, List.cons_append, List.cons_append, List.cons.injEq, List.cons.injEq] at hafter
        use behind
        rw [hafter.1, hafter.2.1]
  rw [hbehind, List.cons_append, List.cons_append, List.cons.injEq, List.cons.injEq] at hafter
  have hsplity : ∀ netloc rest, behind = netloc ++ rest →
      Url.splitScheme (Url.cleaned (candidate y).toList)
        = (scheme, '/' :: '/' :: (netloc ++ rest)) := by
    intro netloc rest heq
    rw [← heq, ← hbehind, ← hscheme]
  rcases List.append_eq_append_iff.mp hafter.2.2 with ⟨more, hnetloc, hmore⟩ | ⟨behind', hback, hrest⟩
  · -- blanks and slashes cannot belong to the host
    have hnil : more = [] := by
      cases more with
      | nil => rfl
      | cons c more =>
          have hc : c ∈ netloc := by
            rw [hnetloc]
            simp
          cases blanks with
          | nil =>
              have hslash : c ∈ slashes := by
                rw [List.nil_append] at hmore
                rw [hmore]
                apply List.mem_cons_self
              have hends := hsite.netlocEnds c hc
              rw [hall c hslash] at hends
              cases hends
          | cons d blanks =>
              have hspace : isSpace c := by
                rw [List.cons_append, List.cons_append, List.cons.injEq] at hmore
                rw [← hmore.1]
                apply hblanks d List.mem_cons_self
              apply absurd hc
              apply not_mem_netloc laws hsite.host _ (isHostChar_of_space laws hspace)
              rw [fold_singleton_space laws hspace]
              apply List.mem_singleton_self
    rw [hnil, List.append_nil] at hnetloc
    use scheme, netloc, []
    constructor
    · apply hsplity
      rw [hnetloc, List.append_nil]
    · apply hsite.netlocEnds
    · nofun
    · apply hsite.permitted
    · apply hsite.host
  · use scheme, netloc, behind'
    constructor
    · apply hsplity _ _ hback
    · apply hsite.netlocEnds
    · intro c hc
      apply hsite.restBegins
      rw [hrest, List.head?_append, hc]
      rfl
    · apply hsite.permitted
    · apply hsite.host

/-- Where slashes behind an input, which make no scheme of it, do not change the value. -/
theorem sameValue_slashes (hblank : Text.strip x = "" ↔ Text.strip y = "") :
  SameValue nfkc unicode x y
    ↔ (IsSite unicode y → '#' ∈ restPart (candidate y).toList
      ∨ ('?' ∉ restPart (candidate y).toList ∧ blanks = []))
  := by
  by_cases hsite : IsSite unicode y
  · obtain ⟨scheme, netloc, rest, h⟩ := id hsite
    rw [h.restPart_eq]
    by_cases hhost : rest = [] → blanks = []
    · rw [sameValue_iff_of_sites laws (website_slashes hall hx h hhost) h, valueOf, valueOf,
        List.append_right_inj, tailOf_slashes hslashes hall hblanks]
      constructor
      · intro hrest _
        apply hrest
      · intro hrest
        apply hrest hsite
    · obtain ⟨hnil, hsome⟩ := Classical.not_imp.mp hhost
      obtain ⟨c, hc⟩ := List.exists_mem_of_ne_nil _ hsome
      have hother : ¬ IsSite unicode x := by
        have hsplit : Url.splitScheme (Url.cleaned (candidate x).toList)
            = (scheme, '/' :: '/' :: ((netloc ++ blanks) ++ slashes)) := by
          rw [hx, h.split, hnil, List.append_nil, List.cons_append, List.cons_append,
            List.append_assoc]
        apply not_isSite_of_blank laws hsplit _ (List.mem_append_right netloc hc) (hblanks c hc)
        intro d hd
        rcases List.mem_append.mp hd with hmem | hmem
        · apply h.netlocEnds d hmem
        · apply endsHost_of_space (hblanks d hmem)
      constructor
      · intro hsame
        exact absurd ((hsame.isSite_iff laws).mpr hsite) hother
      · intro hrest
        rcases hrest hsite with hmem | ⟨-, hno⟩
        · rw [hnil] at hmem
          cases hmem
        · exact absurd hno hsome
  · have hother : ¬ IsSite unicode x := by
      intro h
      apply hsite (isSite_of_slashes hall laws hblanks hx h)
    constructor
    · intro _ h
      exact absurd h hsite
    · intro _
      apply sameValue_of_neither laws hblank hother hsite

end Behind

omit hslashes hall in
theorem stripped_eq_nil (h : stripped text = []) :
  ∀ c ∈ text, isSpace c
  := by
  intro c hc
  rw [← List.takeWhile_append_dropWhile (p := isSpace) (l := text)] at hc
  rcases List.mem_append.mp hc with hmem | hmem
  · apply List.mem_takeWhile_imp hmem
  · apply List.rdropWhile_eq_nil_iff.mp h c hmem

omit hslashes hall in
/-- The first character of a website that names no scheme is visible. -/
theorem cleaned_of_site (laws : Lawful nfkc unicode) {scheme netloc : List Char}
    (h : Website unicode (candidate y).toList scheme netloc rest)
    (hnames : ¬ NamesScheme (stripped y.toList)) (back : List Char) :
  Url.cleaned (stripped y.toList ++ back) = netloc ++ (rest ++ removed back)
  := by
  have hsplit := h.split
  rw [toList_candidate_of_not_names hnames, split_https] at hsplit
  have hremoved : removed (stripped y.toList) = netloc ++ rest := by
    have hafter := (Prod.mk.inj hsplit).2
    simpa using hafter
  have hne := h.netloc_ne_nil nfkc laws
  cases htext : stripped y.toList with
  | nil =>
      rw [htext] at hremoved
      exact absurd (List.append_eq_nil_iff.mp hremoved.symm).1 hne
  | cons d others =>
      have hspace : isSpace d = false := by
        have hhead := List.head?_dropWhile_not isSpace y.toList
        obtain ⟨tail, htail⟩ := List.rdropWhile_prefix isSpace (y.toList.dropWhile isSpace)
        rw [stripped] at htext
        rw [← htail, htext] at hhead
        exact hhead
      have hd : removed (d :: others) = d :: removed others := by
        have hkept : removed [d] = [d] := removed_of_visible (by simpa using hspace)
        rw [← List.singleton_append, removed_append, hkept]
        rfl
      have hmem : d ∈ netloc := by
        rw [htext, hd] at hremoved
        cases netloc with
        | nil => exact absurd rfl hne
        | cons c netloc =>
            rw [(List.cons.inj hremoved).1]
            apply List.mem_cons_self
      have hvisible : 0x20 < d.toNat := by
        by_contra hlow
        have hchar : isHostChar unicode d = false := by
          apply Bool.eq_false_iff.mpr
          intro hchar
          apply hlow (visible_of_isHostChar laws hchar).1
        have hupper : ¬ d.isUpper := by
          intro hupper
          apply hlow (toNat_of_isAlphanum (c := d) _).1
          rw [Char.isAlphanum, Char.isAlpha, hupper, Bool.true_or, Bool.true_or]
        apply not_mem_netloc laws h.host _ hchar hmem
        rw [fold_singleton_ascii laws (by omega), Char.toLower_eq_of_not_isUpper hupper]
        apply List.mem_singleton_self
      have hclean : Url.cleaned (d :: (others ++ back)) = removed (d :: (others ++ back)) := by
        rw [Url.cleaned, List.dropWhile_cons_of_neg (by simpa using hvisible)]
        rfl
      rw [List.cons_append, hclean, ← List.cons_append, ← htext, removed_append, hremoved,
        List.append_assoc]

/-- Slashes that make a scheme of a text: it was no website before, or is none with them. -/
theorem not_both_sites (laws : Lawful nfkc unicode) (hx : x.toList = y.toList ++ slashes)
    (hne : stripped y.toList ≠ []) (hnamesx : NamesScheme (stripped x.toList))
    (hnamesy : ¬ NamesScheme (stripped y.toList)) (hsitex : IsSite unicode x) :
  ¬ IsSite unicode y
  := by
  intro ⟨schemey, netlocy, resty, hsitey⟩
  obtain ⟨scheme, netloc, rest, hsite⟩ := hsitex
  have hstripped : stripped x.toList
      = stripped y.toList ++ (y.toList.rtakeWhile isSpace ++ slashes) := by
    rw [hx, stripped_slashes hslashes hall hne]
  have hclean := cleaned_of_site laws hsitey hnamesy (y.toList.rtakeWhile isSpace ++ slashes)
  have hsplit := hsite.split
  rw [toList_candidate_of_names hnamesx, hstripped, hclean] at hsplit
  obtain ⟨before, hchars, hbefore, htext⟩ := splitScheme_eq hsplit
    (by rcases scheme_permitted hsite.permitted with rfl | rfl <;> apply List.cons_ne_nil)
  have hkept : ∀ c ∈ before ++ [':'], c.toNat < 0x80 ∧ isSpace c = false
      ∧ Url.endsHost c = false := by
    intro c hc
    rcases List.mem_append.mp hc with hmem | hmem
    · have hvisible := visible_of_isSchemeChar (hchars c hmem)
      exact ⟨hvisible.1.2, hvisible.2⟩
    · obtain rfl := List.mem_singleton.mp hmem
      decide
  -- the host of the second text ends where the scheme of the first does
  have hhost : netlocy = before ++ [':'] := by
    have hsame : netlocy ++ (resty ++ removed (y.toList.rtakeWhile isSpace ++ slashes))
        = (before ++ [':']) ++ ('/' :: '/' :: (netloc ++ rest)) := by
      rw [htext, List.append_assoc, List.singleton_append]
    rcases List.append_eq_append_iff.mp hsame with ⟨more, hscheme, hmore⟩ | ⟨more, hhost, hmore⟩
    · cases more with
      | nil => rw [hscheme, List.append_nil]
      | cons c more =>
          have hc := (hkept c (by rw [hscheme]; simp)).2
          exfalso
          cases resty with
          | nil =>
              have hmem : c ∈ y.toList.rtakeWhile isSpace ++ slashes := by
                rw [List.nil_append] at hmore
                apply List.mem_of_mem_filter
                rw [removed] at hmore
                rw [hmore]
                apply List.mem_cons_self
              rcases List.mem_append.mp hmem with hspace | hslash
              · rw [List.mem_rtakeWhile_imp hspace] at hc
                cases hc.1
              · rw [hall c hslash] at hc
                cases hc.2
          | cons d resty =>
              have hends := hsitey.restBegins d rfl
              rw [List.cons_append, List.cons_append, List.cons.injEq] at hmore
              rw [hmore.1, hc.2] at hends
              cases hends
    · cases more with
      | nil => rw [hhost, List.append_nil]
      | cons c more =>
          have hends := hsitey.netlocEnds c (by rw [hhost]; simp)
          rw [List.cons_append, List.cons.injEq] at hmore
          rw [← hmore.1] at hends
          cases hends
  have hfold : fold unicode netlocy = scheme ++ [':'] := by
    rw [hhost, fold_ascii laws (fun c hc => (hkept c hc).1), List.map_append, hbefore]
    rfl
  have hbad := hsitey.host
  rw [hostOf, hfold] at hbad
  rcases scheme_permitted hsite.permitted with rfl | rfl
  · cases hbad
  · cases hbad

/-- Where slashes behind an input do not change the value. -/
theorem sameValue_slashes_iff (laws : Lawful nfkc unicode)
    (hx : x.toList = y.toList ++ slashes) :
  SameValue nfkc unicode x y
    ↔ Text.strip y ≠ "" ∧ (IsSite unicode x ∨ IsSite unicode y →
      (Text.contains (Text.strip x) "://" → Text.contains (Text.strip y) "://")
      ∧ ('#' ∈ restPart (candidate y).toList ∨ ('?' ∉ restPart (candidate y).toList
        ∧ ∀ c ∈ y.toList.rtakeWhile isSpace, Removable c)))
  := by
  have hslash : ∃ c ∈ slashes, isSpace c = false := by
    obtain ⟨c, hc⟩ := List.exists_mem_of_ne_nil _ hslashes
    use c, hc
    rw [hall c hc]
    decide
  have hvisible : Text.strip x ≠ "" := by
    intro hblank
    obtain ⟨c, hc, hspace⟩ := hslash
    have hnil : stripped x.toList = [] := by
      rw [← toList_strip, hblank]
      rfl
    have hall := stripped_eq_nil hnil c (by rw [hx]; apply List.mem_append_right _ hc)
    rw [hspace] at hall
    cases hall
  by_cases hblank : Text.strip y = ""
  · constructor
    · intro h
      exact absurd (h.blank_iff.mpr hblank) hvisible
    · intro h
      exact absurd hblank h.1
  · have hblanks : Text.strip x = "" ↔ Text.strip y = "" := by
      constructor
      · intro h
        exact absurd h hvisible
      · intro h
        exact absurd h hblank
    have htext : stripped y.toList ≠ [] := by
      intro hnil
      apply hblank
      apply String.toList_injective
      rw [toList_strip, hnil]
      rfl
    have hspaces : ∀ c ∈ removed (y.toList.rtakeWhile isSpace), isSpace c := by
      intro c hc
      apply List.mem_rtakeWhile_imp (List.mem_of_mem_filter hc)
    rw [contains_iff, contains_iff, toList_strip, toList_strip]
    by_cases hnames : NamesScheme (stripped x.toList) → NamesScheme (stripped y.toList)
    · have hsplit := split_slashes hslashes hall hx htext hnames
      have hsite : IsSite unicode x ∨ IsSite unicode y ↔ IsSite unicode y := by
        constructor
        · rintro (h | h)
          · apply isSite_of_slashes hall laws hspaces hsplit h
          · apply h
        · apply Or.inr
      rw [sameValue_slashes hslashes hall laws hspaces hsplit hblanks, removed_eq_nil_iff, hsite]
      constructor
      · intro h
        constructor
        · apply hblank
        · intro hsite'
          constructor
          · apply hnames
          · apply h hsite'
      · intro h hsite'
        apply (h.2 hsite').2
    · obtain ⟨hnamesx, hnamesy⟩ := Classical.not_imp.mp hnames
      have hboth := not_both_sites hslashes hall laws hx htext hnamesx hnamesy
      constructor
      · intro h
        constructor
        · apply hblank
        · intro hone
          have hsitex : IsSite unicode x := by
            rcases hone with hsite | hsite
            · apply hsite
            · apply (h.isSite_iff laws).mpr hsite
          exact absurd ((h.isSite_iff laws).mp hsitex) (hboth hsitex)
      · intro ⟨_, h⟩
        apply sameValue_of_neither laws hblanks
        · intro hsite
          apply hnames (h (Or.inl hsite)).1
        · intro hsite
          apply hnames (h (Or.inr hsite)).1

end Slashes

/-! ### Tables with these laws -/

/-- The case folding of the characters that fold to some in ASCII, and the digits in ASCII. -/
def asciiTables : Unicode :=
  ⟨Text.casefold, Char.isDigit⟩

theorem foldChar_toLower (c : Char) :
  foldChar c.toLower = if c.isUpper then [c.toLower] else foldChar c
  := by
  split
  · rename_i hupper
    have halnum : c.toLower.isAlphanum := by
      rw [Char.isAlphanum, Char.isAlpha_toLower_eq_isAlpha, Char.isAlpha, hupper, Bool.true_or,
        Bool.true_or]
    rw [foldChar_ascii (toNat_of_isAlphanum halnum).2, Char.toLower_toLower_eq_toLower]
  · rename_i hupper
    rw [Char.toLower_eq_of_not_isUpper hupper]

/-- These tables have the laws, with texts of which none has another normal form. -/
theorem asciiTables_lawful :
  Lawful id asciiTables
  := by
  constructor
  · intro s t
    apply String.toList_injective
    show (Text.casefold (s ++ t)).toList = (Text.casefold s ++ Text.casefold t).toList
    rw [String.toList_append, toList_casefold, toList_casefold, toList_casefold,
      String.toList_append, List.flatMap_append]
  · intro c hc
    apply String.toList_injective
    show (Text.casefold (String.singleton c)).toList = (String.singleton c.toLower).toList
    rw [toList_casefold, String.toList_singleton, String.toList_singleton,
      List.flatMap_singleton, foldChar_ascii hc]
  · intro c hc
    apply String.toList_injective
    show (Text.casefold (String.singleton c)).toList = (String.singleton c).toList
    have hupper : ¬ c.isUpper := by
      intro hupper
      have halnum : c.isAlphanum := by
        rw [Char.isAlphanum, Char.isAlpha, hupper, Bool.true_or, Bool.true_or]
      rw [(visible_of_isAlphanum halnum).1] at hc
      cases hc
    rw [toList_casefold, String.toList_singleton, List.flatMap_singleton, foldChar_space hc,
      Char.toLower_eq_of_not_isUpper hupper]
  · intro s
    apply String.toList_injective
    show (Text.casefold (Text.casefold s)).toList = (Text.casefold s).toList
    rw [toList_casefold, toList_casefold, List.flatMap_assoc]
    congr 1
    funext c
    rcases foldChar_cases c with hc | ⟨entry, hentry, -, hc⟩
    · by_cases hupper : c.isUpper
      · rw [hc, List.flatMap_singleton, foldChar_toLower, if_pos hupper]
      · rw [hc, List.flatMap_singleton, foldChar_toLower, if_neg hupper, hc]
    · rw [hc, foldChar_entries entry hentry]
  · intro c _ hdigit
    apply hdigit
  · intro c hspace
    apply Bool.eq_false_iff.mpr
    intro hdigit
    have halnum : c.isAlphanum := by
      have hdigit' : c.isDigit = true := hdigit
      rw [Char.isAlphanum, hdigit', Bool.or_true]
    rw [(visible_of_isAlphanum halnum).1] at hspace
    cases hspace
  · intro s hhost hcolon c hc
    have hchars : ∀ d ∈ foldChar c, isHostChar asciiTables d := by
      intro d hd
      apply hhost
      show d ∈ (Text.casefold s).toList
      rw [toList_casefold, List.mem_flatMap]
      use c, hc
    simp only [List.mem_cons, List.not_mem_nil, or_false, not_or]
    refine ⟨?_, ?_, ?_, ?_, ?_⟩
    · rintro rfl
      have hbad := hchars '/' (by decide)
      revert hbad
      decide
    · rintro rfl
      have hbad := hchars '?' (by decide)
      revert hbad
      decide
    · rintro rfl
      have hbad := hchars '#' (by decide)
      revert hbad
      decide
    · rintro rfl
      have hbad := hchars '@' (by decide)
      revert hbad
      decide
    · rintro rfl
      apply hcolon hc

/-! ## The forms of a website -/

section Forms

variable {nfkc : String → String} {unicode : Unicode} {x y : String}

/-- Blanks before a text make no difference. -/
theorem strip_of_blanks {blanks : List Char} (hblanks : ∀ c ∈ blanks, isSpace c)
    (hx : x.toList = blanks ++ y.toList) :
  Text.strip x = Text.strip y
  := by
  apply String.toList_injective
  rw [toList_strip, toList_strip, hx, stripped, stripped, List.dropWhile_append_of_pos hblanks]

theorem candidate_congr (h : Text.strip x = Text.strip y) :
  candidate x = candidate y
  := by
  rw [candidate, candidate, h]

theorem normalizeWebsite_congr (h : Text.strip x = Text.strip y) :
  normalizeWebsite nfkc unicode (some x) = normalizeWebsite nfkc unicode (some y)
  := by
  rw [normalizeWebsite, normalizeWebsite, h, candidate_congr h]

theorem sameValue_congr {x' y' : String} (hx : Text.strip x = Text.strip x')
    (hy : Text.strip y = Text.strip y') :
  SameValue nfkc unicode x y ↔ SameValue nfkc unicode x' y'
  := by
  rw [SameValue, SameValue, normalizeWebsite_congr hx, normalizeWebsite_congr hy]

theorem isSite_congr (h : Text.strip x = Text.strip y) :
  IsSite unicode x ↔ IsSite unicode y
  := by
  rw [IsSite, IsSite, candidate_congr h]

/-- Nothing of a blank text is a value. -/
theorem settled_of_blank (laws : Lawful nfkc unicode) (h : Text.strip x = "") :
  Settled unicode x
  := by
  have hcandidate : (candidate x).toList = "https://".toList := by
    rw [candidate, h]
    rfl
  have hhost : hostPart "https://".toList = [] := by decide
  have hrest : restPart "https://".toList = [] := by decide
  rw [Settled, hcandidate, hhost, hrest, fold_nil laws]
  constructor
  · intro hprefix
    cases List.prefix_nil.mp hprefix
  · intro c hc
    cases hc

/-- `normalize_website` returns, or refuses, where the parser of URLs takes the host part; a
value is its own value where it is settled; the case of the scheme makes no difference; and one
leading `www.` and slashes at the end make none in the cases that are listed. -/
theorem normalizeWebsite_forms (laws : Lawful nfkc unicode) :
  (∀ raw, (∃ v, normalizeWebsite nfkc unicode raw = .ok v)
        ∨ normalizeWebsite nfkc unicode raw = .error (.app invalidRequest)
      ↔ Parses nfkc raw)
    ∧ (∀ raw v, normalizeWebsite nfkc unicode (some raw) = .ok v →
      (normalizeWebsite nfkc unicode v = .ok v ↔ Settled unicode raw))
    ∧ (∀ x y blanks scheme scheme' back, (∀ c ∈ blanks, isSpace c) →
      (∀ c ∈ scheme, Url.isSchemeChar c) → (∀ c ∈ scheme', Url.isSchemeChar c) →
      scheme.map Char.toLower = scheme'.map Char.toLower →
      x.toList = blanks ++ (scheme ++ "://".toList ++ back) →
      y.toList = blanks ++ (scheme' ++ "://".toList ++ back) →
      normalizeWebsite nfkc unicode (some x) = normalizeWebsite nfkc unicode (some y))
    ∧ (∀ x y blanks scheme www back, (∀ c ∈ blanks, isSpace c) →
      (∀ c ∈ scheme, Url.isSchemeChar c) → IsWww www →
      x.toList = blanks ++ (scheme ++ "://".toList ++ (www ++ back)) →
      y.toList = blanks ++ (scheme ++ "://".toList ++ back) →
      (SameValue nfkc unicode x y
        ↔ (IsSite unicode y → ¬ "www.".toList <+: fold unicode (hostPart (candidate y).toList))))
    ∧ (∀ x y blanks www back, (∀ c ∈ blanks, isSpace c) → IsWww www →
      x.toList = blanks ++ (www ++ back) → y.toList = blanks ++ back →
      (SameValue nfkc unicode x y
        ↔ Text.strip y ≠ "" ∧ (IsSite unicode y → ¬ Text.contains (Text.strip y) "://"
          ∧ (∀ c ∈ back.takeWhile isSpace, Removable c)
          ∧ ¬ "www.".toList <+: fold unicode (hostPart (candidate y).toList))))
    ∧ ∀ (x y : String) slashes, slashes ≠ [] → (∀ c ∈ slashes, c = '/') →
      x.toList = y.toList ++ slashes →
      (SameValue nfkc unicode x y
        ↔ Text.strip y ≠ "" ∧ (IsSite unicode x ∨ IsSite unicode y →
          (Text.contains (Text.strip x) "://" → Text.contains (Text.strip y) "://")
          ∧ ('#' ∈ restPart (candidate y).toList ∨ ('?' ∉ restPart (candidate y).toList
            ∧ ∀ c ∈ y.toList.rtakeWhile isSpace, Removable c))))
  := by
  have hofList : ∀ chars : List Char, (String.ofList chars).toList = chars := by
    intro chars
    apply String.toList_ofList
  have hstrip : ∀ {x : String} {blanks back : List Char}, (∀ c ∈ blanks, isSpace c) →
      x.toList = blanks ++ back → Text.strip x = Text.strip (String.ofList back) := by
    intro x blanks back hblanks hx
    apply strip_of_blanks hblanks
    rw [hofList, hx]
  constructor
  · intro raw
    apply normalizeWebsite_total
  constructor
  · intro raw v hv
    cases v with
    | none =>
        have hblank := normalizeWebsite_eq_none_iff.mp hv
        constructor
        · intro _
          apply settled_of_blank laws hblank
        · intro _
          rfl
    | some v =>
        obtain ⟨scheme, netloc, rest, h, rfl⟩ := (normalizeWebsite_eq_some_iff laws).mp hv
        rw [h.settled_iff laws, Settled, h.hostPart_eq, h.restPart_eq]
  constructor
  · intro x y blanks scheme scheme' back hblanks hscheme hscheme' hcase hx hy
    rw [normalizeWebsite_congr (hstrip hblanks hx), normalizeWebsite_congr (hstrip hblanks hy)]
    apply normalizeWebsite_scheme (hofList _) (hofList _) hscheme hscheme' hcase
  constructor
  · intro x y blanks scheme www back hblanks hscheme hwww hx hy
    rw [sameValue_congr (hstrip hblanks hx) (hstrip hblanks hy),
      isSite_congr (hstrip hblanks hy), candidate_congr (hstrip hblanks hy)]
    apply sameValue_www_named laws hwww hscheme (hofList _) (hofList _)
  constructor
  · intro x y blanks www back hblanks hwww hx hy
    have hback : (String.ofList (www ++ back)).toList = www ++ (String.ofList back).toList := by
      rw [hofList, hofList]
    rw [sameValue_congr (hstrip hblanks hx) (hstrip hblanks hy), isSite_congr (hstrip hblanks hy),
      candidate_congr (hstrip hblanks hy), hstrip hblanks hy, sameValue_www_bare laws hwww hback,
      hofList back]
  · intro x y slashes hslashes hall hx
    apply sameValue_slashes_iff hslashes hall laws hx

end Forms

/-- The forms, with tables that have the laws. -/
theorem normalizeWebsite_forms_ascii :
  (∃ v, normalizeWebsite id asciiTables (some "HTTP://www.snack.example/") = .ok v)
      ∨ normalizeWebsite id asciiTables (some "HTTP://www.snack.example/")
        = .error (.app invalidRequest)
  := by
  apply ((normalizeWebsite_forms asciiTables_lawful).1 _).mpr
  intro text htext _
  obtain rfl := Option.some.inj htext
  decide +kernel

/-- A bracket without its match is an error of the parser; a value that begins with `www.` has
another value; and so has an input with a slash behind its query. -/
theorem normalizeWebsite_unsettled :
  normalizeWebsite id asciiTables (some "http://[") = .error .valueError
    ∧ normalizeWebsite id asciiTables (some "www.www.snack.example")
      = .ok (some "https://www.snack.example")
    ∧ normalizeWebsite id asciiTables (some "https://www.snack.example")
      = .ok (some "https://snack.example")
    ∧ normalizeWebsite id asciiTables (some "snack.example?page=1/")
      ≠ normalizeWebsite id asciiTables (some "snack.example?page=1")
  := by
  decide +kernel

end SnackPortal2.Urls
