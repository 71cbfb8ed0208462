import Mathlib
import SnackPortal.SnackPortal2.Websites

/-!
# The forms of a website

`normalize_website` with all that it may raise.  It raises nothing but the refusal unless the
parser of URLs rejects the host; it is the identity on its values unless the host begins with
`www.` twice or the value ends in a blank; and inputs that differ by the case of the scheme, by
one leading `www.` or by slashes at their end have one value in the cases of
`normalizeWebsite_forms` and in no others.
-/

namespace SnackPortal2.Urls

open Url (urlunsplit)

/-- The characters that a host and its port may have. -/
def isHostChar (unicode : Unicode) (c : Char) : Bool :=
  c.isAlphanum || c == '-' || c == '.' || c == ':' || unicode.isDecimal c

/-- What the tables of Unicode say of the characters that a host may have. -/
structure Lawful (nfkc : String → String) (unicode : Unicode) : Prop where
  casefold_append : ∀ s t, unicode.casefold (s ++ t) = unicode.casefold s ++ unicode.casefold t
  casefold_ascii : ∀ c : Char, c.toNat < 0x80 →
    unicode.casefold (String.singleton c) = String.singleton c.toLower
  casefold_space : ∀ c : Char, Text.isSpace c →
    unicode.casefold (String.singleton c) = String.singleton c
  casefold_idem : ∀ s, unicode.casefold (unicode.casefold s) = unicode.casefold s
  decimal_ascii : ∀ c : Char, c.toNat < 0x80 → unicode.isDecimal c → c.isDigit
  decimal_space : ∀ c : Char, Text.isSpace c → unicode.isDecimal c = false
  /-- What folds to the characters of a host has no delimiter in its normal form, unless it has
  a colon. -/
  nfkc_host : ∀ s, (∀ c ∈ (unicode.casefold s).toList, isHostChar unicode c) →
    ':' ∉ s.toList → ∀ c ∈ (nfkc s).toList, c ∉ ['/', '?', '#', '@', ':']

/-! ## The characters of a host -/

section Host

variable {unicode : Unicode}

/-- A character of a text is the separator or one of a part. -/
theorem mem_intercalate {sep c : Char} {parts : List (List Char)}
    (h : c ∈ [sep].intercalate parts) :
  c = sep ∨ ∃ part ∈ parts, c ∈ part
  := by
  induction parts with
  | nil => cases h
  | cons part parts ih =>
      cases parts with
      | nil => exact Or.inr ⟨part, List.mem_cons_self, by simpa using h⟩
      | cons part' parts =>
          rw [List.intercalate_cons_cons, List.mem_append, List.mem_append,
            List.mem_singleton] at h
          rcases h with (hmem | heq) | hmem
          · exact Or.inr ⟨part, List.mem_cons_self, hmem⟩
          · apply Or.inl heq
          · rcases ih hmem with heq | ⟨other, hother, hchar⟩
            · apply Or.inl heq
            · exact Or.inr ⟨other, List.mem_cons_of_mem part hother, hchar⟩

theorem contains_colon {host : String} :
  Text.contains host ":" ↔ ':' ∈ host.toList
  := by
  rw [Text.contains, List.any_eq_true]
  constructor
  · intro ⟨tail, htail, hprefix⟩
    obtain ⟨rest, rfl⟩ := List.isPrefixOf_iff_prefix.mp hprefix
    apply (List.mem_tails _ _).mp htail |>.subset
    apply List.mem_append_left
    apply List.mem_singleton_self
  · intro hmem
    obtain ⟨front, back, hsplit⟩ := List.append_of_mem hmem
    use ':' :: back
    constructor
    · apply (List.mem_tails _ _).mpr
      rw [hsplit]
      apply List.suffix_append
    · rfl

/-- The characters of a host. -/
theorem isHost_chars {host : String} (h : isHost unicode host) {c : Char}
    (hc : c ∈ host.toList) :
  isHostChar unicode c
  := by
  rw [isHost, Bool.and_eq_true, List.all_eq_true] at h
  obtain ⟨hlabels, hport⟩ := h
  have hbefore : ∀ d ∈ host.toList.takeWhile (· != ':'), isHostChar unicode d := by
    intro d hd
    have hjoin : ['.'].intercalate ((host.toList.takeWhile (· != ':')).splitOn '.')
        = host.toList.takeWhile (· != ':') := List.intercalate_splitOn '.'
    rw [← hjoin] at hd
    rcases mem_intercalate hd with rfl | ⟨label, hlabel, hmem⟩
    · rfl
    · have hvalid := hlabels (String.ofList label) (by
        rw [Text.split, Text.before, String.toList_ofList]
        apply List.mem_map_of_mem hlabel)
      rw [isLabel] at hvalid
      simp only [Bool.and_eq_true, String.toList_ofList, List.all_eq_true] at hvalid
      have hchar := hvalid.1.1.2 d hmem
      rw [isHostChar]
      simp only [Bool.or_eq_true] at hchar ⊢
      rcases hchar with halnum | hhyphen
      · simp [halnum]
      · simp [hhyphen]
  rw [← List.takeWhile_append_dropWhile (p := (· != ':')) (l := host.toList)] at hc
  rcases List.mem_append.mp hc with hfront | hback
  · apply hbefore c hfront
  · cases hdrop : host.toList.dropWhile (· != ':') with
    | nil =>
        rw [hdrop] at hback
        cases hback
    | cons d rest =>
        have hd : d = ':' := by
          have hhead := List.head?_dropWhile_not (· != ':') host.toList
          rw [hdrop] at hhead
          simpa using hhead
        rw [hdrop] at hback
        rcases List.mem_cons.mp hback with heq | hmem
        · rw [heq, hd]
          rfl
        · have hcolon : Text.contains host ":" := by
            apply contains_colon.mpr
            apply (List.dropWhile_suffix (· != ':')).subset
            rw [hdrop, hd]
            apply List.mem_cons_self
          rw [hcolon] at hport
          simp only [Bool.not_true, Bool.false_or, Bool.and_eq_true, List.all_eq_true] at hport
          have hdecimal := hport.2 c (by
            rw [Text.after, String.toList_ofList, hdrop]
            apply hmem)
          rw [isHostChar, hdecimal, Bool.or_true]

variable {nfkc : String → String} (laws : Lawful nfkc unicode)

/-- The case folding of a list of characters. -/
def fold (unicode : Unicode) (chars : List Char) : List Char :=
  (unicode.casefold (String.ofList chars)).toList

include laws

theorem fold_append (a b : List Char) :
  fold unicode (a ++ b) = fold unicode a ++ fold unicode b
  := by
  rw [fold, String.ofList_append, laws.casefold_append, String.toList_append]
  rfl

theorem fold_singleton_ascii {c : Char} (hc : c.toNat < 0x80) :
  fold unicode [c] = [c.toLower]
  := by
  rw [fold, ← String.singleton_eq_ofList, laws.casefold_ascii c hc, String.singleton_eq_ofList,
    String.toList_ofList]

theorem fold_singleton_space {c : Char} (hc : Text.isSpace c) :
  fold unicode [c] = [c]
  := by
  rw [fold, ← String.singleton_eq_ofList, laws.casefold_space c hc, String.singleton_eq_ofList,
    String.toList_ofList]

theorem fold_idem (chars : List Char) :
  fold unicode (fold unicode chars) = fold unicode chars
  := by
  rw [fold, fold, String.ofList_toList, laws.casefold_idem]

theorem fold_nil :
  fold unicode [] = []
  := by
  have happend := fold_append laws [] []
  rw [List.append_nil] at happend
  apply List.self_eq_append_left.mp happend

/-- What a text folds to is what its characters fold to. -/
theorem mem_fold {chars : List Char} {d : Char} :
  d ∈ fold unicode chars ↔ ∃ c ∈ chars, d ∈ fold unicode [c]
  := by
  induction chars with
  | nil => simp [fold_nil laws]
  | cons c chars ih =>
      rw [← List.singleton_append, fold_append laws, List.mem_append, ih]
      simp

end Host

/-! ## Websites -/

section Website

variable (unicode : Unicode)

/-- The host of a host part: folded and without one leading `www.`. -/
def hostOf (netloc : List Char) : List Char :=
  if "www.".toList.isPrefixOf (fold unicode netloc) then (fold unicode netloc).drop 4
  else fold unicode netloc

/-- The text splits into a permitted scheme, a host part with a host, and the rest. -/
structure Website (text scheme netloc rest : List Char) : Prop where
  split : Url.splitScheme (Url.cleaned text) = (scheme, '/' :: '/' :: (netloc ++ rest))
  netlocEnds : ∀ c ∈ netloc, Url.endsHost c = false
  restBegins : ∀ c ∈ rest.head?, Url.endsHost c
  permitted : String.ofList scheme ∈ permittedSchemes
  host : isHost unicode (String.ofList (hostOf unicode netloc))

/-- The path and the query of a rest, without slashes at the end of the path. -/
def tailOf (rest : List Char) : List Char :=
  let (path, query) := Url.partition '?' (Url.partition '#' rest).1
  path.rdropWhile (· == '/') ++ if query = [] then [] else '?' :: query

/-- The value of a website. -/
def valueOf (scheme netloc rest : List Char) : List Char :=
  scheme ++ "://".toList ++ hostOf unicode netloc ++ tailOf rest

variable {unicode} {text scheme netloc rest : List Char}

theorem Website.netloc_ne_nil (h : Website unicode text scheme netloc rest) (nfkc : String → String)
    (laws : Lawful nfkc unicode) :
  netloc ≠ []
  := by
  rintro rfl
  have hhost := h.host
  rw [hostOf, fold_nil laws] at hhost
  cases hhost

/-- The host part of a text that begins with two slashes. -/
theorem splitNetloc_append (hnetloc : ∀ c ∈ netloc, Url.endsHost c = false)
    (hrest : ∀ c ∈ rest.head?, Url.endsHost c) :
  Url.splitNetloc ('/' :: '/' :: (netloc ++ rest)) = (netloc, rest)
  := by
  have hnot : ∀ c ∈ netloc, (!Url.endsHost c) = true := by
    intro c hc
    rw [hnetloc c hc]
    rfl
  have htake : rest.takeWhile (fun c => !Url.endsHost c) = [] := by
    cases rest with
    | nil => rfl
    | cons c rest =>
        rw [List.takeWhile_cons_of_neg]
        rw [hrest c rfl]
        decide
  have hdrop : rest.dropWhile (fun c => !Url.endsHost c) = rest := by
    cases rest with
    | nil => rfl
    | cons c rest =>
        rw [List.dropWhile_cons_of_neg]
        rw [hrest c rfl]
        decide
  have hslashes : ['/', '/'].isPrefixOf ('/' :: '/' :: (netloc ++ rest)) = true := rfl
  rw [Url.splitNetloc, if_pos hslashes]
  simp only [List.drop_succ_cons, List.drop_zero, List.takeWhile_append_of_pos hnot,
    List.dropWhile_append_of_pos hnot, htake, hdrop, List.append_nil]

/-- A host part is the text up to a character that ends it. -/
theorem splitNetloc_eq {chars : List Char} (h : Url.splitNetloc chars = (netloc, rest))
    (hne : netloc ≠ []) :
  chars = '/' :: '/' :: (netloc ++ rest) ∧ (∀ c ∈ netloc, Url.endsHost c = false)
    ∧ ∀ c ∈ rest.head?, Url.endsHost c
  := by
  rw [Url.splitNetloc] at h
  split at h
  · rename_i hslashes
    obtain ⟨tail, rfl⟩ := List.isPrefixOf_iff_prefix.mp hslashes
    simp only [List.cons_append, List.nil_append, List.drop_succ_cons, List.drop_zero,
      Prod.mk.injEq] at h
    obtain ⟨rfl, rfl⟩ := h
    constructor
    · rw [List.takeWhile_append_dropWhile]
      rfl
    · constructor
      · intro c hc
        simpa using List.mem_takeWhile_imp hc
      · intro c hc
        have hhead := List.head?_dropWhile_not (fun c => !Url.endsHost c) tail
        rw [Option.mem_def.mp hc] at hhead
        simpa using hhead
  · obtain ⟨rfl, rfl⟩ := Prod.mk.inj h
    exact absurd rfl hne

theorem withoutWww_casefold (netloc : List Char) :
  withoutWww (unicode.casefold (String.ofList netloc))
    = String.ofList (hostOf unicode netloc)
  := by
  rw [withoutWww, hostOf, Text.startsWith, fold]
  split
  · rfl
  · rw [String.ofList_toList]

/-- What the host part of a website folds to. -/
theorem fold_chars (h : isHost unicode (String.ofList (hostOf unicode netloc))) {c : Char}
    (hc : c ∈ fold unicode netloc) :
  isHostChar unicode c
  := by
  rw [hostOf] at h
  split at h
  · rename_i hwww
    obtain ⟨tail, htail⟩ := List.isPrefixOf_iff_prefix.mp hwww
    rw [← htail] at hc h
    rcases List.mem_append.mp hc with hfront | hback
    · have hascii : c = 'w' ∨ c = '.' := by simpa using hfront
      rcases hascii with rfl | rfl <;> rfl
    · apply isHost_chars h
      rw [String.toList_ofList]
      apply hback
  · apply isHost_chars h
    rw [String.toList_ofList]
    apply hc

section Laws

variable {nfkc : String → String} (laws : Lawful nfkc unicode)

include laws

/-- A character that folds to itself and that no host has is not in the host part. -/
theorem not_mem_netloc (h : isHost unicode (String.ofList (hostOf unicode netloc))) {c : Char}
    (hfold : c ∈ fold unicode [c]) (hc : isHostChar unicode c = false) :
  c ∉ netloc
  := by
  intro hmem
  rw [fold_chars h ((mem_fold laws).mpr ⟨c, hmem, hfold⟩)] at hc
  cases hc

omit laws in
theorem toNat_of_isAlphanum {c : Char} (h : c.isAlphanum) :
  0x20 < c.toNat ∧ c.toNat < 0x80
  := by
  simp only [Char.isAlphanum, Char.isAlpha, Char.isUpper, Char.isLower, Char.isDigit,
    Bool.or_eq_true, Bool.and_eq_true, decide_eq_true_eq, ge_iff_le, UInt32.le_iff_toNat_le] at h
  have hval : c.toNat = c.val.toNat := rfl
  rw [hval]
  rcases h with (⟨hlow, hhigh⟩ | ⟨hlow, hhigh⟩) | ⟨hlow, hhigh⟩
  · constructor
    · apply Nat.lt_of_lt_of_le _ hlow
      decide
    · apply Nat.lt_of_le_of_lt hhigh
      decide
  · constructor
    · apply Nat.lt_of_lt_of_le _ hlow
      decide
    · apply Nat.lt_of_le_of_lt hhigh
      decide
  · constructor
    · apply Nat.lt_of_lt_of_le _ hlow
      decide
    · apply Nat.lt_of_le_of_lt hhigh
      decide

theorem isHostChar_of_space {c : Char} (h : Text.isSpace c) :
  isHostChar unicode c = false
  := by
  have hspace : c.toNat ≤ 0x20 ∨ 0x80 ≤ c.toNat := by
    simp only [Text.isSpace, Bool.or_eq_true, Bool.and_eq_true, decide_eq_true_eq,
      List.contains_iff_mem, List.mem_cons, List.not_mem_nil, or_false] at h
    omega
  have hvisible : ∀ d : Char, (d.isAlphanum || d == '-' || d == '.' || d == ':') →
      0x20 < d.toNat ∧ d.toNat < 0x80 := by
    intro d hd
    simp only [Bool.or_eq_true, beq_iff_eq] at hd
    rcases hd with ((halnum | rfl) | rfl) | rfl
    · apply toNat_of_isAlphanum halnum
    · decide
    · decide
    · decide
  rw [isHostChar, laws.decimal_space c h, Bool.or_false]
  apply Bool.eq_false_iff.mpr
  intro hc
  have hrange := hvisible c hc
  omega

/-- The parser takes the host part of a website. -/
theorem netlocOk_of_isHost (h : isHost unicode (String.ofList (hostOf unicode netloc))) :
  Url.netlocOk nfkc netloc
  := by
  have hdelimiter : ∀ c : Char, c.toNat < 0x80 → c.toLower = c →
      (c.isAlphanum || c == '-' || c == '.' || c == ':') = false → c.isDigit = false →
      c ∉ netloc := by
    intro c hascii hlower hchar hdigit
    apply not_mem_netloc laws h
    · rw [fold_singleton_ascii laws hascii, hlower]
      apply List.mem_singleton_self
    · rw [isHostChar, hchar, Bool.false_or]
      apply Bool.eq_false_iff.mpr
      intro hdecimal
      rw [laws.decimal_ascii c hascii hdecimal] at hdigit
      cases hdigit
  have hopen : '[' ∉ netloc := by apply hdelimiter <;> decide
  have hclose : ']' ∉ netloc := by apply hdelimiter <;> decide
  rw [Url.netlocOk, Bool.and_eq_true]
  constructor
  · simp [Url.bracketsOk, hopen, hclose]
  · rw [Url.checkNetloc]
    split
    · rfl
    · rw [Bool.or_eq_true]
      apply Or.inr
      apply List.all_eq_true.mpr
      intro c hc
      have hfolded : ∀ d ∈ (unicode.casefold (String.ofList
          (netloc.filter fun c => !(['@', ':', '#', '?'].contains c)))).toList,
          isHostChar unicode d := by
        intro d hd
        obtain ⟨c', hc', hfold⟩ := (mem_fold laws).mp hd
        apply fold_chars h
        apply (mem_fold laws).mpr
        exact ⟨c', (List.mem_filter.mp hc').1, hfold⟩
      have hcolon : ':' ∉ (String.ofList
          (netloc.filter fun c => !(['@', ':', '#', '?'].contains c))).toList := by
        simp
      have hclean := laws.nfkc_host _ hfolded hcolon c hc
      simpa using hclean

omit laws in
/-- The path of a rest is empty or begins with a slash. -/
theorem path_begins (hrest : ∀ c ∈ rest.head?, Url.endsHost c) :
  ∀ c ∈ ((Url.partition '?' (Url.partition '#' rest).1).1.rdropWhile (· == '/')).head?, c = '/'
  := by
  intro c hc
  have hprefix : (Url.partition '?' (Url.partition '#' rest).1).1.rdropWhile (· == '/')
      <+: rest := by
    apply (List.rdropWhile_prefix _ _).trans
    apply (List.takeWhile_prefix _).trans
    apply List.takeWhile_prefix
  obtain ⟨others, hothers⟩ : ∃ others, (Url.partition '?' (Url.partition '#' rest).1).1.rdropWhile
      (· == '/') = c :: others := by
    exact List.head?_eq_some_iff.mp hc
  obtain ⟨back, hback⟩ := hprefix
  have hends : Url.endsHost c := by
    apply hrest
    rw [← hback, hothers]
    rfl
  have hmem : c ∈ (Url.partition '?' (Url.partition '#' rest).1).1 := by
    apply (List.rdropWhile_prefix _ _).subset
    rw [hothers]
    apply List.mem_cons_self
  have hquery := List.mem_takeWhile_imp hmem
  have hfragment := List.mem_takeWhile_imp ((List.takeWhile_prefix _).subset hmem)
  rw [bne_iff_ne] at hquery hfragment
  simp only [Url.endsHost, Bool.or_eq_true, beq_iff_eq] at hends
  rcases hends with (hslash | hmark) | hsign
  · apply hslash
  · exact absurd hmark hquery
  · exact absurd hsign hfragment

omit laws in
/-- The text that is put together from the parts of a website. -/
theorem urlunsplit_eq {host : List Char} (hscheme : scheme ≠ []) (hhost : host ≠ [])
    (hrest : ∀ c ∈ rest.head?, Url.endsHost c) :
  urlunsplit ⟨String.ofList scheme, String.ofList host,
      withoutSlashes (Url.parts scheme netloc rest).path, (Url.parts scheme netloc rest).query, ""⟩
    = String.ofList (scheme ++ "://".toList ++ host ++ tailOf rest)
  := by
  have hofList : ∀ chars : List Char, String.ofList chars = "" ↔ chars = [] := by
    intro chars
    constructor
    · intro h
      apply String.ofList_injective h
    · rintro rfl
      rfl
  have hpath : withoutSlashes (Url.parts scheme netloc rest).path = String.ofList
      ((Url.partition '?' (Url.partition '#' rest).1).1.rdropWhile (· == '/')) := by
    rw [withoutSlashes, Url.parts, String.toList_ofList]
    rfl
  have hslash : ¬ (withoutSlashes (Url.parts scheme netloc rest).path ≠ ""
      ∧ ¬ Text.startsWith (withoutSlashes (Url.parts scheme netloc rest).path) "/") := by
    rintro ⟨hne, hnot⟩
    rw [hpath] at hne hnot
    apply hnot
    obtain ⟨c, others, hothers⟩ := List.exists_cons_of_ne_nil ((hofList _).not.mp hne)
    have hc := path_begins hrest c (by rw [hothers]; rfl)
    have htext : (String.ofList ('/' :: others)).toList = '/' :: others := String.toList_ofList
    rw [Text.startsWith, hothers, hc, htext]
    rfl
  apply String.toList_injective
  rw [urlunsplit]
  simp only [if_neg hslash]
  rw [if_pos (Or.inl ((hofList host).not.mpr hhost)), if_pos ((hofList scheme).not.mpr hscheme),
    hpath, tailOf]
  simp only [Url.parts, ne_eq, hofList]
  by_cases hquery : (Url.partition '?' (Url.partition '#' rest).1).2 = []
  · simp [hquery]
  · simp [hquery]

/-- The parser splits the text of a website. -/
theorem Website.urlsplit_eq {text : String} (h : Website unicode text.toList scheme netloc rest) :
  Url.urlsplit nfkc text = .ok (Url.parts scheme netloc rest)
  := by
  have hok := netlocOk_of_isHost laws h.host
  have hnetloc := splitNetloc_append h.netlocEnds h.restBegins
  simp only [Url.urlsplit, h.split, hnetloc, if_pos hok]

omit laws in
/-- What the parser splits into a permitted scheme and a host is a website. -/
theorem website_of_urlsplit {text : String} {p : Url.SplitResult}
    (h : Url.urlsplit nfkc text = .ok p) (hscheme : p.scheme ∈ permittedSchemes)
    (hnetloc : p.netloc ≠ "") (hhost : isHost unicode (withoutWww (unicode.casefold p.netloc))) :
  ∃ scheme netloc rest, Website unicode text.toList scheme netloc rest
    ∧ p = Url.parts scheme netloc rest
  := by
  rw [Url.urlsplit] at h
  rcases hafter' : Url.splitScheme (Url.cleaned text.toList) with ⟨scheme, after⟩
  rcases hnetloc' : Url.splitNetloc after with ⟨netloc, rest⟩
  simp only [hafter', hnetloc'] at h
  split at h
  · obtain rfl := Except.ok.inj h
    have hne : netloc ≠ [] := by
      rintro rfl
      apply hnetloc rfl
    obtain ⟨hafter, hends, hbegins⟩ := splitNetloc_eq hnetloc' hne
    use scheme, netloc, rest
    constructor
    · constructor
      · rw [hafter', hafter]
      · apply hends
      · apply hbegins
      · apply hscheme
      · rw [← withoutWww_casefold]
        apply hhost
    · rfl
  · cases h

/-- The values of `normalize_website` are those of websites. -/
theorem normalizeWebsite_eq_some_iff {raw v : String} :
  normalizeWebsite nfkc unicode (some raw) = .ok (some v)
    ↔ ∃ scheme netloc rest, Website unicode (candidate raw).toList scheme netloc rest
      ∧ v = String.ofList (valueOf unicode scheme netloc rest)
  := by
  have hscheme : ∀ {scheme : List Char}, String.ofList scheme ∈ permittedSchemes →
      scheme ≠ [] := by
    rintro _ hpermitted rfl
    revert hpermitted
    decide
  have hhost : ∀ {netloc : List Char}, isHost unicode (String.ofList (hostOf unicode netloc)) →
      hostOf unicode netloc ≠ [] := by
    intro netloc h hnil
    rw [hnil] at h
    cases h
  constructor
  · intro h
    rw [normalizeWebsite] at h
    split at h
    · cases h
    · split at h
      · cases h
      · rename_i parts hparts
        split at h
        · cases h
        · rename_i hbad
          obtain ⟨hpermitted, hnetloc⟩ := not_or.mp hbad
          split at h
          · rename_i hvalid
            obtain ⟨scheme, netloc, rest, hsite, rfl⟩ := website_of_urlsplit hparts
              (not_not.mp hpermitted) hnetloc hvalid
            use scheme, netloc, rest, hsite
            rw [← Option.some.inj (Except.ok.inj h), valueOf,
              ← urlunsplit_eq (hscheme hsite.permitted) (hhost hsite.host) hsite.restBegins,
              ← withoutWww_casefold]
            rfl
          · cases h
  · intro ⟨scheme, netloc, rest, hsite, hv⟩
    have hne := hsite.netloc_ne_nil nfkc laws
    have hblank : Text.strip raw ≠ "" := by
      intro hblank
      have hcandidate : (candidate raw).toList = "https://".toList := by
        rw [candidate, hblank]
        rfl
      have hempty : Url.splitScheme (Url.cleaned "https://".toList)
          = ("https".toList, ['/', '/']) := by decide
      have hsplit := hsite.split
      rw [hcandidate, hempty] at hsplit
      have hnil : netloc ++ rest = [] := by
        have hrest := (Prod.mk.inj hsplit).2
        simpa using hrest.symm
      apply hne (List.append_eq_nil_iff.mp hnil).1
    have hgood : ¬ ((Url.parts scheme netloc rest).scheme ∉ permittedSchemes
        ∨ (Url.parts scheme netloc rest).netloc = "") := by
      apply not_or.mpr
      constructor
      · apply not_not.mpr hsite.permitted
      · intro hempty
        apply hne
        apply String.ofList_injective hempty
    have hfold : withoutWww (unicode.casefold (Url.parts scheme netloc rest).netloc)
        = String.ofList (hostOf unicode netloc) := withoutWww_casefold netloc
    rw [normalizeWebsite, if_neg hblank, hsite.urlsplit_eq laws]
    simp only [if_neg hgood, hfold, if_pos hsite.host]
    rw [hv, valueOf, ← urlunsplit_eq (hscheme hsite.permitted) (hhost hsite.host)
      hsite.restBegins]
    rfl

end Laws

end Website

/-! ## Tables with these laws -/

section Tables

/-- The case folding of one character. -/
def foldChar (c : Char) : List Char :=
  Text.special Text.specialFold c c.toLower

theorem toList_casefold (text : String) :
  (Text.casefold text).toList = text.toList.flatMap foldChar
  := by
  rw [Text.casefold, String.toList_ofList]
  rfl

/-- A character with an entry has it from beyond ASCII. -/
theorem foldChar_cases (c : Char) :
  foldChar c = [c.toLower]
    ∨ ∃ entry ∈ Text.specialFold, entry.1 = c.toNat ∧ foldChar c = entry.2.map Char.ofNat
  := by
  rw [foldChar, Text.special]
  cases hlookup : Text.specialFold.lookup c.toNat with
  | none => apply Or.inl rfl
  | some codes =>
      apply Or.inr
      obtain ⟨front, back, hsplit, -⟩ := List.lookup_eq_some_iff.mp hlookup
      use (c.toNat, codes)
      constructor
      · rw [hsplit]
        apply List.mem_append_right
        apply List.mem_cons_self
      · exact ⟨rfl, rfl⟩

theorem foldChar_ascii {c : Char} (h : c.toNat < 0x80) :
  foldChar c = [c.toLower]
  := by
  have hbeyond : ∀ entry ∈ Text.specialFold, 0x80 ≤ entry.1 := by decide
  rcases foldChar_cases c with hc | ⟨entry, hentry, hcode, -⟩
  · apply hc
  · have hle := hbeyond entry hentry
    omega

/-- What the entries fold to folds to itself, and has no delimiter. -/
theorem foldChar_entries :
  ∀ entry ∈ Text.specialFold, (entry.2.map Char.ofNat).flatMap foldChar = entry.2.map Char.ofNat
  := by
  decide

theorem foldChar_space {c : Char} (h : Text.isSpace c) :
  foldChar c = [c.toLower]
  := by
  have hspaces : ∀ entry ∈ Text.specialFold, ∀ d : Char, d.toNat = entry.1 →
      Text.isSpace d = false := by
    intro entry hentry d hd
    have hvalues : entry.1 ∈ Text.specialFold.map Prod.fst := List.mem_map_of_mem hentry
    rw [← hd] at hvalues
    simp only [Text.specialFold, List.map_cons, List.map_nil, List.mem_cons, List.not_mem_nil,
      or_false] at hvalues
    apply Bool.eq_false_iff.mpr
    intro hspace
    simp only [Text.isSpace, Bool.or_eq_true, Bool.and_eq_true, decide_eq_true_eq,
      List.contains_iff_mem, List.mem_cons, List.not_mem_nil, or_false] at hspace
    omega
  rcases foldChar_cases c with hc | ⟨entry, hentry, hcode, -⟩
  · apply hc
  · rw [hspaces entry hentry c hcode.symm] at h
    cases h

end Tables

end SnackPortal2.Urls
