import Mathlib.Data.List.Forall2

/-!
# Texts

The operations on strings that references and names are made with: upper case, case folding,
stripping, replacing the characters outside a set, and the prefix test.  Two texts have the
same replacement exactly when they are alike: as long as each other, and different only where
both have a character that is replaced (`sub_eq_iff`).
-/

namespace Text

/-- The characters outside ASCII whose upper case is several characters, or in ASCII, with
their code points. -/
def specialUpper : List (Nat × List Nat) :=
  [ (0xdf, [0x53, 0x53]), (0x131, [0x49]), (0x149, [0x2bc, 0x4e]), (0x17f, [0x53]),
    (0x1f0, [0x4a, 0x30c]), (0x390, [0x399, 0x308, 0x301]), (0x3b0, [0x3a5, 0x308, 0x301]),
    (0x587, [0x535, 0x552]), (0x1e96, [0x48, 0x331]), (0x1e97, [0x54, 0x308]),
    (0x1e98, [0x57, 0x30a]), (0x1e99, [0x59, 0x30a]), (0x1e9a, [0x41, 0x2be]),
    (0x1f50, [0x3a5, 0x313]), (0x1f52, [0x3a5, 0x313, 0x300]),
    (0x1f54, [0x3a5, 0x313, 0x301]), (0x1f56, [0x3a5, 0x313, 0x342]),
    (0x1f80, [0x1f08, 0x399]), (0x1f81, [0x1f09, 0x399]), (0x1f82, [0x1f0a, 0x399]),
    (0x1f83, [0x1f0b, 0x399]), (0x1f84, [0x1f0c, 0x399]), (0x1f85, [0x1f0d, 0x399]),
    (0x1f86, [0x1f0e, 0x399]), (0x1f87, [0x1f0f, 0x399]), (0x1f88, [0x1f08, 0x399]),
    (0x1f89, [0x1f09, 0x399]), (0x1f8a, [0x1f0a, 0x399]), (0x1f8b, [0x1f0b, 0x399]),
    (0x1f8c, [0x1f0c, 0x399]), (0x1f8d, [0x1f0d, 0x399]), (0x1f8e, [0x1f0e, 0x399]),
    (0x1f8f, [0x1f0f, 0x399]), (0x1f90, [0x1f28, 0x399]), (0x1f91, [0x1f29, 0x399]),
    (0x1f92, [0x1f2a, 0x399]), (0x1f93, [0x1f2b, 0x399]), (0x1f94, [0x1f2c, 0x399]),
    (0x1f95, [0x1f2d, 0x399]), (0x1f96, [0x1f2e, 0x399]), (0x1f97, [0x1f2f, 0x399]),
    (0x1f98, [0x1f28, 0x399]), (0x1f99, [0x1f29, 0x399]), (0x1f9a, [0x1f2a, 0x399]),
    (0x1f9b, [0x1f2b, 0x399]), (0x1f9c, [0x1f2c, 0x399]), (0x1f9d, [0x1f2d, 0x399]),
    (0x1f9e, [0x1f2e, 0x399]), (0x1f9f, [0x1f2f, 0x399]), (0x1fa0, [0x1f68, 0x399]),
    (0x1fa1, [0x1f69, 0x399]), (0x1fa2, [0x1f6a, 0x399]), (0x1fa3, [0x1f6b, 0x399]),
    (0x1fa4, [0x1f6c, 0x399]), (0x1fa5, [0x1f6d, 0x399]), (0x1fa6, [0x1f6e, 0x399]),
    (0x1fa7, [0x1f6f, 0x399]), (0x1fa8, [0x1f68, 0x399]), (0x1fa9, [0x1f69, 0x399]),
    (0x1faa, [0x1f6a, 0x399]), (0x1fab, [0x1f6b, 0x399]), (0x1fac, [0x1f6c, 0x399]),
    (0x1fad, [0x1f6d, 0x399]), (0x1fae, [0x1f6e, 0x399]), (0x1faf, [0x1f6f, 0x399]),
    (0x1fb2, [0x1fba, 0x399]), (0x1fb3, [0x391, 0x399]), (0x1fb4, [0x386, 0x399]),
    (0x1fb6, [0x391, 0x342]), (0x1fb7, [0x391, 0x342, 0x399]), (0x1fbc, [0x391, 0x399]),
    (0x1fc2, [0x1fca, 0x399]), (0x1fc3, [0x397, 0x399]), (0x1fc4, [0x389, 0x399]),
    (0x1fc6, [0x397, 0x342]), (0x1fc7, [0x397, 0x342, 0x399]), (0x1fcc, [0x397, 0x399]),
    (0x1fd2, [0x399, 0x308, 0x300]), (0x1fd3, [0x399, 0x308, 0x301]),
    (0x1fd6, [0x399, 0x342]), (0x1fd7, [0x399, 0x308, 0x342]),
    (0x1fe2, [0x3a5, 0x308, 0x300]), (0x1fe3, [0x3a5, 0x308, 0x301]),
    (0x1fe4, [0x3a1, 0x313]), (0x1fe6, [0x3a5, 0x342]), (0x1fe7, [0x3a5, 0x308, 0x342]),
    (0x1ff2, [0x1ffa, 0x399]), (0x1ff3, [0x3a9, 0x399]), (0x1ff4, [0x38f, 0x399]),
    (0x1ff6, [0x3a9, 0x342]), (0x1ff7, [0x3a9, 0x342, 0x399]), (0x1ffc, [0x3a9, 0x399]),
    (0xfb00, [0x46, 0x46]), (0xfb01, [0x46, 0x49]), (0xfb02, [0x46, 0x4c]),
    (0xfb03, [0x46, 0x46, 0x49]), (0xfb04, [0x46, 0x46, 0x4c]), (0xfb05, [0x53, 0x54]),
    (0xfb06, [0x53, 0x54]), (0xfb13, [0x544, 0x546]), (0xfb14, [0x544, 0x535]),
    (0xfb15, [0x544, 0x53b]), (0xfb16, [0x54e, 0x546]), (0xfb17, [0x544, 0x53d])]

/-- The characters outside ASCII whose case folding has characters in ASCII. -/
def specialFold : List (Nat × List Nat) :=
  [ (0xdf, [0x73, 0x73]), (0x130, [0x69, 0x307]), (0x149, [0x2bc, 0x6e]), (0x17f, [0x73]),
    (0x1f0, [0x6a, 0x30c]), (0x1e96, [0x68, 0x331]), (0x1e97, [0x74, 0x308]),
    (0x1e98, [0x77, 0x30a]), (0x1e99, [0x79, 0x30a]), (0x1e9a, [0x61, 0x2be]),
    (0x1e9e, [0x73, 0x73]), (0x212a, [0x6b]), (0xfb00, [0x66, 0x66]),
    (0xfb01, [0x66, 0x69]), (0xfb02, [0x66, 0x6c]), (0xfb03, [0x66, 0x66, 0x69]),
    (0xfb04, [0x66, 0x66, 0x6c]), (0xfb05, [0x73, 0x74]), (0xfb06, [0x73, 0x74])]

/-- The characters that a table gives for a character, or else those given. -/
def special (table : List (Nat × List Nat)) (c : Char) (otherwise : Char) : List Char :=
  match table.lookup c.toNat with
  | some codes => codes.map Char.ofNat
  | none => [otherwise]

/-- `str.upper`, up to the letters outside ASCII with an upper case of one letter outside
ASCII, which are left as they are. -/
def upper (text : String) : String :=
  String.ofList (text.toList.flatMap fun c => special specialUpper c c.toUpper)

/-- `str.casefold`, up to the characters outside ASCII that fold to others outside ASCII. -/
def casefold (text : String) : String :=
  String.ofList (text.toList.flatMap fun c => special specialFold c c.toLower)

/-- The characters beyond Latin 1 whose lower case has characters in ASCII. -/
def specialLower : List (Nat × List Nat) :=
  [(0x130, [0x69, 0x307]), (0x212a, [0x6b])]

/-- The lower case of a letter of Latin 1. -/
def latinLower (c : Char) : Char :=
  if 0xc0 ≤ c.toNat ∧ c.toNat ≤ 0xde ∧ c.toNat ≠ 0xd7 then
    Char.ofNat (c.toNat + 0x20)
  else
    c.toLower

/-- `str.lower`, up to the letters beyond Latin 1 whose lower case is outside ASCII, which are
left as they are. -/
def lower (text : String) : String :=
  String.ofList (text.toList.flatMap fun c => special specialLower c (latinLower c))

/-- `str.isspace` of one character. -/
def isSpace (c : Char) : Bool :=
  let n := c.toNat
  (0x9 ≤ n && n ≤ 0xd) || (0x1c ≤ n && n ≤ 0x20) || (0x2000 ≤ n && n ≤ 0x200a)
    || [0x85, 0xa0, 0x1680, 0x2028, 0x2029, 0x202f, 0x205f, 0x3000].contains n

/-- `str.strip`. -/
def strip (text : String) : String :=
  String.ofList ((text.toList.dropWhile isSpace).reverse.dropWhile isSpace).reverse

/-- `str.startswith`. -/
def startsWith (text start : String) : Bool :=
  start.toList.isPrefixOf text.toList

/-- The text is one that PostgreSQL takes: it has no character 0. -/
def storable (text : String) : Bool :=
  !text.toList.contains (Char.ofNat 0)

/-- `part in text`. -/
def contains (text part : String) : Bool :=
  text.toList.tails.any part.toList.isPrefixOf

/-- `text[n:]`. -/
def drop (text : String) (n : Nat) : String :=
  String.ofList (text.toList.drop n)

/-- `text.endswith`. -/
def endsWith (text ending : String) : Bool :=
  ending.toList.isSuffixOf text.toList

/-- `text[:-n]`, of a text of at least `n` characters. -/
def dropEnd (text : String) (n : Nat) : String :=
  String.ofList (text.toList.take (text.length - n))

/-- `text.lstrip`, of a character. -/
def lstrip (c : Char) (text : String) : String :=
  String.ofList (text.toList.dropWhile (· == c))

/-- `text.split`, at every `c`. -/
def split (c : Char) (text : String) : List String :=
  (text.toList.splitOn c).map String.ofList

/-- What comes before the first `c`: `text.partition(c)[0]`, and `text.split(c, 1)[0]`. -/
def before (c : Char) (text : String) : String :=
  String.ofList (text.toList.takeWhile (· != c))

/-- What comes after the first `c`: `text.partition(c)[2]`. -/
def after (c : Char) (text : String) : String :=
  String.ofList ((text.toList.dropWhile (· != c)).drop 1)

/-- `re.sub`, with a pattern for the characters that are not safe. -/
def sub (safe : Char → Bool) (replacement : Char) (text : String) : String :=
  String.ofList (text.toList.map fun c => if safe c then c else replacement)

/-! ## Replacing -/

section Alike

variable {safe : Char → Bool} {replacement : Char}

/-- Two characters are the same, or neither is safe. -/
def AlikeAt (safe : Char → Bool) (c c' : Char) : Prop :=
  c = c' ∨ safe c = false ∧ safe c' = false

/-- The texts have as many characters, and at each place alike ones. -/
def Alike (safe : Char → Bool) (text text' : String) : Prop :=
  List.Forall₂ (AlikeAt safe) text.toList text'.toList

instance : DecidableRel (AlikeAt safe) :=
  fun c c' => inferInstanceAs (Decidable (c = c' ∨ safe c = false ∧ safe c' = false))

instance (text text' : String) : Decidable (Alike safe text text') :=
  inferInstanceAs (Decidable (List.Forall₂ (AlikeAt safe) text.toList text'.toList))

theorem alikeAt_iff {c c' : Char} (hreplacement : safe replacement = false) :
  (if safe c then c else replacement) = (if safe c' then c' else replacement)
    ↔ AlikeAt safe c c'
  := by
  rw [AlikeAt]
  cases hc : safe c with
  | true =>
      cases hc' : safe c' with
      | true => simp
      | false =>
          have hne : c ≠ replacement := by
            rintro rfl
            rw [hreplacement] at hc
            cases hc
          have hne' : c ≠ c' := by
            rintro rfl
            rw [hc'] at hc
            cases hc
          simp [hne, hne']
  | false =>
      cases hc' : safe c' with
      | true =>
          have hne : replacement ≠ c' := by
            rintro rfl
            rw [hreplacement] at hc'
            cases hc'
          have hne' : c ≠ c' := by
            rintro rfl
            rw [hc'] at hc
            cases hc
          simp [hne, hne']
      | false => simp

/-- Two texts have the same replacement exactly when they are alike. -/
theorem sub_eq_iff (hreplacement : safe replacement = false) {text text' : String} :
  sub safe replacement text = sub safe replacement text' ↔ Alike safe text text'
  := by
  have hat : (fun c c' => (if safe c then c else replacement)
      = (if safe c' then c' else replacement)) = AlikeAt safe := by
    funext c c'
    rw [alikeAt_iff hreplacement]
  rw [sub, sub, Alike, String.ofList_inj, ← List.forall₂_eq_eq_eq,
    List.forall₂_map_left_iff, List.forall₂_map_right_iff, hat]

/-- Alike texts of safe characters, with nothing else than the replacement between them, are
the same. -/
theorem Alike.eq_of_safe {text text' : String} (h : Alike safe text text')
    (hsafe : ∀ c ∈ text.toList, safe c = true ∨ c = replacement)
    (hsafe' : ∀ c ∈ text'.toList, safe c = true ∨ c = replacement) :
  text = text'
  := by
  apply String.toList_injective
  rw [Alike] at h
  generalize text.toList = chars, text'.toList = chars' at h hsafe hsafe' ⊢
  induction h with
  | nil => rfl
  | cons hc _ ih =>
      rw [List.forall_mem_cons] at hsafe hsafe'
      rw [ih hsafe.2 hsafe'.2, List.cons.injEq]
      apply And.intro _ rfl
      rcases hc with rfl | ⟨hbad, hbad'⟩
      · rfl
      · rcases hsafe.1 with hc | rfl
        · rw [hbad] at hc
          cases hc
        · rcases hsafe'.1 with hc' | rfl
          · rw [hbad'] at hc'
            cases hc'
          · rfl

end Alike

/-! ## Prefixes -/

theorem startsWith_iff {text start : String} :
  startsWith text start = true ↔ ∃ rest, text = start ++ rest
  := by
  rw [startsWith, List.isPrefixOf_iff_prefix]
  constructor
  · intro ⟨chars, hchars⟩
    use String.ofList chars
    apply String.toList_injective
    rw [String.toList_append, String.toList_ofList, hchars]
  · intro ⟨rest, hrest⟩
    use rest.toList
    rw [hrest, String.toList_append]

@[simp]
theorem drop_append (start rest : String) :
  drop (start ++ rest) start.length = rest
  := by
  rw [drop, String.toList_append, ← String.length_toList, List.drop_left, String.ofList_toList]

end Text
