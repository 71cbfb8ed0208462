import SnackPortal.Data.Wire

/-!
# Regular expressions

The expressions of the module `re` without groups that are looked at again.  An expression is
matched from a place in a text and leaves the places where a match ends; only whether there is
one is asked, so the order in which they are tried does not matter.

`\d`, `\s` and `\w` are those of the character database of the interpreter.
-/

/-- The classes `\d`, `\s` and `\w`. -/
structure CharacterClasses where
  decimal : ℕ → Bool
  space : ℕ → Bool
  word : ℕ → Bool

/-- The classes as far as ASCII goes. -/
def CharacterClasses.ascii : CharacterClasses where
  decimal n := 0x30 ≤ n && n ≤ 0x39
  space n := (0x9 ≤ n && n ≤ 0xd) || (0x1c ≤ n && n ≤ 0x20)
  word n :=
    (0x30 ≤ n && n ≤ 0x39) || (0x41 ≤ n && n ≤ 0x5a) || (0x61 ≤ n && n ≤ 0x7a) || n = 0x5f

inductive Regex where
  | empty
  | one (p : ℕ → Bool)
  | decimal
  | space
  | seq (r s : Regex)
  | alt (r s : Regex)
  | star (r : Regex)
  | wordBoundary
  | textEnd
  | ahead (r : Regex)
  | notAhead (r : Regex)

namespace Regex

/-- A place in a text: what is before it, the nearest first, and what is after it. -/
structure Place where
  before : CodePoints
  after : CodePoints
deriving DecidableEq

/-- Step over one code point of the class. -/
def Place.step (p : ℕ → Bool) (place : Place) : List Place :=
  match place.after with
  | [] => []
  | n :: after => if p n then [⟨n :: place.before, after⟩] else []

/-- `\b`: exactly one of the neighbours is a word character. -/
def Place.atWordBoundary (classes : CharacterClasses) (place : Place) : Bool :=
  (place.before.head?.any classes.word) != (place.after.head?.any classes.word)

/-- All places that some number of rounds leads to.  A round that reads nothing leads nowhere. -/
def rounds (round : Place → List Place) : ℕ → Place → List Place
  | 0, place => [place]
  | fuel + 1, place =>
      place :: ((round place).filter fun next =>
        next.after.length < place.after.length).flatMap (rounds round fuel)

/-- Where the matches end that start at a place. -/
def ends (classes : CharacterClasses) : Regex → Place → List Place
  | empty, place => [place]
  | one p, place => place.step p
  | decimal, place => place.step classes.decimal
  | space, place => place.step classes.space
  | seq r s, place => (r.ends classes place).flatMap (s.ends classes)
  | alt r s, place => r.ends classes place ++ s.ends classes place
  | star r, place => rounds (r.ends classes) place.after.length place
  | wordBoundary, place => if place.atWordBoundary classes then [place] else []
  | textEnd, place => if place.after = [] ∨ place.after = [0xa] then [place] else []
  | ahead r, place => if (r.ends classes place).isEmpty then [] else [place]
  | notAhead r, place => if (r.ends classes place).isEmpty then [place] else []

/-- `Pattern.fullmatch`, of a pattern without its anchors. -/
def fullmatch (classes : CharacterClasses) (r : Regex) (text : CodePoints) : Bool :=
  (r.ends classes ⟨[], text⟩).any fun place => place.after.isEmpty

/-- `Pattern.search` from a place on. -/
def searchFrom (classes : CharacterClasses) (r : Regex) (before : CodePoints) :
    CodePoints → Bool
  | [] => !(r.ends classes ⟨before, []⟩).isEmpty
  | n :: after =>
      !(r.ends classes ⟨before, n :: after⟩).isEmpty || searchFrom classes r (n :: before) after

/-- `Pattern.search`. -/
def search (classes : CharacterClasses) (r : Regex) (text : CodePoints) : Bool :=
  r.searchFrom classes [] text

/-! ### Ways to write an expression -/

/-- `[…]`: the ranges and the characters of a class. -/
def set (ranges : List (Char × Char)) (characters : String) : Regex :=
  let single := CodePoints.ofString characters
  one fun n => (ranges.any fun r => r.1.toNat ≤ n && n ≤ r.2.toNat) || decide (n ∈ single)

/-- `[^…]`, without the characters and without white space. -/
def noneOfNorSpace (characters : String) : Regex :=
  seq (notAhead (alt (set [] characters) space)) (one fun _ => true)

/-- The expressions one after the other. -/
def inOrder : List Regex → Regex
  | [] => empty
  | [r] => r
  | r :: rest => seq r (inOrder rest)

/-- One of the expressions. -/
def anyOf : List Regex → Regex
  | [] => notAhead empty
  | [r] => r
  | r :: rest => alt r (anyOf rest)

/-- The text itself. -/
def literal (text : String) : Regex :=
  inOrder ((CodePoints.ofString text).map fun n => one fun m => m = n)

/-- The text in upper or lower case, as far as ASCII goes; `text` is in lower case. -/
def literalIgnoreCase (text : String) : Regex :=
  inOrder ((CodePoints.ofString text).map fun n =>
    one fun m => m = n || (0x61 ≤ n && n ≤ 0x7a && m + 0x20 = n))

/-- `r+`. -/
def plus (r : Regex) : Regex :=
  seq r (star r)

/-- `r?`. -/
def optional (r : Regex) : Regex :=
  alt r empty

/-- `r{n}`. -/
def times (n : ℕ) (r : Regex) : Regex :=
  inOrder (List.replicate n r)

/-- `r{n,}`. -/
def atLeast (n : ℕ) (r : Regex) : Regex :=
  seq (times n r) (star r)

/-- `r{m,n}`. -/
def between (m n : ℕ) (r : Regex) : Regex :=
  seq (times m r) (times (n - m) (optional r))

end Regex
