import Mathlib.Data.List.Infix
import SnackPortal.Data.Double
import SnackPortal.Data.Text

/-!
# JSON values on the wire

What `json.loads` gives of a body: texts are lists of code points, with surrogates that stand
alone among them, and an object is the dictionary of its keys.
-/

/-- A text of code points. -/
abbrev CodePoints := List ℕ

namespace CodePoints

/-- The code points of a text of characters. -/
def ofString (text : String) : CodePoints :=
  text.toList.map Char.toNat

theorem ofString_injective :
  Function.Injective ofString
  := by
  intro s t h
  apply String.toList_injective
  apply List.map_injective_iff.mpr _ h
  intro c d hcd
  apply Char.ext
  apply UInt32.toNat_inj.mp hcd

theorem ofString_eq_nil {text : String} :
  ofString text = [] ↔ text = ""
  := by
  rw [ofString, List.map_eq_nil_iff]
  constructor
  · intro h
    apply String.toList_injective h
  · rintro rfl
    rfl

theorem length_ofString (text : String) :
  (ofString text).length = text.length
  := by
  rw [ofString, List.length_map, String.length_toList]

/-- `part in text`. -/
def contains (text part : CodePoints) : Bool :=
  text.tails.any part.isPrefixOf

theorem contains_iff {text part : CodePoints} :
  contains text part ↔ part <:+: text
  := by
  rw [contains, List.any_eq_true]
  constructor
  · intro ⟨tail, htail, hprefix⟩
    obtain ⟨rest, hrest⟩ := List.isPrefixOf_iff_prefix.mp hprefix
    obtain ⟨front, hfront⟩ := (List.mem_tails _ _).mp htail
    use front, rest
    rw [List.append_assoc, hrest, hfront]
  · intro ⟨front, rest, hsplit⟩
    use part ++ rest
    constructor
    · apply (List.mem_tails _ _).mpr
      use front
      rw [← List.append_assoc, hsplit]
    · apply List.isPrefixOf_iff_prefix.mpr
      apply List.prefix_append

/-- The text can be sent to the database: it has no NUL, and its code points are characters. -/
def storable (text : CodePoints) : Bool :=
  text.all fun n => decide (n ≠ 0 ∧ n.isValidChar)

end CodePoints

/-- A JSON value. -/
inductive Wire where
  | null
  | bool (b : Bool)
  | int (n : ℤ)
  | float (x : Double)
  | text (s : CodePoints)
  | list (values : List Wire)
  | object (entries : List (CodePoints × Wire))

namespace Wire

/-- The entries of an object. -/
abbrev Entries := List (CodePoints × Wire)

def asObject : Wire → Option Entries
  | .object entries => some entries
  | _ => none

/-- `isinstance(value, int) and not isinstance(value, bool)`, with the value. -/
def asInt : Wire → Option ℤ
  | .int n => some n
  | _ => none

/-- The value is a number and equal to this one, and no truth value. -/
def equalsInt (n : ℤ) : Wire → Bool
  | .int m => m = n
  | .float x => x = .finite n
  | _ => false

/-- `entries[key]`. -/
def item (key : String) (entries : Entries) : Option Wire :=
  entries.lookup (CodePoints.ofString key)

/-- `set(entries.keys()) == set(names)`. -/
def hasExactly (names : List String) (entries : Entries) : Bool :=
  (entries.all fun e => names.any fun name => e.1 = CodePoints.ofString name)
    && names.all fun name => (item name entries).isSome

end Wire
