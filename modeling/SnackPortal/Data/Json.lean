import SnackPortal.Data.Double

/-!
# JSON values

What `json.loads` gives, as Python uses it: the truth of a value, whether it can be the key of a
dictionary, and the number that `float` makes of it.
-/

/-- A JSON value; a text with surrogates that stand alone is no text of characters. -/
inductive Json where
  | null
  | bool (b : Bool)
  | int (n : ℤ)
  | float (x : Double)
  | text (s : String)
  | surrogates
  | list (values : List Json)
  | object (entries : List (String × Json))

namespace Json

/-- `bool`. -/
def truth : Json → Bool
  | .null => false
  | .bool b => b
  | .int n => n ≠ 0
  | .float x => x ≠ .finite 0
  | .text s => s ≠ ""
  | .surrogates => true
  | .list values => !values.isEmpty
  | .object entries => !entries.isEmpty

/-- The value can be the key of a dictionary. -/
def hashable : Json → Bool
  | .list _ | .object _ => false
  | _ => true

/-- The value is this text. -/
def isText (s : String) : Json → Bool
  | .text t => t = s
  | _ => false

/-- The value is a JSON number, and a finite one; an integer has to have a place among the
floating-point numbers. -/
def isFiniteNumber : Json → Bool
  | .int n => (Double.round n).isFinite
  | .float x => x.isFinite
  | _ => false

theorem isText_iff {v : Json} {s : String} :
  v.isText s = true ↔ v = .text s
  := by
  cases v <;> simp [isText]

/-- `dict.get` of the entries of an object. -/
def get (key : String) (entries : List (String × Json)) : Json :=
  (entries.lookup key).getD .null

/-- What `json.loads` reads from bytes and `float` from a text; `none` where they raise. -/
structure Reader where
  loads : List UInt8 → Option Json
  float : String → Option Double

/-- What `float` raises. -/
inductive FloatError where
  | typeError
  | valueError
  | overflowError
deriving DecidableEq, Repr

/-- `float`. -/
def toFloat (reader : Reader) : Json → Except FloatError Double
  | .bool b => .ok (.finite (if b then 1 else 0))
  | .int n =>
      match Double.round n with
      | .finite q => .ok (.finite q)
      | _ => .error .overflowError
  | .float x => .ok x
  | .text s =>
      match reader.float s with
      | some x => .ok x
      | none => .error .valueError
  | .surrogates => .error .valueError
  | .null | .list _ | .object _ => .error .typeError

/-- A finite number is the one `float` makes of it. -/
theorem toFloat_finite (reader : Reader) {v : Json} (h : v.isFiniteNumber) :
  ∃ x, v.toFloat reader = .ok x ∧ x.isFinite
  := by
  cases v with
  | int n =>
      have hfinite : (Double.round n).isFinite := h
      rw [toFloat]
      cases hround : Double.round n with
      | finite q => exact ⟨_, rfl, rfl⟩
      | nan | infinity _ =>
          rw [hround] at hfinite
          cases hfinite
  | float x => exact ⟨x, rfl, h⟩
  | _ => cases h

end Json
