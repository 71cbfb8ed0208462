import Mathlib.Data.Int.Log
import Mathlib.Data.Rat.Floor

/-!
# Floating-point numbers

The numbers of binary64 by their values: a finite one is a rational, the two zeros are one, and
sums and integers are rounded to the nearest number, on a tie to the even one.  A comparison with
`nan` is false; of other numbers one is below the other or not above it (`not_lt_iff`).
-/

/-- A number of binary64. -/
inductive Double where
  | nan
  | infinity (negative : Bool)
  | finite (q : ℚ)
deriving DecidableEq

namespace Double

/-- The nearest integer, the even one on a tie. -/
def halfEven (q : ℚ) : ℤ :=
  if q - ⌊q⌋ < 1 / 2 then ⌊q⌋
  else if 1 / 2 < q - ⌊q⌋ then ⌊q⌋ + 1
  else if ⌊q⌋ % 2 = 0 then ⌊q⌋
  else ⌊q⌋ + 1

/-- The exponent of the last of the 53 bits that are kept of `q`. -/
def lastBit (q : ℚ) : ℤ :=
  max (Int.log 2 |q| - 52) (-1074)

/-- The number nearest to `q`. -/
def round (q : ℚ) : Double :=
  let rounded : ℚ := (halfEven (q / 2 ^ lastBit q) : ℚ) * 2 ^ lastBit q
  if 2 ^ 1024 ≤ |rounded| then .infinity (rounded < 0) else .finite rounded

/-- `+`. -/
def add : Double → Double → Double
  | .nan, _ | _, .nan => .nan
  | .infinity a, .infinity b => if a = b then .infinity a else .nan
  | .infinity a, .finite _ | .finite _, .infinity a => .infinity a
  | .finite p, .finite q => round (p + q)

/-- `<`. -/
def lt : Double → Double → Bool
  | .finite p, .finite q => p < q
  | .infinity true, .finite _ | .finite _, .infinity false | .infinity true, .infinity false =>
      true
  | _, _ => false

/-- `<=`. -/
def le (x y : Double) : Bool :=
  x.lt y || (x ≠ .nan && x = y)

/-- `math.isfinite`. -/
def isFinite : Double → Bool
  | .finite _ => true
  | _ => false

theorem not_lt_iff {x y : Double} (hx : x ≠ .nan) (hy : y ≠ .nan) :
  y.lt x = false ↔ x.le y = true
  := by
  cases x with
  | nan => exact absurd rfl hx
  | infinity a =>
      cases y with
      | nan => exact absurd rfl hy
      | infinity b => cases a <;> cases b <;> decide
      | finite q => cases a <;> simp [lt, le]
  | finite p =>
      cases y with
      | nan => exact absurd rfl hy
      | infinity b => cases b <;> simp [lt, le]
      | finite q => simp [lt, le, le_iff_lt_or_eq]

theorem round_ne_nan (q : ℚ) :
  round q ≠ .nan
  := by
  rw [round]
  split <;> nofun

/-- The sum of finite numbers is a number. -/
theorem add_finite_ne_nan {x : Double} (hx : x.isFinite) (q : ℚ) :
  x.add (.finite q) ≠ .nan
  := by
  cases x with
  | nan => cases hx
  | infinity a => cases hx
  | finite p => apply round_ne_nan

end Double
