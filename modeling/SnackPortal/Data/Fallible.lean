import Mathlib.Logic.Basic
import Mathlib.Tactic.Basic
import Mathlib.Tactic.Use

/-!
# Fallible computations

Sequences of checks in `Except`.  A sequence returns what its last check returns on the results of
the others (`bind_eq_ok`), and raises exceptions of one kind only where each of its checks does
that it gets to (`only_bind`).
-/

universe u

namespace Fallible

variable {ε α β : Type u} {P : ε → Prop}

theorem bind_eq_ok {x : Except ε α} {f : α → Except ε β} {b : β} :
  (x >>= f) = .ok b ↔ ∃ a, x = .ok a ∧ f a = .ok b
  := by
  cases x with
  | error e =>
      constructor
      · nofun
      · rintro ⟨a, ha, -⟩
        cases ha
  | ok a =>
      constructor
      · exact fun h => ⟨a, rfl, h⟩
      · rintro ⟨a', ha, h⟩
        obtain rfl := Except.ok.inj ha
        apply h

/-- What the computation raises satisfies `P`. -/
def Only (P : ε → Prop) (x : Except ε α) : Prop :=
  ∀ e, x = .error e → P e

@[simp] theorem only_ok {a : α} :
  Only P (.ok a : Except ε α)
  := nofun

@[simp] theorem only_error {e : ε} :
  Only P (.error e : Except ε α) ↔ P e
  := by
  constructor
  · exact fun h => h e rfl
  · intro h e' he
    obtain rfl := Except.error.inj he
    apply h

theorem only_bind {x : Except ε α} {f : α → Except ε β} :
  Only P (x >>= f) ↔ Only P x ∧ ∀ a, x = .ok a → Only P (f a)
  := by
  cases x with
  | error e =>
      constructor
      · exact fun h => ⟨only_error.mpr (h e rfl), nofun⟩
      · exact fun h => only_error.mpr (only_error.mp h.1)
  | ok a =>
      constructor
      · intro h
        use only_ok
        intro a' ha
        obtain rfl := Except.ok.inj ha
        apply h
      · exact fun h => h.2 a rfl

/-- The result of a condition that has to hold. -/
def ensure (b : Bool) (e : ε) : Except ε PUnit :=
  if b then .ok PUnit.unit else .error e

/-- The value that has to be there. -/
def require (x : Option α) (e : ε) : Except ε α :=
  match x with
  | some a => .ok a
  | none => .error e

@[simp] theorem ensure_eq_ok {b : Bool} {e : ε} {u : PUnit} :
  ensure b e = .ok u ↔ b = true
  := by
  cases b <;> simp [ensure]

@[simp] theorem require_eq_ok {x : Option α} {e : ε} {a : α} :
  require x e = .ok a ↔ x = some a
  := by
  cases x <;> simp [require]

/-- A condition raises only its own exception. -/
theorem only_ensure {b : Bool} {e : ε} (h : P e) :
  Only P (ensure b e)
  := by
  cases b
  · exact only_error.mpr h
  · apply only_ok

theorem only_require {x : Option α} {e : ε} (h : P e) :
  Only P (require x e)
  := by
  cases x
  · exact only_error.mpr h
  · apply only_ok

end Fallible
