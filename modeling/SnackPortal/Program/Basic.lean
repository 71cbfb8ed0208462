import Mathlib.Logic.Basic
import Mathlib.Tactic.Basic
import Mathlib.Tactic.Use

/-!
# Programs over a signature of operations

A signature lists operations, each with the type of its answers.  A program over it is a
finite tree: it ends with a result or an exception, or it calls an operation and continues
with what the call answered or raised.  Programs form a monad; `andThen` continues on either
ending, and sequencing, exception handling and clean-up are cases of it.
-/

universe u

/-- Operations, each with the type of its answers. -/
structure Signature where
  Op : Type u
  Ans : Op → Type u

/-- A program over `S` which returns values of `α` and raises exceptions of `ε`. -/
inductive Program (S : Signature.{u}) (ε α : Type u) : Type u where
  | ret (r : Except ε α)
  | call (op : S.Op) (k : Except ε (S.Ans op) → Program S ε α)

namespace Program

variable {S : Signature.{u}} {ε α β γ : Type u}

/-- Run `x`, then continue with its result or its exception. -/
def andThen : Program S ε α → (Except ε α → Program S ε β) → Program S ε β
  | .ret r, f => f r
  | .call op k, f => .call op fun r => (k r).andThen f

/-- Call one operation, and return its answer or raise its exception. -/
def perform (op : S.Op) : Program S ε (S.Ans op) :=
  .call op .ret

/-- Raise an exception. -/
def raise (e : ε) : Program S ε α :=
  .ret (.error e)

/-- Continue with the result of a program that did not raise. -/
def bind (x : Program S ε α) (f : α → Program S ε β) : Program S ε β :=
  x.andThen fun
    | .ok a => f a
    | .error e => raise e

instance : Monad (Program S ε) where
  pure a := .ret (.ok a)
  bind := bind

/-- Run `x`, and where it raises run the handler on the exception. -/
def rescue (x : Program S ε α) (h : ε → Program S ε α) : Program S ε α :=
  x.andThen fun
    | .ok a => pure a
    | .error e => h e

/-- Run `x` and then `f`, however `x` ended; an exception of `f` replaces the ending of `x`. -/
def finally_ (x : Program S ε α) (f : Program S ε β) : Program S ε α :=
  x.andThen fun r => f.andThen fun
    | .ok _ => .ret r
    | .error e => raise e

/-- Run `x` for its effects only. -/
def discard (x : Program S ε α) : Program S ε PUnit :=
  x.bind fun _ => pure PUnit.unit

theorem andThen_assoc (x : Program S ε α) (f : Except ε α → Program S ε β)
    (g : Except ε β → Program S ε γ) :
  (x.andThen f).andThen g = x.andThen fun r => (f r).andThen g
  := by
  induction x with
  | ret r => rfl
  | call op k ih =>
      simp only [andThen]
      congr 1
      funext r
      apply ih

theorem andThen_ret (x : Program S ε α) :
  x.andThen .ret = x
  := by
  induction x with
  | ret r => rfl
  | call op k ih =>
      simp only [andThen]
      congr 1
      funext r
      apply ih

theorem map_id (x : Program S ε α) :
  id <$> x = x
  := by
  apply Eq.trans (b := x.andThen .ret) _ (andThen_ret x)
  change x.andThen _ = x.andThen _
  congr 1
  funext r
  cases r <;> rfl

theorem bind_bind (x : Program S ε α) (f : α → Program S ε β) (g : β → Program S ε γ) :
  x >>= f >>= g = x >>= fun a => f a >>= g
  := by
  apply (andThen_assoc x _ _).trans
  congr 1
  funext r
  cases r <;> rfl

instance : LawfulMonad (Program S ε) :=
  LawfulMonad.mk' _ map_id (fun _ _ => rfl) bind_bind

/-! ### The calls of a program -/

/-- Every call the program can make satisfies `p`. -/
def Calls (p : S.Op → Prop) : Program S ε α → Prop
  | .ret _ => True
  | .call op k => p op ∧ ∀ r, (k r).Calls p

theorem Calls.mono {p q : S.Op → Prop} (hpq : ∀ op, p op → q op) {x : Program S ε α}
    (h : x.Calls p) :
  x.Calls q
  := by
  induction x with
  | ret r => trivial
  | call op k ih => exact ⟨hpq op h.1, fun r => ih r (h.2 r)⟩

theorem Calls.andThen {p : S.Op → Prop} {x : Program S ε α} {f : Except ε α → Program S ε β}
    (h : x.Calls p) (hf : ∀ r, (f r).Calls p) :
  (x.andThen f).Calls p
  := by
  induction x with
  | ret r => apply hf
  | call op k ih => exact ⟨h.1, fun r => ih r (h.2 r)⟩

section CallRules

variable {p : S.Op → Prop}

theorem Calls.perform {op : S.Op} (h : p op) :
  (perform op : Program S ε _).Calls p
  := ⟨h, fun _ => trivial⟩

theorem Calls.pure {a : α} :
  (Pure.pure a : Program S ε α).Calls p
  := trivial

theorem Calls.raise {e : ε} :
  (raise e : Program S ε α).Calls p
  := trivial

theorem Calls.bind {x : Program S ε α} {f : α → Program S ε β} (h : x.Calls p)
    (hf : ∀ a, (f a).Calls p) :
  (x >>= f).Calls p
  := by
  apply Calls.andThen h
  rintro (e | a)
  · trivial
  · apply hf

theorem Calls.rescue {x : Program S ε α} {h : ε → Program S ε α} (hx : x.Calls p)
    (hh : ∀ e, (h e).Calls p) :
  (x.rescue h).Calls p
  := by
  apply Calls.andThen hx
  rintro (e | a)
  · apply hh
  · trivial

theorem Calls.discard {x : Program S ε α} (h : x.Calls p) :
  x.discard.Calls p
  := Calls.bind h fun _ => Calls.pure

theorem Calls.mapM {f : γ → Program S ε α} (hf : ∀ c, (f c).Calls p) (cs : List γ) :
  (cs.mapM f).Calls p
  := by
  induction cs with
  | nil => apply Calls.pure
  | cons c cs ih =>
      rw [List.mapM_cons]
      apply Calls.bind (hf c)
      intro a
      apply Calls.bind ih
      intro as
      apply Calls.pure

end CallRules

end Program
