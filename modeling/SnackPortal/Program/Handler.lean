import SnackPortal.Program.Basic

/-!
# Handlers

A handler runs each operation of one signature as a program over another.  A program whose
operations are handled is a program over the other signature; handling goes through sequencing,
exception handling and clean-up.
-/

universe u

/-- A program over `T` for every operation of `S`. -/
abbrev Handler (S T : Signature.{u}) (ε : Type u) := (op : S.Op) → Program T ε (S.Ans op)

namespace Program

variable {S T : Signature.{u}} {ε α β : Type u} (h : Handler S T ε)

/-- Run every operation of the program by its handler. -/
def handle : Program S ε α → Program T ε α
  | .ret r => .ret r
  | .call op k => (h op).andThen fun r => (k r).handle

@[simp] theorem handle_pure (a : α) :
  (pure a : Program S ε α).handle h = pure a
  := rfl

@[simp] theorem handle_raise (e : ε) :
  (raise e : Program S ε α).handle h = raise e
  := rfl

@[simp] theorem handle_perform (op : S.Op) :
  (perform op : Program S ε _).handle h = h op
  := andThen_ret (h op)

@[simp] theorem handle_andThen (x : Program S ε α) (f : Except ε α → Program S ε β) :
  (x.andThen f).handle h = (x.handle h).andThen fun r => (f r).handle h
  := by
  induction x with
  | ret r => rfl
  | call op k ih =>
      rw [andThen, handle, handle, andThen_assoc]
      congr 1
      funext r
      apply ih

@[simp] theorem handle_bind (x : Program S ε α) (f : α → Program S ε β) :
  (x >>= f).handle h = x.handle h >>= fun a => (f a).handle h
  := by
  apply (handle_andThen h x _).trans
  apply congrArg
  funext r
  cases r with
  | ok a => rfl
  | error e => rfl

@[simp] theorem handle_rescue (x : Program S ε α) (f : ε → Program S ε α) :
  (x.rescue f).handle h = (x.handle h).rescue fun e => (f e).handle h
  := by
  apply (handle_andThen h x _).trans
  apply congrArg
  funext r
  cases r with
  | ok a => rfl
  | error e => rfl

end Program
