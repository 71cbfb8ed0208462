import SnackPortal.Program.Basic

/-!
# Histories of a program

What a program does against answers that nothing is known about.  The history of a partial run
lists the calls with their answers, the latest first.  A condition on the calls, which may read
the history before the call, is `Guarded` when it holds at every call of every run.
-/

universe u

/-- A call with its answer. -/
structure Event (S : Signature.{u}) (ε : Type u) where
  op : S.Op
  answer : Except ε (S.Ans op)

namespace Program

variable {S : Signature.{u}} {ε α β : Type u}

/-- After the calls of the history, `y` is what remains of the program. -/
inductive After (x : Program S ε α) : List (Event S ε) → Program S ε α → Prop where
  | start : After x [] x
  | answered {h : List (Event S ε)} {op : S.Op} {k : Except ε (S.Ans op) → Program S ε α}
      (hx : After x h (.call op k)) (r : Except ε (S.Ans op)) : After x (⟨op, r⟩ :: h) (k r)

/-- From the history `h` on, every call meets `ok` and every ending meets `Q`. -/
def Guarded (ok : List (Event S ε) → S.Op → Prop) (Q : Except ε α → List (Event S ε) → Prop) :
    Program S ε α → List (Event S ε) → Prop
  | .ret r, h => Q r h
  | .call op k, h => ok h op ∧ ∀ r, Guarded ok Q (k r) (⟨op, r⟩ :: h)

/-- Any ending at all. -/
def anyEnding : Except ε α → List (Event S ε) → Prop := fun _ _ => True

variable {ok : List (Event S ε) → S.Op → Prop} {Q : Except ε α → List (Event S ε) → Prop}

/-- What remains of a guarded program is guarded. -/
theorem Guarded.after {x y : Program S ε α} {h : List (Event S ε)} (hx : Guarded ok Q x [])
    (hy : x.After h y) :
  Guarded ok Q y h
  := by
  induction hy with
  | start => apply hx
  | answered _ r ih => apply ih.2 r

/-- Every call of a guarded program meets the condition. -/
theorem Guarded.call {x : Program S ε α} (hx : Guarded ok Q x []) {h : List (Event S ε)}
    {op : S.Op} {k : Except ε (S.Ans op) → Program S ε α} (hy : x.After h (.call op k)) :
  ok h op
  := (hx.after hy).1

/-! ### Rules -/

theorem Guarded.mono {Q' : Except ε α → List (Event S ε) → Prop} {x : Program S ε α}
    {h : List (Event S ε)} (hx : Guarded ok Q x h) (hQ : ∀ r h', Q r h' → Q' r h') :
  Guarded ok Q' x h
  := by
  induction x generalizing h with
  | ret r => apply hQ _ _ hx
  | call op k ih => exact ⟨hx.1, fun r => ih r (hx.2 r)⟩

theorem Guarded.andThen {R : Except ε β → List (Event S ε) → Prop} {x : Program S ε α}
    {f : Except ε α → Program S ε β} {h : List (Event S ε)} (hx : Guarded ok Q x h)
    (hf : ∀ r h', Q r h' → Guarded ok R (f r) h') :
  Guarded ok R (x.andThen f) h
  := by
  induction x generalizing h with
  | ret r => apply hf _ _ hx
  | call op k ih => exact ⟨hx.1, fun r => ih r (hx.2 r)⟩

/-- Sequencing, where an exception of the first program meets the postcondition. -/
theorem Guarded.bind {R : Except ε β → List (Event S ε) → Prop} {x : Program S ε α}
    {f : α → Program S ε β} {h : List (Event S ε)} (hx : Guarded ok Q x h)
    (hf : ∀ a h', Q (.ok a) h' → Guarded ok R (f a) h')
    (he : ∀ e h', Q (.error e) h' → R (.error e) h') :
  Guarded ok R (x >>= f) h
  := by
  apply Guarded.andThen hx
  rintro (e | a) h' hq
  · apply he e h' hq
  · apply hf a h' hq

/-- One call, and what follows its answer. -/
theorem Guarded.step {R : Except ε β → List (Event S ε) → Prop} {o : S.Op}
    {f : S.Ans o → Program S ε β} {h : List (Event S ε)} (hop : ok h o)
    (hf : ∀ a, Guarded ok R (f a) (⟨o, .ok a⟩ :: h))
    (he : ∀ e, R (.error e) (⟨o, .error e⟩ :: h)) :
  Guarded ok R (perform o >>= f) h
  := by
  constructor
  · apply hop
  · rintro (e | a)
    · apply he
    · apply hf

/-- A program whose calls are allowed however the history goes on adds only such calls to it. -/
theorem Guarded.of_calls_after {p : S.Op → Prop} {x : Program S ε α} (hx : x.Calls p)
    {h : List (Event S ε)} (hok : ∀ events op, p op → ok (events ++ h) op) :
  Guarded ok (fun _ h' => ∃ events, h' = events ++ h ∧ ∀ e ∈ events, p e.op) x h
  := by
  induction x generalizing h with
  | ret r => exact ⟨[], rfl, fun _ he => nomatch he⟩
  | call op k ih =>
      constructor
      · apply hok [] op hx.1
      · intro r
        have hrest := ih r (hx.2 r) (h := ⟨op, r⟩ :: h) fun events op' hop' => by
          have hallowed := hok (events ++ [⟨op, r⟩]) op' hop'
          rwa [List.append_assoc] at hallowed
        apply hrest.mono
        rintro r' h' ⟨events, rfl, hevents⟩
        use events ++ [⟨op, r⟩]
        constructor
        · simp
        · intro e he
          rcases List.mem_append.mp he with he | he
          · apply hevents e he
          · obtain rfl := List.mem_singleton.mp he
            apply hx.1

/-- A program whose calls are all allowed by any history adds only such calls to it. -/
theorem Guarded.of_calls {p : S.Op → Prop} {x : Program S ε α} (hx : x.Calls p)
    (hok : ∀ h op, p op → ok h op) (h : List (Event S ε)) :
  Guarded ok (fun _ h' => ∃ events, h' = events ++ h ∧ ∀ e ∈ events, p e.op) x h
  := Guarded.of_calls_after hx fun events => hok (events ++ h)

/-! ### Recorded answers -/

/-- The operation a program calls next. -/
def nextOp : Program S ε α → Option S.Op
  | .ret _ => none
  | .call op _ => some op

/-- The ending of a program that calls nothing more. -/
def ending : Program S ε α → Option (Except ε α)
  | .ret r => some r
  | .call .. => none

/-- What remains of the program after the recorded calls, the earliest first. -/
def replay [DecidableEq S.Op] : Program S ε α → List (Event S ε) → Option (Program S ε α)
  | x, [] => some x
  | .call op k, ⟨op', r⟩ :: events => if h : op' = op then (k (h ▸ r)).replay events else none
  | .ret _, _ :: _ => none

theorem After.answers {x y z : Program S ε α} {h h' : List (Event S ε)} (hy : x.After h y)
    (hz : y.After h' z) :
  x.After (h' ++ h) z
  := by
  induction hz with
  | start => apply hy
  | answered _ r ih => apply After.answered ih r

/-- Recorded answers lead to what remains after them. -/
theorem After.of_replay [DecidableEq S.Op] {events : List (Event S ε)} :
  ∀ {x y : Program S ε α}, x.replay events = some y → x.After events.reverse y
  := by
  induction events with
  | nil =>
      intro x y h
      obtain rfl : x = y := by
        cases x <;> apply Option.some.inj h
      apply After.start
  | cons e events ih =>
      intro x y h
      obtain ⟨op', r⟩ := e
      cases x with
      | ret r => cases h
      | call op k =>
          rw [replay] at h
          split at h
          · rename_i hop
            subst hop
            rw [List.reverse_cons]
            apply After.answers (After.answered .start r)
            apply ih h
          · cases h

/-- Recorded answers lead to the operation that is called after them. -/
theorem After.of_nextOp [DecidableEq S.Op] {x : Program S ε α} {events : List (Event S ε)}
    {op : S.Op} (h : (x.replay events).bind nextOp = some op) :
  ∃ k, x.After events.reverse (.call op k)
  := by
  obtain ⟨y, hy, hnext⟩ := Option.bind_eq_some_iff.mp h
  have hafter := After.of_replay hy
  cases y with
  | ret r => cases hnext
  | call op' k =>
      obtain rfl := Option.some.inj hnext
      exact ⟨k, hafter⟩

/-- Recorded answers lead to the ending after them. -/
theorem After.of_ending [DecidableEq S.Op] {x : Program S ε α} {events : List (Event S ε)}
    {r : Except ε α} (h : (x.replay events).bind ending = some r) :
  x.After events.reverse (.ret r)
  := by
  obtain ⟨y, hy, hending⟩ := Option.bind_eq_some_iff.mp h
  have hafter := After.of_replay hy
  cases y with
  | call op k => cases hending
  | ret r' =>
      obtain rfl := Option.some.inj hending
      exact hafter

end Program
