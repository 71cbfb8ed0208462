import SnackPortal.Program.History

/-!
# Evaluating a program

Answers to the operations of a signature, each given on a state, settle the run of a program:
`evaluate` is its ending, the state it leaves, and its calls with their answers, the latest
first.  The evaluation of a sequence is read off the evaluations of its parts.
-/

universe u

/-- How each operation is answered on a state, with the state after it. -/
abbrev Answering (S : Signature.{u}) (ε σ : Type u) :=
  (op : S.Op) → σ → Except ε (S.Ans op) × σ

namespace Program

variable {S : Signature.{u}} {ε σ α β : Type u}

/-- What the run of a program amounts to. -/
structure Evaluation (S : Signature.{u}) (ε σ α : Type u) where
  ending : Except ε α
  state : σ
  events : List (Event S ε)

/-- The run of a program against the answers, from a state. -/
def evaluate (answers : Answering S ε σ) : Program S ε α → σ → Evaluation S ε σ α
  | .ret r, s => ⟨r, s, []⟩
  | .call op k, s =>
      let next := evaluate answers (k (answers op s).1) (answers op s).2
      { next with events := next.events ++ [⟨op, (answers op s).1⟩] }

/-- What the run of a program and of what follows it amounts to. -/
def Evaluation.andThen (x : Evaluation S ε σ α)
    (f : Except ε α → σ → Evaluation S ε σ β) : Evaluation S ε σ β :=
  let next := f x.ending x.state
  { next with events := next.events ++ x.events }

/-- The operation is called in the run. -/
def Evaluation.Issues (x : Evaluation S ε σ α) (op : S.Op) : Prop :=
  ∃ e ∈ x.events, e.op = op

variable (answers : Answering S ε σ)

theorem evaluate_andThen (x : Program S ε α) (f : Except ε α → Program S ε β) (s : σ) :
  (x.andThen f).evaluate answers s
    = (x.evaluate answers s).andThen fun r s' => (f r).evaluate answers s'
  := by
  induction x generalizing s with
  | ret r => simp [Program.andThen, evaluate, Evaluation.andThen]
  | call op k ih => simp only [Program.andThen, evaluate, ih, Evaluation.andThen,
      List.append_assoc]

/-- A program calls its first operation. -/
theorem issues_call (op : S.Op) (k : Except ε (S.Ans op) → Program S ε α) (s : σ) :
  ((Program.call op k).evaluate answers s).Issues op
  := ⟨_, List.mem_append_right _ (List.mem_singleton_self _), rfl⟩

/-- Every call of a run is one the program can make. -/
theorem Calls.of_issues {p : S.Op → Prop} {x : Program S ε α} (hx : x.Calls p) {s : σ}
    {op : S.Op} (h : (x.evaluate answers s).Issues op) :
  p op
  := by
  induction x generalizing s with
  | ret r =>
      obtain ⟨e, he, _⟩ := h
      cases he
  | call op' k ih =>
      obtain ⟨e, he, rfl⟩ := h
      rcases List.mem_append.mp he with he | he
      · apply ih _ (hx.2 _) ⟨e, he, rfl⟩
      · obtain rfl := List.mem_singleton.mp he
        apply hx.1

/-- A sequence calls what its first program calls and what follows calls. -/
theorem issues_andThen {x : Program S ε α} {f : Except ε α → Program S ε β} {s : σ}
    {op : S.Op} :
  ((x.andThen f).evaluate answers s).Issues op
    ↔ (x.evaluate answers s).Issues op
      ∨ ((f (x.evaluate answers s).ending).evaluate answers
        (x.evaluate answers s).state).Issues op
  := by
  rw [evaluate_andThen]
  constructor
  · rintro ⟨e, he, hop⟩
    rcases List.mem_append.mp he with he | he
    · exact .inr ⟨e, he, hop⟩
    · exact .inl ⟨e, he, hop⟩
  · rintro (⟨e, he, hop⟩ | ⟨e, he, hop⟩)
    · exact ⟨e, List.mem_append_right _ he, hop⟩
    · exact ⟨e, List.mem_append_left _ he, hop⟩

/-- What follows calls nothing of the kind, so the first program is what counts. -/
theorem issues_bind_left {p : S.Op → Prop} {x : Program S ε α} {f : α → Program S ε β} {s : σ}
    {op : S.Op} (hf : ∀ a, (f a).Calls p) (hop : ¬ p op) :
  ((x >>= f).evaluate answers s).Issues op ↔ (x.evaluate answers s).Issues op
  := by
  apply (issues_andThen answers).trans
  apply or_iff_left
  intro h
  cases hx : (x.evaluate answers s).ending with
  | error e =>
      rw [hx] at h
      obtain ⟨_, he, _⟩ := h
      cases he
  | ok a =>
      rw [hx] at h
      apply hop ((hf a).of_issues answers h)

/-! ### Programs that return -/

/-- Against the answers the program returns `a` and leaves `s'`, and it does not call `op`. -/
structure Yields (x : Program S ε α) (s : σ) (op : S.Op) (a : α) (s' : σ) : Prop where
  ending : (x.evaluate answers s).ending = .ok a
  state : (x.evaluate answers s).state = s'
  silent : ¬ (x.evaluate answers s).Issues op

variable {answers}

theorem Yields.pure {a : α} {s : σ} {op : S.Op} :
  Yields answers (Pure.pure a) s op a s
  := ⟨rfl, rfl, fun ⟨_, he, _⟩ => nomatch he⟩

theorem Yields.perform {o op : S.Op} {s s' : σ} {a : S.Ans o} (h : answers o s = (.ok a, s'))
    (ho : o ≠ op) :
  Yields answers (perform o) s op a s'
  := by
  constructor
  · exact congrArg Prod.fst h
  · exact congrArg Prod.snd h
  · rintro ⟨e, he, hop⟩
    obtain rfl := List.mem_singleton.mp he
    exact ho hop

/-- What follows a program that returns is what is called afterwards. -/
theorem Yields.issues_bind {x : Program S ε α} {f : α → Program S ε β} {s s' : σ} {op : S.Op}
    {a : α} (h : Yields answers x s op a s') :
  ((x >>= f).evaluate answers s).Issues op ↔ ((f a).evaluate answers s').Issues op
  := by
  apply (issues_andThen answers).trans
  rw [h.ending, h.state, or_iff_right h.silent]

theorem Yields.andThen {x : Program S ε α} {f : Except ε α → Program S ε β} {s s' s'' : σ}
    {op : S.Op} {a : α} {b : β} (h : Yields answers x s op a s')
    (hf : Yields answers (f (.ok a)) s' op b s'') :
  Yields answers (x.andThen f) s op b s''
  := by
  constructor
  · rw [evaluate_andThen, Evaluation.andThen, h.ending, h.state]
    apply hf.ending
  · rw [evaluate_andThen, Evaluation.andThen, h.ending, h.state]
    apply hf.state
  · rw [issues_andThen, h.ending, h.state]
    exact not_or.mpr ⟨h.silent, hf.silent⟩

theorem Yields.bind {x : Program S ε α} {f : α → Program S ε β} {s s' s'' : σ}
    {op : S.Op} {a : α} {b : β} (h : Yields answers x s op a s')
    (hf : Yields answers (f a) s' op b s'') :
  Yields answers (x >>= f) s op b s''
  := Yields.andThen h hf

/-! ### What a run ends with -/

/-- The ending of the run and the state it leaves meet `Q`. -/
def Ends (answers : Answering S ε σ) (x : Program S ε α) (s : σ) (Q : Except ε α → σ → Prop) :
    Prop :=
  Q (x.evaluate answers s).ending (x.evaluate answers s).state

section Ends

variable {Q : Except ε α → σ → Prop} {R : Except ε β → σ → Prop} {s : σ}

theorem Ends.mono {Q' : Except ε α → σ → Prop} {x : Program S ε α} (h : Ends answers x s Q)
    (hQ : ∀ r s', Q r s' → Q' r s') :
  Ends answers x s Q'
  := hQ _ _ h

theorem Ends.andThen {x : Program S ε α} {f : Except ε α → Program S ε β}
    (h : Ends answers x s Q) (hf : ∀ r s', Q r s' → Ends answers (f r) s' R) :
  Ends answers (x.andThen f) s R
  := by
  rw [Ends, evaluate_andThen]
  apply hf _ _ h

theorem Ends.bind {x : Program S ε α} {f : α → Program S ε β} (h : Ends answers x s Q)
    (hf : ∀ a s', Q (.ok a) s' → Ends answers (f a) s' R)
    (he : ∀ e s', Q (.error e) s' → R (.error e) s') :
  Ends answers (x >>= f) s R
  := by
  apply Ends.andThen h
  rintro (e | a) s' hQ
  · apply he e s' hQ
  · apply hf a s' hQ

theorem Ends.rescue {x : Program S ε α} {g : ε → Program S ε α} {R : Except ε α → σ → Prop}
    (h : Ends answers x s Q) (hok : ∀ a s', Q (.ok a) s' → R (.ok a) s')
    (hg : ∀ e s', Q (.error e) s' → Ends answers (g e) s' R) :
  Ends answers (x.rescue g) s R
  := by
  apply Ends.andThen h
  rintro (e | a) s' hQ
  · apply hg e s' hQ
  · apply hok a s' hQ

/-- One call, with what it is answered. -/
theorem Ends.perform {op : S.Op} {Q : Except ε (S.Ans op) → σ → Prop}
    (h : Q (answers op s).1 (answers op s).2) :
  Ends answers (perform op) s Q
  := h

theorem Ends.pure {a : α} (h : Q (.ok a) s) :
  Ends answers (Pure.pure a) s Q
  := h

theorem Ends.raise {e : ε} (h : Q (.error e) s) :
  Ends answers (raise e) s Q
  := h

end Ends

/-- How a sequence ends, read off its first program. -/
theorem ending_bind (x : Program S ε α) (f : α → Program S ε β) (s : σ) :
  ((x >>= f).evaluate answers s).ending = match (x.evaluate answers s).ending with
    | .ok a => ((f a).evaluate answers (x.evaluate answers s).state).ending
    | .error e => .error e
  := by
  change ((x.andThen _).evaluate answers s).ending = _
  rw [evaluate_andThen, Evaluation.andThen]
  cases (x.evaluate answers s).ending <;> rfl

/-- Runs whose calls are answered alike on related states end alike, in related states. -/
theorem Calls.evaluate_congr {p : S.Op → Prop} {r : σ → σ → Prop}
    (hr : ∀ op s s', p op → r s s' → (answers op s).1 = (answers op s').1
      ∧ r (answers op s).2 (answers op s').2) {x : Program S ε α} (hx : x.Calls p) {s s' : σ}
    (h : r s s') :
  (x.evaluate answers s).ending = (x.evaluate answers s').ending
    ∧ r (x.evaluate answers s).state (x.evaluate answers s').state
  := by
  induction x generalizing s s' with
  | ret _ => exact ⟨rfl, h⟩
  | call op k ih =>
      obtain ⟨hsame, hnext⟩ := hr op s s' hx.1 h
      simp only [evaluate]
      rw [hsame]
      apply ih _ (hx.2 _) hnext

/-! ### Answers that no call changes -/

/-- The result of a program whose operations have one answer each. -/
def consult (answer : (op : S.Op) → Except ε (S.Ans op)) : Program S ε α → Except ε α
  | .ret r => r
  | .call op k => consult answer (k (answer op))

variable {answer : (op : S.Op) → Except ε (S.Ans op)}

theorem consult_bind (x : Program S ε α) (f : α → Program S ε β) :
  (x >>= f).consult answer = x.consult answer >>= fun a => (f a).consult answer
  := by
  induction x with
  | ret r => cases r <;> rfl
  | call op k ih => apply ih

/-- What follows a program that returns. -/
theorem consult_bind_ok {x : Program S ε α} {f : α → Program S ε β} {a : α}
    (h : x.consult answer = .ok a) :
  (x >>= f).consult answer = (f a).consult answer
  := by
  rw [consult_bind, h]
  rfl

theorem consult_pure (a : α) :
  (pure a : Program S ε α).consult answer = .ok a
  := rfl

/-- A loop whose rounds all return returns their results. -/
theorem consult_mapM {f : β → Program S ε α} {g : β → α} {bs : List β}
    (h : ∀ b ∈ bs, (f b).consult answer = .ok (g b)) :
  (bs.mapM f).consult answer = .ok (bs.map g)
  := by
  induction bs with
  | nil => rfl
  | cons b bs ih =>
      have hb := h b List.mem_cons_self
      have hbs := ih fun b' hb' => h b' (List.mem_cons_of_mem _ hb')
      simp only [List.mapM_cons, consult_bind, hb, hbs, consult_pure, List.map_cons]
      rfl

end Program
