import SnackPortal.Program.Machine

/-!
# Disciplines

A discipline on a machine says what every thread may rely on while others run: an invariant
of the shared state, a relation along which the state evolves, and for every thread the part
of the state which only that thread changes.  A program is `Safe` for a thread when each of
its calls keeps the discipline, whatever the others do in between, and its ending meets a
postcondition.  If all threads start safe then all of them stay safe (`Safe.reaches`), so the
invariant holds in every reachable configuration and the state evolves along every run.
-/

universe u

variable {S : Signature.{u}} {ε ι α β : Type u} {M : Machine S ε ι}

/-- What the threads of a machine may rely on. -/
structure Discipline (M : Machine S ε ι) where
  /-- The condition on calls under which the discipline is claimed. -/
  guard : M.Guard
  inv : M.State → Prop
  evolve : M.State → M.State → Prop
  /-- The part of the state which only the thread itself changes. -/
  Own : Type u
  own : ι → M.State → Own
  evolve_refl : ∀ s, evolve s s
  evolve_trans : ∀ {s s' s''}, evolve s s' → evolve s' s'' → evolve s s''
  drop_inv : ∀ i s, inv s → inv (M.drop i s)
  drop_evolve : ∀ i s, inv s → evolve s (M.drop i s)
  drop_own : ∀ i j s, inv s → j ≠ i → own j (M.drop i s) = own j s

namespace Discipline

variable (D : Discipline M)

/-- A change of the state which the thread `i` may make. -/
structure Steps (i : ι) (s s' : M.State) : Prop where
  inv : D.inv s'
  evolve : D.evolve s s'
  own : ∀ j, j ≠ i → D.own j s' = D.own j s

/-- A change of the state which the other threads may make while `i` waits. -/
structure Sees (i : ι) (s s' : M.State) : Prop where
  inv : D.inv s'
  evolve : D.evolve s s'
  own : D.own i s' = D.own i s

variable {D}

theorem Sees.refl {i : ι} {s : M.State} (h : D.inv s) :
  D.Sees i s s
  := ⟨h, D.evolve_refl s, rfl⟩

theorem Sees.trans {i : ι} {s s' s'' : M.State} (h : D.Sees i s s') (h' : D.Sees i s' s'') :
  D.Sees i s s''
  := ⟨h'.inv, D.evolve_trans h.evolve h'.evolve, h'.own.trans h.own⟩

/-- What one thread may do, every other thread may see. -/
theorem Steps.sees {i j : ι} {s s' : M.State} (h : D.Steps i s s') (hij : j ≠ i) :
  D.Sees j s s'
  := ⟨h.inv, h.evolve, h.own j hij⟩

/-- A thread may leave the state as it is. -/
theorem Steps.refl {i : ι} {s : M.State} (h : D.inv s) :
  D.Steps i s s
  := ⟨h, D.evolve_refl s, fun _ _ => rfl⟩

/-- Dropping a thread is a change the thread may make. -/
theorem Steps.drop {i : ι} {s : M.State} (h : D.inv s) :
  D.Steps i s (M.drop i s)
  := ⟨D.drop_inv i s h, D.drop_evolve i s h, fun j => D.drop_own i j s h⟩

variable (D)

/-- Every call of the program keeps the discipline, and its ending meets `Q`, whatever the
other threads do before each call and before the ending is looked at. -/
def Safe (i : ι) (Q : Except ε α → M.State → Prop) : Program S ε α → M.State → Prop
  | .ret r, s => ∀ s', D.Sees i s s' → Q r s'
  | .call op k, s =>
      ∀ s', D.Sees i s s' → ∀ c r s'', D.guard s' i op c →
        M.answer i op c s' = some (r, s'') → D.Steps i s' s'' ∧ Safe i Q (k r) s''

/-- From every state of the invariant that meets `P`, the program is safe and ends in `Q`. -/
def Triple (i : ι) (P : M.State → Prop) (x : Program S ε α)
    (Q : Except ε α → M.State → Prop) : Prop :=
  ∀ s, D.inv s → P s → D.Safe i Q x s

/-- The other threads cannot make the assertion false. -/
def Stable (i : ι) (P : M.State → Prop) : Prop :=
  ∀ s s', D.Sees i s s' → P s → P s'

variable {D}

/-- A safe program stays safe while the other threads run. -/
theorem Safe.sees {i : ι} {Q : Except ε α → M.State → Prop} {x : Program S ε α}
    {s s' : M.State} (h : D.Safe i Q x s) (hs : D.Sees i s s') :
  D.Safe i Q x s'
  := by
  cases x with
  | ret r =>
      intro s'' hs''
      apply h _ (hs.trans hs'')
  | call op k =>
      intro s'' hs''
      apply h _ (hs.trans hs'')

theorem Safe.mono {i : ι} {Q Q' : Except ε α → M.State → Prop} {x : Program S ε α}
    {s : M.State} (h : D.Safe i Q x s) (hQ : ∀ r s', D.inv s' → Q r s' → Q' r s') :
  D.Safe i Q' x s
  := by
  induction x generalizing s with
  | ret r =>
      intro s' hs'
      apply hQ _ _ hs'.inv (h s' hs')
  | call op k ih =>
      intro s' hs' c r s'' hg ha
      obtain ⟨hstep, hk⟩ := h s' hs' c r s'' hg ha
      exact ⟨hstep, ih r hk⟩

/-- A program that continues another is safe when it is safe from every ending. -/
theorem Safe.andThen {i : ι} {Q : Except ε α → M.State → Prop}
    {Q' : Except ε β → M.State → Prop} {x : Program S ε α}
    {f : Except ε α → Program S ε β} {s : M.State} (h : D.Safe i Q x s)
    (hf : ∀ r s', D.inv s' → Q r s' → D.Safe i Q' (f r) s') (hs : D.inv s) :
  D.Safe i Q' (x.andThen f) s
  := by
  induction x generalizing s with
  | ret r => apply hf r s hs (h s (Sees.refl hs))
  | call op k ih =>
      intro s' hs' c r s'' hg ha
      obtain ⟨hstep, hk⟩ := h s' hs' c r s'' hg ha
      exact ⟨hstep, ih r hk hstep.inv⟩

/-! ### Rules for triples -/

section Rules

variable {i : ι} {P P' : M.State → Prop} {Q Q' : Except ε α → M.State → Prop}

theorem Triple.mono {x : Program S ε α} (h : D.Triple i P x Q)
    (hP : ∀ s, D.inv s → P' s → P s) (hQ : ∀ r s, D.inv s → Q r s → Q' r s) :
  D.Triple i P' x Q'
  := fun s hs hp => (h s hs (hP s hs hp)).mono hQ

theorem Triple.andThen {x : Program S ε α} {f : Except ε α → Program S ε β}
    {R : Except ε β → M.State → Prop} (h : D.Triple i P x Q)
    (hf : ∀ r, D.Triple i (Q r) (f r) R) :
  D.Triple i P (x.andThen f) R
  := fun s hs hp => (h s hs hp).andThen (fun r s' hs' => hf r s' hs') hs

theorem Triple.ret {r : Except ε α} (hQ : D.Stable i (Q r)) :
  D.Triple i (Q r) (.ret r) Q
  := fun s _ hp s' hs' => hQ s s' hs' hp

theorem Triple.raise {e : ε} (hQ : D.Stable i (Q (.error e))) :
  D.Triple i (Q (.error e)) (Program.raise e) Q
  := Triple.ret hQ

theorem Triple.pure {a : α} (hQ : D.Stable i (Q (.ok a))) :
  D.Triple i (Q (.ok a)) (Pure.pure a : Program S ε α) Q
  := Triple.ret hQ

/-- Sequencing: the second program runs on the result of the first, and an exception of the
first ends the whole. -/
theorem Triple.bind {x : Program S ε α} {f : α → Program S ε β}
    {R : Except ε β → M.State → Prop} (h : D.Triple i P x Q)
    (hf : ∀ a, D.Triple i (Q (.ok a)) (f a) R)
    (he : ∀ e s, D.inv s → Q (.error e) s → R (.error e) s)
    (hR : ∀ e, D.Stable i (R (.error e))) :
  D.Triple i P (x >>= f) R
  := by
  apply Triple.andThen h
  intro r
  cases r with
  | ok a => apply hf
  | error e => exact (Triple.raise (hR e)).mono (he e) fun _ _ _ h => h

/-- A fact about no state in the precondition. -/
theorem Triple.given {φ : Prop} {x : Program S ε α} (h : φ → D.Triple i P x Q) :
  D.Triple i (fun s => φ ∧ P s) x Q
  := fun s hs hp => h hp.1 s hs hp.2

/-- A precondition with a value that the program does not depend on. -/
theorem Triple.exists {γ : Type*} {P : γ → M.State → Prop} {x : Program S ε α}
    (h : ∀ a, D.Triple i (P a) x Q) :
  D.Triple i (fun s => ∃ a, P a s) x Q
  := by
  intro s hs ⟨a, hp⟩
  apply h a s hs hp

/-- What two rules say of a program holds together. -/
theorem Triple.and {P' : M.State → Prop} {x : Program S ε α} (h : D.Triple i P x Q)
    (h' : D.Triple i P' x Q') :
  D.Triple i (fun s => P s ∧ P' s) x fun r s => Q r s ∧ Q' r s
  := by
  intro s hs ⟨hp, hp'⟩
  have hsafe := h s hs hp
  have hsafe' := h' s hs hp'
  clear hs hp hp' h h'
  induction x generalizing s with
  | ret r =>
      intro s' hs'
      exact ⟨hsafe s' hs', hsafe' s' hs'⟩
  | call op k ih =>
      intro s' hs' c r s'' hg ha
      obtain ⟨hstep, hk⟩ := hsafe s' hs' c r s'' hg ha
      obtain ⟨-, hk'⟩ := hsafe' s' hs' c r s'' hg ha
      exact ⟨hstep, ih r s'' hk hk'⟩

/-- What stays true while the state evolves stays true along a program. -/
theorem Triple.frame {R : M.State → Prop} (hR : ∀ s s', D.evolve s s' → R s → R s')
    {x : Program S ε α} (h : D.Triple i P x Q) :
  D.Triple i (fun s => P s ∧ R s) x fun r s => Q r s ∧ R s
  := by
  intro s hs ⟨hp, hr⟩
  have hsafe := h s hs hp
  clear hp hs h
  induction x generalizing s with
  | ret r =>
      intro s' hs'
      exact ⟨hsafe s' hs', hR s s' hs'.evolve hr⟩
  | call op k ih =>
      intro s' hs' c r s'' hg ha
      obtain ⟨hstep, hk⟩ := hsafe s' hs' c r s'' hg ha
      have hr'' : R s'' := hR s' s'' hstep.evolve (hR s s' hs'.evolve hr)
      exact ⟨hstep, ih r s'' hr'' hk⟩

/-- One call: each answer the machine can give keeps the discipline and meets `Q`. -/
theorem Triple.perform {o : S.Op} {Q : Except ε (S.Ans o) → M.State → Prop}
    (hP : D.Stable i P) (hQ : ∀ r, D.Stable i (Q r))
    (h : ∀ s c r s', D.inv s → P s → D.guard s i o c → M.answer i o c s = some (r, s') →
      D.Steps i s s' ∧ Q r s') :
  D.Triple i P (Program.perform o) Q
  := by
  intro s _ hp s' hs' c r s'' hg ha
  obtain ⟨hstep, hq⟩ := h s' c r s'' hs'.inv (hP s s' hs' hp) hg ha
  exact ⟨hstep, fun s₃ hs₃ => hQ r s'' s₃ hs₃ hq⟩

/-- A program whose calls all keep an assertion keeps it. -/
theorem Triple.of_calls {x : Program S ε α} {p : S.Op → Prop} (hx : x.Calls p)
    (hP : D.Stable i P)
    (h : ∀ op s c r s', p op → D.inv s → P s → D.guard s i op c →
      M.answer i op c s = some (r, s') → D.Steps i s s' ∧ P s') :
  D.Triple i P x fun _ => P
  := by
  induction x with
  | ret r =>
      intro s _ hp s' hs'
      apply hP s s' hs' hp
  | call op k ih =>
      intro s _ hp s' hs' c r s'' hg ha
      obtain ⟨hstep, hp''⟩ := h op s' c r s'' hx.1 hs'.inv (hP s s' hs' hp) hg ha
      exact ⟨hstep, ih r (hx.2 r) s'' hstep.inv hp''⟩

end Rules

/-! ### Postconditions on both endings -/

/-- The postcondition `Q` on a result and `E` on an exception. -/
def Ending (Q : α → M.State → Prop) (E : ε → M.State → Prop) : Except ε α → M.State → Prop
  | .ok a, s => Q a s
  | .error e, s => E e s

section Ending

variable {i : ι} {P : M.State → Prop} {Q : α → M.State → Prop} {R : β → M.State → Prop}
  {E : ε → M.State → Prop}

/-- Sequencing, where both programs have the same postcondition on exceptions. -/
theorem Triple.follow {x : Program S ε α} {f : α → Program S ε β}
    (h : D.Triple i P x (Ending Q E)) (hE : ∀ e, D.Stable i (E e))
    (hf : ∀ a, D.Triple i (Q a) (f a) (Ending R E)) :
  D.Triple i P (x >>= f) (Ending R E)
  := by
  apply Triple.bind h hf
  · exact fun _ _ _ he => he
  · apply hE

/-- A result that meets the postcondition. -/
theorem Triple.yield {a : α} (hP : D.Stable i P) (h : ∀ s, D.inv s → P s → Q a s) :
  D.Triple i P (Pure.pure a : Program S ε α) (Ending Q E)
  := fun s _ hp s' hs' => h s' hs'.inv (hP s s' hs' hp)

/-- An exception that meets the postcondition. -/
theorem Triple.fail {e : ε} (hP : D.Stable i P) (h : ∀ s, D.inv s → P s → E e s) :
  D.Triple i P (Program.raise e : Program S ε α) (Ending Q E)
  := fun s _ hp s' hs' => h s' hs'.inv (hP s s' hs' hp)

/-- Exception handling. -/
theorem Triple.recover {x : Program S ε α} {handler : ε → Program S ε α}
    {E' : ε → M.State → Prop} (hx : D.Triple i P x (Ending Q E)) (hQ : ∀ a, D.Stable i (Q a))
    (hh : ∀ e, D.Triple i (E e) (handler e) (Ending Q E')) :
  D.Triple i P (x.rescue handler) (Ending Q E')
  := by
  apply Triple.andThen hx
  rintro (e | a)
  · apply hh
  · apply Triple.yield (hQ a)
    intro s _ hq
    apply hq

/-- What stays true while the state evolves is there beside the result. -/
theorem Triple.retain {R : M.State → Prop} (hR : ∀ s s', D.evolve s s' → R s → R s')
    {x : Program S ε α} (h : D.Triple i P x (Ending Q E)) :
  D.Triple i (fun s => P s ∧ R s) x (Ending (fun a s => Q a s ∧ R s) E)
  := by
  apply (Triple.frame hR h).mono fun _ _ hp => hp
  rintro (e | a) s _ ⟨hq, hr⟩
  · apply hq
  · exact ⟨hq, hr⟩

/-- A weaker precondition and stronger postconditions. -/
theorem Triple.adapt {P' : M.State → Prop} {Q' : α → M.State → Prop} {E' : ε → M.State → Prop}
    {x : Program S ε α} (h : D.Triple i P x (Ending Q E)) (hP : ∀ s, D.inv s → P' s → P s)
    (hQ : ∀ a s, D.inv s → Q a s → Q' a s) (hE : ∀ e s, D.inv s → E e s → E' e s) :
  D.Triple i P' x (Ending Q' E')
  := by
  apply h.mono hP
  rintro (e | a) s hs hq
  · apply hE e s hs hq
  · apply hQ a s hs hq

end Ending

/-! ### Postconditions on results -/

/-- The postcondition `Q` on a result; an exception is not looked at. -/
def Returns (Q : α → M.State → Prop) : Except ε α → M.State → Prop
  | .ok a, s => Q a s
  | .error _, _ => True

section Returns

variable {i : ι} {P : M.State → Prop} {Q : α → M.State → Prop} {R : β → M.State → Prop}

theorem Stable.true :
  D.Stable i fun _ => True
  := fun _ _ _ _ => trivial

theorem Triple.ok {a : α} (hP : D.Stable i P) (h : ∀ s, D.inv s → P s → Q a s) :
  D.Triple i P (Pure.pure a : Program S ε α) (Returns Q)
  := fun s _ hp s' hs' => h s' hs'.inv (hP s s' hs' hp)

/-- A rule that says what follows an exception says what follows a result. -/
theorem Triple.returns {E : ε → M.State → Prop} {x : Program S ε α}
    (h : D.Triple i P x (Ending Q E)) :
  D.Triple i P x (Returns Q)
  := by
  apply h.mono fun _ _ hp => hp
  rintro (e | a) s _ hq
  · trivial
  · apply hq

theorem Triple.throw {e : ε} :
  D.Triple i P (Program.raise e : Program S ε α) (Returns Q)
  := fun _ _ _ _ _ => trivial

theorem Triple.seq {x : Program S ε α} {f : α → Program S ε β}
    (h : D.Triple i P x (Returns Q)) (hf : ∀ a, D.Triple i (Q a) (f a) (Returns R)) :
  D.Triple i P (x >>= f) (Returns R)
  := by
  apply Triple.andThen h
  rintro (e | a)
  · apply Triple.throw
  · apply hf

theorem Triple.rescue {x : Program S ε α} {h : ε → Program S ε α}
    (hx : D.Triple i P x (Returns Q)) (hQ : ∀ a, D.Stable i (Q a))
    (hh : ∀ e, D.Triple i (fun _ => True) (h e) (Returns Q)) :
  D.Triple i P (x.rescue h) (Returns Q)
  := by
  apply Triple.andThen hx
  rintro (e | a)
  · apply hh
  · apply Triple.ok (hQ a)
    intro s _ hq
    apply hq

/-- A program whose calls keep the discipline, run for its effects only. -/
theorem Triple.effects {x : Program S ε α} {p : S.Op → Prop} (hx : x.Calls p)
    (hP : D.Stable i P)
    (h : ∀ op s c r s', p op → D.inv s → P s → D.guard s i op c →
      M.answer i op c s = some (r, s') → D.Steps i s s' ∧ P s') :
  D.Triple i P x (Returns fun _ => P)
  := by
  apply (Triple.of_calls hx hP h).mono (fun _ _ hp => hp)
  rintro (e | a) s _ hp
  · trivial
  · apply hp

/-- A weaker precondition and a stronger postcondition. -/
theorem Triple.conseq {P' : M.State → Prop} {Q' : α → M.State → Prop} {x : Program S ε α}
    (h : D.Triple i P x (Returns Q)) (hP : ∀ s, D.inv s → P' s → P s)
    (hQ : ∀ a s, D.inv s → Q a s → Q' a s) :
  D.Triple i P' x (Returns Q')
  := by
  apply h.mono hP
  rintro (e | a) s hs hq
  · trivial
  · apply hQ a s hs hq

end Returns

/-! ### Programs that keep a discipline -/

variable (D)

/-- The program keeps the discipline from every state of the invariant. -/
def Lawful (i : ι) (x : Program S ε α) : Prop :=
  D.Triple i (fun _ => True) x (Returns fun _ _ => True)

variable {D}

section Lawful

variable {i : ι}

theorem Lawful.triple {P : M.State → Prop} {x : Program S ε α} (h : D.Lawful i x) :
  D.Triple i P x (Returns fun _ _ => True)
  := h.conseq (fun _ _ _ => trivial) fun _ _ _ _ => trivial

theorem Lawful.pure {a : α} :
  D.Lawful i (Pure.pure a : Program S ε α)
  := Triple.ok Stable.true fun _ _ _ => trivial

theorem Lawful.raise {e : ε} :
  D.Lawful i (Program.raise e : Program S ε α)
  := Triple.throw

theorem Lawful.seq {x : Program S ε α} {f : α → Program S ε β} (h : D.Lawful i x)
    (hf : ∀ a, D.Lawful i (f a)) :
  D.Lawful i (x >>= f)
  := Triple.seq h hf

theorem Lawful.rescue {x : Program S ε α} {h : ε → Program S ε α} (hx : D.Lawful i x)
    (hh : ∀ e, D.Lawful i (h e)) :
  D.Lawful i (x.rescue h)
  := Triple.rescue hx (fun _ => Stable.true) hh

theorem Lawful.discard {x : Program S ε α} (h : D.Lawful i x) :
  D.Lawful i x.discard
  := Lawful.seq h fun _ => Lawful.pure

/-- A program with a clean-up after it. -/
theorem Triple.finally_ {P : M.State → Prop} {x : Program S ε α} {f : Program S ε β}
    (hx : D.Triple i P x (Returns fun _ _ => True)) (hf : D.Lawful i f) :
  D.Triple i P (x.finally_ f) (Returns fun _ _ => True)
  := by
  apply Triple.andThen hx
  intro r
  apply Triple.andThen hf.triple
  rintro (e | a)
  · apply Triple.throw
  · cases r with
    | ok value => apply Triple.ok Stable.true fun _ _ _ => trivial
    | error e => apply Triple.throw

/-- A program is lawful when each of its calls is. -/
theorem Lawful.of_calls {p : S.Op → Prop} {x : Program S ε α} (hx : x.Calls p)
    (h : ∀ op, p op → D.Lawful i (Program.perform op : Program S ε _)) :
  D.Lawful i x
  := by
  induction x with
  | ret r =>
      cases r with
      | ok a => apply Lawful.pure
      | error e => apply Lawful.raise
  | call op k ih =>
      intro s hs hp s' hs' c r s'' hg ha
      obtain ⟨hstep, -⟩ := h op hx.1 s hs hp s' hs' c r s'' hg ha
      exact ⟨hstep, ih r (hx.2 r) s'' hstep.inv trivial⟩

end Lawful

/-! ### Runs -/

variable [DecidableEq ι]

/-- One move of a configuration whose threads are all safe keeps them safe. -/
theorem Safe.step {Q : ι → Except ε α → M.State → Prop} {cfg cfg' : M.Config α}
    {m : Move ι M.Choice} (hm : cfg.Meets D.guard m) (hs : cfg.step m = some cfg')
    (hinv : D.inv cfg.state)
    (hsafe : ∀ i x, cfg.threads i = some x → D.Safe i (Q i) x cfg.state) :
  (∃ i, D.Steps i cfg.state cfg'.state)
    ∧ ∀ i x, cfg'.threads i = some x → D.Safe i (Q i) x cfg'.state
  := by
  rcases Machine.Config.step_cases hs with
    ⟨i, c, op, k, r, rfl, hi, ha, ht⟩ | ⟨i, rfl, hstate, ht⟩
  · obtain ⟨hstep, hk⟩ := hsafe i _ hi _ (Sees.refl hinv) c r _ (hm op k hi) ha
    refine ⟨⟨i, hstep⟩, ?_⟩
    intro j x hx
    rw [ht] at hx
    by_cases hji : j = i
    · subst hji
      rw [Function.update_self] at hx
      obtain rfl := Option.some.inj hx
      apply hk
    · rw [Function.update_of_ne hji] at hx
      apply (hsafe j x hx).sees (hstep.sees hji)
  · have hstep : D.Steps i cfg.state cfg'.state := by
      rw [hstate]
      apply Steps.drop hinv
    refine ⟨⟨i, hstep⟩, ?_⟩
    intro j x hx
    rw [ht] at hx
    by_cases hji : j = i
    · subst hji
      rw [Function.update_self] at hx
      cases hx
    · rw [Function.update_of_ne hji] at hx
      apply (hsafe j x hx).sees (hstep.sees hji)

/-- If all threads start safe, then in every configuration reached the invariant holds, the
state has evolved, and all threads are safe. -/
theorem Safe.reaches {Q : ι → Except ε α → M.State → Prop} {cfg cfg' : M.Config α}
    (h : Machine.Reaches D.guard cfg cfg') (hinv : D.inv cfg.state)
    (hsafe : ∀ i x, cfg.threads i = some x → D.Safe i (Q i) x cfg.state) :
  D.inv cfg'.state ∧ D.evolve cfg.state cfg'.state
    ∧ ∀ i x, cfg'.threads i = some x → D.Safe i (Q i) x cfg'.state
  := by
  induction h with
  | start => exact ⟨hinv, D.evolve_refl _, hsafe⟩
  | move _ m hm hs ih =>
      obtain ⟨hinv', hevolve, hsafe'⟩ := ih
      obtain ⟨⟨i, hstep⟩, hsafe''⟩ := Safe.step hm hs hinv' hsafe'
      exact ⟨hstep.inv, D.evolve_trans hevolve hstep.evolve, hsafe''⟩

/-- What a thread that has ended ended with. -/
theorem Safe.ending {Q : ι → Except ε α → M.State → Prop} {cfg cfg' : M.Config α}
    (h : Machine.Reaches D.guard cfg cfg') (hinv : D.inv cfg.state)
    (hsafe : ∀ i x, cfg.threads i = some x → D.Safe i (Q i) x cfg.state) {i : ι}
    {r : Except ε α} (hi : cfg'.threads i = some (.ret r)) :
  Q i r cfg'.state
  := by
  obtain ⟨hinv', -, hsafe'⟩ := Safe.reaches h hinv hsafe
  apply hsafe' i _ hi _ (Sees.refl hinv')

end Discipline
