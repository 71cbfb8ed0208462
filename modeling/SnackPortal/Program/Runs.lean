import SnackPortal.Program.History

/-!
# Complete runs

A complete run of a program is the list of its calls with their answers, the earliest first,
together with its ending.  The runs of a sequence are the runs of its parts, one after the other,
and a program has at most one run that begins a given list of answers.  What the calls of a run
leave behind is read off the list by `collected`, and in such a trail every start is `Paired`
when exactly one end follows it.
-/

universe u

namespace Program

variable {S : Signature.{u}} {ε α β γ : Type u}

/-- The program makes these calls, gets these answers, and ends with `r`. -/
def Runs : Program S ε α → List (Event S ε) → Except ε α → Prop
  | .ret r', events, r => events = [] ∧ r = r'
  | .call op k, events, r => ∃ a rest, events = ⟨op, a⟩ :: rest ∧ Runs (k a) rest r

theorem runs_pure {a : α} {events : List (Event S ε)} {r : Except ε α} :
  Runs (pure a : Program S ε α) events r ↔ events = [] ∧ r = .ok a
  := Iff.rfl

theorem runs_raise {e : ε} {events : List (Event S ε)} {r : Except ε α} :
  Runs (raise e : Program S ε α) events r ↔ events = [] ∧ r = .error e
  := Iff.rfl

theorem runs_perform {op : S.Op} {events : List (Event S ε)} {r : Except ε (S.Ans op)} :
  Runs (perform op) events r ↔ events = [⟨op, r⟩]
  := by
  constructor
  · rintro ⟨a, rest, rfl, rfl, rfl⟩
    rfl
  · rintro rfl
    exact ⟨r, [], rfl, rfl, rfl⟩

/-- A run of a sequence is a run of its first program and then one of what follows. -/
theorem runs_andThen {x : Program S ε α} {f : Except ε α → Program S ε β}
    {events : List (Event S ε)} {r : Except ε β} :
  Runs (x.andThen f) events r
    ↔ ∃ before after r', events = before ++ after ∧ Runs x before r' ∧ Runs (f r') after r
  := by
  induction x generalizing events with
  | ret r'' =>
      constructor
      · intro h
        exact ⟨[], events, r'', rfl, ⟨rfl, rfl⟩, h⟩
      · rintro ⟨_, after, _, rfl, ⟨rfl, rfl⟩, h⟩
        apply h
  | call op k ih =>
      constructor
      · rintro ⟨a, rest, rfl, h⟩
        obtain ⟨before, after, r', rfl, hx, hf⟩ := (ih a).mp h
        exact ⟨⟨op, a⟩ :: before, after, r', rfl, ⟨a, before, rfl, hx⟩, hf⟩
      · rintro ⟨_, after, r', rfl, ⟨a, before, rfl, hx⟩, hf⟩
        exact ⟨a, before ++ after, rfl, (ih a).mpr ⟨before, after, r', rfl, hx, hf⟩⟩

/-- A run of a sequence either goes on with what follows a result, or ends with an exception of
its first program. -/
theorem runs_bind {x : Program S ε α} {f : α → Program S ε β} {events : List (Event S ε)}
    {r : Except ε β} :
  Runs (x >>= f) events r
    ↔ (∃ before after a, events = before ++ after ∧ Runs x before (.ok a)
        ∧ Runs (f a) after r)
      ∨ ∃ e, r = .error e ∧ Runs x events (.error e)
  := by
  apply runs_andThen.trans
  constructor
  · rintro ⟨before, after, e | a, rfl, hx, hf⟩
    · obtain ⟨rfl, rfl⟩ := hf
      right
      exact ⟨e, rfl, by rwa [List.append_nil]⟩
    · left
      exact ⟨before, after, a, rfl, hx, hf⟩
  · rintro (⟨before, after, a, rfl, hx, hf⟩ | ⟨e, rfl, hx⟩)
    · exact ⟨before, after, .ok a, rfl, hx, hf⟩
    · exact ⟨events, [], .error e, (List.append_nil _).symm, hx, rfl, rfl⟩

/-- A run of one call and of what follows its answer. -/
theorem runs_perform_bind {op : S.Op} {f : S.Ans op → Program S ε β}
    {events : List (Event S ε)} {r : Except ε β} :
  Runs (perform op >>= f) events r
    ↔ (∃ a rest, events = ⟨op, .ok a⟩ :: rest ∧ Runs (f a) rest r)
      ∨ ∃ e, r = .error e ∧ events = [⟨op, .error e⟩]
  := by
  rw [runs_bind]
  constructor
  · rintro (⟨before, after, a, rfl, hx, hf⟩ | ⟨e, rfl, hx⟩)
    · obtain rfl := runs_perform.mp hx
      left
      exact ⟨a, after, rfl, hf⟩
    · right
      exact ⟨e, rfl, runs_perform.mp hx⟩
  · rintro (⟨a, rest, rfl, hf⟩ | ⟨e, rfl, rfl⟩)
    · left
      exact ⟨[⟨op, .ok a⟩], rest, a, rfl, runs_perform.mpr rfl, hf⟩
    · right
      exact ⟨e, rfl, runs_perform.mpr rfl⟩

/-- A run with one call at its end that is made however the program ended. -/
theorem runs_finally_perform {x : Program S ε α} {op : S.Op} {events : List (Event S ε)}
    {r : Except ε α} :
  Runs (x.finally_ (perform op)) events r
    ↔ ∃ during r' answer, events = during ++ [⟨op, answer⟩] ∧ Runs x during r'
        ∧ r = answer.bind fun _ => r'
  := by
  apply runs_andThen.trans
  constructor
  · rintro ⟨during, _, r', rfl, hx, answer, _, rfl, hend⟩
    cases answer with
    | error e =>
        obtain ⟨rfl, rfl⟩ := hend
        exact ⟨during, r', .error e, rfl, hx, rfl⟩
    | ok a =>
        obtain ⟨rfl, rfl⟩ := hend
        exact ⟨during, r, .ok a, rfl, hx, rfl⟩
  · rintro ⟨during, r', answer, rfl, hx, rfl⟩
    refine ⟨during, [⟨op, answer⟩], r', rfl, hx, answer, [], rfl, ?_⟩
    cases answer <;> exact ⟨rfl, rfl⟩

/-- Every call of a run is one the program can make. -/
theorem Calls.of_runs {p : S.Op → Prop} {x : Program S ε α} (hx : x.Calls p)
    {events : List (Event S ε)} {r : Except ε α} (h : x.Runs events r) :
  ∀ e ∈ events, p e.op
  := by
  induction x generalizing events with
  | ret r' =>
      obtain ⟨rfl, -⟩ := h
      simp
  | call op k ih =>
      obtain ⟨a, rest, rfl, h⟩ := h
      intro e he
      rcases List.mem_cons.mp he with rfl | he
      · apply hx.1
      · apply ih a (hx.2 a) h e he

/-- Two runs that begin one list of calls and answers are the same. -/
theorem Runs.unique {x : Program S ε α} {before after before' after' : List (Event S ε)}
    {r r' : Except ε α} (h : x.Runs before r) (h' : x.Runs before' r')
    (heq : before ++ after = before' ++ after') :
  before = before' ∧ r = r' ∧ after = after'
  := by
  induction x generalizing before before' with
  | ret r'' =>
      obtain ⟨rfl, rfl⟩ := h
      obtain ⟨rfl, rfl⟩ := h'
      exact ⟨rfl, rfl, heq⟩
  | call op k ih =>
      obtain ⟨a, rest, rfl, h⟩ := h
      obtain ⟨a', rest', rfl, h'⟩ := h'
      simp only [List.cons_append, List.cons.injEq, Event.mk.injEq, heq_eq_eq,
        true_and] at heq
      obtain ⟨rfl, heq⟩ := heq
      obtain ⟨rfl, hr, hafter⟩ := ih a h h' heq
      exact ⟨rfl, hr, hafter⟩

/-- The run of a program is a history that ends. -/
theorem Runs.after {x : Program S ε α} {events : List (Event S ε)} {r : Except ε α}
    (h : x.Runs events r) :
  x.After events.reverse (.ret r)
  := by
  induction x generalizing events with
  | ret r' =>
      obtain ⟨rfl, rfl⟩ := h
      apply After.start
  | call op k ih =>
      obtain ⟨a, rest, rfl, h⟩ := h
      rw [List.reverse_cons]
      apply After.answers (After.answered .start a)
      apply ih a h

/-- Recorded answers that lead to an ending are a run. -/
theorem Runs.of_replay [DecidableEq S.Op] {x : Program S ε α} {events : List (Event S ε)}
    {r : Except ε α} (h : (x.replay events).bind ending = some r) :
  x.Runs events r
  := by
  induction events generalizing x with
  | nil =>
      cases x with
      | ret r' => exact ⟨rfl, (Option.some.inj h).symm⟩
      | call op k => cases h
  | cons e events ih =>
      obtain ⟨op', a⟩ := e
      cases x with
      | ret r' => cases h
      | call op k =>
          rw [replay] at h
          split at h
          · rename_i hop
            subst hop
            exact ⟨a, events, rfl, ih h⟩
          · cases h

/-! ### Exceptions of the calls -/

/-- The call was answered, and did not raise. -/
def Answered (e : Event S ε) : Prop :=
  ∃ a, e.answer = .ok a

/-- The program raises exactly where one of its calls does: it has no exceptions of its own and
handles none. -/
def Straight : Program S ε α → Prop
  | .ret (.ok _) => True
  | .ret (.error _) => False
  | .call _ k => (∀ e, k (.error e) = .ret (.error e)) ∧ ∀ a, (k (.ok a)).Straight

theorem Straight.pure {a : α} :
  (Pure.pure a : Program S ε α).Straight
  := trivial

theorem Straight.perform {op : S.Op} :
  (perform op : Program S ε _).Straight
  := ⟨fun _ => rfl, fun _ => trivial⟩

theorem Straight.bind {x : Program S ε α} {f : α → Program S ε β} (hx : x.Straight)
    (hf : ∀ a, (f a).Straight) :
  (x >>= f).Straight
  := by
  induction x with
  | ret r =>
      cases r with
      | error e => exact hx.elim
      | ok a => apply hf
  | call op k ih =>
      constructor
      · intro e
        exact congrArg (fun y : Program S ε α => y >>= f) (hx.1 e)
      · exact fun a => ih (.ok a) (hx.2 a)

/-- A run of a straight program returns, all its calls being answered, or raises what its last
call raised. -/
theorem Straight.runs {x : Program S ε α} (hx : x.Straight) {events : List (Event S ε)}
    {r : Except ε α} (h : x.Runs events r) :
  (∃ a, r = .ok a ∧ ∀ e ∈ events, Answered e)
    ∨ ∃ error, r = .error error ∧ ∃ e ∈ events, e.answer = .error error
  := by
  induction x generalizing events with
  | ret r' =>
      obtain ⟨rfl, rfl⟩ := h
      cases r with
      | error e => exact hx.elim
      | ok a => exact .inl ⟨a, rfl, List.forall_mem_nil _⟩
  | call op k ih =>
      obtain ⟨a, rest, rfl, h⟩ := h
      cases a with
      | error e =>
          rw [hx.1 e] at h
          obtain ⟨rfl, rfl⟩ := h
          exact .inr ⟨e, rfl, _, List.mem_cons_self, rfl⟩
      | ok a =>
          rcases ih (.ok a) (hx.2 a) h with ⟨b, rfl, hrest⟩ | ⟨e, rfl, e', he, hanswer⟩
          · left
            use b, rfl
            apply List.forall_mem_cons.mpr ⟨⟨a, rfl⟩, hrest⟩
          · right
            exact ⟨e, rfl, e', List.mem_cons_of_mem _ he, hanswer⟩

/-- A run of a straight program and of what follows it: all calls of the first are answered, or
the run ends with what one of them raised. -/
theorem Straight.runs_bind {x : Program S ε α} (hx : x.Straight) {f : α → Program S ε β}
    {events : List (Event S ε)} {r : Except ε β} (h : Runs (x >>= f) events r) :
  (∃ before after a, events = before ++ after ∧ Runs x before (.ok a)
      ∧ (∀ e ∈ before, Answered e) ∧ Runs (f a) after r)
    ∨ ∃ error, r = .error error ∧ Runs x events (.error error)
      ∧ ∃ e ∈ events, e.answer = .error error
  := by
  rcases Program.runs_bind.mp h with ⟨before, after, a, rfl, hbefore, hafter⟩ | ⟨e, rfl, hrun⟩
  · left
    rcases hx.runs hbefore with ⟨_, _, hanswered⟩ | ⟨e, he, _⟩
    · exact ⟨before, after, a, rfl, hbefore, hanswered, hafter⟩
    · cases he
  · right
    rcases hx.runs hrun with ⟨_, he, _⟩ | ⟨e', he, hraised⟩
    · cases he
    · obtain rfl := Except.error.inj he
      exact ⟨e, rfl, hrun, hraised⟩

/-! ### What a run leaves behind -/

/-- What the calls leave behind, in their order. -/
def collected (leaves : Event S ε → Option γ) (events : List (Event S ε)) : List γ :=
  events.filterMap leaves

variable {leaves : Event S ε → Option γ}

@[simp] theorem collected_nil :
  collected leaves [] = []
  := rfl

@[simp] theorem collected_append (before after : List (Event S ε)) :
  collected leaves (before ++ after) = collected leaves before ++ collected leaves after
  := List.filterMap_append

/-- Calls that leave nothing behind. -/
theorem collected_eq_nil {events : List (Event S ε)} (h : ∀ e ∈ events, leaves e = none) :
  collected leaves events = []
  := List.filterMap_eq_nil_iff.mpr h

theorem mem_collected {events : List (Event S ε)} {c : γ} :
  c ∈ collected leaves events ↔ ∃ e ∈ events, leaves e = some c
  := List.mem_filterMap

/-! ### Starts and ends -/

/-- Every start of the trail is followed by exactly one end, and the two belong together. -/
def Paired (starts ends : γ → Bool) (pairs : γ → γ → Prop) (trail : List γ) : Prop :=
  ∀ before start after, trail = before ++ start :: after → starts start →
    ∃ last, after.filter ends = [last] ∧ pairs start last

section Paired

variable {starts ends : γ → Bool} {pairs : γ → γ → Prop} {trail : List γ}

/-- The starts and the ends of a trail. -/
def boundaries (starts ends : γ → Bool) (trail : List γ) : List γ :=
  trail.filter fun c => starts c || ends c

theorem boundaries_split {before after : List γ} {start : γ} (hstart : starts start) :
  boundaries starts ends (before ++ start :: after)
    = boundaries starts ends before ++ start :: boundaries starts ends after
  := by
  simp [boundaries, hstart]

@[simp] theorem boundaries_append (before after : List γ) :
  boundaries starts ends (before ++ after)
    = boundaries starts ends before ++ boundaries starts ends after
  := List.filter_append before after

theorem filter_boundaries (starts ends : γ → Bool) (trail : List γ) :
  (boundaries starts ends trail).filter ends = trail.filter ends
  := by
  rw [boundaries, List.filter_filter]
  apply List.filter_congr
  intro c _
  cases starts c <;> cases ends c <;> rfl

/-- A trail without starts. -/
theorem paired_of_none (h : boundaries starts ends trail = []) :
  Paired starts ends pairs trail
  := by
  rintro before start after rfl hstart
  rw [boundaries_split hstart] at h
  simp at h

/-- A trail of one start and one end. -/
theorem paired_of_pair (start last : γ) (h : boundaries starts ends trail = [start, last])
    (hlast : ends last) (hnot : starts last = false) (hpair : pairs start last) :
  Paired starts ends pairs trail
  := by
  rintro before start' after rfl hstart
  rw [boundaries_split hstart] at h
  rcases List.append_eq_cons_iff.mp h with ⟨-, h⟩ | ⟨rest, -, h⟩
  · obtain ⟨rfl, hafter⟩ := List.cons.inj h
    use last
    constructor
    · rw [← filter_boundaries starts, hafter]
      simp [hlast]
    · apply hpair
  · rcases List.append_eq_cons_iff.mp h.symm with ⟨-, h⟩ | ⟨rest, -, h⟩
    · obtain ⟨rfl, -⟩ := List.cons.inj h
      simp [hnot] at hstart
    · simp at h

/-- A start that no end follows. -/
theorem not_paired_of_single {start : γ} (h : boundaries starts ends trail = [start])
    (hstart : starts start) :
  ¬ Paired starts ends pairs trail
  := by
  intro hpaired
  have hmem : start ∈ trail := (List.mem_filter.mp (h ▸ List.mem_singleton_self start)).1
  obtain ⟨before, after, rfl⟩ := List.append_of_mem hmem
  obtain ⟨last, hlast, -⟩ := hpaired before start after rfl hstart
  rw [boundaries_split hstart] at h
  rcases List.append_eq_cons_iff.mp h with ⟨-, h⟩ | ⟨rest, -, h⟩
  · have hafter := (List.cons.inj h).2
    rw [← filter_boundaries starts, hafter] at hlast
    simp at hlast
  · simp at h

end Paired

end Program
