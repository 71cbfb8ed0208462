import SnackPortal.Program.History
import SnackPortal.Program.Machine

/-!
# Threads and their histories

On a machine that keeps a journal every thread has a history: its own calls with their answers.
A condition on the calls of a program, read on its history, is checked on the program alone, for
all answers (`Guarded`) or for all that are `fair`.  An invariant of the machine which every
call that meets the condition keeps then holds in every reachable configuration
(`Reaches.guarded`).
-/

universe u

variable {S : Signature.{u}} {ε ι α β : Type u}

namespace Program

variable {fair : Event S ε → Prop} {ok : List (Event S ε) → S.Op → Prop}
  {Q : Except ε α → List (Event S ε) → Prop}

/-- All answers of the history are fair. -/
def Fair (fair : Event S ε → Prop) (h : List (Event S ε)) : Prop :=
  ∀ e ∈ h, fair e

/-- The condition, where all answers so far are fair. -/
def Fairly (fair : Event S ε → Prop) (ok : List (Event S ε) → S.Op → Prop) :
    List (Event S ε) → S.Op → Prop :=
  fun h op => Fair fair h → ok h op

/-- The postcondition, where all answers are fair. -/
def Finally (fair : Event S ε → Prop) (Q : Except ε α → List (Event S ε) → Prop) :
    Except ε α → List (Event S ε) → Prop :=
  fun r h => Fair fair h → Q r h

theorem Fair.of_append {h : List (Event S ε)} (h' : List (Event S ε)) (hfair : Fair fair (h' ++ h)) :
  Fair fair h
  := fun e he => hfair e (List.mem_append_right h' he)

/-- After an answer that is not fair nothing is asked of the program. -/
theorem Guarded.unfair {x : Program S ε α} {h : List (Event S ε)} (hfair : ¬ Fair fair h) :
  Guarded (Fairly fair ok) (Finally fair Q) x h
  := by
  induction x generalizing h with
  | ret r => exact fun hh => absurd hh hfair
  | call op k ih =>
      constructor
      · exact fun hh => absurd hh hfair
      · intro r
        apply ih
        intro hh
        apply hfair
        apply Fair.of_append [⟨op, r⟩] hh

/-- A weaker condition on the calls. -/
theorem Guarded.imp {ok ok' : List (Event S ε) → S.Op → Prop} (hok : ∀ h op, ok h op → ok' h op)
    {x : Program S ε α} {h : List (Event S ε)} (hx : Guarded ok Q x h) :
  Guarded ok' Q x h
  := by
  induction x generalizing h with
  | ret r => apply hx
  | call op k ih => exact ⟨hok h op hx.1, fun r => ih r (hx.2 r)⟩

/-- A condition that every call meets. -/
theorem Guarded.always {ok : List (Event S ε) → S.Op → Prop} (hok : ∀ h op, ok h op)
    (x : Program S ε α) (h : List (Event S ε)) :
  Guarded ok anyEnding x h
  := by
  induction x generalizing h with
  | ret r => trivial
  | call op k ih => exact ⟨hok h op, fun r => ih r _⟩

/-- A history only grows. -/
theorem Guarded.extends {ok : List (Event S ε) → S.Op → Prop} {x : Program S ε α}
    {h : List (Event S ε)} (hx : Guarded ok Q x h) :
  Guarded ok (fun r h' => Q r h' ∧ ∃ events, h' = events ++ h) x h
  := by
  induction x generalizing h with
  | ret r => exact ⟨hx, [], rfl⟩
  | call op k ih =>
      constructor
      · apply hx.1
      · intro r
        apply (ih r (hx.2 r)).mono
        rintro r' _ ⟨hq, events, rfl⟩
        exact ⟨hq, events ++ [⟨op, r⟩], by simp⟩

/-- A program may assume that all answers so far are fair. -/
theorem Guarded.fairly {x : Program S ε α} {h : List (Event S ε)}
    (hx : Fair fair h → Guarded (Fairly fair ok) (Finally fair Q) x h) :
  Guarded (Fairly fair ok) (Finally fair Q) x h
  := by
  by_cases hfair : Fair fair h
  · apply hx hfair
  · apply Guarded.unfair hfair

/-- The postcondition `Q` on a result; an exception is not looked at. -/
def Returning (Q : α → List (Event S ε) → Prop) : Except ε α → List (Event S ε) → Prop
  | .ok a, h => Q a h
  | .error _, _ => True

/-- From the history `h` on and against fair answers, every call meets `ok` and every result
meets `Q`. -/
abbrev Keeps (fair : Event S ε → Prop) (ok : List (Event S ε) → S.Op → Prop)
    (Q : α → List (Event S ε) → Prop) (x : Program S ε α) (h : List (Event S ε)) : Prop :=
  Guarded (Fairly fair ok) (Finally fair (Returning Q)) x h

section Keeps

variable {Q : α → List (Event S ε) → Prop} {R : β → List (Event S ε) → Prop}
  {h : List (Event S ε)}

theorem Keeps.pure {a : α} (hQ : Fair fair h → Q a h) :
  Keeps fair ok Q (Pure.pure a) h
  := hQ

theorem Keeps.raise {e : ε} :
  Keeps fair ok Q (Program.raise e) h
  := fun _ => trivial

theorem Keeps.weaken {Q' : α → List (Event S ε) → Prop} {x : Program S ε α}
    (hx : Keeps fair ok Q x h) (hQ : ∀ a h', Fair fair h' → Q a h' → Q' a h') :
  Keeps fair ok Q' x h
  := by
  apply Guarded.mono hx
  rintro (e | a) h' hq hfair
  · trivial
  · apply hQ a h' hfair (hq hfair)

/-- One call, and what follows a fair answer. -/
theorem Keeps.ask {o : S.Op} {f : S.Ans o → Program S ε α} (hop : Fair fair h → ok h o)
    (hf : ∀ a, fair ⟨o, .ok a⟩ → Keeps fair ok Q (f a) (⟨o, .ok a⟩ :: h)) :
  Keeps fair ok Q (perform o >>= f) h
  := by
  apply Guarded.step hop
  · intro a
    apply Guarded.fairly
    intro hfair
    apply hf a (hfair _ List.mem_cons_self)
  · exact fun e _ => trivial

/-- One call at the end of a program. -/
theorem Keeps.call {o : S.Op} {Q : S.Ans o → List (Event S ε) → Prop}
    (hop : Fair fair h → ok h o) (hQ : ∀ a, fair ⟨o, .ok a⟩ → Q a (⟨o, .ok a⟩ :: h)) :
  Keeps fair ok Q (perform o) h
  := by
  constructor
  · apply hop
  · rintro (e | a) hfair
    · trivial
    · apply hQ a (hfair _ List.mem_cons_self)

theorem Keeps.seq {x : Program S ε α} {f : α → Program S ε β} (hx : Keeps fair ok Q x h)
    (hf : ∀ a h', Fair fair h' → Q a h' → Keeps fair ok R (f a) h') :
  Keeps fair ok R (x >>= f) h
  := by
  apply Guarded.bind hx
  · intro a h' hq
    apply Guarded.fairly
    intro hfair
    apply hf a h' hfair (hq hfair)
  · exact fun e h' _ _ => trivial

/-- Exception handling; the handler runs on a history that extends the present one. -/
theorem Keeps.rescue {x : Program S ε α} {handler : ε → Program S ε α}
    (hx : Keeps fair ok Q x h)
    (hh : ∀ e events, Fair fair (events ++ h) →
      Keeps fair ok Q (handler e) (events ++ h)) :
  Keeps fair ok Q (x.rescue handler) h
  := by
  apply Guarded.andThen hx.extends
  rintro (e | a) h' ⟨hq, events, rfl⟩
  · apply Guarded.fairly
    intro hfair
    apply hh e events hfair
  · apply hq

/-- A program whose calls any history allows adds only such calls. -/
theorem Keeps.calls {p : S.Op → Prop} {x : Program S ε α} (hx : x.Calls p)
    (hok : ∀ h op, p op → ok h op) :
  Keeps fair ok (fun _ h' => ∃ events, h' = events ++ h ∧ ∀ e ∈ events, p e.op) x h
  := by
  have hcalls : ∀ h' op, p op → Fairly fair ok h' op := fun h' op hp _ => hok h' op hp
  apply (Guarded.of_calls hx hcalls h).mono
  rintro (e | a) h' hq _
  · trivial
  · apply hq

end Keeps

end Program

namespace Machine

open Program

variable {M : Machine S ε ι} [DecidableEq ι]

/-- The calls of one thread with their answers, the latest first. -/
def historyOf (i : ι) : List (Entry S ε ι) → List (Event S ε)
  | [] => []
  | .call j op r :: js => if j = i then ⟨op, r⟩ :: historyOf i js else historyOf i js
  | .drop _ :: js => historyOf i js

theorem historyOf_self {i : ι} {op : S.Op} {r : Except ε (S.Ans op)} {js : List (Entry S ε ι)} :
  historyOf i (.call i op r :: js) = ⟨op, r⟩ :: historyOf i js
  := if_pos rfl

theorem historyOf_other {i j : ι} {op : S.Op} {r : Except ε (S.Ans op)}
    {js : List (Entry S ε ι)} (h : i ≠ j) :
  historyOf i (.call j op r :: js) = historyOf i js
  := if_neg h.symm

/-- What is true of all events of all threads stays true where it is true of the new one. -/
theorem forall_historyOf {P : ι → Event S ε → Prop} {j : ι} {op : S.Op}
    {r : Except ε (S.Ans op)} {js : List (Entry S ε ι)}
    (h : ∀ i, ∀ e ∈ historyOf i js, P i e) (hnew : P j ⟨op, r⟩) :
  ∀ i, ∀ e ∈ historyOf i (.call j op r :: js), P i e
  := by
  intro i e he
  by_cases hij : i = j
  · subst hij
    rw [historyOf_self] at he
    rcases List.mem_cons.mp he with rfl | he
    · apply hnew
    · apply h i e he
  · rw [historyOf_other hij] at he
    apply h i e he

/-- The invariant holds, every thread that runs was not dropped, and what remains of it is
guarded by its own history. -/
structure Guards (ok : ι → List (Event S ε) → S.Op → Prop) (I : M.journaled.State → Prop)
    (cfg : M.journaled.Config α) : Prop where
  inv : I cfg.state
  live : ∀ i x, cfg.threads i = some x → .drop i ∉ cfg.state.journal
  threads : ∀ i x, cfg.threads i = some x →
    Guarded (ok i) anyEnding x (historyOf i cfg.state.journal)

variable {ok : ι → List (Event S ε) → S.Op → Prop} {I : M.journaled.State → Prop}
  {G : M.journaled.Guard}

/-- What a move of a guarded configuration does: it answers a call that meets the condition,
or it drops a thread. -/
theorem Guards.step_cases {cfg cfg' : M.journaled.Config α} (h : Guards ok I cfg)
    {m : Move ι M.Choice} (hm : cfg.Meets G m) (hs : cfg.step m = some cfg') :
  (∃ i c op k r, m = .call i c ∧ cfg.threads i = some (.call op k)
      ∧ G cfg.state i op c ∧ ok i (historyOf i cfg.state.journal) op
      ∧ M.answer i op c cfg.state.base = some (r, cfg'.state.base)
      ∧ cfg'.state.journal = .call i op r :: cfg.state.journal
      ∧ cfg'.threads = Function.update cfg.threads i (some (k r)))
    ∨ ∃ i, m = .drop i ∧ cfg'.state = M.journaled.drop i cfg.state
      ∧ cfg'.threads = Function.update cfg.threads i none
  := by
  rcases Config.step_cases hs with ⟨i, c, op, k, r, rfl, hi, ha, ht⟩ | hdrop
  · obtain ⟨hbase, hj⟩ := journaled_answer ha
    exact .inl ⟨i, c, op, k, r, rfl, hi, hm op k hi, (h.threads i _ hi).1, hbase, hj, ht⟩
  · right
    apply hdrop

/-- A guarded configuration stays guarded. -/
theorem Guards.step {cfg cfg' : M.journaled.Config α} (h : Guards ok I cfg)
    (hcall : ∀ i op c r (s t : M.journaled.State), I s → .drop i ∉ s.journal →
      ok i (historyOf i s.journal) op → G s i op c →
      M.answer i op c s.base = some (r, t.base) → t.journal = .call i op r :: s.journal → I t)
    (hdrop : ∀ i s, I s → I (M.journaled.drop i s)) {m : Move ι M.Choice}
    (hm : cfg.Meets G m) (hs : cfg.step m = some cfg') :
  Guards ok I cfg'
  := by
  rcases h.step_cases hm hs with
    ⟨i, c, op, k, r, rfl, hi, hG, hop, hbase, hj, ht⟩ | ⟨i, rfl, hstate, ht⟩
  · constructor
    · apply hcall i op c r cfg.state cfg'.state h.inv (h.live i _ hi) hop hG hbase hj
    · intro j x hx
      rw [hj, List.mem_cons, not_or]
      constructor
      · rintro ⟨⟩
      · rw [ht] at hx
        by_cases hji : j = i
        · subst hji
          apply h.live j _ hi
        · rw [Function.update_of_ne hji] at hx
          apply h.live j x hx
    · intro j x hx
      rw [ht] at hx
      by_cases hji : j = i
      · subst hji
        rw [Function.update_self] at hx
        obtain rfl := Option.some.inj hx
        rw [hj, historyOf_self]
        apply (h.threads j _ hi).2
      · rw [Function.update_of_ne hji] at hx
        rw [hj, historyOf_other hji]
        apply h.threads j x hx
  · have hother : ∀ j x, cfg'.threads j = some x → j ≠ i ∧ cfg.threads j = some x := by
      intro j x hx
      rw [ht] at hx
      by_cases hji : j = i
      · subst hji
        rw [Function.update_self] at hx
        cases hx
      · rw [Function.update_of_ne hji] at hx
        exact ⟨hji, hx⟩
    constructor
    · rw [hstate]
      apply hdrop i _ h.inv
    · intro j x hx
      obtain ⟨hji, hx⟩ := hother j x hx
      rw [hstate, List.mem_cons, not_or]
      constructor
      · rintro ⟨⟩
        contradiction
      · apply h.live j x hx
    · intro j x hx
      obtain ⟨-, hx⟩ := hother j x hx
      rw [hstate]
      apply h.threads j x hx

/-- The invariant holds in every configuration reached. -/
theorem Reaches.guarded {cfg cfg' : M.journaled.Config α} (h : Reaches G cfg cfg')
    (hstart : Guards ok I cfg)
    (hcall : ∀ i op c r (s t : M.journaled.State), I s → .drop i ∉ s.journal →
      ok i (historyOf i s.journal) op → G s i op c →
      M.answer i op c s.base = some (r, t.base) → t.journal = .call i op r :: s.journal → I t)
    (hdrop : ∀ i s, I s → I (M.journaled.drop i s)) :
  Guards ok I cfg'
  := by
  induction h with
  | start => apply hstart
  | move _ m hm hs ih => apply ih.step hcall hdrop hm hs

end Machine
