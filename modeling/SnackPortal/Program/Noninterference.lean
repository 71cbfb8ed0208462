import SnackPortal.Program.Handler
import SnackPortal.Program.Machine

/-!
# Noninterference

A program abides by a rule when each of its calls does, as long as the answers do too.  Where the
calls of some threads are answered alike on two states that look alike to them, and the calls of
the others leave a state that looks as before, these threads go the same way without the others
(`Reaches.projected`).
-/

universe u

namespace Program

variable {S T : Signature.{u}} {ε α β : Type u}

/-- Every call meets `calls` and the ending meets `Q`, as long as the answers meet `answers`. -/
def Abides (calls : S.Op → Prop) (answers : (op : S.Op) → Except ε (S.Ans op) → Prop)
    (Q : Except ε α → Prop) : Program S ε α → Prop
  | .ret r => Q r
  | .call op k => calls op ∧ ∀ r, answers op r → (k r).Abides calls answers Q

/-- The condition on a result; an exception meets it. -/
def OnResult (Q : α → Prop) : Except ε α → Prop
  | .ok a => Q a
  | .error _ => True

namespace Abides

variable {calls : S.Op → Prop} {answers : (op : S.Op) → Except ε (S.Ans op) → Prop}
  {Q : Except ε α → Prop} {R : Except ε β → Prop}

/-- A call, and what follows an answer that meets the rule. -/
theorem call_iff {op : S.Op} {k : Except ε (S.Ans op) → Program S ε α} :
  (Program.call op k).Abides calls answers Q
    ↔ calls op ∧ ∀ r, answers op r → (k r).Abides calls answers Q
  := Iff.rfl

/-- A program abides by any rule that its calls are known to meet. -/
theorem of_calls {p : S.Op → Prop} {x : Program S ε α} (hx : x.Calls p)
    (hp : ∀ op, p op → calls op) :
  x.Abides calls answers fun _ => True
  := by
  induction x with
  | ret r => trivial
  | call op k ih => exact ⟨hp op hx.1, fun r _ => ih r (hx.2 r)⟩

/-- A program abides by a rule that allows every call. -/
theorem of_all {x : Program S ε α} (hcalls : ∀ op, calls op) :
  x.Abides calls answers fun _ => True
  := by
  induction x with
  | ret r => trivial
  | call op k ih => exact ⟨hcalls op, fun r _ => ih r⟩

theorem mono {Q' : Except ε α → Prop} {x : Program S ε α} (h : x.Abides calls answers Q)
    (hQ : ∀ r, Q r → Q' r) :
  x.Abides calls answers Q'
  := by
  induction x with
  | ret r => exact hQ r h
  | call op k ih => exact ⟨h.1, fun r hr => ih r (h.2 r hr)⟩

theorem andThen {x : Program S ε α} {f : Except ε α → Program S ε β}
    (h : x.Abides calls answers Q) (hf : ∀ r, Q r → (f r).Abides calls answers R) :
  (x.andThen f).Abides calls answers R
  := by
  induction x with
  | ret r => exact hf r h
  | call op k ih => exact ⟨h.1, fun r hr => ih r (h.2 r hr)⟩

theorem perform {op : S.Op} (hop : calls op) :
  (Program.perform op : Program S ε _).Abides calls answers (answers op)
  := ⟨hop, fun _ hr => hr⟩

section OnResult

variable {Q : α → Prop} {R : β → Prop}

theorem pure {a : α} (h : Q a) :
  (Pure.pure a : Program S ε α).Abides calls answers (OnResult Q)
  := h

theorem raise {e : ε} :
  (Program.raise e : Program S ε α).Abides calls answers (OnResult Q)
  := trivial

theorem bind {x : Program S ε α} {f : α → Program S ε β}
    (h : x.Abides calls answers (OnResult Q))
    (hf : ∀ a, Q a → (f a).Abides calls answers (OnResult R)) :
  (x >>= f).Abides calls answers (OnResult R)
  := by
  apply andThen h
  intro r hr
  cases r with
  | ok a => exact hf a hr
  | error e => trivial

theorem rescue {x : Program S ε α} {handler : ε → Program S ε α}
    (h : x.Abides calls answers (OnResult Q))
    (hh : ∀ e, (handler e).Abides calls answers (OnResult Q)) :
  (x.rescue handler).Abides calls answers (OnResult Q)
  := by
  apply andThen h
  intro r hr
  cases r with
  | ok a => exact hr
  | error e => exact hh e

/-- One call, whose result meets what the answers to it do. -/
theorem ask {op : S.Op} {Q : S.Ans op → Prop} (hop : calls op)
    (hQ : ∀ a, answers op (.ok a) → Q a) :
  (Program.perform op : Program S ε _).Abides calls answers (OnResult Q)
  := by
  apply (perform hop).mono
  intro r hr
  cases r with
  | ok a => exact hQ a hr
  | error e => trivial

end OnResult

/-- A program abides by a rule where its handler does what the rule of its calls asks for. -/
theorem handle {calls' : T.Op → Prop} {answers' : (op : T.Op) → Except ε (T.Ans op) → Prop}
    {h : Handler S T ε} {x : Program S ε α} (hx : x.Abides calls answers Q)
    (hh : ∀ op, calls op → (h op).Abides calls' answers' (answers op)) :
  (x.handle h).Abides calls' answers' Q
  := by
  induction x with
  | ret r => exact hx
  | call op k ih =>
      apply andThen (hh op hx.1)
      intro r hr
      exact ih r (hx.2 r hr)

end Abides

-- The rules are used by name: programs are not run to see that they abide.
attribute [irreducible] Abides

end Program

namespace Machine

variable {S : Signature.{u}} {ε ι α : Type u} [DecidableEq ι] {M : Machine S ε ι}

/-- The configurations look alike to the threads of `mine`, and run them alike. -/
structure Alike (mine : ι → Prop) (R : M.State → M.State → Prop) (cfg cfg' : M.Config α) :
    Prop where
  state : R cfg.state cfg'.state
  threads : ∀ i, mine i → cfg'.threads i = cfg.threads i

section Alike

variable {mine : ι → Prop} {R : M.State → M.State → Prop} {cfg cfg' c₂ : M.Config α} {i : ι}
  {z : Option (Program S ε α)}

/-- Both make the same move. -/
theorem Alike.both (h : Alike mine R cfg cfg') {s₂ : M.State} (hR : R c₂.state s₂)
    (ht : c₂.threads = Function.update cfg.threads i z) :
  Alike mine R c₂ ⟨s₂, Function.update cfg'.threads i z⟩
  := by
  constructor
  · apply hR
  · intro j hj
    have hsame := h.threads j hj
    rw [ht]
    by_cases hji : j = i
    · subst hji
      apply (Function.update_self ..).trans (Function.update_self ..).symm
    · exact (Function.update_of_ne hji _ _).trans (hsame.trans (Function.update_of_ne hji _ _).symm)

/-- Only the first makes a move, of a thread that is not one of `mine`. -/
theorem Alike.first (h : Alike mine R cfg cfg') (hR : R c₂.state cfg'.state) (hi : ¬ mine i)
    (ht : c₂.threads = Function.update cfg.threads i z) :
  Alike mine R c₂ cfg'
  := by
  constructor
  · apply hR
  · intro j hj
    have hji : j ≠ i := by
      intro hji
      exact hi (hji ▸ hj)
    rw [ht, Function.update_of_ne hji]
    apply h.threads j hj

/-- What is known of every thread, after a move of one of them. -/
theorem threads_update {P : ι → Program S ε α → Prop}
    (h : ∀ j x, cfg.threads j = some x → P j x) (hz : ∀ x, z = some x → P i x)
    (ht : c₂.threads = Function.update cfg.threads i z) :
  ∀ j x, c₂.threads j = some x → P j x
  := by
  intro j x hx
  rw [ht] at hx
  by_cases hji : j = i
  · subst hji
    rw [Function.update_self] at hx
    exact hz x hx
  · rw [Function.update_of_ne hji] at hx
    exact h j x hx

/-- A thread is dropped before its program has ended. -/
theorem Config.step_drop {c₁ : M.Config α} (h : c₁.step (.drop i) = some c₂) :
  ∃ op k, c₁.threads i = some (.call op k)
  := by
  simp only [Config.step] at h
  split at h
  · rename_i op k hi
    exact ⟨op, k, hi⟩
  · cases h

end Alike

/-- What the threads of `mine` do beside others they do without them. -/
theorem Reaches.projected {G : M.Guard} {mine : ι → Prop} {R : M.State → M.State → Prop}
    {P : ι → Program S ε α → Prop} {start cfg start' : M.Config α} (h : Reaches G start cfg)
    (hstart : Alike mine R start start') (hthreads : ∀ i x, start.threads i = some x → P i x)
    (hcall : ∀ i op k c r (s s' : M.State), P i (.call op k) → G s i op c →
      M.answer i op c s = some (r, s') → P i (k r))
    (hmine : ∀ i, mine i → ∀ op k c r (s s' s₂ : M.State), P i (.call op k) → R s s₂ →
      G s i op c → M.answer i op c s = some (r, s') →
      G s₂ i op c ∧ ∃ s₂', M.answer i op c s₂ = some (r, s₂') ∧ R s' s₂')
    (hothers : ∀ i, ¬ mine i → ∀ op k c r (s s' s₂ : M.State), P i (.call op k) → R s s₂ →
      G s i op c → M.answer i op c s = some (r, s') → R s' s₂)
    (hdrop : ∀ i s s₂, R s s₂ →
      (mine i → R (M.drop i s) (M.drop i s₂)) ∧ (¬ mine i → R (M.drop i s) s₂)) :
  ∃ cfg', Reaches G start' cfg' ∧ Alike mine R cfg cfg'
  := by
  suffices hreach : (∃ cfg', Reaches G start' cfg' ∧ Alike mine R cfg cfg')
      ∧ ∀ i x, cfg.threads i = some x → P i x from hreach.1
  induction h with
  | start => exact ⟨⟨start', .start, hstart⟩, hthreads⟩
  | @move c₁ c₂ _ m hm hs ih =>
      obtain ⟨⟨cfg', hreach, halike⟩, hP⟩ := ih
      rcases Config.step_cases hs with ⟨i, c, op, k, r, rfl, hi, ha, ht⟩ | ⟨i, rfl, hstate, ht⟩
      · have hG := hm op k hi
        have hk : P i (k r) := hcall i op k c r _ _ (hP i _ hi) hG ha
        have hleft : ∀ j x, c₂.threads j = some x → P j x := by
          apply threads_update hP _ ht
          intro x hx
          obtain rfl := Option.some.inj hx
          apply hk
        by_cases hi' : mine i
        · obtain ⟨hG', s₂', ha', hR⟩ :=
            hmine i hi' op k c r _ _ _ (hP i _ hi) halike.state hG ha
          have hi₂ : cfg'.threads i = some (.call op k) := (halike.threads i hi').trans hi
          refine ⟨⟨_, ?_, halike.both hR ht⟩, hleft⟩
          apply Reaches.move hreach (.call i c)
          · intro op' k' hk'
            obtain ⟨rfl, -⟩ := Program.call.inj (Option.some.inj (hi₂.symm.trans hk'))
            apply hG'
          · simp only [Config.step, hi₂, ha']
        · have hR := hothers i hi' op k c r _ _ _ (hP i _ hi) halike.state hG ha
          exact ⟨⟨cfg', hreach, halike.first hR hi' ht⟩, hleft⟩
      · obtain ⟨hmine', hothers'⟩ := hdrop i _ _ halike.state
        rw [← hstate] at hmine' hothers'
        have hleft : ∀ j x, c₂.threads j = some x → P j x := by
          apply threads_update hP _ ht
          intro x hx
          cases hx
        by_cases hi' : mine i
        · obtain ⟨op, k, hi⟩ := Config.step_drop hs
          have hi₂ : cfg'.threads i = some (.call op k) := (halike.threads i hi').trans hi
          refine ⟨⟨_, ?_, halike.both (hmine' hi') ht⟩, hleft⟩
          apply Reaches.move hreach (.drop i) trivial
          simp only [Config.step, hi₂]
        · exact ⟨⟨cfg', hreach, halike.first (hothers' hi') hi' ht⟩, hleft⟩

end Machine
