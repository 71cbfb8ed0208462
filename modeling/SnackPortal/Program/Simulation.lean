import SnackPortal.Program.Machine

/-!
# Simulations

What is shown thread by thread about a machine.  An invariant is an assertion about the shared
state together with one about what remains of each thread, and a move has to keep that of its own
thread and those of all the others (`Reaches.threadwise`).  A simulation is the same for two
machines: their states are related, and what remains of each thread of the first is related to
what remains of that thread of the second, which answers a call with one of its own or not at all
(`Reaches.simulated`).
-/

universe u

namespace Machine

variable {S S' : Signature.{u}} {ε ε' ι α β : Type u} [DecidableEq ι]

/-! ## Invariants -/

section Threadwise

variable {M : Machine S ε ι}

/-- The state meets `I`, and what remains of every thread meets `P`. -/
structure Threadwise (I : M.State → Prop) (P : ι → M.State → Program S ε α → Prop)
    (cfg : M.Config α) : Prop where
  state : I cfg.state
  threads : ∀ i x, cfg.threads i = some x → P i cfg.state x

variable {I : M.State → Prop} {P : ι → M.State → Program S ε α → Prop} {G : M.Guard}

/-- What a call keeps, with what the call of a thread leaves of it and of the others, and what
the end of a thread keeps hold in every reachable configuration. -/
theorem Reaches.threadwise {cfg cfg' : M.Config α} (h : Reaches G cfg cfg')
    (hstart : Threadwise I P cfg)
    (hcall : ∀ i op k c r (s s' : M.State), I s → P i s (.call op k) → G s i op c →
      M.answer i op c s = some (r, s') →
      I s' ∧ P i s' (k r) ∧ ∀ j, j ≠ i → ∀ x, P j s x → P j s' x)
    (hdrop : ∀ i s, I s → I (M.drop i s) ∧ ∀ j, j ≠ i → ∀ x, P j s x → P j (M.drop i s) x) :
  Threadwise I P cfg'
  := by
  induction h with
  | start => apply hstart
  | @move c₁ c₂ _ m hm hs ih =>
      rcases Config.step_cases hs with ⟨i, c, op, k, r, rfl, hi, ha, ht⟩ | ⟨i, rfl, hstate, ht⟩
      · obtain ⟨hstate, hself, hothers⟩ :=
          hcall i op k c r _ _ ih.state (ih.threads i _ hi) (hm op k hi) ha
        constructor
        · apply hstate
        · intro j x hx
          rw [ht] at hx
          by_cases hji : j = i
          · subst hji
            rw [Function.update_self] at hx
            obtain rfl := Option.some.inj hx
            apply hself
          · rw [Function.update_of_ne hji] at hx
            apply hothers j hji x (ih.threads j x hx)
      · obtain ⟨hdropped, hothers⟩ := hdrop i _ ih.state
        rw [← hstate] at hdropped hothers
        constructor
        · apply hdropped
        · intro j x hx
          rw [ht] at hx
          by_cases hji : j = i
          · subst hji
            rw [Function.update_self] at hx
            cases hx
          · rw [Function.update_of_ne hji] at hx
            apply hothers j hji x (ih.threads j x hx)

end Threadwise

/-! ## Simulations -/

variable {M : Machine S ε ι} {N : Machine S' ε' ι}

/-- A configuration of `N` stands for one of `M`. -/
structure Stands (R : M.State → N.State → Prop)
    (T : ι → M.State → Program S ε α → Program S' ε' β → Prop)
    (cfg : M.Config α) (cfg' : N.Config β) : Prop where
  state : R cfg.state cfg'.state
  threads : ∀ i x, cfg.threads i = some x →
    ∃ y, cfg'.threads i = some y ∧ T i cfg.state x y

/-- The call of a thread of `M` is matched: by no call of `N`, or by the next call of that
thread. -/
def Matched (R : M.State → N.State → Prop)
    (T : ι → M.State → Program S ε α → Program S' ε' β → Prop) (i : ι) (s : M.State)
    (s₂ : N.State) (x : Program S ε α) (y : Program S' ε' β) : Prop :=
  R s s₂ ∧ T i s x y
    ∨ ∃ op k c r s₂', y = .call op k ∧ N.answer i op c s₂ = some (r, s₂') ∧ R s s₂'
        ∧ T i s x (k r)

variable {R : M.State → N.State → Prop}
  {T : ι → M.State → Program S ε α → Program S' ε' β → Prop}

/-- Where every call of `M` is matched by `N`, every configuration that `M` reaches has one that
`N` reaches to stand for it. -/
theorem Reaches.simulated {start cfg : M.Config α} {start' : N.Config β}
    (h : Reaches M.anyCall start cfg) (hstart : Stands R T start start')
    (hcall : ∀ i op k y c r (s s' : M.State) (s₂ : N.State), R s s₂ → T i s (.call op k) y →
      M.answer i op c s = some (r, s') →
      Matched R T i s' s₂ (k r) y ∧ ∀ j, j ≠ i → ∀ x z, T j s x z → T j s' x z)
    (hdrop : ∀ i s s₂, R s s₂ →
      R (M.drop i s) s₂ ∧ ∀ j, j ≠ i → ∀ x z, T j s x z → T j (M.drop i s) x z) :
  ∃ cfg', Reaches N.anyCall start' cfg' ∧ Stands R T cfg cfg'
  := by
  induction h with
  | start => exact ⟨start', .start, hstart⟩
  | @move c₁ c₂ _ m _ hs ih =>
      obtain ⟨cfg', hreach, hstands⟩ := ih
      rcases Config.step_cases hs with ⟨i, c, op, k, r, rfl, hi, ha, ht⟩ | ⟨i, rfl, hstate, ht⟩
      · obtain ⟨y, hy, hT⟩ := hstands.threads i _ hi
        obtain ⟨hmatched, hothers⟩ := hcall i op k y c r _ _ _ hstands.state hT ha
        have hrest : ∀ j x, j ≠ i → c₂.threads j = some x →
            ∃ z, cfg'.threads j = some z ∧ T j c₂.state x z := by
          intro j x hji hx
          rw [ht, Function.update_of_ne hji] at hx
          obtain ⟨z, hz, hTz⟩ := hstands.threads j x hx
          exact ⟨z, hz, hothers j hji x z hTz⟩
        have hself : ∀ x, c₂.threads i = some x → x = k r := by
          intro x hx
          rw [ht, Function.update_self] at hx
          apply (Option.some.inj hx).symm
        rcases hmatched with ⟨hR, hT'⟩ | ⟨op₂, k₂, choice, r₂, s₂', rfl, ha₂, hR, hT'⟩
        · use cfg', hreach
          constructor
          · apply hR
          · intro j x hx
            by_cases hji : j = i
            · subst hji
              rw [hself x hx]
              exact ⟨y, hy, hT'⟩
            · apply hrest j x hji hx
        · use ⟨s₂', Function.update cfg'.threads i (some (k₂ r₂))⟩
          constructor
          · apply Reaches.move hreach (.call i choice) (fun _ _ _ => trivial)
            simp only [Config.step, hy, ha₂]
          · constructor
            · apply hR
            · intro j x hx
              by_cases hji : j = i
              · subst hji
                rw [hself x hx]
                exact ⟨k₂ r₂, Function.update_self .., hT'⟩
              · obtain ⟨z, hz, hTz⟩ := hrest j x hji hx
                exact ⟨z, by rw [← hz]; apply Function.update_of_ne hji, hTz⟩
      · obtain ⟨hR, hothers⟩ := hdrop i _ _ hstands.state
        rw [← hstate] at hR hothers
        use cfg', hreach
        constructor
        · apply hR
        · intro j x hx
          rw [ht] at hx
          by_cases hji : j = i
          · subst hji
            rw [Function.update_self] at hx
            cases hx
          · rw [Function.update_of_ne hji] at hx
            obtain ⟨z, hz, hTz⟩ := hstands.threads j x hx
            exact ⟨z, hz, hothers j hji x z hTz⟩

end Machine
