import SnackPortal.Program.Basic
import Mathlib.Logic.Function.Basic

/-!
# Machines that run many programs at once

A machine answers the operations of a signature on a shared state.  A configuration is a
shared state with one program for every thread; one move lets one thread call its next
operation, or ends it for good.  The choice a move carries settles whatever the state leaves
open: the answers of the outside world, and which calls fail.
-/

universe u

/-- A shared state that answers the operations of `S` for the threads of `ι`. -/
structure Machine (S : Signature.{u}) (ε ι : Type u) where
  State : Type u
  Choice : Type u
  /-- The answer to a call and the state after it; `none` where the call has to wait. -/
  answer : ι → (op : S.Op) → Choice → State → Option (Except ε (S.Ans op) × State)
  /-- What the end of a thread leaves of the state. -/
  drop : ι → State → State

/-- One move of a run: a call of a thread's next operation, or the end of the thread. -/
inductive Move (ι κ : Type u) where
  | call (i : ι) (c : κ)
  | drop (i : ι)

namespace Machine

variable {S : Signature.{u}} {ε ι α : Type u} (M : Machine S ε ι)

/-- A shared state with the rest of the program of every thread, `none` for a dropped one. -/
structure Config (α : Type u) where
  state : M.State
  threads : ι → Option (Program S ε α)

variable {M} [DecidableEq ι]

/-- The configuration after a move, where the move can be made. -/
def Config.step (cfg : M.Config α) : Move ι M.Choice → Option (M.Config α)
  | .call i c =>
      match cfg.threads i with
      | some (.call op k) =>
          match M.answer i op c cfg.state with
          | some (r, s) => some ⟨s, Function.update cfg.threads i (some (k r))⟩
          | none => none
      | _ => none
  | .drop i =>
      match cfg.threads i with
      | some (.call _ _) => some ⟨M.drop i cfg.state, Function.update cfg.threads i none⟩
      | _ => none

/-- What a thread returned, where it ended without an exception. -/
def Config.returned (cfg : M.Config α) (i : ι) : Option α :=
  match cfg.threads i with
  | some (.ret (.ok a)) => some a
  | _ => none

omit [DecidableEq ι] in
theorem Config.returned_eq_some {cfg : M.Config α} {i : ι} {a : α} :
  cfg.returned i = some a ↔ cfg.threads i = some (.ret (.ok a))
  := by
  rw [returned]
  constructor
  · intro h
    split at h
    · rename_i hi
      rw [hi, Option.some.inj h]
    · cases h
  · intro h
    rw [h]

/-- A condition on calls, read on the state before the call. -/
abbrev Guard (M : Machine S ε ι) := M.State → ι → S.Op → M.Choice → Prop

/-- The condition that every call meets. -/
def anyCall (M : Machine S ε ι) : M.Guard := fun _ _ _ _ => True

/-- The move meets the condition `G`, where it is a call. -/
def Config.Meets (cfg : M.Config α) (G : M.Guard) : Move ι M.Choice → Prop
  | .call i c => ∀ op k, cfg.threads i = some (.call op k) → G cfg.state i op c
  | .drop _ => True

instance Config.decidableMeets (cfg : M.Config α) (G : M.Guard)
    [∀ s i op c, Decidable (G s i op c)] : (m : Move ι M.Choice) → Decidable (cfg.Meets G m)
  | .call i c =>
      match h : cfg.threads i with
      | some (.call op k) => decidable_of_iff (G cfg.state i op c) <| by
          constructor
          · intro hG op' k' h'
            rw [h] at h'
            cases h'
            apply hG
          · intro hm
            apply hm op k h
      | some (.ret _) => .isTrue fun _ _ h' => by simp [h] at h'
      | none => .isTrue fun _ _ h' => by simp [h] at h'
  | .drop _ => .isTrue trivial

/-- The configuration after a list of moves, where each can be made and meets `G`. -/
def Config.run (G : M.Guard) [∀ s i op c, Decidable (G s i op c)] (cfg : M.Config α) :
    List (Move ι M.Choice) → Option (M.Config α)
  | [] => some cfg
  | m :: ms => if cfg.Meets G m then (cfg.step m).bind fun cfg' => cfg'.run G ms else none

instance (s : M.State) (i : ι) (op : S.Op) (c : M.Choice) : Decidable (M.anyCall s i op c) :=
  .isTrue trivial

/-- The configurations reached from `cfg` by moves whose calls meet `G`. -/
inductive Reaches (G : M.Guard) (cfg : M.Config α) : M.Config α → Prop where
  | start : Reaches G cfg cfg
  | move {cfg' cfg'' : M.Config α} (h : Reaches G cfg cfg') (m : Move ι M.Choice)
      (hm : cfg'.Meets G m) (hs : cfg'.step m = some cfg'') : Reaches G cfg cfg''

theorem Reaches.trans {G : M.Guard} {cfg cfg' cfg'' : M.Config α} (h : Reaches G cfg cfg')
    (h' : Reaches G cfg' cfg'') :
  Reaches G cfg cfg''
  := by
  induction h' with
  | start => apply h
  | move _ m hm hs ih => apply Reaches.move ih m hm hs

/-- A run under a condition is a run under a weaker one. -/
theorem Reaches.imp {G G' : M.Guard} (hG : ∀ s i op c, G s i op c → G' s i op c)
    {cfg cfg' : M.Config α} (h : Reaches G cfg cfg') :
  Reaches G' cfg cfg'
  := by
  induction h with
  | start => apply Reaches.start
  | move _ m hm hs ih =>
      apply Reaches.move ih m _ hs
      cases m with
      | call i c => exact fun op k hk => hG _ _ _ _ (hm op k hk)
      | drop i => trivial

/-- A list of moves that can be made under the condition is a run. -/
theorem Reaches.of_run {G : M.Guard} [∀ s i op c, Decidable (G s i op c)] :
  ∀ {ms : List (Move ι M.Choice)} {cfg cfg' : M.Config α},
    cfg.run G ms = some cfg' → Reaches G cfg cfg'
  | [], _, _, h => by
      obtain rfl := Option.some.inj h
      apply Reaches.start
  | m :: ms, cfg, cfg', h => by
      rw [Config.run] at h
      split at h
      · rename_i hm
        obtain ⟨next, hs, hn⟩ := Option.bind_eq_some_iff.mp h
        apply Reaches.trans (Reaches.move .start m hm hs) (Reaches.of_run hn)
      · cases h

/-- What the run of a list of moves leads to is reached. -/
theorem Reaches.of_map_run {G : M.Guard} [∀ s i op c, Decidable (G s i op c)] {β : Type*}
    {ms : List (Move ι M.Choice)} {cfg : M.Config α} {f : M.Config α → β} {b : β}
    (h : (cfg.run G ms).map f = some b) :
  ∃ cfg', Reaches G cfg cfg' ∧ f cfg' = b
  := by
  obtain ⟨cfg', hrun, hf⟩ := Option.map_eq_some_iff.mp h
  exact ⟨cfg', .of_run hrun, hf⟩

/-- What a move does: it answers the next call of one thread, or it drops one thread. -/
theorem Config.step_cases {cfg cfg' : M.Config α} {m : Move ι M.Choice}
    (h : cfg.step m = some cfg') :
  (∃ i c op k r, m = .call i c ∧ cfg.threads i = some (.call op k)
      ∧ M.answer i op c cfg.state = some (r, cfg'.state)
      ∧ cfg'.threads = Function.update cfg.threads i (some (k r)))
    ∨ ∃ i, m = .drop i ∧ cfg'.state = M.drop i cfg.state
      ∧ cfg'.threads = Function.update cfg.threads i none
  := by
  cases m with
  | call i c =>
      simp only [step] at h
      split at h
      · rename_i op k hk
        split at h
        · rename_i r s hr
          obtain rfl := Option.some.inj h
          exact .inl ⟨i, c, op, k, r, rfl, hk, hr, rfl⟩
        · cases h
      · cases h
  | drop i =>
      simp only [step] at h
      split at h
      · obtain rfl := Option.some.inj h
        exact .inr ⟨i, rfl, rfl, rfl⟩
      · cases h

/-! ### The journal -/

/-- An entry of a journal: a call with its answer, or the end of a thread. -/
inductive Entry (S : Signature.{u}) (ε ι : Type u) where
  | call (i : ι) (op : S.Op) (r : Except ε (S.Ans op))
  | drop (i : ι)

/-- A state with the journal of the calls that led to it, the latest first. -/
structure Journaled (σ : Type u) (S : Signature.{u}) (ε ι : Type u) where
  base : σ
  journal : List (Entry S ε ι)

/-- The machine that keeps a journal of its calls beside the state of `M`. -/
abbrev journaled (M : Machine S ε ι) : Machine S ε ι where
  State := Journaled M.State S ε ι
  Choice := M.Choice
  answer i op c s := (M.answer i op c s.base).map fun (r, b) => (r, ⟨b, .call i op r :: s.journal⟩)
  drop i s := ⟨M.drop i s.base, .drop i :: s.journal⟩

omit [DecidableEq ι] in
/-- A call of the journaled machine is a call of the machine, and its entry is on the journal. -/
theorem journaled_answer {i : ι} {op : S.Op} {c : M.Choice} {s s' : M.journaled.State}
    {r : Except ε (S.Ans op)} (h : M.journaled.answer i op c s = some (r, s')) :
  M.answer i op c s.base = some (r, s'.base) ∧ s'.journal = .call i op r :: s.journal
  := by
  obtain ⟨⟨r', b⟩, ha, hb⟩ := Option.map_eq_some_iff.mp h
  cases hb
  exact ⟨ha, rfl⟩

end Machine
