import SnackPortal.TenantDatabase.Ports
import SnackPortal.Program.Discipline

/-!
# What a session commits

The commits of one session, followed along its program: they are always at some stage, whatever
the other sessions do, and what the session has under way is its own.  The tables that it reads
are those that the commits have made by then, and its own commits among them are known.
-/

namespace Database

variable {D W K ι : Type} [DecidableEq ι]

/-- What the session has committed, of these commits. -/
def own (i : ι) (commits : List (ι × List W)) : List (List W) :=
  (commits.filter fun c => c.1 = i).map Prod.snd

/-- The commits of the session, the latest first. -/
def commitsOf (db : Database D W K ι) (i : ι) : List (List W) :=
  own i db.commits

variable {schema : Schema D W K} {db : Database D W K ι}

theorem commitsOf_commit_self {i : ι} :
  (db.commit schema i).commitsOf i = db.pending i :: db.commitsOf i
  := by
  simp [commitsOf, commit, own]

theorem commitsOf_commit_of_ne {i j : ι} (hj : j ≠ i) :
  (db.commit schema i).commitsOf j = db.commitsOf j
  := by
  simp [commitsOf, commit, own, hj.symm]

/-- The committed state is what the commits so far make of `d`. -/
def AppliedTo (schema : Schema D W K) (d : D) (db : Database D W K ι) : Prop :=
  db.committed = schema.applyAll db.changes d

theorem AppliedTo.commit {d : D} (h : db.AppliedTo schema d) (i : ι) :
  (db.commit schema i).AppliedTo schema d
  := by
  have hview : (db.commit schema i).committed = schema.applyAll (db.pending i) db.committed := rfl
  rw [AppliedTo, changes_commit, Schema.applyAll_append, ← h, hview]

end Database

namespace TenantDatabase

open Machine Discipline

/-! ### The discipline of one session -/

/-- The tables that the session can see between its commits `cs` and its next one: what some of
the commits, the first ones, have made of `d₀`. -/
def Seen {ι : Type} [DecidableEq ι] (d₀ : Tables) (i : ι) (all : List (ι × List Change))
    (cs : List (List Change)) (d : Tables) : Prop :=
  ∃ past, past <:+ all ∧ Database.own i past = cs
    ∧ d = tenantSchema.applyAll (past.map Prod.snd).reverse.flatten d₀

theorem Seen.mono {ι : Type} [DecidableEq ι] {d₀ d : Tables} {i : ι}
    {all all' : List (ι × List Change)} {cs : List (List Change)} (h : Seen d₀ i all cs d)
    (hall : all <:+ all') :
  Seen d₀ i all' cs d
  := by
  obtain ⟨past, hpast, hown, hd⟩ := h
  exact ⟨past, hpast.trans hall, hown, hd⟩

/-- What is known of the commits of a session at a stage, by all commits so far and by its own;
later commits of other sessions do not matter. -/
structure Staging (ι σ : Type) where
  Holds : List (ι × List Change) → σ → List (List Change) → Prop
  mono : ∀ {all all' : List (ι × List Change)} {stage : σ} {cs : List (List Change)},
    all <:+ all' → Holds all stage cs → Holds all' stage cs

section Calls

variable {chainKey : String} {ι σ : Type} [DecidableEq ι] {d₀ : Tables} {C : Staging ι σ} {i : ι}

/-- The commits of the session `i` are always at some stage; the other sessions do not touch
what it has under way. -/
def committing (chainKey : String) (d₀ : Tables) (C : Staging ι σ) (i : ι) :
    Discipline (tenantDatabase chainKey ι) where
  guard := anyCall _
  inv s := s.db.AppliedTo tenantSchema d₀ ∧ ∃ stage, C.Holds s.db.commits stage (s.db.commitsOf i)
  evolve s s' := s.db.commits <:+ s'.db.commits
  Own := List Change × List (List Change)
  own j s := (s.db.pending j, s.db.commitsOf j)
  evolve_refl _ := List.suffix_rfl
  evolve_trans h h' := h.trans h'
  drop_inv _ _ h := h
  drop_evolve _ _ _ := List.suffix_rfl
  drop_own j k s _ hk := by
    have hpending : (TenantState.rollback s j).db.pending k = s.db.pending k :=
      Function.update_of_ne hk _ _
    rw [← hpending]
    rfl

/-- The session is at the stage with its commits, and `ws` is under way. -/
def Reached (C : Staging ι σ) (i : ι) (stage : σ) (ws : List Change) (s : TenantState ι) : Prop :=
  C.Holds s.db.commits stage (s.db.commitsOf i) ∧ s.db.pending i = ws

theorem Reached.stable {stage : σ} {ws : List Change} :
  (committing chainKey d₀ C i).Stable i (Reached C i stage ws)
  := by
  intro s s' hsees ⟨hcommits, hpending⟩
  obtain ⟨hp, hc⟩ := Prod.mk.inj hsees.own
  constructor
  · rw [hc]
    apply C.mono hsees.evolve hcommits
  · rw [hp, hpending]

/-- The session is at the stage, whatever is under way. -/
def Stuck (C : Staging ι σ) (i : ι) (stage : σ) (_ : ServiceError) (s : TenantState ι) : Prop :=
  ∃ ws, Reached C i stage ws s

theorem Stuck.stable {stage : σ} (e : ServiceError) :
  (committing chainKey d₀ C i).Stable i (Stuck C i stage e)
  := by
  intro s s' hsees ⟨ws, h⟩
  exact ⟨ws, Reached.stable s s' hsees h⟩

/-- A call of any session keeps what the other sessions own. -/
theorem own_of_answer {s s' : TenantState ι} {j k : ι} {op : TenantOp} {c : TenantChoice}
    {r : Except ServiceError op.Ans} (hk : k ≠ j)
    (ha : (tenantDatabase chainKey ι).answer j op c s = some (r, s')) :
  s'.db.pending k = s.db.pending k ∧ s'.db.commitsOf k = s.db.commitsOf k
  := by
  have heffect := effect_of_answer ha
  use heffect.pending_of_ne hk
  rcases heffect.committed with ⟨-, hcommits⟩ | ⟨-, hdb⟩
  · rw [Database.commitsOf, hcommits, Database.commitsOf]
  · rw [hdb, Database.commitsOf_commit_of_ne hk]

/-- A call but a commit adds no commits. -/
theorem commits_of_answer {s s' : TenantState ι} {j : ι} {op : TenantOp} {c : TenantChoice}
    {r : Except ServiceError op.Ans} (hop : op ≠ .commit)
    (ha : (tenantDatabase chainKey ι).answer j op c s = some (r, s')) :
  s'.db.commits = s.db.commits
  := by
  rcases (effect_of_answer ha).committed with ⟨-, hcommits⟩ | ⟨hcommit, -⟩
  · apply hcommits
  · exact absurd hcommit hop

/-- The commits stay, and the committed state is what they make of the first one. -/
theorem appliedTo_of_answer {s s' : TenantState ι} {j : ι} {op : TenantOp} {c : TenantChoice}
    {r : Except ServiceError op.Ans} (happlied : s.db.AppliedTo tenantSchema d₀)
    (ha : (tenantDatabase chainKey ι).answer j op c s = some (r, s')) :
  s'.db.AppliedTo tenantSchema d₀ ∧ s.db.commits <:+ s'.db.commits
  := by
  rcases (effect_of_answer ha).committed with ⟨hcommitted, hcommits⟩ | ⟨-, hdb⟩
  · rw [Database.AppliedTo, Database.changes, hcommits, hcommitted]
    exact ⟨happlied, List.suffix_rfl⟩
  · rw [hdb]
    exact ⟨happlied.commit j, List.suffix_cons _ _⟩

/-- A call that keeps the session at a stage keeps the discipline. -/
theorem committing_steps {s s' : TenantState ι} {j : ι} {op : TenantOp} {c : TenantChoice}
    {r : Except ServiceError op.Ans} (happlied : s.db.AppliedTo tenantSchema d₀)
    (ha : (tenantDatabase chainKey ι).answer j op c s = some (r, s'))
    (hstage : ∃ stage, C.Holds s'.db.commits stage (s'.db.commitsOf i)) :
  (committing chainKey d₀ C i).Steps j s s'
  := by
  obtain ⟨happlied', hcommits⟩ := appliedTo_of_answer happlied ha
  refine ⟨⟨happlied', hstage⟩, hcommits, ?_⟩
  intro k hk
  obtain ⟨hpending, hown⟩ := own_of_answer hk ha
  exact Prod.ext hpending hown

/-- A call of the session but a commit, by what it leaves under way. -/
theorem committing_call (op : TenantOp) (hop : op ≠ .commit) {stage : σ} {ws : List Change}
    {Q : op.Ans → List Change → Prop}
    (h : ∀ (s s' : TenantState ι) c a, s.db.AppliedTo tenantSchema d₀ → s.db.pending i = ws →
      (tenantDatabase chainKey ι).answer i op c s = some (.ok a, s') →
      Q a (s'.db.pending i)) :
  (committing chainKey d₀ C i).Triple i (Reached C i stage ws) (perform op)
    (Ending (fun a s => ∃ ws', Q a ws' ∧ Reached C i stage ws' s) (Stuck C i stage))
  := by
  apply Triple.perform Reached.stable
  · rintro (e | a)
    · apply Stuck.stable e
    · intro s s' hsees ⟨ws', hq, hreached⟩
      exact ⟨ws', hq, Reached.stable s s' hsees hreached⟩
  · intro s c r s' hinv ⟨hcommits, hpending⟩ _ ha
    have hsame := commits_of_answer hop ha
    rw [Database.commitsOf, ← hsame] at hcommits
    use committing_steps hinv.1 ha ⟨stage, hcommits⟩
    cases r with
    | error e => exact ⟨_, hcommits, rfl⟩
    | ok a => exact ⟨_, h s s' c a hinv.1 hpending ha, hcommits, rfl⟩

/-- A call of the session that only reads. -/
theorem committing_read {op : TenantOp} (hop : op.reads = true) {stage : σ}
    {ws : List Change} :
  (committing chainKey d₀ C i).Triple i (Reached C i stage ws) (perform op)
    (Ending (fun _ => Reached C i stage ws) (Stuck C i stage))
  := by
  have hcommit : op ≠ .commit := by
    intro h
    rw [h] at hop
    cases hop
  apply Triple.adapt (committing_call op (Q := fun _ ws' => ws' = ws) hcommit ?_)
    (fun _ _ hp => hp) ?_ fun _ _ _ he => he
  · intro s s' c a _ hpending ha
    rw [db_of_reads hop ha, hpending]
  · rintro a s _ ⟨ws', rfl, hreached⟩
    apply hreached

/-- A change of the session. -/
theorem committing_write (op : TenantOp) {w : Change} (hw : op.Makes w)
    (hunique : ∀ w', op.Makes w' → w' = w) {stage : σ} {ws : List Change} :
  (committing chainKey d₀ C i).Triple i (Reached C i stage ws) (perform op)
    (Ending (fun _ => Reached C i stage (ws ++ [w])) (Stuck C i stage))
  := by
  have hcommit : op ≠ .commit := by
    intro h
    rw [h] at hw
    cases hw
  apply Triple.adapt (committing_call op (Q := fun _ ws' => ws' = ws ++ [w]) hcommit ?_)
    (fun _ _ hp => hp) ?_ fun _ _ _ he => he
  · intro s s' c a _ hpending ha
    obtain ⟨w', hw', hwrite⟩ := write_of_ok hw ha
    obtain rfl := hunique w' hw'
    obtain ⟨-, hdb⟩ := Database.write_eq_some hwrite
    rw [hdb, ← hpending]
    apply Function.update_self
  · rintro a s _ ⟨ws', rfl, hreached⟩
    apply hreached

/-- An explicit lock. -/
theorem committing_lock {op : TenantOp} (hop : op = .lockChain ∨ op = .lockImport) {stage : σ}
    {ws : List Change} :
  (committing chainKey d₀ C i).Triple i (Reached C i stage ws) (perform op)
    (Ending (fun _ => Reached C i stage ws) (Stuck C i stage))
  := by
  have hcommit : op ≠ .commit := by
    rcases hop with rfl | rfl
    · exact fun h => nomatch h
    · exact fun h => nomatch h
  apply Triple.adapt (committing_call op (Q := fun _ ws' => ws' = ws) hcommit ?_)
    (fun _ _ hp => hp) ?_ fun _ _ _ he => he
  · intro s s' c a _ hpending ha
    have hlock : ∃ k, s.db.lock i k = some s'.db := by
      rcases hop with rfl | rfl
      · obtain ⟨db, hdb, heq⟩ := Option.map_eq_some_iff.mp (answer_of_ok ha)
        obtain ⟨-, rfl⟩ := Prod.mk.inj heq
        exact ⟨_, hdb⟩
      · obtain ⟨db, hdb, heq⟩ := Option.map_eq_some_iff.mp (answer_of_ok ha)
        obtain ⟨-, rfl⟩ := Prod.mk.inj heq
        exact ⟨_, hdb⟩
    obtain ⟨k, hk⟩ := hlock
    obtain ⟨-, hdb⟩ := Database.lock_eq_some hk
    rw [hdb, ← hpending]
  · rintro a s _ ⟨ws', rfl, hreached⟩
    apply hreached

/-- A commit of the session takes it to the next stage; one that fails leaves it where it was. -/
theorem committing_commit {stage stage' : σ} {ws : List Change}
    (h : ∀ all cs, C.Holds all stage cs → C.Holds all stage' (ws :: cs)) :
  (committing chainKey d₀ C i).Triple i (Reached C i stage ws) (perform .commit)
    (Ending (fun _ => Reached C i stage' []) (Stuck C i stage))
  := by
  apply Triple.perform Reached.stable
  · rintro (e | a)
    · apply Stuck.stable e
    · apply Reached.stable
  · intro s c r s' hinv ⟨hcommits, hpending⟩ _ ha
    cases r with
    | error e =>
        have hdb : s'.db = s.db.rollback i := db_of_error ha
        have hcommits' : C.Holds s'.db.commits stage (s'.db.commitsOf i) := by
          rw [hdb]
          apply hcommits
        exact ⟨committing_steps hinv.1 ha ⟨stage, hcommits'⟩, _, hcommits', rfl⟩
    | ok a =>
        obtain ⟨-, hs⟩ := Prod.mk.inj (Option.some.inj (answer_of_ok ha))
        have hdb : s'.db = s.db.commit tenantSchema i := by
          rw [← hs]
        have hsuffix := (appliedTo_of_answer hinv.1 ha).2
        have hcommits' : C.Holds s'.db.commits stage' (s'.db.commitsOf i) := by
          rw [hdb, Database.commitsOf_commit_self, hpending, ← hdb]
          apply h _ _ (C.mono hsuffix hcommits)
        exact ⟨committing_steps hinv.1 ha ⟨stage', hcommits'⟩, hcommits', pending_of_ending rfl ha⟩

/-- A call of the session but a commit, where what is under way does not matter any more. -/
theorem committing_pass {op : TenantOp} (hop : op ≠ .commit) :
  (committing chainKey d₀ C i).Lawful i (perform op)
  := by
  apply Triple.perform Stable.true
  · rintro (e | a)
    · apply Stable.true
    · apply Stable.true
  · intro s c r s' ⟨happlied, stage, hcommits⟩ _ _ ha
    rw [Database.commitsOf, ← commits_of_answer hop ha] at hcommits
    use committing_steps happlied ha ⟨stage, hcommits⟩
    cases r with
    | error e => trivial
    | ok a => trivial

/-- Whatever is called, the committed state is what the commits make of the first one. -/
theorem appliedTo_of_reaches {α : Type} {cfg₀ cfg : (tenantDatabase chainKey ι).Config α}
    (hstart : cfg₀.state.db = Database.quiet d₀)
    (hreach : Reaches (anyCall (tenantDatabase chainKey ι)) cfg₀ cfg) :
  cfg.state.db.AppliedTo tenantSchema d₀
  := by
  induction hreach with
  | start =>
      rw [hstart]
      rfl
  | @move cfg' cfg'' _ m _ hs ih =>
      rcases Config.step_cases hs with ⟨j, c, op, k, r, -, -, ha, -⟩ | ⟨j, -, hstate, -⟩
      · apply (appliedTo_of_answer ih ha).1
      · rw [hstate]
        apply ih

/-- The other sessions may do anything. -/
theorem committing_others {α : Type} {j : ι} (hj : i ≠ j) (x : TenantProgram α) :
  (committing chainKey d₀ C i).Lawful j x
  := by
  induction x with
  | ret r => exact fun _ _ _ _ _ => by cases r <;> trivial
  | call op k ih =>
      intro s _ _ s' hsees c r s'' _ ha
      obtain ⟨happlied, stage, hcommits⟩ := hsees.inv
      have hsuffix := (appliedTo_of_answer happlied ha).2
      have hstage : ∃ stage, C.Holds s''.db.commits stage (s''.db.commitsOf i) := by
        rw [(own_of_answer hj ha).2]
        exact ⟨stage, C.mono hsuffix hcommits⟩
      have hsteps := committing_steps happlied ha hstage
      exact ⟨hsteps, ih r s'' hsteps.inv trivial⟩

end Calls

end TenantDatabase
