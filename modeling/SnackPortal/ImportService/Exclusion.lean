import SnackPortal.ImportService.Imported
import SnackPortal.Program.Discipline
import SnackPortal.Program.Recording

/-!
# One worker at a time

Calls of `start_import` that share an operation key, under the condition that a call finds the
operation unfinished only while no other call is at work on it.  A call is at work from then on
until it closes its session or is dropped.  The tables are then the worker's own: only its commits
change them, and the others have nothing under way.  What the committed tables satisfy is a
parameter, the law of the discipline.
-/

namespace ImportService

open Machine TenantDatabase

/-! ### Work on an operation -/

/-- The operation has no row that says it is applied. -/
def unfinished (idem : Option IdempotencyRow) : Bool :=
  idem.all fun row => row.status ≠ "applied"

/-- The event is a read that found the operation unfinished. -/
def findsUnfinished (k : String) : Event tenantSignature ServiceError → Bool
  | ⟨.getIdempotency k', .ok idem⟩ => k' = k && unfinished idem
  | _ => false

/-- The event is the end of a session. -/
def closes : Event tenantSignature ServiceError → Bool
  | ⟨.close, _⟩ => true
  | _ => false

/-- The event is a read of a source. -/
def readsSource : Event tenantSignature ServiceError → Bool
  | ⟨.readSource _ _, _⟩ => true
  | _ => false

section Working

variable {ι : Type} [DecidableEq ι] {k : String} {i j : ι}
  {js : List (Entry tenantSignature ServiceError ι)}

/-- The entry is the end of the thread. -/
def isDrop (i : ι) : Entry tenantSignature ServiceError ι → Bool
  | .drop j => j = i
  | .call _ _ _ => false

/-- The thread is at work on the operation. -/
def working (k : String) (js : List (Entry tenantSignature ServiceError ι)) (i : ι) : Bool :=
  (historyOf i js).any (findsUnfinished k) && !(historyOf i js).any closes && !js.any (isDrop i)

theorem history_call_self {op : TenantOp} {r : Except ServiceError op.Ans} :
  historyOf i (.call i op r :: js) = ⟨op, r⟩ :: historyOf i js
  := if_pos rfl

theorem history_call_of_ne {op : TenantOp} {r : Except ServiceError op.Ans} (h : j ≠ i) :
  historyOf j (.call i op r :: js) = historyOf j js
  := if_neg h.symm

theorem working_call_of_ne {op : TenantOp} {r : Except ServiceError op.Ans} (h : j ≠ i) :
  working k (.call i op r :: js) j = working k js j
  := by
  rw [working, history_call_of_ne h]
  simp [working, isDrop]

theorem working_drop_of_ne (h : j ≠ i) :
  working k (.drop i :: js) j = working k js j
  := by
  have hdrop : decide (i = j) = false := decide_eq_false (Ne.symm h)
  simp [working, isDrop, historyOf, hdrop]

theorem working_drop_self :
  working k (.drop i :: js) i = false
  := by
  simp [working, isDrop]

/-- A thread stays at work until it closes its session. -/
theorem working_call {op : TenantOp} {r : Except ServiceError op.Ans} (h : working k js i = true)
    (hop : op ≠ .close) :
  working k (.call i op r :: js) i = true
  := by
  rw [working, Bool.and_eq_true, Bool.and_eq_true] at h
  obtain ⟨⟨hbegan, hopen⟩, hlive⟩ := h
  have hcloses : closes ⟨op, r⟩ = false := by
    cases op with
    | close => exact absurd rfl hop
    | _ => rfl
  rw [working, history_call_self, List.any_cons, List.any_cons,
    List.any_cons, hbegan, hcloses, Bool.or_true, Bool.false_or, hopen]
  apply hlive

theorem working_close {r : Except ServiceError (TenantOp.Ans .close)} :
  working k (.call i .close r :: js) i = false
  := by
  rw [working, history_call_self]
  simp [closes]

/-- A thread starts to work with a read that finds the operation unfinished. -/
theorem working_of_call {op : TenantOp} {r : Except ServiceError op.Ans}
    (h : working k (.call i op r :: js) i = true) :
  working k js i = true ∨ findsUnfinished k ⟨op, r⟩ = true
  := by
  rw [working, history_call_self, List.any_cons, List.any_cons,
    List.any_cons, Bool.and_eq_true, Bool.and_eq_true, Bool.or_eq_true] at h
  obtain ⟨⟨hbegan, hopen⟩, hlive⟩ := h
  rcases hbegan with hbegan | hbegan
  · exact .inr hbegan
  · left
    rw [working, hbegan]
    simp only [isDrop, Bool.false_or] at hlive
    rw [Bool.not_or, Bool.and_eq_true] at hopen
    rw [hopen.2, hlive]
    rfl

/-- What the read of a thread that starts to work is. -/
theorem findsUnfinished_iff {e : Event tenantSignature ServiceError} :
  findsUnfinished k e = true ↔ ∃ idem : Option IdempotencyRow,
    e = ⟨.getIdempotency k, .ok idem⟩ ∧ unfinished idem = true
  := by
  constructor
  · intro h
    obtain ⟨op, r⟩ := e
    cases op with
    | getIdempotency k' =>
        cases r with
        | ok idem =>
            rw [findsUnfinished, Bool.and_eq_true] at h
            obtain rfl := of_decide_eq_true h.1
            use idem, rfl, h.2
        | error e => cases h
    | _ => cases h
  · intro ⟨idem, he, hidem⟩
    subst he
    rw [findsUnfinished, hidem, decide_eq_true rfl]
    rfl

end Working

/-! ### The discipline -/

/-- What a database holds for good: its tables, and the changes that led to them. -/
structure Durable where
  tables : Tables
  changes : List Change

namespace Durable

variable (v : Durable)

/-- What it holds after a transaction. -/
def after (ws : List Change) : Durable :=
  ⟨tenantSchema.applyAll ws v.tables, v.changes ++ ws⟩

@[simp] theorem after_nil :
  v.after [] = v
  := by
  rw [after, List.append_nil]
  rfl

theorem after_after (ws ws' : List Change) :
  (v.after ws).after ws' = v.after (ws ++ ws')
  := by
  rw [after, after, after, Schema.applyAll_append, List.append_assoc]

end Durable

/-- A condition on what the database holds and the ids that were handed out.  The jobs of its
checkpoints have ids that were handed out. -/
structure ImportLaw where
  holds : Durable → List String → Prop
  mono : ∀ {v issued} (a : String), holds v issued → holds v (a :: issued)
  fresh : ∀ {v issued}, holds v issued → ∀ cp ∈ v.tables.checkpoints, cp.jobId ∈ issued

section Exclusion

variable {chainKey : String} {ι : Type} [DecidableEq ι]

/-- The machine of a tenant database that keeps a journal. -/
abbrev importMachine (chainKey : String) (ι : Type) [DecidableEq ι] :
    Machine tenantSignature ServiceError ι :=
  (tenantDatabase chainKey ι).journaled

/-- What the database of a state holds for good. -/
def durable (s : (importMachine chainKey ι).State) : Durable :=
  ⟨s.base.db.committed, s.base.db.changes⟩

/-- A read finds the operation unfinished only while no other thread is at work on it. -/
def Serial (chainKey : String) (ι : Type) [DecidableEq ι] (k : String) :
    (importMachine chainKey ι).Guard :=
  fun s i op c => op = .getIdempotency k → c.fault = false →
    unfinished ((s.base.view i).idempotency.lookup k) = true →
    ∀ j, j ≠ i → working k s.journal j = false

/-- The operation stays applied. -/
def StaysApplied (k : String) (d d' : Tables) : Prop :=
  unfinished (d.idempotency.lookup k) = false →
    d'.idempotency.lookup k = d.idempotency.lookup k

theorem StaysApplied.refl {k : String} {d : Tables} :
  StaysApplied k d d
  := fun _ => rfl

theorem StaysApplied.trans {k : String} {d d' d'' : Tables} (h : StaysApplied k d d')
    (h' : StaysApplied k d' d'') :
  StaysApplied k d d''
  := by
  intro happlied
  have hd := h happlied
  have hd' := h' (by rw [hd, happlied])
  rw [hd', hd]

/-- What only the thread itself changes: its history, its end, its changes under way, and, while
it is at work or alone, what the database holds for good. -/
structure Own where
  history : List (Event tenantSignature ServiceError)
  dropped : Bool
  pending : List Change
  held : Set Durable

/-- The thread is at work, or there are no others. -/
def Exclusive (k : String) (s : (importMachine chainKey ι).State) (i : ι) : Prop :=
  working k s.journal i = true ∨ ∀ j, j = i

/-- One worker at a time: no two threads are at work, those that are not have nothing under way,
and what the database holds for good satisfies the law. -/
structure Orderly (k : String) (law : ImportLaw) (s : (importMachine chainKey ι).State) :
    Prop where
  alone : ∀ i j, working k s.journal i = true → working k s.journal j = true → i = j
  idle : ∀ i, working k s.journal i = false → s.base.db.pending i = []
  lawful : law.holds (durable s) s.base.issued

/-- How the database develops: the journal and the ids that were handed out grow, and the
operation stays applied. -/
structure Develops (k : String) (s s' : (importMachine chainKey ι).State) : Prop where
  journal : s.journal <:+ s'.journal
  issued : s.base.issued ⊆ s'.base.issued
  applied : StaysApplied k s.base.db.committed s'.base.db.committed

/-- What belongs to a thread. -/
def ownOf (k : String) (i : ι) (s : (importMachine chainKey ι).State) : Own where
  history := historyOf i s.journal
  dropped := s.journal.any (isDrop i)
  pending := s.base.db.pending i
  held := {v | Exclusive k s i ∧ v = durable s}

theorem working_eq_of_own {k : String} {i : ι} {s s' : (importMachine chainKey ι).State}
    (h : ownOf k i s' = ownOf k i s) :
  working k s'.journal i = working k s.journal i
  := by
  have hhistory : historyOf i s'.journal = historyOf i s.journal := congrArg Own.history h
  have hdropped : s'.journal.any (isDrop i) = s.journal.any (isDrop i) := congrArg Own.dropped h
  rw [working, working, hhistory, hdropped]

/-- What a thread that is at work or alone knows of the database. -/
theorem durable_eq_of_own {k : String} {i : ι} {s s' : (importMachine chainKey ι).State}
    (hexclusive : Exclusive k s i) (h : ownOf k i s' = ownOf k i s) :
  durable s' = durable s
  := by
  have hheld : (ownOf k i s').held = (ownOf k i s).held := congrArg Own.held h
  have hmem : durable s ∈ (ownOf k i s).held := ⟨hexclusive, rfl⟩
  rw [← hheld] at hmem
  apply hmem.2.symm

/-! ### What a call does to it -/

section Answers

variable {k : String} {law : ImportLaw} {i : ι} {op : TenantOp} {c : TenantChoice}
  {r : Except ServiceError op.Ans} {s s' : (importMachine chainKey ι).State}

/-- Only a commit changes what the database holds for good. -/
theorem durable_of_answer (ha : (importMachine chainKey ι).answer i op c s = some (r, s')) :
  durable s' = durable s
    ∨ op = .commit ∧ durable s' = (durable s).after (s.base.db.pending i)
  := by
  obtain ⟨hbase, -⟩ := journaled_answer ha
  rcases (effect_of_answer hbase).committed with ⟨hcommitted, hcommits⟩ | ⟨hop, hdb⟩
  · left
    rw [durable, durable, hcommitted, Database.changes, Database.changes, hcommits]
  · right
    use hop
    rw [durable, hdb, Database.changes_commit]
    rfl

/-- The ids that were handed out stay so. -/
theorem issued_subset (ha : (importMachine chainKey ι).answer i op c s = some (r, s')) :
  s.base.issued ⊆ s'.base.issued
  := by
  obtain ⟨hbase, -⟩ := journaled_answer ha
  rcases issued_of_answer hbase with hissued | ⟨a, hissued⟩
  · rw [hissued]
    exact fun _ ha => ha
  · rw [hissued]
    exact fun _ ha => List.mem_cons_of_mem _ ha

/-- The law does not depend on which further ids were handed out. -/
theorem lawful_of_answer (ha : (importMachine chainKey ι).answer i op c s = some (r, s'))
    {v : Durable} (hlaw : law.holds v s.base.issued) :
  law.holds v s'.base.issued
  := by
  obtain ⟨hbase, -⟩ := journaled_answer ha
  rcases issued_of_answer hbase with hissued | ⟨a, hissued⟩
  · rw [hissued]
    apply hlaw
  · rw [hissued]
    apply law.mono a hlaw

theorem journal_of_answer (ha : (importMachine chainKey ι).answer i op c s = some (r, s')) :
  s'.journal = .call i op r :: s.journal
  := (journaled_answer ha).2

theorem pending_of_answer (ha : (importMachine chainKey ι).answer i op c s = some (r, s'))
    {j : ι} (hj : j ≠ i) :
  s'.base.db.pending j = s.base.db.pending j
  := (effect_of_answer (journaled_answer ha).1).pending_of_ne hj

/-- A call that makes no changes adds none. -/
theorem pending_of_makes_none (ha : (importMachine chainKey ι).answer i op c s = some (r, s'))
    (hop : ∀ w, ¬ op.Makes w) (hpending : s.base.db.pending i = []) :
  s'.base.db.pending i = []
  := by
  rcases (effect_of_answer (journaled_answer ha).1).pending_self with h | h | ⟨w, hw, -⟩
  · rw [h, hpending]
  · apply h
  · exact absurd hw (hop w)

end Answers

/-! ### The discipline -/

/-- One worker at a time, as a discipline. -/
def exclusion (k : String) (law : ImportLaw) (guard : (importMachine chainKey ι).Guard) :
    Discipline (importMachine chainKey ι) where
  guard s i op c := Serial chainKey ι k s i op c ∧ guard s i op c
  inv := Orderly k law
  evolve := Develops k
  Own := Own
  own := ownOf k
  evolve_refl s := ⟨List.suffix_refl _, fun _ ha => ha, StaysApplied.refl⟩
  evolve_trans h h' :=
    ⟨h.journal.trans h'.journal, fun _ ha => h'.issued (h.issued ha), h.applied.trans h'.applied⟩
  drop_inv i s h := by
    have hworking : ∀ j, working k (.drop i :: s.journal) j = true →
        working k s.journal j = true ∧ j ≠ i := by
      intro j hj
      by_cases hji : j = i
      · subst hji
        rw [working_drop_self] at hj
        cases hj
      · rw [working_drop_of_ne hji] at hj
        exact ⟨hj, hji⟩
    constructor
    · intro j j' hj hj'
      apply h.alone j j' (hworking j hj).1 (hworking j' hj').1
    · intro j hj
      by_cases hji : j = i
      · subst hji
        apply Function.update_self
      · change Function.update _ _ _ _ = _
        rw [Function.update_of_ne hji]
        apply h.idle j
        rw [← working_drop_of_ne hji]
        apply hj
    · apply h.lawful
  drop_evolve i s _ := ⟨List.suffix_cons _ _, fun _ ha => ha, StaysApplied.refl⟩
  drop_own i j s _ hji := by
    have hworking : working k (.drop i :: s.journal) j = working k s.journal j :=
      working_drop_of_ne hji
    have hdrop : decide (i = j) = false := decide_eq_false (Ne.symm hji)
    have hpending : Function.update s.base.db.pending i [] j = s.base.db.pending j :=
      Function.update_of_ne hji _ _
    have hheld : {v | Exclusive k ((importMachine chainKey ι).drop i s) j ∧ v = durable s}
        = {v | Exclusive k s j ∧ v = durable s} := by
      ext v
      simp only [Exclusive, hworking]
    change Own.mk _ (decide (i = j) || _) _ _ = _
    rw [hdrop, Bool.false_or]
    change Own.mk _ _ (Function.update s.base.db.pending i [] j) _ = _
    rw [hpending]
    congr 1

section Steps

variable {k : String} {law : ImportLaw} {guard : (importMachine chainKey ι).Guard} {i : ι}
  {op : TenantOp} {c : TenantChoice} {r : Except ServiceError op.Ans}
  {s s' : (importMachine chainKey ι).State}

/-- What a call has to respect. -/
theorem steps_of_answer (hinv : Orderly k law s)
    (ha : (importMachine chainKey ι).answer i op c s = some (r, s'))
    (hdurable : durable s' = durable s ∨ working k s.journal i = true)
    (hlaw : law.holds (durable s') s'.base.issued)
    (happlied : StaysApplied k s.base.db.committed s'.base.db.committed)
    (halone : working k s'.journal i = true → ∀ j, j ≠ i → working k s.journal j = false)
    (hidle : working k s'.journal i = false → s'.base.db.pending i = []) :
  (exclusion k law guard).Steps i s s'
  := by
  have hjournal := journal_of_answer ha
  have hother : ∀ j, j ≠ i → working k s'.journal j = working k s.journal j := by
    intro j hj
    rw [hjournal, working_call_of_ne hj]
  have hsole : ∀ j, working k s'.journal j = true → working k s'.journal i = true → j = i := by
    intro j hj hi
    by_contra hne
    have hfalse := halone hi j hne
    rw [← hother j hne, hj] at hfalse
    cases hfalse
  constructor
  · constructor
    · intro j j' hj hj'
      by_cases hji : j = i
      · subst hji
        exact (hsole j' hj' hj).symm
      · by_cases hji' : j' = i
        · subst hji'
          exact hsole j hj hj'
        · rw [hother j hji] at hj
          rw [hother j' hji'] at hj'
          apply hinv.alone j j' hj hj'
    · intro j hj
      by_cases hji : j = i
      · subst hji
        apply hidle hj
      · rw [pending_of_answer ha hji]
        rw [hother j hji] at hj
        apply hinv.idle j hj
    · apply hlaw
  · refine ⟨?_, issued_subset ha, happlied⟩
    rw [hjournal]
    apply List.suffix_cons
  · intro j hji
    have hhistory : historyOf j s'.journal = historyOf j s.journal := by
      rw [hjournal]
      exact history_call_of_ne hji
    have hdropped : s'.journal.any (isDrop j) = s.journal.any (isDrop j) := by
      rw [hjournal, List.any_cons]
      rfl
    have hheld : {v | Exclusive k s' j ∧ v = durable s'}
        = {v | Exclusive k s j ∧ v = durable s} := by
      have hexclusive : Exclusive k s' j ↔ Exclusive k s j := by
        rw [Exclusive, Exclusive, hother j hji]
      ext v
      rcases hdurable with hsame | hwork
      · simp only [hexclusive, hsame]
      · have hnot : ¬ Exclusive k s j := by
          rintro (hj | hlone)
          · exact hji (hinv.alone j i hj hwork)
          · exact hji (hlone i).symm
        simp only [Set.mem_ofPred_eq, hexclusive, hnot, false_and]
    change Own.mk _ _ _ _ = Own.mk _ _ _ _
    rw [hhistory, hdropped, pending_of_answer ha hji, hheld]

/-- A thread at work may make any call but a commit. -/
theorem steps_working (guard : (importMachine chainKey ι).Guard) (hinv : Orderly k law s)
    (hwork : working k s.journal i = true)
    (ha : (importMachine chainKey ι).answer i op c s = some (r, s')) (hop : op ≠ .commit) :
  (exclusion k law guard).Steps i s s'
  := by
  have hsame : durable s' = durable s := by
    rcases durable_of_answer ha with h | ⟨h, -⟩
    · apply h
    · exact absurd h hop
  apply steps_of_answer hinv ha (.inl hsame)
  · rw [hsame]
    apply lawful_of_answer ha hinv.lawful
  · have hcommitted : s'.base.db.committed = s.base.db.committed := congrArg Durable.tables hsame
    rw [hcommitted]
    apply StaysApplied.refl
  · intro _ j hj
    by_contra hjwork
    apply hj
    apply hinv.alone j i (by simpa using hjwork) hwork
  · intro hidle
    rw [journal_of_answer ha] at hidle
    by_cases hclose : op = .close
    · subst hclose
      apply pending_of_ending rfl (journaled_answer ha).1
    · rw [working_call hwork hclose] at hidle
      cases hidle

/-- A thread at work may commit what the law admits. -/
theorem steps_commit {r : Except ServiceError (TenantOp.Ans .commit)} (hinv : Orderly k law s)
    (hwork : working k s.journal i = true)
    (ha : (importMachine chainKey ι).answer i .commit c s = some (r, s'))
    (hlaw : law.holds ((durable s).after (s.base.db.pending i)) s.base.issued)
    (happlied : StaysApplied k (durable s).tables
      ((durable s).after (s.base.db.pending i)).tables) :
  (exclusion k law guard).Steps i s s'
  := by
  apply steps_of_answer hinv ha (.inr hwork)
  · apply lawful_of_answer ha
    rcases durable_of_answer ha with h | ⟨-, h⟩
    · rw [h]
      apply hinv.lawful
    · rw [h]
      apply hlaw
  · rcases durable_of_answer ha with h | ⟨-, h⟩
    · have hcommitted : s'.base.db.committed = s.base.db.committed := congrArg Durable.tables h
      rw [hcommitted]
      apply StaysApplied.refl
    · have hcommitted : s'.base.db.committed = _ := congrArg Durable.tables h
      rw [hcommitted]
      apply happlied
  · intro _ j hj
    by_contra hjwork
    apply hj
    apply hinv.alone j i (by simpa using hjwork) hwork
  · intro _
    apply pending_of_ending rfl (journaled_answer ha).1

/-- A thread that is not at work may read, end its transactions and call other ports; it stays
so, unless it finds the operation unfinished. -/
theorem steps_idle (guard : (importMachine chainKey ι).Guard) (hinv : Orderly k law s)
    (hidle : working k s.journal i = false)
    (ha : (importMachine chainKey ι).answer i op c s = some (r, s'))
    (hop : ∀ w, ¬ op.Makes w)
    (hserial : findsUnfinished k ⟨op, r⟩ = true → ∀ j, j ≠ i → working k s.journal j = false) :
  (exclusion k law guard).Steps i s s' ∧ durable s' = durable s
    ∧ s'.base.db.pending i = []
  := by
  have hpending : s.base.db.pending i = [] := hinv.idle i hidle
  have hsame : durable s' = durable s := by
    rcases durable_of_answer ha with h | ⟨-, h⟩
    · apply h
    · rw [h, hpending, Durable.after_nil]
  have hpending' := pending_of_makes_none ha hop hpending
  refine ⟨?_, hsame, hpending'⟩
  apply steps_of_answer hinv ha (.inl hsame)
  · rw [hsame]
    apply lawful_of_answer ha hinv.lawful
  · have hcommitted : s'.base.db.committed = s.base.db.committed := congrArg Durable.tables hsame
    rw [hcommitted]
    apply StaysApplied.refl
  · intro hwork j hj
    rw [journal_of_answer ha] at hwork
    rcases working_of_call hwork with h | h
    · rw [hidle] at h
      cases h
    · apply hserial h j hj
  · intro _
    apply hpending'

end Steps

end Exclusion

end ImportService
