import SnackPortal.Data.Dictionary
import SnackPortal.Program.Discipline

/-!
# Read-through caches

A bounded cache with expiry before a slow read, used by many threads at once.  A query is
looked up under its key; where nothing is found the value is read and then stored; an
invalidation takes away the entries it matches and then returns.  Every call on the cache is a
move of its own, and so are the start and the end of a read, so any other thread may run in
between.  Each value carries what is said about it: the query it was read for, how many
invalidations of the query had returned when its read started, and when the read completed.

`freshness` is the discipline under which a value that is found is as fresh as one that is read
(`fetch_serves`): a value is stored only while no invalidation has returned since its read
started, and an invalidation returns only where nothing that it matches is cached.
-/

namespace ReadThrough

/-- A value with the query it was read for, the invalidations of the query that had returned
when its read started, and the time at which the read completed. -/
structure Loaded (α V : Type) where
  query : α
  value : V
  started : Nat
  completed : Int
deriving DecidableEq, Repr

/-- A cached value, when it was stored and until when it is served. -/
structure Entry (α V : Type) where
  loaded : Loaded α V
  storedAt : Int
  expiresAt : Int
deriving DecidableEq, Repr

/-- The calls.  `begin` marks the beginning of a query and `invalidated` the return of an
invalidation. -/
inductive CacheOp (α κ τ V : Type) where
  | begin (q : α)
  | lookup (q : α)
  | clock
  | size
  | contains (q : α)
  | oldest
  | remove (k : κ)
  | store (e : Entry α V)
  | start (q : α)
  | load (q : α) (started : Nat)
  | keysOf (t : τ)
  | invalidated (t : τ)
deriving DecidableEq

/-- The call stores a value. -/
def CacheOp.stores {α κ τ V : Type} : CacheOp α κ τ V → Bool
  | .store _ => true
  | _ => false

/-- The type of the answers to a call. -/
abbrev CacheOp.Ans {α κ τ V : Type} : CacheOp α κ τ V → Type
  | .begin _ => Nat
  | .lookup _ => Option (Entry α V)
  | .clock => Int
  | .size => Nat
  | .contains _ => Bool
  | .oldest => κ
  | .remove _ => Unit
  | .store _ => Unit
  | .start _ => Nat
  | .load _ _ => Option (Loaded α V)
  | .keysOf _ => List κ
  | .invalidated _ => Unit

/-- The signature of the cache. -/
abbrev cacheSignature (α κ τ V : Type) : Signature := ⟨CacheOp α κ τ V, CacheOp.Ans⟩

/-- What a cache is made for: its bound, the time it serves a value, the key of a query, the
invalidations a query falls under, and the keys an invalidation matches. -/
structure Setup (α κ τ ε : Type) where
  maxEntries : Nat
  ttl : Int
  key : α → κ
  scope : α → Option τ
  affects : τ → κ → Bool
  /-- The exception of taking the oldest of no entries. -/
  exhausted : ε

/-- The entries, the one inserted first listed last, and for every scope the number of the
invalidations that have returned. -/
structure CacheState (α κ τ V : Type) where
  data : AList fun _ : κ => Entry α V
  generation : τ → Nat

/-- What a call leaves to the outside world: the clock, the answer of a read, and whether going
through the entries raises because another thread changes them. -/
structure CacheChoice (ε V : Type) where
  now : Int
  loaded : Except ε (Option V)
  changed : Option ε

namespace Setup

variable {α κ τ ε V : Type} [DecidableEq κ] [DecidableEq τ] (setup : Setup α κ τ ε)

/-- The number of the invalidations of a query that have returned. -/
def generationOf (s : CacheState α κ τ V) (q : α) : Nat :=
  ((setup.scope q).map s.generation).getD 0

/-- The answer to a call. -/
def answer (s : CacheState α κ τ V) (c : CacheChoice ε V) :
    (op : CacheOp α κ τ V) → Except ε op.Ans × CacheState α κ τ V
  | .begin q => (.ok (setup.generationOf s q), s)
  | .lookup q => (.ok (s.data.lookup (setup.key q)), s)
  | .clock => (.ok c.now, s)
  | .size => (.ok s.data.entries.length, s)
  | .contains q => (.ok (decide (setup.key q ∈ s.data)), s)
  | .oldest =>
      (match c.changed, s.data.entries.getLast? with
        | none, some e => .ok e.1
        | none, none => .error setup.exhausted
        | some e, _ => .error e, s)
  | .remove k => (.ok (), { s with data := s.data.erase k })
  | .store e =>
      (.ok (), { s with data := Dictionary.assign (setup.key e.loaded.query) e s.data })
  | .start q => (.ok (setup.generationOf s q), s)
  | .load q started =>
      (c.loaded.map fun value => value.map fun value => ⟨q, value, started, c.now⟩, s)
  | .keysOf t =>
      (match c.changed with
        | none => .ok (s.data.keys.filter (setup.affects t))
        | some e => .error e, s)
  | .invalidated t =>
      (.ok (), { s with generation := Function.update s.generation t (s.generation t + 1) })

/-- The cache as a machine for the threads of `ι`. -/
abbrev cache (ι V : Type) : Machine (cacheSignature α κ τ V) ε ι where
  State := CacheState α κ τ V
  Choice := CacheChoice ε V
  answer _ op c s := some (setup.answer s c op)
  drop _ s := s

/-! ### The programs -/

/-- One call of the cache. -/
def call (op : CacheOp α κ τ V) : Program (cacheSignature α κ τ V) ε op.Ans :=
  Program.perform (S := cacheSignature α κ τ V) op

/-- What is cached for a query and has not expired, with the time at which it was found. -/
def get (q : α) : Program (cacheSignature α κ τ V) ε (Option (Entry α V × Int)) := do
  match ← call (.lookup q) with
  | none => pure none
  | some e => do
      let now ← call .clock
      if now > e.expiresAt then do
        call (.remove (setup.key q))
        pure none
      else
        pure (some (e, now))

/-- Whether the value takes the place of another, where that is looked at. -/
def isSpared (spares : Bool) (q : α) : Program (cacheSignature α κ τ V) ε Bool :=
  if spares then call (.contains q) else pure false

/-- Where the cache is full, its oldest entry goes; `spares` where none goes for a value that
takes the place of another. -/
def makeRoom (spares : Bool) (q : α) : Program (cacheSignature α κ τ V) ε Unit := do
  if setup.maxEntries ≤ (← call .size) then do
    if ← isSpared spares q then
      pure ()
    else do
      let k ← call .oldest
      call (.remove k)
  else
    pure ()

/-- Cache a value; it expires after the time to live from now on. -/
def put (spares : Bool) (loaded : Loaded α V) : Program (cacheSignature α κ τ V) ε Unit := do
  setup.makeRoom spares loaded.query
  let now ← call .clock
  call (.store ⟨loaded, now, now + setup.ttl⟩)

/-- The slow read of a query. -/
def read (q : α) : Program (cacheSignature α κ τ V) ε (Option (Loaded α V)) := do
  let started ← call (.start q)
  call (.load q started)

/-- A value; where it was found in the cache, with its entry and the time. -/
structure Served (α V : Type) where
  loaded : Loaded α V
  found : Option (Entry α V × Int)

/-- The value of a query: the cached one, or the one that is read and then cached. -/
def fetch (spares : Bool) (q : α) :
    Program (cacheSignature α κ τ V) ε (Option (Served α V)) := do
  match ← setup.get q with
  | some (e, now) => pure (some ⟨e.loaded, some (e, now)⟩)
  | none => do
      match ← read q with
      | none => pure none
      | some loaded => do
          setup.put spares loaded
          pure (some ⟨loaded, none⟩)

/-! ### Freshness -/

section Freshness

variable (ι : Type) (timely : Entry α V → Prop) (G : (setup.cache ι V).Guard)

omit [DecidableEq κ] [DecidableEq τ] in
theorem generationOf_mono {s s' : CacheState α κ τ V} (h : ∀ t, s.generation t ≤ s'.generation t)
    (q : α) :
  setup.generationOf s q ≤ setup.generationOf s' q
  := by
  rw [generationOf, generationOf]
  cases setup.scope q with
  | none => apply Nat.le_refl
  | some t => apply h

/-- The cached value is under the key of its query, it expires in time, and its read started
after every invalidation of its query that has returned. -/
structure Fresh (s : CacheState α κ τ V) (k : κ) (e : Entry α V) : Prop where
  key : setup.key e.loaded.query = k
  timely : timely e
  started : setup.generationOf s e.loaded.query ≤ e.loaded.started

/-- The conditions under which the cache stays fresh: a value is stored in time and only while
no invalidation of its query has returned since its read started, an invalidation returns only
where no value of its queries is cached, and a lookup finds no value of another query. -/
structure Admits : Prop where
  store : ∀ s i e c, G s i (.store e) c → e.expiresAt = e.storedAt + setup.ttl →
    setup.generationOf s e.loaded.query ≤ e.loaded.started ∧ timely e
  invalidated : ∀ s i t c, G s i (.invalidated t) c → ∀ k e, s.data.lookup k = some e →
    setup.key e.loaded.query = k → setup.scope e.loaded.query ≠ some t
  lookup : ∀ s i q c e, G s i (.lookup q) c → s.data.lookup (setup.key q) = some e →
    setup.key e.loaded.query = setup.key q → e.loaded.query = q

/-- The discipline of a cache whose values stay fresh. -/
abbrev freshness : Discipline (setup.cache ι V) where
  guard := G
  inv s := ∀ k e, s.data.lookup k = some e → setup.Fresh timely s k e
  evolve s s' := ∀ t, s.generation t ≤ s'.generation t
  Own := Unit
  own _ _ := ()
  evolve_refl _ _ := Nat.le_refl _
  evolve_trans h h' t := Nat.le_trans (h t) (h' t)
  drop_inv _ _ h := h
  drop_evolve _ _ _ _ := Nat.le_refl _
  drop_own _ _ _ _ _ := rfl

variable {setup ι timely G}

omit [DecidableEq τ] in
/-- Fewer entries stay fresh. -/
theorem Fresh.of_data {s s' : CacheState α κ τ V}
    (h : ∀ k e, s.data.lookup k = some e → setup.Fresh timely s k e)
    (hgeneration : s'.generation = s.generation)
    (hdata : ∀ k e, s'.data.lookup k = some e → s.data.lookup k = some e) (k : κ) (e : Entry α V)
    (he : s'.data.lookup k = some e) :
  setup.Fresh timely s' k e
  := by
  obtain ⟨hkey, htimely, hstarted⟩ := h k e (hdata k e he)
  refine ⟨hkey, htimely, ?_⟩
  rwa [generationOf, hgeneration]

/-- Every call that the conditions admit keeps the cache fresh. -/
theorem answer_steps (hG : setup.Admits ι timely G) {i : ι} {op : CacheOp α κ τ V}
    {c : CacheChoice ε V} {s s' : CacheState α κ τ V} {r : Except ε op.Ans}
    (hinv : ∀ k e, s.data.lookup k = some e → setup.Fresh timely s k e) (hg : G s i op c)
    (hexpires : ∀ e, op = .store e → e.expiresAt = e.storedAt + setup.ttl)
    (ha : setup.answer s c op = (r, s')) :
  (setup.freshness ι timely G).Steps i s s'
  := by
  obtain ⟨_, rfl⟩ := Prod.mk.inj ha
  refine ⟨?_, ?_, fun _ _ => rfl⟩
  · cases op with
    | remove k =>
        exact Fresh.of_data hinv rfl fun _ _ he => Dictionary.lookup_of_erase he
    | store e =>
        intro k' e' he'
        rcases Dictionary.lookup_of_assign he' with ⟨rfl, rfl⟩ | hold
        · obtain ⟨hstarted, htimely⟩ := hG.store s i e' c hg (hexpires e' rfl)
          exact ⟨rfl, htimely, hstarted⟩
        · obtain ⟨hkey, htimely', hstarted⟩ := hinv k' e' hold
          exact ⟨hkey, htimely', hstarted⟩
    | invalidated t =>
        intro k e he
        obtain ⟨hkey, htimely', hstarted⟩ := hinv k e he
        refine ⟨hkey, htimely', ?_⟩
        have hscope := hG.invalidated s i t c hg k e he hkey
        apply Nat.le_trans (Nat.le_of_eq _) hstarted
        simp only [generationOf]
        cases hq : setup.scope e.loaded.query with
        | none => rfl
        | some t' =>
            have hne : t' ≠ t := by
              rintro rfl
              exact hscope hq
            simp only [Option.map_some, Option.getD_some]
            rw [Function.update_of_ne hne]
    | _ => exact hinv
  · cases op with
    | invalidated t =>
        intro t'
        change s.generation t' ≤ Function.update s.generation t (s.generation t + 1) t'
        by_cases ht : t' = t
        · subst ht
          rw [Function.update_self]
          apply Nat.le_succ
        · rw [Function.update_of_ne ht]
    | _ => exact fun _ => Nat.le_refl _

section Rules

open Discipline

variable {i : ι} (hG : setup.Admits ι timely G)

include hG

/-- One call that stores nothing: what is left is the postcondition. -/
theorem call_triple (op : CacheOp α κ τ V) (hop : op.stores = false)
    {P : CacheState α κ τ V → Prop} {Q : op.Ans → CacheState α κ τ V → Prop}
    (hP : (setup.freshness ι timely G).Stable i P)
    (hQ : ∀ a, (setup.freshness ι timely G).Stable i (Q a))
    (h : ∀ s c a, (∀ k e, s.data.lookup k = some e → setup.Fresh timely s k e) → P s →
      G s i op c → (setup.answer s c op).1 = .ok a → Q a (setup.answer s c op).2) :
  (setup.freshness ι timely G).Triple i P (call op) (Returns Q)
  := by
  apply Triple.perform (S := cacheSignature α κ τ V) hP
  · rintro (e | a)
    · exact fun _ _ _ _ => trivial
    · apply hQ
  · intro s c r s' hinv hp hg ha
    have hanswer := Option.some.inj ha
    constructor
    · apply answer_steps hG hinv hg _ hanswer
      rintro e rfl
      cases hop
    · cases r with
      | error e => trivial
      | ok a =>
          have hpost := h s c a hinv hp hg (congrArg Prod.fst hanswer)
          rwa [congrArg Prod.snd hanswer] at hpost

/-- A call that stores nothing and whose answer is not looked at. -/
theorem call_keeps (op : CacheOp α κ τ V) (hop : op.stores = false)
    {P : CacheState α κ τ V → Prop} (hP : (setup.freshness ι timely G).Stable i P)
    (h : ∀ s c, P s → P (setup.answer s c op).2) :
  (setup.freshness ι timely G).Triple i P (call op) (Returns fun _ => P)
  := call_triple hG op hop hP (fun _ => hP) fun s c _ _ hp _ _ => h s c hp

theorem makeRoom_lawful (spares : Bool) (q : α) :
  (setup.freshness ι timely G).Lawful i (setup.makeRoom spares q)
  := by
  have hcall : ∀ op : CacheOp α κ τ V, op.stores = false →
      (setup.freshness ι timely G).Lawful i (call op) := fun op hop =>
    call_keeps hG op hop Stable.true fun _ _ _ => trivial
  apply Lawful.seq (hcall .size rfl)
  intro n
  split
  · apply Lawful.seq
    · rw [isSpared]
      split
      · apply hcall (.contains q) rfl
      · apply Lawful.pure
    · intro spared
      split
      · apply Lawful.pure
      · apply Lawful.seq (hcall .oldest rfl)
        intro k
        apply hcall (.remove k) rfl
  · apply Lawful.pure

/-- A value is stored with the time to live that it is given. -/
theorem put_lawful (spares : Bool) (loaded : Loaded α V) :
  (setup.freshness ι timely G).Lawful i (setup.put spares loaded)
  := by
  apply Lawful.seq (makeRoom_lawful hG spares loaded.query)
  intro _
  apply Lawful.seq (call_keeps hG .clock rfl Stable.true fun _ _ _ => trivial)
  intro now
  apply Triple.perform (S := cacheSignature α κ τ V) Stable.true
  · rintro (e | a) <;> exact fun _ _ _ _ => trivial
  · intro s c r s' hinv _ hg ha
    constructor
    · apply answer_steps hG hinv hg _ (Option.some.inj ha)
      rintro e ⟨⟩
      rfl
    · cases r <;> trivial

/-- At least `b` invalidations of the query have returned. -/
def Begun (setup : Setup α κ τ ε) (q : α) (b : Nat) (s : CacheState α κ τ V) : Prop :=
  b ≤ setup.generationOf s q

omit hG in
theorem Begun.stable (q : α) (b : Nat) :
  (setup.freshness ι timely G).Stable i (Begun setup q b)
  := fun _ _ hs h => Nat.le_trans h (setup.generationOf_mono hs.evolve q)

/-- The value was read for the query after `b` of its invalidations, and where it was found in
the cache it had not expired. -/
structure Serves (timely : Entry α V → Prop) (q : α) (b : Nat) (served : Served α V) : Prop where
  query : served.loaded.query = q
  started : b ≤ served.loaded.started
  found : ∀ p ∈ served.found, timely p.1 ∧ p.1.loaded = served.loaded ∧ p.2 ≤ p.1.expiresAt

/-- Where a query begins, the invalidations that have returned are counted. -/
theorem begin_begun (q : α) :
  (setup.freshness ι timely G).Triple i (fun _ => True) (call (.begin q))
    (Returns (Begun setup q))
  := by
  apply call_triple hG (.begin q) rfl Stable.true
  · apply Begun.stable
  · intro s c begun _ _ _ hbegun
    obtain rfl := Except.ok.inj hbegun
    apply Nat.le_refl

theorem get_serves (q : α) (b : Nat) :
  (setup.freshness ι timely G).Triple i (Begun setup q b) (setup.get q)
    (Returns fun hit s => Begun setup q b s
      ∧ ∀ p ∈ hit, Serves timely q b ⟨p.1.loaded, some p⟩)
  := by
  apply Triple.seq (Q := fun found s => Begun setup q b s
    ∧ ∀ e ∈ found, e.loaded.query = q ∧ timely e ∧ b ≤ e.loaded.started)
  · apply call_triple hG (.lookup q) rfl (Begun.stable q b)
    · exact fun found s s' hs h => ⟨Begun.stable q b s s' hs h.1, h.2⟩
    · intro s c found hinv hbegun hg hfound
      refine ⟨hbegun, ?_⟩
      obtain rfl := Except.ok.inj hfound
      intro e he
      obtain ⟨hkey, htimely, hstarted⟩ := hinv _ e he
      obtain rfl := hG.lookup s i q c e hg he hkey
      exact ⟨rfl, htimely, Nat.le_trans hbegun hstarted⟩
  · rintro (_ | e)
    · apply Triple.ok
      · exact fun s s' hs h => ⟨Begun.stable q b s s' hs h.1, h.2⟩
      · exact fun s _ h => ⟨h.1, nofun⟩
    · have hstable : (setup.freshness ι timely G).Stable i fun s => Begun setup q b s
          ∧ ∀ e' ∈ some e, e'.loaded.query = q ∧ timely e' ∧ b ≤ e'.loaded.started :=
        fun s s' hs h => ⟨Begun.stable q b s s' hs h.1, h.2⟩
      apply Triple.seq (call_keeps hG .clock rfl hstable fun _ _ h => h)
      intro now
      by_cases hnow : now > e.expiresAt
      · rw [if_pos hnow]
        apply Triple.seq (call_keeps hG (.remove _) rfl hstable fun _ _ h => h)
        intro _
        apply Triple.ok hstable
        exact fun s _ h => ⟨h.1, nofun⟩
      · rw [if_neg hnow]
        apply Triple.ok hstable
        rintro s _ ⟨hbegun, hentry⟩
        obtain ⟨hquery, htimely, hstarted⟩ := hentry e rfl
        refine ⟨hbegun, ?_⟩
        rintro p ⟨⟩
        refine ⟨hquery, hstarted, ?_⟩
        rintro p ⟨⟩
        exact ⟨htimely, rfl, Int.not_lt.mp hnow⟩

/-- What a read loads was read from now on. -/
theorem read_serves (q : α) (b : Nat) :
  (setup.freshness ι timely G).Triple i (Begun setup q b) (read q)
    (Returns fun read _ => ∀ loaded ∈ read, Serves timely q b ⟨loaded, none⟩)
  := by
  apply Triple.seq (Q := fun started _ => b ≤ started)
  · apply call_triple hG (.start q) rfl (Begun.stable q b)
    · exact fun _ _ _ _ h => h
    · intro s c started _ hbegun _ hstarted
      obtain rfl := Except.ok.inj hstarted
      exact hbegun
  · intro started
    apply call_triple hG (.load q started) rfl
    · exact fun _ _ _ h => h
    · exact fun _ _ _ _ h => h
    · intro s c read _ hstarted _ hread loaded hloaded
      change c.loaded.map _ = _ at hread
      cases hvalue : c.loaded with
      | error e =>
          rw [hvalue] at hread
          cases hread
      | ok value =>
          rw [hvalue] at hread
          obtain rfl := Except.ok.inj hread
          obtain ⟨v, _, rfl⟩ := Option.map_eq_some_iff.mp hloaded
          exact ⟨rfl, hstarted, nofun⟩

/-- Whatever other threads do in between, the value of a query is as fresh as a read that starts
when the query begins. -/
theorem fetch_serves (spares : Bool) (q : α) (b : Nat) :
  (setup.freshness ι timely G).Triple i (Begun setup q b) (setup.fetch spares q)
    (Returns fun fetched _ => ∀ served ∈ fetched, Serves timely q b served)
  := by
  apply Triple.seq (get_serves hG q b)
  rintro (_ | ⟨e, now⟩)
  · apply Triple.seq
    · apply (read_serves hG q b).conseq (fun _ _ h => h.1)
      exact fun _ _ _ h => h
    · rintro (_ | loaded)
      · apply Triple.ok
        · exact fun _ _ _ h => h
        · exact fun _ _ _ => nofun
      · intro s hs hp
        have hserves := hp loaded rfl
        apply Triple.seq (put_lawful hG spares loaded) _ s hs trivial
        intro _
        apply Triple.ok Stable.true
        rintro s' _ _ served ⟨⟩
        exact hserves
  · apply Triple.ok
    · exact fun s s' hs h => ⟨Begun.stable q b s s' hs h.1, h.2⟩
    · rintro s _ ⟨_, hhit⟩ served ⟨⟩
      exact hhit _ rfl

end Rules

end Freshness

end Setup

end ReadThrough
