import SnackPortal.Data.Text
import SnackPortal.Program.ReadThrough
import Mathlib.Data.Fin.VecNotation

/-!
# The caching control-plane read

Any number of reads and tenant invalidations through one cache.  The keys are joined strings, so
the membership of one principal in one tenant can stand under the key of another one, and a slow
read is cached even where its tenant was invalidated in the meantime (`answered_stale`).  Where
neither happens every answer is current (`answered_current`).
-/

namespace AuthRouter

open ReadThrough Discipline Program

/-- The roles. -/
inductive Role where
  | control
  | masterAgent
  | tenantAdmin
  | tenantAgent
  | startupUser
  | investorUser
deriving DecidableEq, Repr

/-- The federation of an issuer. -/
structure FederationView where
  tenantId : String
  oidcIssuer : String
  oidcAudience : String
  jwksRef : String
  claimToTenantRule : String
deriving DecidableEq, Repr

/-- The lifecycle state of a tenant. -/
structure TenantStateView where
  tenantId : String
  lifecycleState : String
  ready : Bool
deriving DecidableEq, Repr

/-- The reads of the control plane. -/
inductive ControlPlaneRead where
  | getFederationForIssuer (issuer : String)
  | getTenantState (tenantId : String)
  | isMember (principalRef tenantId : String)
  | getRole (principalRef tenantId : String)
deriving DecidableEq, Repr

/-- What a read answers, where it is not `None`. -/
inductive ReadAnswer where
  | federation (view : FederationView)
  | tenantState (view : TenantStateView)
  | membership (member : Bool)
  | role (role : Role)
deriving DecidableEq, Repr

/-- `bool` of an answer; `None` and `False` are the false ones. -/
def truth : Option ReadAnswer → Bool
  | none => false
  | some (.membership member) => member
  | some _ => true

/-- What a read raises. -/
inductive ReadError where
  | unavailable
  | stopIteration
  | changedSize
deriving DecidableEq, Repr

/-- The cache key of a read. -/
def ControlPlaneRead.key : ControlPlaneRead → String
  | .getFederationForIssuer issuer => "fed::" ++ issuer
  | .getTenantState tenantId => "state::" ++ tenantId
  | .isMember principalRef tenantId => "member::" ++ tenantId ++ "::" ++ principalRef
  | .getRole principalRef tenantId => "role::" ++ tenantId ++ "::" ++ principalRef

/-- The tenant a read is about. -/
def ControlPlaneRead.tenant : ControlPlaneRead → Option String
  | .getFederationForIssuer _ => none
  | .getTenantState tenantId => some tenantId
  | .isMember _ tenantId => some tenantId
  | .getRole _ tenantId => some tenantId

/-- The answer of the caching read, from the one it has cached or loaded. -/
def ControlPlaneRead.returns : ControlPlaneRead → Option ReadAnswer → Option ReadAnswer
  | .isMember _ _, value => some (.membership (truth value))
  | _, value => value

/-- The cache of the reads.  An invalidation matches the keys its tenant occurs in. -/
def ttlCache (ttl : Int) : Setup ControlPlaneRead String String ReadError where
  maxEntries := 1024
  ttl := ttl
  key := ControlPlaneRead.key
  scope := ControlPlaneRead.tenant
  affects tenantId k := Text.contains k tenantId
  exhausted := .stopIteration

/-- A program of the caching read. -/
abbrev CacheProgram :=
  Program (cacheSignature ControlPlaneRead String String ReadAnswer) ReadError

/-- An answer, and where the value behind it is from, if it is not `None`. -/
structure Answer where
  value : Option ReadAnswer
  served : Option (Setup.Served ControlPlaneRead ReadAnswer)

namespace CachingControlPlaneRead

variable (ttl : Int)

/-- The cached value of a read, or the one that is loaded and then cached. -/
def cached (read : ControlPlaneRead) : CacheProgram Answer := do
  let served ← (ttlCache ttl).fetch false read
  pure ⟨served.map (·.loaded.value), served⟩

def getFederationForIssuer (issuer : String) : CacheProgram Answer :=
  cached ttl (.getFederationForIssuer issuer)

def getTenantState (tenantId : String) : CacheProgram Answer :=
  cached ttl (.getTenantState tenantId)

def isMember (principalRef tenantId : String) : CacheProgram Answer := do
  let answer ← cached ttl (.isMember principalRef tenantId)
  pure { answer with value := some (.membership (truth answer.value)) }

def getRole (principalRef tenantId : String) : CacheProgram Answer :=
  cached ttl (.getRole principalRef tenantId)

/-- `invalidate_tenant`, to its return. -/
def invalidateTenant (tenantId : String) : CacheProgram Unit := do
  let keys ← Setup.call (.keysOf tenantId)
  let _ ← keys.mapM fun k => Setup.call (.remove k)
  Setup.call (.invalidated tenantId)

end CachingControlPlaneRead

/-- The method that makes a read. -/
def ControlPlaneRead.method (ttl : Int) : ControlPlaneRead → CacheProgram Answer
  | .getFederationForIssuer issuer =>
      CachingControlPlaneRead.getFederationForIssuer ttl issuer
  | .getTenantState tenantId => CachingControlPlaneRead.getTenantState ttl tenantId
  | .isMember principalRef tenantId =>
      CachingControlPlaneRead.isMember ttl principalRef tenantId
  | .getRole principalRef tenantId => CachingControlPlaneRead.getRole ttl principalRef tenantId

/-- The calls of the caching read. -/
inductive CacheRequest where
  | read (r : ControlPlaneRead)
  | invalidateTenant (tenantId : String)

/-- What a read returned, and the number of invalidations of its tenant that had returned when
it began. -/
structure Answered where
  read : ControlPlaneRead
  begun : Nat
  answer : Answer

/-- The program of a call; a read ends with its answer. -/
def CacheRequest.program (ttl : Int) : CacheRequest → CacheProgram (Option Answered)
  | .read r => do
      let begun ← Setup.call (.begin r)
      let answer ← r.method ttl
      pure (some ⟨r, begun, answer⟩)
  | .invalidateTenant tenantId => do
      CachingControlPlaneRead.invalidateTenant tenantId
      pure none

section Freshness

variable {ι : Type} (ttl : Int)

/-- The machine of the caching read. -/
abbrev cachingRead (ι : Type) :
    Machine (cacheSignature ControlPlaneRead String String ReadAnswer) ReadError ι :=
  (ttlCache ttl).cache ι ReadAnswer

/-- A lookup finds no entry of another read; a value is cached only while no invalidation of its
tenant has returned since it was asked for; and an invalidation returns only where nothing is
cached for the tenant. -/
def cachesOwn : (cachingRead ttl ι).Guard := fun s _ op _ =>
  match op with
  | .lookup r => ∀ e ∈ s.data.lookup r.key, e.loaded.query = r
  | .store e => (ttlCache ttl).generationOf s e.loaded.query ≤ e.loaded.started
  | .invalidated tenantId => ∀ e ∈ s.data.entries, e.2.loaded.query.tenant ≠ some tenantId
  | _ => True

/-- The entry expires the time to live after it was stored. -/
def expiresAfterTtl (e : Entry ControlPlaneRead ReadAnswer) : Prop :=
  e.expiresAt = e.storedAt + ttl

theorem cachesOwn_admits :
  (ttlCache ttl).Admits ι (expiresAfterTtl ttl) (cachesOwn ttl)
  where
  store s i e c hg hexpires := ⟨hg, hexpires⟩
  invalidated s i tenantId c hg k e he _ := by
    apply hg ⟨k, e⟩
    apply AList.mem_lookup_iff.mp he
  lookup s i r c e hg he _ := hg e he

/-- The cache of a caching read that has just been made. -/
def emptyCache : (cachingRead ttl ι).State := ⟨∅, fun _ => 0⟩

/-- An answer is what the read returns for a value that the inner port gave for this read, asked
after every invalidation of the tenant that had returned when the read began; and a value found
in the cache was stored at most the time to live ago. -/
structure Answered.IsCurrent (answered : Answered) : Prop where
  value : answered.answer.value
    = answered.read.returns (answered.answer.served.map (·.loaded.value))
  query : ∀ served ∈ answered.answer.served, served.loaded.query = answered.read
  started : ∀ served ∈ answered.answer.served, answered.begun ≤ served.loaded.started
  found : ∀ served ∈ answered.answer.served, ∀ p ∈ served.found,
    p.1.loaded = served.loaded ∧ p.2 ≤ p.1.storedAt + ttl

variable {i : ι}

/-- The discipline of the caching read. -/
abbrev currency (ι : Type) : Discipline (cachingRead ttl ι) :=
  (ttlCache ttl).freshness ι (expiresAfterTtl ttl) (cachesOwn ttl)

theorem cached_serves (r : ControlPlaneRead) (begun : Nat) :
  (currency ttl ι).Triple i ((ttlCache ttl).Begun r begun) (CachingControlPlaneRead.cached ttl r)
    (Returns fun answer _ => answer.value = answer.served.map (·.loaded.value)
      ∧ ∀ served ∈ answer.served, Setup.Serves (expiresAfterTtl ttl) r begun served)
  := by
  apply Triple.seq (Setup.fetch_serves (cachesOwn_admits ttl) false r begun)
  intro served
  apply Triple.ok
  · exact fun _ _ _ h => h
  · exact fun _ _ h => ⟨rfl, h⟩

theorem method_serves (r : ControlPlaneRead) (begun : Nat) :
  (currency ttl ι).Triple i ((ttlCache ttl).Begun r begun) (r.method ttl)
    (Returns fun answer _ => answer.value = r.returns (answer.served.map (·.loaded.value))
      ∧ ∀ served ∈ answer.served, Setup.Serves (expiresAfterTtl ttl) r begun served)
  := by
  cases r with
  | isMember principalRef tenantId =>
      apply Triple.seq (cached_serves ttl (.isMember principalRef tenantId) begun)
      intro answer
      apply Triple.ok
      · exact fun _ _ _ h => h
      · rintro s _ ⟨hvalue, hserves⟩
        refine ⟨?_, hserves⟩
        rw [hvalue]
        rfl
  | _ => apply cached_serves

theorem invalidateTenant_lawful (tenantId : String) :
  (currency ttl ι).Lawful i (CachingControlPlaneRead.invalidateTenant tenantId)
  := by
  have hcall : ∀ op : CacheOp ControlPlaneRead String String ReadAnswer, op.stores = false →
      (currency ttl ι).Lawful i (Setup.call op) := fun op hop =>
    Setup.call_keeps (cachesOwn_admits ttl) op hop Stable.true fun _ _ _ => trivial
  apply Lawful.seq (hcall (.keysOf tenantId) rfl)
  intro keys
  apply Lawful.seq
  · apply Lawful.of_calls _ hcall
    apply Calls.mapM
    exact fun k => Calls.perform rfl
  · intro _
    apply hcall (.invalidated tenantId) rfl

theorem CacheRequest.program_current (request : CacheRequest) :
  (currency ttl ι).Triple i (fun _ => True) (request.program ttl)
    (Returns fun returned _ => ∀ answered ∈ returned, answered.IsCurrent ttl)
  := by
  have hG := cachesOwn_admits (ι := ι) ttl
  cases request with
  | read r =>
      apply Triple.seq (Setup.begin_begun hG r)
      intro begun
      apply Triple.seq (method_serves ttl r begun)
      intro answer
      apply Triple.ok
      · exact fun _ _ _ h => h
      · rintro s _ ⟨hvalue, hserves⟩ answered ⟨⟩
        constructor
        · apply hvalue
        · exact fun served hserved => (hserves served hserved).query
        · exact fun served hserved => (hserves served hserved).started
        · intro served hserved p hp
          obtain ⟨hexpires, hloaded, hnow⟩ := (hserves served hserved).found p hp
          refine ⟨hloaded, ?_⟩
          rwa [← hexpires]
  | invalidateTenant tenantId =>
      apply Triple.seq (invalidateTenant_lawful ttl tenantId)
      intro _
      apply Triple.ok Stable.true
      intro _ _ _ answered hanswered
      exact (Option.not_mem_none answered hanswered).elim

/-- However many reads and invalidations run at once, for all principals and tenants, any clock
and any answers of the inner port: where the cache is used for its own entries only, every answer
is current. -/
theorem answered_current [DecidableEq ι] (requests : ι → Option CacheRequest)
    {cfg : (cachingRead ttl ι).Config (Option Answered)}
    (h : Machine.Reaches (cachesOwn ttl)
      ⟨emptyCache ttl, fun i => (requests i).map (·.program ttl)⟩ cfg)
    {answered : Answered} (hreturned : cfg.returned i = some (some answered)) :
  answered.IsCurrent ttl
  := by
  have hempty : (currency ttl ι).inv (emptyCache ttl) := by
    intro k e he
    cases he
  have hending := Safe.ending (D := currency ttl ι) (Q := fun _ => Returns fun returned _ =>
    ∀ answered ∈ returned, answered.IsCurrent ttl) h hempty
  apply hending _ (Machine.Config.returned_eq_some.mp hreturned) answered rfl
  intro j x hx
  obtain ⟨request, _, rfl⟩ := Option.map_eq_some_iff.mp hx
  exact request.program_current ttl _ hempty trivial

end Freshness

/-! ### Runs of four calls -/

/-- The membership of `b::c` in `a`, twice, an invalidation of `a`, and the membership of `c` in
`a::b`. -/
def fourRequests : Fin 4 → Option CacheRequest :=
  ![some (.read (.isMember "b::c" "a")), some (.invalidateTenant "a"),
    some (.read (.isMember "b::c" "a")), some (.read (.isMember "c" "a::b"))]

/-- A call of a thread at a time; the inner port answers `True`. -/
def memberMove (now : Int) (i : Fin 4) : Move (Fin 4) (CacheChoice ReadError ReadAnswer) :=
  .call i ⟨now, .ok (some (.membership true)), none⟩

/-- The start of a run of the four calls, with a time to live of 30. -/
def fourStart : (cachingRead 30 (Fin 4)).Config (Option Answered) :=
  ⟨emptyCache 30, fun i => (fourRequests i).map (·.program 30)⟩

instance cachesOwnDecidable (s : (cachingRead 30 (Fin 4)).State) (i : Fin 4)
    (op : CacheOp ControlPlaneRead String String ReadAnswer)
    (c : CacheChoice ReadError ReadAnswer) :
    Decidable (cachesOwn 30 s i op c) :=
  match op with
  | .lookup r => inferInstanceAs (Decidable (∀ e ∈ s.data.lookup r.key, e.loaded.query = r))
  | .store e => inferInstanceAs
      (Decidable ((ttlCache 30).generationOf s e.loaded.query ≤ e.loaded.started))
  | .invalidated t => inferInstanceAs
      (Decidable (∀ e ∈ s.data.entries, e.2.loaded.query.tenant ≠ some t))
  | .begin _ | .clock | .size | .contains _ | .oldest | .remove _ | .start _ | .load _ _
  | .keysOf _ => .isTrue trivial

/-- A read, when it began, and of the value behind its answer: the read it was read for, when it
was asked for, and when it was found in the cache. -/
structure Provenance where
  read : ControlPlaneRead
  begun : Nat
  query : ControlPlaneRead
  started : Nat
  foundAt : Option Int
deriving DecidableEq

/-- The provenance of what a thread returned. -/
def provenanceOf (cfg : (cachingRead 30 (Fin 4)).Config (Option Answered)) (i : Fin 4) :
    Option Provenance :=
  (cfg.returned i).bind fun returned => returned.bind fun answered =>
    answered.answer.served.map fun served =>
      ⟨answered.read, answered.begun, served.loaded.query, served.loaded.started,
        served.found.map (·.2)⟩

theorem provenanceOf_eq_some {cfg : (cachingRead 30 (Fin 4)).Config (Option Answered)}
    {i : Fin 4} {p : Provenance} (h : provenanceOf cfg i = some p) :
  ∃ answered served, cfg.returned i = some (some answered) ∧ served ∈ answered.answer.served
    ∧ p = ⟨answered.read, answered.begun, served.loaded.query, served.loaded.started,
      served.found.map (·.2)⟩
  := by
  obtain ⟨returned, hreturned, hp⟩ := Option.bind_eq_some_iff.mp h
  obtain ⟨answered, rfl, hp⟩ := Option.bind_eq_some_iff.mp hp
  obtain ⟨served, hserved, hp⟩ := Option.map_eq_some_iff.mp hp
  exact ⟨answered, served, hreturned, hserved, hp.symm⟩

/-- The invalidation, the first read and the second one, one after the other. -/
def ownMoves : List (Move (Fin 4) (CacheChoice ReadError ReadAnswer)) :=
  [1, 1, 0, 0, 0, 0, 0, 0, 0].map (memberMove 0) ++ [2, 2, 2].map (memberMove 20)

theorem answered_current_sample :
  ∃ cfg, Machine.Reaches (cachesOwn 30) fourStart cfg
    ∧ ∃ answered served, cfg.returned 2 = some (some answered)
      ∧ served ∈ answered.answer.served ∧ served.found.map (·.2) = some 20
      ∧ answered.IsCurrent 30
  := by
  have hrun : (fourStart.run (cachesOwn 30) ownMoves).map (provenanceOf · 2)
      = some (some ⟨.isMember "b::c" "a", 1, .isMember "b::c" "a", 1, some 20⟩) := by
    decide +kernel
  obtain ⟨cfg, hreaches, hprovenance⟩ := Machine.Reaches.of_map_run hrun
  obtain ⟨answered, served, hreturned, hserved, hp⟩ := provenanceOf_eq_some hprovenance
  have hfound := (congrArg Provenance.foundAt hp).symm
  use cfg, hreaches, answered, served, hreturned, hserved, hfound
  apply answered_current 30 fourRequests hreaches hreturned

/-- The first read asks the inner port, the invalidation runs to its return, the first read
caches its answer, and the two others begin and find it. -/
def staleMoves : List (Move (Fin 4) (CacheChoice ReadError ReadAnswer)) :=
  [0, 0, 0, 0, 1, 1, 0, 0, 0, 2, 2, 2, 3, 3, 3].map (memberMove 0)

/-- A read that began after the invalidation of its tenant had returned is answered by a value
asked for before, and a read of one principal in one tenant by a value of another principal in
another tenant. -/
theorem answered_stale :
  ∃ cfg, Machine.Reaches (Machine.anyCall _) fourStart cfg
    ∧ (∃ answered served, cfg.returned 2 = some (some answered)
      ∧ served ∈ answered.answer.served ∧ served.loaded.started < answered.begun)
    ∧ ∃ answered served, cfg.returned 3 = some (some answered)
      ∧ answered.read = .isMember "c" "a::b" ∧ served ∈ answered.answer.served
      ∧ served.loaded.query = .isMember "b::c" "a"
  := by
  have hrun : (fourStart.run (Machine.anyCall _) staleMoves).map
      (fun cfg => (provenanceOf cfg 2, provenanceOf cfg 3))
      = some (some ⟨.isMember "b::c" "a", 1, .isMember "b::c" "a", 0, some 0⟩,
        some ⟨.isMember "c" "a::b", 0, .isMember "b::c" "a", 0, some 0⟩) := by
    decide +kernel
  obtain ⟨cfg, hreaches, hprovenances⟩ := Machine.Reaches.of_map_run hrun
  obtain ⟨hsecond, hthird⟩ := Prod.mk.inj hprovenances
  refine ⟨cfg, hreaches, ?_, ?_⟩
  · obtain ⟨answered, served, hreturned, hserved, hp⟩ := provenanceOf_eq_some hsecond
    use answered, served, hreturned, hserved
    have hbegun : 1 = answered.begun := congrArg Provenance.begun hp
    have hstarted : 0 = served.loaded.started := congrArg Provenance.started hp
    rw [← hbegun, ← hstarted]
    decide
  · obtain ⟨answered, served, hreturned, hserved, hp⟩ := provenanceOf_eq_some hthird
    exact ⟨answered, served, hreturned, (congrArg Provenance.read hp).symm, hserved,
      (congrArg Provenance.query hp).symm⟩

end AuthRouter
