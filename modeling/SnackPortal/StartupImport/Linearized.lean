import SnackPortal.StartupImport.InMemory
import SnackPortal.StartupImport.Requests
import SnackPortal.TenantDatabase.Committing

/-!
# Imports are as one after another

Any number of requests at once, over the database, against the same requests one after another,
in memory.  What a request commits is nothing or one import; in the order of their commits the
imports are what the in-memory store makes of them.
-/

namespace StartupImport

open Lineage (Hmac LineageRow LineageIntent)
open SnackPortal2 (composeRecordRef parseRecordRef parseRecordRef_eq_some)
open TenantDatabase Discipline
open Machine (Reaches anyCall)

/-! ### What a request commits -/

/-- What an import commits: the copy of a source under an identity, and its lineage row. -/
structure Import where
  source : GlobalSourceRecord
  id : Nat
  row : LineageRow

/-- Who a request is attributed to. -/
def attributionOf (context : RequestContext) : ImportAttribution :=
  ⟨context.principalRef, context.correlationId⟩

namespace Import

variable (digest : String → String) (tenantRef : String) (context : RequestContext)
  (sourceRef : String) (imp : Import)

/-- The import is what the request asks for. -/
structure Of : Prop where
  tenant : tenantRef ≠ ""
  source : imp.source.recordRef = sourceRef
  eventType : imp.row.eventType = "import"
  operation : imp.row.operation = "global_startup_import"
  actorRef : imp.row.actorRef = context.principalRef
  sourced : imp.row.sourceRef = sourceRef
  targetRef : imp.row.targetRef = composeRecordRef tenantRef "startups" imp.id.repr
  derivationRef : imp.row.derivationRef = some (operationKey digest tenantRef sourceRef)
  correlationId : imp.row.correlationId = context.correlationId

/-- The changes of an import. -/
def changes : List Change :=
  importRows tenantRef (operationKey digest tenantRef sourceRef) imp.source imp.id imp.row
    (attributionOf context)

/-- The record of an import. -/
def record : ImportRecord where
  importId := operationKey digest tenantRef sourceRef
  tenantRecordRef := imp.row.targetRef
  lineageRef := composeRecordRef tenantRef "lineage" imp.row.lineageId

end Import

section Commits

variable (digest : String → String) (tenantRef : String) (context : RequestContext)
  (sourceRef : String)

/-- What may be committed: nothing, or an import of the request. -/
def Whole (ws : List Change) : Prop :=
  ws = [] ∨ ∃ imp : Import, imp.Of digest tenantRef context sourceRef
    ∧ ws = imp.changes digest tenantRef context sourceRef

/-- Every commit is nothing or an import of the request. -/
def requestCommits (ι : Type) : Staging ι Unit where
  Holds _ _ cs := ∀ ws ∈ cs, Whole digest tenantRef context sourceRef ws
  mono _ h := h

end Commits

section Requests

variable {ι : Type} [DecidableEq ι] {hmac : Hmac} {digest : String → String} {tenantRef : String}
  {context : RequestContext} {sourceRef key : String} {i : ι} {d₀ : Tables}

/-- The discipline of a request, and what it has under way. -/
abbrev requesting (d₀ : Tables) (digest : String → String) (tenantRef : String)
    (context : RequestContext) (sourceRef key : String) (i : ι) : Discipline (tenantDatabase key ι) :=
  committing key d₀ (requestCommits digest tenantRef context sourceRef ι) i

abbrev UnderWay (digest : String → String) (tenantRef : String) (context : RequestContext)
    (sourceRef : String) (i : ι) (ws : List Change) (s : TenantState ι) : Prop :=
  Reached (requestCommits digest tenantRef context sourceRef ι) i () ws s

theorem requesting_read {op : TenantOp} (hop : op.reads = true) {ws : List Change} :
  (requesting d₀ digest tenantRef context sourceRef key i).Triple i
    (UnderWay digest tenantRef context sourceRef i ws) (perform op)
    (Returns fun _ => UnderWay digest tenantRef context sourceRef i ws)
  := (committing_read hop).returns

/-- A transaction around a body that leaves what may be committed under way. -/
theorem requesting_withConnection {α : Type} {body : TenantProgram α}
    (hbody : (requesting d₀ digest tenantRef context sourceRef key i).Triple i
      (UnderWay digest tenantRef context sourceRef i []) body
      (Returns fun _ s => ∃ ws, Whole digest tenantRef context sourceRef ws
        ∧ UnderWay digest tenantRef context sourceRef i ws s)) :
  (requesting d₀ digest tenantRef context sourceRef key i).Triple i
    (UnderWay digest tenantRef context sourceRef i []) (withConnection body)
    (Returns fun _ => UnderWay digest tenantRef context sourceRef i [])
  := by
  apply Triple.seq (requesting_read rfl)
  intro _
  apply Triple.andThen hbody
  intro r
  cases r with
  | ok a =>
      apply Triple.exists
      intro ws
      apply Triple.given
      intro hws
      apply Triple.seq (Q := fun _ => UnderWay digest tenantRef context sourceRef i [])
      · apply Triple.returns
        apply committing_commit
        intro _ cs hcs ws' hws'
        rcases List.mem_cons.mp hws' with rfl | hmem
        · exact hws
        · exact hcs ws' hmem
      · intro _
        apply Triple.seq (Q := fun _ s => ∃ ws', ws' = []
          ∧ UnderWay digest tenantRef context sourceRef i ws' s)
        · apply Triple.returns
          apply committing_call .close (Q := fun _ ws' => ws' = []) (fun h => nomatch h)
          intro s s' c a' _ _ ha
          apply pending_of_ending rfl ha
        · intro _
          apply Triple.exists
          intro ws'
          apply Triple.given
          rintro rfl
          apply Triple.ok Reached.stable
          intro s _ h
          exact h
  | error e =>
      have hrollback : (requesting d₀ digest tenantRef context sourceRef key i).Lawful i
          ((perform .rollback).rescue fun _ => pure ()) := by
        apply Lawful.rescue
        · apply committing_pass (by simp)
        · intro _
          apply Lawful.pure
      apply Triple.seq hrollback.triple
      intro _
      have hclose : (requesting d₀ digest tenantRef context sourceRef key i).Lawful i
          (perform .close) := committing_pass (by simp)
      apply Triple.seq hclose.triple
      intro _
      apply Triple.throw

theorem requesting_findExisting :
  (requesting d₀ digest tenantRef context sourceRef key i).Triple i
    (UnderWay digest tenantRef context sourceRef i [])
    (PostgresImportStore.findExisting tenantRef (operationKey digest tenantRef sourceRef))
    (Returns fun _ => UnderWay digest tenantRef context sourceRef i [])
  := by
  apply Triple.seq (requesting_read rfl)
  intro _
  apply Triple.seq (requesting_read rfl)
  intro _
  apply requesting_withConnection
  apply Triple.seq (requesting_read rfl)
  intro _
  apply Triple.ok Reached.stable
  intro s _ h
  exact ⟨[], .inl rfl, h⟩

/-- The row that the importer builds carries the intent. -/
theorem lineageRow_of_intent (hmac : Hmac) (chainKey : ByteArray) (head : Option LineageRow)
    (lineageId : String) (intent : LineageIntent) :
  ∃ row, Lineage.PostgresImportStore.lineageRow hmac chainKey head lineageId intent = .ok row
    ∧ row.eventType = intent.eventType ∧ row.operation = intent.operation
    ∧ row.actorRef = intent.actorRef ∧ row.sourceRef = intent.sourceRef
    ∧ row.targetRef = intent.targetRef ∧ row.derivationRef = intent.derivationRef
    ∧ row.correlationId = intent.correlationId
  := by
  cases head with
  | none => exact ⟨_, rfl, rfl, rfl, rfl, rfl, rfl, rfl, rfl⟩
  | some head => exact ⟨_, rfl, rfl, rfl, rfl, rfl, rfl, rfl, rfl⟩

/-- The four writes of an import, one after another. -/
theorem requesting_writeRows {chainKey : ByteArray} {schemaVersion : String}
    {source : GlobalSourceRecord} (htenant : tenantRef ≠ "")
    (hsource : source.recordRef = sourceRef) :
  (requesting d₀ digest tenantRef context sourceRef key i).Triple i
    (UnderWay digest tenantRef context sourceRef i [])
    (PostgresImportStore.writeRows hmac chainKey schemaVersion tenantRef
      (operationKey digest tenantRef sourceRef) source (attributionOf context))
    (Returns fun _ s => ∃ ws, Whole digest tenantRef context sourceRef ws
      ∧ UnderWay digest tenantRef context sourceRef i ws s)
  := by
  have hstable : ∀ text : Nat → Prop,
      (requesting d₀ digest tenantRef context sourceRef key i).Stable i fun s =>
        ∃ id : Nat, text id ∧ UnderWay digest tenantRef context sourceRef i
          [.putRecord (copyKey source.recordRef) (copyColumns source id)] s := by
    intro text s s' hsees ⟨id, hid, h⟩
    exact ⟨id, hid, Reached.stable s s' hsees h⟩
  have hcopy : (requesting d₀ digest tenantRef context sourceRef key i).Triple i
      (UnderWay digest tenantRef context sourceRef i [])
      (PostgresImportStore.writeCopy tenantRef source)
      (Returns fun targetRef s => ∃ id : Nat,
        targetRef = composeRecordRef tenantRef "startups" id.repr
          ∧ UnderWay digest tenantRef context sourceRef i
            [.putRecord (copyKey source.recordRef) (copyColumns source id)] s) := by
    apply Triple.seq (Q := fun answer s => ∃ id : Nat, answer = id.repr
      ∧ UnderWay digest tenantRef context sourceRef i
        [.putRecord (copyKey source.recordRef) (copyColumns source id)] s)
    · apply Triple.conseq (Triple.returns (committing_call (.insertCopy source)
        (Q := fun answer ws => ∃ id : Nat, answer = id.repr
          ∧ ws = [.putRecord (copyKey source.recordRef) (copyColumns source id)])
        (fun h => nomatch h) ?_)) (fun _ _ h => h)
      · rintro answer s _ ⟨ws, ⟨id, hid, rfl⟩, h⟩
        exact ⟨id, hid, h⟩
      · intro s s' c answer _ hpending ha
        obtain ⟨id, hid, hwrite⟩ := insertCopy_of_ok ha
        obtain ⟨-, hdb⟩ := Database.write_eq_some hwrite
        use id, hid
        rw [hdb]
        dsimp only
        rw [Function.update_self, hpending, List.nil_append]
    · intro answer
      apply Triple.ok (hstable fun id => answer = id.repr)
      rintro s _ ⟨id, rfl, h⟩
      exact ⟨id, rfl, h⟩
  apply Triple.seq hcopy
  intro targetRef
  apply Triple.exists
  intro id
  apply Triple.given
  intro htarget
  apply Triple.seq (requesting_read rfl)
  intro occurredAt
  -- The lineage row is built from the head of the chain, whatever that is.
  apply Triple.seq (Q := fun _ s => ∃ row : LineageRow,
    (Import.mk source id row).Of digest tenantRef context sourceRef
      ∧ UnderWay digest tenantRef context sourceRef i
        [.putRecord (copyKey source.recordRef) (copyColumns source id), .appendLineage row] s)
  · apply Triple.seq (requesting_read rfl)
    intro head
    apply Triple.seq (requesting_read rfl)
    intro lineageId
    obtain ⟨row, hrow, hevent, hoperation, hactor, hsourceRef, htargetRef, hderivation,
      hcorrelation⟩ := lineageRow_of_intent hmac chainKey head lineageId
        (PostgresImportStore.importIntent (operationKey digest tenantRef sourceRef) targetRef
          occurredAt schemaVersion source (attributionOf context))
    rw [hrow]
    apply Triple.seq (committing_write (.appendLineage row) rfl fun _ hw => hw).returns
    intro _
    apply Triple.ok Reached.stable
    intro s _ h
    use row
    constructor
    · exact ⟨htenant, hsource, hevent, hoperation, hactor, hsourceRef.trans hsource,
        htargetRef.trans htarget, hderivation, hcorrelation⟩
    · exact h
  · intro lineageId
    apply Triple.exists
    intro row
    apply Triple.given
    intro hrow
    apply Triple.seq
    · apply Triple.seq (committing_write (.insertJob _) rfl fun _ hw => hw).returns
      intro _
      exact (committing_write (.insertIdempotency _ _) rfl fun _ hw => hw).returns
    · intro _
      apply Triple.ok Reached.stable
      intro s _ h
      exact ⟨_, .inr ⟨⟨source, id, row⟩, hrow, rfl⟩, h⟩

theorem requesting_writeImport {source : GlobalSourceRecord} (htenant : tenantRef ≠ "")
    (hsource : source.recordRef = sourceRef) :
  (requesting d₀ digest tenantRef context sourceRef key i).Triple i
    (UnderWay digest tenantRef context sourceRef i [])
    (PostgresImportStore.writeImport hmac tenantRef (operationKey digest tenantRef sourceRef)
      source (attributionOf context))
    (Returns fun _ => UnderWay digest tenantRef context sourceRef i [])
  := by
  apply Triple.seq (requesting_read rfl)
  intro chainKey
  apply Triple.seq (requesting_read rfl)
  intro schemaVersion
  apply requesting_withConnection
  apply Triple.seq (committing_lock (.inr rfl)).returns
  intro _
  apply Triple.seq (Q := fun _ => UnderWay digest tenantRef context sourceRef i [])
  · apply Triple.seq (requesting_read rfl)
    intro row
    apply Triple.ok Reached.stable
    intro s _ h
    exact h
  · intro replayed
    cases replayed with
    | some record =>
        apply Triple.ok Reached.stable
        intro s _ h
        exact ⟨[], .inl rfl, h⟩
    | none =>
        apply Triple.seq (requesting_read rfl)
        intro holds
        cases holds with
        | true => apply Triple.throw
        | false => apply requesting_writeRows htenant hsource

/-- The directory returns only the record it was asked for. -/
theorem requesting_readDirectory :
  (requesting d₀ digest tenantRef context sourceRef key i).Triple i
    (UnderWay digest tenantRef context sourceRef i []) (perform (.readDirectory sourceRef))
    (Returns fun found s => (∀ source ∈ found, source.recordRef = sourceRef)
      ∧ UnderWay digest tenantRef context sourceRef i [] s)
  := by
  apply Triple.conseq (Triple.returns (committing_call (.readDirectory sourceRef)
    (Q := fun found ws => (∀ source ∈ found, source.recordRef = sourceRef) ∧ ws = [])
    (fun h => nomatch h) ?_)) (fun _ _ h => h)
  · rintro found s _ ⟨ws, ⟨hfound, rfl⟩, h⟩
    exact ⟨hfound, h⟩
  · intro s s' c found _ hpending ha
    obtain ⟨hfound, rfl⟩ := Prod.mk.inj (Option.some.inj (answer_of_ok ha))
    obtain rfl := Except.ok.inj hfound
    refine ⟨?_, hpending⟩
    intro source hsource
    exact of_decide_eq_true (Option.mem_filter_iff.mp hsource).2

/-- Whatever a request commits is nothing or an import of its own. -/
theorem requesting_importStartup (hcontext : context.tenantContext = some tenantRef) :
  (requesting d₀ digest tenantRef context sourceRef key i).Triple i
    (UnderWay digest tenantRef context sourceRef i [])
    (ImportService.importStartup hmac digest context sourceRef) (Returns fun _ _ => True)
  := by
  rw [ImportService.importStartup, hcontext]
  by_cases hempty : tenantRef = ""
  · rw [Option.filter_some_neg (by simpa using hempty)]
    apply Triple.throw
  · rw [Option.filter_some_pos (by simpa using hempty)]
    apply Triple.seq requesting_findExisting
    intro found
    cases found with
    | some record =>
        apply Triple.ok Reached.stable
        intro s _ _
        trivial
    | none =>
        apply Triple.seq requesting_readDirectory
        intro found
        apply Triple.given
        intro hfound
        cases found with
        | none => apply Triple.throw
        | some source =>
            apply (requesting_writeImport hempty (hfound source rfl)).conseq (fun _ _ h => h)
            intro _ _ _ _
            trivial

end Requests

/-! ### The order of the commits -/

section Order

variable {ι : Type} (digest : String → String) (tenantRef : String)
  (contexts : ι → RequestContext) (sources : ι → String)

/-- The changes of an import of a request. -/
def changesOf (e : ι × Import) : List Change :=
  e.2.changes digest tenantRef (contexts e.1) (sources e.1)

/-- The imports that the commits made, the first one first. -/
structure Made (commits : List (ι × List Change)) (done : List (ι × Import)) : Prop where
  own : ∀ e ∈ done, e.2.Of digest tenantRef (contexts e.1) (sources e.1)
  changes : (commits.map Prod.snd).reverse.flatten
    = done.flatMap (changesOf digest tenantRef contexts sources)
  wrote : ∀ src, writers src commits
    = (done.filter fun e => sources e.1 = src).reverse.map Prod.fst

variable {digest tenantRef contexts sources}

theorem copyKey_injective {src src' : String} (h : copyKey src = copyKey src') :
  src = src'
  := congrArg RecordKey.key h

/-- The changes of an import insert the copy of its source, and no other. -/
theorem copies_changes {e : ι × Import} (h : e.2.source.recordRef = sources e.1) (src : String) :
  (changesOf digest tenantRef contexts sources e).any (copies src) = decide (sources e.1 = src)
  := by
  have hkey : copyKey e.2.source.recordRef = copyKey src ↔ sources e.1 = src := by
    rw [← h]
    exact ⟨copyKey_injective, congrArg copyKey⟩
  simp [changesOf, Import.changes, importRows, copies, hkey]

/-- Commits of nothing and of whole imports are those of some imports. -/
theorem exists_made {commits : List (ι × List Change)}
    (h : ∀ c ∈ commits, Whole digest tenantRef (contexts c.1) (sources c.1) c.2) :
  ∃ done, Made digest tenantRef contexts sources commits done
  := by
  induction commits with
  | nil =>
      use []
      constructor
      · intro e he
        cases he
      · rfl
      · intro src
        rfl
  | cons c commits ih =>
      obtain ⟨done, hmade⟩ := ih fun c' hc' => h c' (List.mem_cons_of_mem _ hc')
      obtain ⟨i, ws⟩ := c
      rcases h _ List.mem_cons_self with hnothing | ⟨imp, himp, hws⟩
      · obtain rfl : ws = [] := hnothing
        use done, hmade.own
        · rw [List.map_cons, List.reverse_cons, List.flatten_append, hmade.changes]
          simp
        · intro src
          rw [writers_cons_of_none rfl, hmade.wrote]
      · obtain rfl : ws = changesOf digest tenantRef contexts sources (i, imp) := hws
        use done ++ [(i, imp)]
        constructor
        · intro e he
          rcases List.mem_append.mp he with hdone | hlast
          · exact hmade.own e hdone
          · rw [List.mem_singleton.mp hlast]
            exact himp
        · rw [List.map_cons, List.reverse_cons, List.flatten_append, hmade.changes,
            List.flatMap_append]
          simp
        · intro src
          have hcopies : (changesOf digest tenantRef contexts sources (i, imp)).any (copies src)
              = decide (sources i = src) := copies_changes himp.source src
          by_cases hsrc : sources i = src
          · rw [writers_cons_of_any (hcopies.trans (decide_eq_true hsrc)), hmade.wrote]
            simp [hsrc]
          · rw [writers_cons_of_none (hcopies.trans (decide_eq_false hsrc)), hmade.wrote]
            simp [hsrc]

section Made

variable {commits : List (ι × List Change)} {done : List (ι × Import)}

/-- Where every source is imported at most once, the imports have sources of their own. -/
theorem Made.distinct (h : Made digest tenantRef contexts sources commits done)
    (hone : ∀ i, (writers (sources i) commits).length ≤ 1) :
  (done.map fun e => sources e.1).Nodup
  := by
  rw [List.nodup_iff_count_le_one]
  intro src
  by_contra hcount
  have hmem : src ∈ done.map fun e => sources e.1 := List.count_pos_iff.mp (by omega)
  obtain ⟨e, -, rfl⟩ := List.mem_map.mp hmem
  apply hcount
  have hlength := hone e.1
  rw [h.wrote, List.length_map, List.length_reverse] at hlength
  rw [List.count, List.countP_map, List.countP_eq_length_filter]
  exact hlength

/-- A request made an import exactly where it alone wrote its source. -/
theorem Made.mem_iff (h : Made digest tenantRef contexts sources commits done)
    (hone : ∀ i, (writers (sources i) commits).length ≤ 1) {i : ι} :
  i ∈ done.map Prod.fst ↔ writers (sources i) commits = [i]
  := by
  constructor
  · intro hi
    obtain ⟨e, he, rfl⟩ := List.mem_map.mp hi
    have hmem : e.1 ∈ writers (sources e.1) commits := by
      rw [h.wrote]
      apply List.mem_map_of_mem
      rw [List.mem_reverse, List.mem_filter]
      exact ⟨he, decide_eq_true rfl⟩
    have hlength := hone e.1
    obtain ⟨j, hj⟩ := List.length_eq_one_iff.mp
      (le_antisymm hlength (List.length_pos_of_mem hmem))
    rw [hj] at hmem ⊢
    rw [List.mem_singleton.mp hmem]
  · intro hi
    have hmem : i ∈ writers (sources i) commits := by
      rw [hi]
      exact List.mem_singleton_self i
    rw [h.wrote] at hmem
    obtain ⟨e, he, rfl⟩ := List.mem_map.mp hmem
    exact List.mem_map_of_mem (List.mem_filter.mp (List.mem_reverse.mp he)).1

end Made

/-! ### Both stores -/

variable (digest tenantRef contexts sources) in
/-- The database holds the imports beyond `d₀`, and the store in memory holds the same ones under
the numbers of their order. -/
structure Mirrored (d₀ : Tables) (done : List (ι × Import)) (d : Tables)
    (store : InMemoryImportStore) : Prop where
  lineage : d.lineage = d₀.lineage ++ done.map fun e => e.2.row
  copies : ∀ e ∈ done, d.records.lookup (copyKey (sources e.1))
    = some (copyColumns e.2.source e.2.id)
  others : ∀ src, src ∉ done.map (fun e => sources e.1) →
    d.records.lookup (copyKey src) = d₀.records.lookup (copyKey src)
  startupCount : store.startups.counters tenantRef = done.length
  lineageCount : store.lineage.counters tenantRef = done.length
  startups : ∀ n e, done[n]? = some e → store.startups.get tenantRef (toString (n + 1))
    = some (InMemoryImportStore.copyFields e.2.source)
  lineages : ∀ n e, done[n]? = some e → store.lineage.get tenantRef (toString (n + 1))
    = some (InMemoryImportStore.lineageFields (operationKey digest tenantRef (sources e.1))
        (composeRecordRef tenantRef "startups" (toString (n + 1))) e.2.row.occurredAt e.2.source
        (attributionOf (contexts e.1)))
  found : ∀ n e, done[n]? = some e →
    store.findExisting tenantRef (operationKey digest tenantRef (sources e.1))
      = some ⟨operationKey digest tenantRef (sources e.1),
          composeRecordRef tenantRef "startups" (toString (n + 1)),
          composeRecordRef tenantRef "lineage" (toString (n + 1))⟩
  unused : ∀ key, (∀ e ∈ done, operationKey digest tenantRef (sources e.1) ≠ key) →
    store.findExisting tenantRef key = none

/-- An import in the order of the commits, as the request it is served in. -/
def servedOf (e : ι × Import) : Served ι :=
  ⟨e.1, e.2.source, e.2.row.occurredAt⟩

theorem Mirrored.nil {d₀ : Tables} :
  Mirrored digest tenantRef contexts sources d₀ [] d₀ {}
  := by
  constructor
  · exact (List.append_nil _).symm
  · intro e he
    cases he
  · intro src _
    rfl
  · rfl
  · rfl
  · intro n e he
    cases he
  · intro n e he
    cases he
  · intro n e he
    cases he
  · intro key _
    rfl

/-- The entry of a list with one more at the end. -/
theorem getElem?_snoc {α : Type} {xs : List α} {x y : α} {n : Nat}
    (h : (xs ++ [x])[n]? = some y) :
  xs[n]? = some y ∧ n ≠ xs.length ∨ n = xs.length ∧ y = x
  := by
  rcases lt_trichotomy n xs.length with hlt | heq | hgt
  · rw [List.getElem?_append_left hlt] at h
    exact .inl ⟨h, hlt.ne⟩
  · rw [heq, List.getElem?_concat_length] at h
    exact .inr ⟨heq, (Option.some.inj h).symm⟩
  · rw [List.getElem?_eq_none (by simpa using hgt)] at h
    cases h

/-- One more import, in both. -/
theorem Mirrored.snoc {d₀ d : Tables} {done : List (ι × Import)} {store : InMemoryImportStore}
    (h : Mirrored digest tenantRef contexts sources d₀ done d store) {e : ι × Import}
    (hown : e.2.Of digest tenantRef (contexts e.1) (sources e.1))
    (hnew : d₀.records.lookup (copyKey (sources e.1)) = none)
    (hsource : sources e.1 ∉ done.map fun e => sources e.1)
    (hkey : ∀ e' ∈ done, operationKey digest tenantRef (sources e'.1)
      ≠ operationKey digest tenantRef (sources e.1)) :
  Mirrored digest tenantRef contexts sources d₀ (done ++ [e])
    (tenantSchema.applyAll (changesOf digest tenantRef contexts sources e) d)
    (store.writeImport tenantRef (operationKey digest tenantRef (sources e.1)) e.2.source
      (attributionOf (contexts e.1)) e.2.row.occurredAt).2
  := by
  have hrecords : (tenantSchema.applyAll (changesOf digest tenantRef contexts sources e)
      d).records = d.records.insert (copyKey (sources e.1)) (copyColumns e.2.source e.2.id) := by
    have hnone := (h.others _ hsource).trans hnew
    rw [← hown.source] at hnone ⊢
    simp [changesOf, Import.changes, importRows, tenantSchema, Change.apply, hnone]
  constructor
  · rw [lineage_applyAll, h.lineage, List.append_assoc, List.map_append]
    rfl
  · intro e' he'
    rw [hrecords]
    rcases List.mem_append.mp he' with hdone | hlast
    · have hne : copyKey (sources e'.1) ≠ copyKey (sources e.1) := by
        intro heq
        apply hsource
        rw [← copyKey_injective heq]
        exact List.mem_map_of_mem hdone
      rw [AList.lookup_insert_ne hne]
      exact h.copies e' hdone
    · rw [List.mem_singleton.mp hlast, AList.lookup_insert]
  · intro src hsrc
    rw [List.map_append, List.mem_append, not_or] at hsrc
    have hne : copyKey src ≠ copyKey (sources e.1) := by
      intro heq
      apply hsrc.2
      rw [copyKey_injective heq]
      exact List.mem_singleton_self _
    rw [hrecords, AList.lookup_insert_ne hne]
    exact h.others src hsrc.1
  · rw [List.length_append]
    exact counters_insert h.startupCount
  · rw [List.length_append]
    exact counters_insert h.lineageCount
  · intro n e' he'
    rcases getElem?_snoc he' with ⟨hn, hne⟩ | ⟨rfl, rfl⟩
    · exact (get_insert_of_ne h.startupCount hne).trans (h.startups n e' hn)
    · exact get_insert_self h.startupCount
  · intro n e' he'
    rcases getElem?_snoc he' with ⟨hn, hne⟩ | ⟨rfl, rfl⟩
    · exact (get_insert_of_ne h.lineageCount hne).trans (h.lineages n e' hn)
    · refine (get_insert_self h.lineageCount).trans ?_
      rw [h.startupCount]
  · intro n e' he'
    rcases getElem?_snoc he' with ⟨hn, hne⟩ | ⟨rfl, rfl⟩
    · have hmem : e' ∈ done := List.mem_of_getElem? hn
      have hkeys : (tenantRef, operationKey digest tenantRef (sources e'.1))
          ≠ (tenantRef, operationKey digest tenantRef (sources e.1)) := by
        intro heq
        exact hkey e' hmem (Prod.mk.inj heq).2
      exact (AList.lookup_insert_ne hkeys).trans (h.found n e' hn)
    · rw [← h.startupCount]
      nth_rewrite 2 [h.startupCount]
      rw [← h.lineageCount]
      exact AList.lookup_insert _
  · intro key' hunused
    have hkeys : (tenantRef, key') ≠ (tenantRef, operationKey digest tenantRef (sources e.1)) := by
      intro heq
      exact hunused e (List.mem_append_right _ (List.mem_singleton_self e))
        (Prod.mk.inj heq).2.symm
    exact (AList.lookup_insert_ne hkeys).trans
      (h.unused key' fun e' he' => hunused e' (List.mem_append_left _ he'))

/-- The imports, one after another in memory: none is a replay, and both stores hold them. -/
theorem exists_mirrored {d₀ : Tables} {done : List (ι × Import)}
    (hcontexts : ∀ i, (contexts i).tenantContext = some tenantRef)
    (hinj : Set.InjOn (operationKey digest tenantRef) (Set.range sources))
    (hnew : ∀ i, d₀.records.lookup (copyKey (sources i)) = none)
    (hown : ∀ e ∈ done, e.2.Of digest tenantRef (contexts e.1) (sources e.1))
    (hdistinct : (done.map fun e => sources e.1).Nodup) :
  ∃ answers store, serveAll digest contexts sources (done.map servedOf) = .ok (answers, store)
    ∧ (∀ answer ∈ answers, answer.2 = false)
    ∧ Mirrored digest tenantRef contexts sources d₀ done
      (tenantSchema.applyAll (done.flatMap (changesOf digest tenantRef contexts sources)) d₀)
      store
  := by
  induction done using List.reverseRecOn with
  | nil =>
      refine ⟨[], {}, rfl, ?_, Mirrored.nil⟩
      intro answer hanswer
      cases hanswer
  | append_singleton done e ih =>
      rw [List.map_append, List.nodup_append] at hdistinct
      obtain ⟨hnodup, -, hdisjoint⟩ := hdistinct
      obtain ⟨answers, store, hserved, hreplayed, hmirrored⟩ :=
        ih (fun e' he' => hown e' (List.mem_append_left _ he')) hnodup
      have hmine := hown e (List.mem_append_right _ (List.mem_singleton_self e))
      have hsource : sources e.1 ∉ done.map fun e => sources e.1 := by
        intro hmem
        exact hdisjoint _ hmem _ (List.mem_singleton_self _) rfl
      have hkey : ∀ e' ∈ done, operationKey digest tenantRef (sources e'.1)
          ≠ operationKey digest tenantRef (sources e.1) := by
        intro e' he' heq
        apply hsource
        rw [← hinj (Set.mem_range_self e'.1) (Set.mem_range_self e.1) heq]
        exact List.mem_map_of_mem he'
      have hanswer : store.importStartup digest (contexts e.1) (sources e.1) (some e.2.source)
          e.2.row.occurredAt = .ok (store.writeImport tenantRef
            (operationKey digest tenantRef (sources e.1)) e.2.source
            (attributionOf (contexts e.1)) e.2.row.occurredAt) := by
        rw [InMemoryImportStore.importStartup, hcontexts,
          Option.filter_some_pos (by simpa using hmine.tenant)]
        dsimp only
        rw [hmirrored.unused _ hkey]
        rfl
      refine ⟨answers ++ [(store.writeImport tenantRef (operationKey digest tenantRef
        (sources e.1)) e.2.source (attributionOf (contexts e.1)) e.2.row.occurredAt).1],
        (store.writeImport tenantRef (operationKey digest tenantRef (sources e.1)) e.2.source
        (attributionOf (contexts e.1)) e.2.row.occurredAt).2, ?_, ?_, ?_⟩
      · rw [serveAll, List.map_append, List.foldlM_append]
        rw [serveAll] at hserved
        rw [hserved]
        show (serve digest contexts sources (answers, store) (servedOf e) >>= pure) = _
        rw [serve, servedOf, hanswer]
        rfl
      · intro answer hmem
        rcases List.mem_append.mp hmem with hold | hlast
        · exact hreplayed answer hold
        · rw [List.mem_singleton.mp hlast]
          rfl
      · rw [List.flatMap_append, Schema.applyAll_append]
        have hlast : [e].flatMap (changesOf digest tenantRef contexts sources)
            = changesOf digest tenantRef contexts sources e := List.append_nil _
        rw [hlast]
        exact hmirrored.snoc hmine (hnew e.1) hsource hkey

theorem repr_ne_empty (n : Nat) :
  n.repr ≠ ""
  := by
  intro hempty
  have hpos := Nat.length_repr_pos (n := n)
  rw [hempty] at hpos
  cases hpos

/-- The text of a column that holds an attribute. -/
theorem columnText_attribute {columns : ImportService.Columns} {source : GlobalSourceRecord}
    {name : String} (h : columns.lookup name = some (attributeValue source name)) :
  columnText columns name = source.attributes.lookup name
  := by
  rw [columnText, h, attributeValue]
  cases source.attributes.lookup name with
  | none => rfl
  | some value => rfl

/-- What the tables tell of an import. -/
theorem Mirrored.rowProvenance_eq {d₀ d : Tables} {done : List (ι × Import)}
    {store : InMemoryImportStore}
    (h : Mirrored digest tenantRef contexts sources d₀ done d store) {n : Nat} {e : ι × Import}
    (hn : done[n]? = some e)
    (hown : e.2.Of digest tenantRef (contexts e.1) (sources e.1)) :
  rowProvenance tenantRef d e.2.row = store.provenanceAt tenantRef (toString (n + 1))
  := by
  have hparse : parseRecordRef tenantRef "startups" e.2.row.targetRef = some e.2.id.repr :=
    parseRecordRef_eq_some.mpr ⟨repr_ne_empty _, hown.targetRef⟩
  have hcopy : copyOf tenantRef d e.2.row = some (copyColumns e.2.source e.2.id) := by
    rw [copyOf, hparse, Option.bind_some, hown.sourced, h.copies e (List.mem_of_getElem? hn)]
    exact Option.filter_some_pos (decide_eq_true rfl)
  have hparse' : parseRecordRef tenantRef "startups"
      (composeRecordRef tenantRef "startups" (toString (n + 1))) = some (toString (n + 1)) :=
    parseRecordRef_eq_some.mpr ⟨repr_ne_empty _, rfl⟩
  have htarget : InMemoryImportStore.value (InMemoryImportStore.lineageFields
      (operationKey digest tenantRef (sources e.1))
      (composeRecordRef tenantRef "startups" (toString (n + 1))) e.2.row.occurredAt e.2.source
      (attributionOf (contexts e.1))) "target_ref"
    = some (composeRecordRef tenantRef "startups" (toString (n + 1))) := rfl
  rw [rowProvenance, hcopy, InMemoryImportStore.provenanceAt, h.lineages n e hn]
  simp only [Option.bind_eq_bind, Option.bind_some, htarget, hparse', h.startups n e hn,
    Option.map_some]
  congr 1
  rw [Provenance.mk.injEq]
  refine ⟨rfl, rfl, columnText_attribute rfl, columnText_attribute rfl, ?_, rfl, ?_, ?_, ?_, ?_,
    ?_⟩
  · rw [hown.eventType]
    rfl
  · rw [hown.actorRef]
    rfl
  · rw [hown.operation]
    rfl
  · rw [hown.sourced, ← hown.source]
    rfl
  · rw [hown.derivationRef]
    rfl
  · rw [hown.correlationId]
    rfl

/-- Both stores tell the same of the imports, in the same order. -/
theorem Mirrored.provenance_eq {d₀ d : Tables} {done : List (ι × Import)}
    {store : InMemoryImportStore}
    (h : Mirrored digest tenantRef contexts sources d₀ done d store)
    (hown : ∀ e ∈ done, e.2.Of digest tenantRef (contexts e.1) (sources e.1)) :
  provenanceSince tenantRef d₀ d = store.provenance tenantRef
  := by
  rw [provenanceSince, InMemoryImportStore.provenance, h.lineage, List.drop_left,
    h.lineageCount]
  apply List.ext_getElem
  · simp
  · intro n hn _
    have hlength : n < done.length := by simpa using hn
    have hentry : done[n]? = some done[n] := List.getElem?_eq_getElem hlength
    simp only [List.getElem_map, List.getElem_range]
    exact h.rowProvenance_eq hentry (hown _ (List.getElem_mem hlength))

/-! ### Runs -/

/-- Any number of requests at once, with any interleaving, failures and requests that end early,
are as the imports that were committed one after another in memory: both stores hold the same
copies and provenance in the same order, and a request that succeeded returned the import that
the store in memory finds for it, as a replay exactly where it did not make it. -/
theorem imports_linearized [DecidableEq ι] {hmac : Hmac} {key : String}
    (hcontexts : ∀ i, (contexts i).tenantContext = some tenantRef)
    (hinj : Set.InjOn (operationKey digest tenantRef) (Set.range sources))
    {tables : Tables} (htables : ∀ i, Absent digest tenantRef (sources i) tables)
    {issued : List String} {nextId : Nat}
    {cfg : (tenantDatabase key ι).Config (ImportRecord × Bool)}
    (h : Reaches (anyCall _)
      (⟨⟨.quiet tables, issued, nextId⟩, fun i =>
        some (ImportService.importStartup hmac digest (contexts i) (sources i))⟩ :
          (tenantDatabase key ι).Config (ImportRecord × Bool)) cfg) :
  ∃ (served : List (Served ι)) (answers : List (ImportRecord × Bool))
      (store : InMemoryImportStore),
    (served.map Served.request).Nodup
      ∧ (∀ r ∈ served, r.source.recordRef = sources r.request)
      ∧ serveAll digest contexts sources served = .ok (answers, store)
      ∧ (∀ answer ∈ answers, answer.2 = false)
      ∧ provenanceSince tenantRef tables cfg.state.db.committed = store.provenance tenantRef
      ∧ ∀ i record replayed, cfg.returned i = some (record, replayed) →
        (replayed = false ↔ i ∈ served.map Served.request)
          ∧ ∃ n row, (cfg.state.db.committed.lineage.drop tables.lineage.length)[n]? = some row
            ∧ record = ⟨operationKey digest tenantRef (sources i), row.targetRef,
              composeRecordRef tenantRef "lineage" row.lineageId⟩
            ∧ store.findExisting tenantRef (operationKey digest tenantRef (sources i))
              = some ⟨operationKey digest tenantRef (sources i),
                composeRecordRef tenantRef "startups" (toString (n + 1)),
                composeRecordRef tenantRef "lineage" (toString (n + 1))⟩
  := by
  obtain ⟨hsettled, hreturned⟩ := import_settled hcontexts hinj (fun i => .inl (htables i)) h
  have hone : ∀ i, (writers (sources i) cfg.state.db.commits).length ≤ 1 :=
    fun i => (hsettled i).2
  have hwhole : ∀ c ∈ cfg.state.db.commits,
      Whole digest tenantRef (contexts c.1) (sources c.1) c.2 := by
    intro c hc
    have hinv := (Safe.reaches (D := requesting tables digest tenantRef (contexts c.1)
      (sources c.1) key c.1) (Q := fun _ => Returns fun _ _ => True) h
      ⟨rfl, (), fun ws hws => nomatch hws⟩ ?_).1
    · obtain ⟨-, _, hcommits⟩ := hinv
      apply hcommits
      exact List.mem_map_of_mem (List.mem_filter.mpr ⟨hc, decide_eq_true rfl⟩)
    · intro j x hx
      obtain rfl := Option.some.inj hx
      by_cases hj : c.1 = j
      · subst hj
        exact requesting_importStartup (hcontexts c.1) _ ⟨rfl, (), fun ws hws => nomatch hws⟩
          ⟨fun ws hws => (nomatch hws), rfl⟩
      · exact committing_others hj _ _ ⟨rfl, (), fun ws hws => nomatch hws⟩ trivial
  obtain ⟨done, hmade⟩ := exists_made hwhole
  obtain ⟨answers, store, hserved, hreplayed, hmirrored⟩ :=
    exists_mirrored hcontexts hinj (fun i => (htables i).copy) hmade.own (hmade.distinct hone)
  have happlied := appliedTo_of_reaches rfl h
  rw [Database.AppliedTo, Database.changes, hmade.changes] at happlied
  rw [← happlied] at hmirrored
  have hrequests : (done.map servedOf).map Served.request = done.map Prod.fst := by
    rw [List.map_map]
    rfl
  refine ⟨done.map servedOf, answers, store, ?_, ?_, hserved, hreplayed,
    hmirrored.provenance_eq hmade.own, ?_⟩
  · rw [hrequests]
    apply List.Nodup.of_map sources
    rw [List.map_map]
    exact hmade.distinct hone
  · intro r hr
    obtain ⟨e, he, rfl⟩ := List.mem_map.mp hr
    exact (hmade.own e he).source
  · intro i record replayed hi
    obtain ⟨hpresent, hwriter⟩ := hreturned i record replayed hi
    rw [hrequests, hmade.mem_iff hone]
    use hwriter
    obtain ⟨row, -, hderived, htarget, hlineage⟩ := hpresent.lineage
    -- The row is one of those that the imports added: before them there was none.
    have hrow : row ∈ cfg.state.db.committed.lineage
        ∧ row.derivationRef = some (operationKey digest tenantRef (sources i)) := by
      have hmem : row ∈ cfg.state.db.committed.lineage.filter fun r =>
          r.derivationRef = some (operationKey digest tenantRef (sources i)) := by
        rw [hderived]
        exact List.mem_singleton_self row
      exact ⟨(List.mem_filter.mp hmem).1, of_decide_eq_true (List.mem_filter.mp hmem).2⟩
    have hdone : row ∈ done.map fun e => e.2.row := by
      have hmem := hrow.1
      rw [hmirrored.lineage] at hmem
      rcases List.mem_append.mp hmem with hold | hnew
      · have hnone := (htables i).derived
        rw [List.filter_eq_nil_iff] at hnone
        exact absurd (decide_eq_true hrow.2) (hnone row hold)
      · exact hnew
    obtain ⟨n, hn⟩ := List.mem_iff_getElem?.mp hdone
    obtain ⟨e, he, rfl⟩ := Option.map_eq_some_iff.mp ((List.getElem?_map ..).symm.trans hn)
    have hkey : operationKey digest tenantRef (sources e.1)
        = operationKey digest tenantRef (sources i) := by
      have hderivation := (hmade.own e (List.mem_of_getElem? he)).derivationRef
      exact Option.some.inj (hderivation.symm.trans hrow.2)
    refine ⟨n, e.2.row, ?_, ?_, ?_⟩
    · rw [hmirrored.lineage, List.drop_left]
      exact hn
    · rw [htarget, ← hlineage, ← hpresent.importId]
    · rw [← hkey]
      exact hmirrored.found n e he

end Order

/-- Two requests for one source at once are served as one in memory, with the same copy. -/
theorem imports_linearized_replayed :
  ∃ (cfg : (tenantDatabase "chainkey" (Fin 3)).Config (ImportRecord × Bool))
      (served : List (Served (Fin 3))) (answers : List (ImportRecord × Bool))
      (store : InMemoryImportStore),
    cfg.returned 0 = some (sampleRecord, false) ∧ cfg.returned 1 = some (sampleRecord, true)
      ∧ serveAll sampleDigest (fun _ => ⟨some "t1", "user1", some "c"⟩) sampleSources served
        = .ok (answers, store)
      ∧ 0 ∈ served.map Served.request ∧ 1 ∉ served.map Served.request
      ∧ provenanceSince "t1" ⟨[], ∅, ∅, ∅, [], plainColumns⟩ cfg.state.db.committed
        = store.provenance "t1"
  := by
  have hrun : (sampleRequests.run (anyCall _) sampleMoves).map (fun cfg =>
      (cfg.returned 0, cfg.returned 1))
        = some (some (sampleRecord, false), some (sampleRecord, true)) := by
    decide +kernel
  obtain ⟨cfg, hcfg, hreturned⟩ := Reaches.of_map_run hrun
  obtain ⟨hfirst, hsecond⟩ := Prod.mk.inj hreturned
  have hinj : Set.InjOn (operationKey sampleDigest "t1") (Set.range sampleSources) := by
    rintro _ ⟨i, rfl⟩ _ ⟨j, rfl⟩
    revert i j
    decide +kernel
  obtain ⟨served, answers, store, -, -, hserved, -, hprovenance, hanswered⟩ :=
    imports_linearized (fun _ => rfl) hinj (fun i => ⟨rfl, rfl, rfl, rfl, rfl⟩) hcfg
  refine ⟨cfg, served, answers, store, hfirst, hsecond, hserved, ?_, ?_, hprovenance⟩
  · exact (hanswered 0 _ _ hfirst).1.mp rfl
  · intro hmem
    cases (hanswered 1 _ _ hsecond).1.mpr hmem

end StartupImport
