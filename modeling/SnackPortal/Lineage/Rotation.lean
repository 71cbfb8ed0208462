import SnackPortal.Lineage.Emit
import SnackPortal.Lineage.Verification
import SnackPortal.Program.Recording

/-!
# Rotation of the chain key

The current version of a tenant's chain key may advance at any time, between the emissions and
within one.  Each row carries the marker under the version that its emission has read, and the
verifier computes all markers under the version that is current when it runs; so it finds nothing
if and only if both give the same marker for each row that it reads (`verify_rotated`).
-/

namespace Lineage

open TenantDatabase

/-! ### One emission -/

/-- The row that a call appends. -/
def appendedRow : Event tenantSignature ServiceError → Option LineageRow
  | ⟨.appendLineage row, .ok _⟩ => some row
  | _ => none

/-- The key that a call resolves. -/
def resolvedKey : Event tenantSignature ServiceError → Option String
  | ⟨.resolve _ _, .ok key⟩ => some key
  | _ => none

/-- A row with the key that its marker was computed under. -/
abbrev Written := LineageRow × String

/-- The rows that the calls of an emission append, under the key that they resolve. -/
def written (events : List (Event tenantSignature ServiceError)) : List Written :=
  (events.filterMap resolvedKey).flatMap fun key =>
    (events.filterMap appendedRow).map fun row => (row, key)

/-- The calls of an emission that returns the id, the latest first: it appends the row that it
builds under the version of the key that it has read. -/
structure Emission (hmac : Hmac) (intent : LineageIntent) (lineageId : String)
    (events : List (Event tenantSignature ServiceError)) (storeRef version key : String)
    (prev : Option LineageRow) (row : LineageRow) : Prop where
  built : LineageEmit.row hmac key prev lineageId intent = .ok row
  head : ⟨.latestLineage, .ok prev⟩ ∈ events
  current : ⟨.currentVersion storeRef, .ok version⟩ ∈ events
  resolved : ⟨.resolve storeRef version, .ok key⟩ ∈ events
  written : Lineage.written events = [(row, key)]

section Emission

open Program

variable {hmac : Hmac} {service : LineageEmit} {tenantId : String} {intent : LineageIntent}
  {h : List (Event tenantSignature ServiceError)}

/-- The history of an emission that returns the id. -/
def emitted (hmac : Hmac) (intent : LineageIntent) :
    Except ServiceError String → List (Event tenantSignature ServiceError) → Prop :=
  Returning fun lineageId events => ∃ storeRef version key prev row,
    Emission hmac intent lineageId events storeRef version key prev row

/-- Nothing is asked of the calls. -/
abbrev anyOp : List (Event tenantSignature ServiceError) → TenantOp → Prop := fun _ _ => True

theorem insert_emitted {lineageId storeRef version key : String} {prev : Option LineageRow}
    (hhead : ⟨.latestLineage, .ok prev⟩ ∈ h)
    (hcurrent : ⟨.currentVersion storeRef, .ok version⟩ ∈ h)
    (hresolved : ⟨.resolve storeRef version, .ok key⟩ ∈ h)
    (hkeys : h.filterMap resolvedKey = [key]) (hnone : h.filterMap appendedRow = []) :
  Guarded anyOp (emitted hmac intent)
    (service.insert intent lineageId (LineageEmit.row hmac key prev lineageId intent)) h
  := by
  obtain ⟨row, hrow, -⟩ := LineageEmit.row_continues hmac key prev lineageId intent
  have hemission : ∀ events : List (Event tenantSignature ServiceError),
      events.filterMap appendedRow = [] → events.filterMap resolvedKey = [] →
      Emission hmac intent lineageId (events ++ ⟨.appendLineage row, .ok ()⟩ :: h) storeRef
        version key prev row := by
    intro events hevents hunresolved
    have hmem : ∀ e ∈ h, e ∈ events ++ ⟨.appendLineage row, .ok ()⟩ :: h :=
      fun e he => List.mem_append_right events (List.mem_cons_of_mem _ he)
    constructor
    · apply hrow
    · apply hmem _ hhead
    · apply hmem _ hcurrent
    · apply hmem _ hresolved
    · have hrows : (events ++ ⟨.appendLineage row, .ok ()⟩ :: h).filterMap appendedRow
          = [row] := by
        rw [List.filterMap_append, hevents, List.filterMap_cons, hnone]
        rfl
      have hone : (events ++ ⟨.appendLineage row, .ok ()⟩ :: h).filterMap resolvedKey
          = [key] := by
        rw [List.filterMap_append, hunresolved, List.filterMap_cons, hkeys]
        rfl
      rw [written, hrows, hone]
      rfl
  rw [hrow]
  apply Guarded.step trivial
  · intro _
    simp only [LineageEmit.auditWritten]
    split
    · apply Guarded.step trivial
      · intro _
        exact ⟨storeRef, version, key, prev, row, hemission [⟨.initiate _, .ok _⟩] rfl rfl⟩
      · exact fun _ => trivial
    · exact ⟨storeRef, version, key, prev, row, hemission [] rfl rfl⟩
  · exact fun _ => trivial

theorem emit_emitted :
  Guarded anyOp (emitted hmac intent) (service.emit hmac tenantId intent) []
  := by
  have hrest : ∀ h : List (Event tenantSignature ServiceError), h.filterMap appendedRow = [] →
      h.filterMap resolvedKey = [] → Guarded anyOp (emitted hmac intent)
        (perform .latestLineage >>= fun prev => perform .uuid4 >>= fun lineageId =>
          service.chainKey tenantId >>= fun key =>
          service.insert intent lineageId (LineageEmit.row hmac key prev lineageId intent)) h := by
    intro h hnone hkeys
    apply Guarded.step trivial
    · intro prev
      apply Guarded.step trivial
      · intro lineageId
        rw [LineageEmit.chainKey]
        simp only [bind_assoc]
        apply Guarded.step trivial
        · intro version
          apply Guarded.step trivial
          · intro key
            apply insert_emitted
            · simp only [List.mem_cons, true_or, or_true]
            · apply List.mem_cons_of_mem _ List.mem_cons_self
            · apply List.mem_cons_self
            · simp only [List.filterMap_cons, resolvedKey, hkeys]
            · apply hnone
          · exact fun _ => trivial
        · exact fun _ => trivial
      · exact fun _ => trivial
    · exact fun _ => trivial
  rw [LineageEmit.emit, LineageEmit.lock]
  split
  · apply Guarded.step trivial
    · intro _
      apply hrest
      · rfl
      · rfl
    · exact fun _ => trivial
  · apply hrest
    · rfl
    · rfl

end Emission

/-! ### Chains under many keys -/

/-- Both keys give the row the same marker. -/
def SameMarker (hmac : Hmac) (key : String) (written : Written) : Prop :=
  Canonical.markerFor hmac key written.1 written.1.prevMarker written.1.markerVersion
    = Canonical.markerFor hmac written.2 written.1 written.1.prevMarker written.1.markerVersion

instance (hmac : Hmac) (key : String) (written : Written) :
    Decidable (SameMarker hmac key written) :=
  inferInstanceAs (Decidable (_ = _))

/-- The rows are numbered from `n` on and linked from the marker `prev` on, and each carries the
marker under its own key. -/
def LinkedUnder (hmac : Hmac) : Int → String → List Written → Prop
  | _, _, [] => True
  | n, prev, written :: chain =>
      written.1.seq = n ∧ written.1.prevMarker = prev
        ∧ written.1.markerVersion = Canonical.currentMarkerVersion
        ∧ Canonical.markerFor hmac written.2 written.1 prev written.1.markerVersion
          = .ok written.1.integrityMarker
        ∧ LinkedUnder hmac (n + 1) written.1.integrityMarker chain

section LinkedUnder

variable {hmac : Hmac} {n : Int} {prev : String} {chain chain' : List Written}

theorem LinkedUnder.append_iff :
  LinkedUnder hmac n prev (chain ++ chain')
    ↔ LinkedUnder hmac n prev chain
      ∧ LinkedUnder hmac (n + chain.length) (lastMarker prev (chain.map Prod.fst)) chain'
  := by
  induction chain generalizing n prev with
  | nil => simp [LinkedUnder]
  | cons written chain ih =>
      have hlength : n + ((written :: chain).length : Int) = n + 1 + (chain.length : Int) := by
        rw [List.length_cons]
        omega
      rw [List.cons_append, LinkedUnder, LinkedUnder, ih, List.map_cons, lastMarker_cons, hlength]
      simp only [and_assoc]

/-- The numbers of the rows. -/
theorem LinkedUnder.seq_lt (h : LinkedUnder hmac n prev chain) {written : Written}
    (hwritten : written ∈ chain) :
  n ≤ written.1.seq ∧ written.1.seq < n + chain.length
  := by
  obtain ⟨front, back, rfl⟩ := List.append_of_mem hwritten
  have hseq := (LinkedUnder.append_iff.mp h).2.1
  rw [hseq, List.length_append, List.length_cons]
  push_cast
  omega

/-- The numbers of the rows increase. -/
theorem LinkedUnder.increasing (h : LinkedUnder hmac n prev chain) :
  Keyset.Increasing LineageRow.seq (chain.map Prod.fst)
  := by
  induction chain generalizing n prev with
  | nil => apply List.Pairwise.nil
  | cons written chain ih =>
      obtain ⟨hseq, -, -, -, hrest⟩ := h
      apply List.Pairwise.cons
      · intro row hrow
        obtain ⟨written', hwritten', rfl⟩ := List.mem_map.mp hrow
        have hbounds := hrest.seq_lt hwritten'
        rw [hseq]
        omega
      · apply ih hrest

/-- The head of the chain is its last row. -/
theorem LinkedUnder.latest_eq (h : LinkedUnder hmac n prev chain) :
  latest (chain.map Prod.fst) = (chain.map Prod.fst).getLast?
  := by
  induction chain using List.reverseRecOn with
  | nil => rfl
  | append_singleton chain written ih =>
      have ih := ih (LinkedUnder.append_iff.mp h).1
      have hincreasing := h.increasing
      rw [List.map_append, List.map_singleton] at hincreasing ⊢
      obtain ⟨-, -, hlast⟩ := List.pairwise_append.mp hincreasing
      rw [latest, List.argmax_concat, List.getLast?_concat, ← latest, ih]
      cases hrows : (chain.map Prod.fst).getLast? with
      | none => rfl
      | some row =>
          have hlt := hlast row (List.mem_of_getLast? hrows) written.1 List.mem_cons_self
          simp only [if_pos hlt]

/-- A row built from the head under a key continues the chain. -/
theorem LinkedUnder.append (h : LinkedUnder hmac 1 "" chain) {row : LineageRow}
    {lineageId key : String} {intent : LineageIntent}
    (hrow : row.Continues hmac key (latest (chain.map Prod.fst)) lineageId intent) :
  LinkedUnder hmac 1 "" (chain ++ [(row, key)])
  := by
  apply LinkedUnder.append_iff.mpr
  use h
  have hseq := hrow.seq
  have hprev := hrow.prevMarker
  have hmarker := hrow.marker
  rw [h.latest_eq] at hseq hprev
  have hlink : row.prevMarker = lastMarker "" (chain.map Prod.fst) := by
    rw [hprev, lastMarker]
    cases (chain.map Prod.fst).getLast? <;> rfl
  rw [hlink] at hmarker
  refine ⟨?_, hlink, hrow.version, hmarker, trivial⟩
  rw [hseq]
  cases hlast : (chain.map Prod.fst).getLast? with
  | none =>
      obtain rfl := List.map_eq_nil_iff.mp (List.getLast?_eq_none_iff.mp hlast)
      rfl
  | some last =>
      obtain ⟨front, hfront⟩ := List.getLast?_eq_some_iff.mp hlast
      obtain ⟨chain₁, chain₂, rfl, -, hsingle⟩ := List.map_eq_append_iff.mp hfront
      obtain ⟨written, rfl, rfl⟩ := List.map_eq_singleton_iff.mp hsingle
      have hnumber := (LinkedUnder.append_iff.mp h).2.1
      rw [Option.elim, hnumber, List.length_append, List.length_singleton]
      push_cast
      omega

/-- What the verifier finds under a key. -/
theorem LinkedUnder.findings_eq_nil (h : LinkedUnder hmac n prev chain) {key : String}
    {prevSeq : Option Int} (hprev : ∀ m ∈ prevSeq, m + 1 = n) :
  findings hmac key prev prevSeq (chain.map Prod.fst) = []
    ↔ ∀ written ∈ chain, SameMarker hmac key written
  := by
  induction chain generalizing n prev prevSeq with
  | nil => exact ⟨fun _ _ => (nomatch ·), fun _ => rfl⟩
  | cons written chain ih =>
      obtain ⟨hseq, hlink, hversion, hmarker, hrest⟩ := h
      have hread : readVersion written.1 = written.1.markerVersion := by
        rw [readVersion, hversion]
        rfl
      have hnext : ∀ m ∈ some written.1.seq, m + 1 = n + 1 := by
        intro m hm
        cases hm
        rw [hseq]
      have hrow : rowFindings hmac key prev prevSeq written.1 = []
          ↔ SameMarker hmac key written := by
        rw [rowFindings_eq_nil, hread, SameMarker, hlink, hmarker, hseq]
        exact ⟨fun hfound => hfound.1, fun hsame => ⟨hsame, rfl, hprev⟩⟩
      rw [List.map_cons, findings, List.append_eq_nil_iff, hrow, ih hrest hnext,
        List.forall_mem_cons]

/-- A verification of the chain under a key reads a beginning of it, and finds nothing if and only
if the key gives each row there the marker of the row's own key. -/
theorem LinkedUnder.verify (h : LinkedUnder hmac 1 "" chain) (key : String) (scanPage : Nat)
    (tenantId : String) (maxRecords : Option Nat) :
  ∃ rep, Lineage.verify hmac key scanPage tenantId maxRecords (chain.map Prod.fst) = some rep
    ∧ (rep.ok = true ↔ ∀ written ∈ chain.take rep.scanned, SameMarker hmac key written)
    ∧ (0 < scanPage → maxRecords = none → rep.scanned = chain.length)
  := by
  obtain ⟨rep, hrep⟩ : ∃ rep, Lineage.verify hmac key scanPage tenantId maxRecords
      (chain.map Prod.fst) = some rep := by
    apply Option.isSome_iff_exists.mp
    apply verify_isSome
  obtain ⟨out, hout, rfl⟩ := Option.map_eq_some_iff.mp hrep
  have hread : out = (chain.take out.length).map Prod.fst := by
    rw [List.map_take]
    apply List.prefix_iff_eq_take.mp
    apply scan_isPrefix (List.Perm.refl _) h.increasing hout
  refine ⟨_, hrep, ?_, ?_⟩
  · have htaken : LinkedUnder hmac 1 "" (chain.take out.length) := by
      have hsplit := h
      rw [← List.take_append_drop out.length chain] at hsplit
      apply (LinkedUnder.append_iff.mp hsplit).1
    have hfindings : ∀ m ∈ (none : Option Int), m + 1 = 1 := fun _ => (nomatch ·)
    have hok : (report hmac key tenantId out).ok = true ↔ findings hmac key "" none out = [] := by
      rw [report, List.isEmpty_iff]
    rw [hok]
    nth_rewrite 1 [hread]
    apply htaken.findings_eq_nil hfindings
  · rintro hpage rfl
    have hall := scan_complete hpage (List.Perm.refl _) h.increasing
      (Nat.lt_succ_self (chain.map Prod.fst).length)
    rw [hout] at hall
    rw [report, Option.some.inj hall, List.length_map]

end LinkedUnder

/-! ### Emissions and rotations -/

/-- The answers to the calls of an emission on the chain, while the current version of the key
advances from one to another: each version resolves to its material. -/
def Answers (version material : Nat → String) (first last : Nat) (chain : List Written) :
    Event tenantSignature ServiceError → Prop
  | ⟨.latestLineage, .ok prev⟩ => prev = latest (chain.map Prod.fst)
  | ⟨.currentVersion _, .ok name⟩ => ∃ n, first ≤ n ∧ n ≤ last ∧ name = version n
  | ⟨.resolve _ name, .ok key⟩ => ∀ n, first ≤ n → n ≤ last → name = version n → key = material n
  | _ => True

/-- The chains that emissions leave while the chain key rotates, with the current version. -/
inductive Rotated (hmac : Hmac) (version material : Nat → String) :
    Nat → List Written → Prop where
  | start : Rotated hmac version material 0 []
  | rotate {n : Nat} {chain : List Written} (h : Rotated hmac version material n chain) :
      Rotated hmac version material (n + 1) chain
  | emit {n n' : Nat} {chain : List Written} (h : Rotated hmac version material n chain)
      (hn : n ≤ n') (service : LineageEmit) (tenantId : String) (intent : LineageIntent)
      {events : List (Event tenantSignature ServiceError)} {lineageId : String}
      (hrun : (service.emit hmac tenantId intent).After events (.ret (.ok lineageId)))
      (hanswers : ∀ e ∈ events, Answers version material n n' chain e) :
      Rotated hmac version material n' (chain ++ written events)

section Rotated

variable {hmac : Hmac} {version material : Nat → String} {n : Nat} {chain : List Written}

/-- An emission that returns appends one row, built from the head of the chain under a version
that was current while it ran. -/
theorem written_eq {n' : Nat} {service : LineageEmit} {tenantId : String} {intent : LineageIntent}
    {events : List (Event tenantSignature ServiceError)} {lineageId : String}
    (hrun : (service.emit hmac tenantId intent).After events (.ret (.ok lineageId)))
    (hanswers : ∀ e ∈ events, Answers version material n n' chain e) :
  ∃ m row, n ≤ m ∧ m ≤ n' ∧ written events = [(row, material m)]
    ∧ row.Continues hmac (material m) (latest (chain.map Prod.fst)) lineageId intent
  := by
  obtain ⟨storeRef, name, key, prev, row, hemission⟩ := emit_emitted.after hrun
  obtain ⟨m, hfirst, hlast, rfl⟩ := hanswers _ hemission.current
  obtain rfl : key = material m := hanswers _ hemission.resolved m hfirst hlast rfl
  obtain rfl : prev = latest (chain.map Prod.fst) := hanswers _ hemission.head
  exact ⟨m, row, hfirst, hlast, hemission.written, LineageEmit.continues_of_row hemission.built⟩

theorem Rotated.linked (h : Rotated hmac version material n chain) :
  LinkedUnder hmac 1 "" chain
  := by
  induction h with
  | start => trivial
  | rotate _ ih => apply ih
  | emit _ _ _ _ _ hrun hanswers ih =>
      obtain ⟨m, row, -, -, hwritten, hcontinues⟩ := written_eq hrun hanswers
      rw [hwritten]
      apply ih.append hcontinues

/-- Every row was written under a version that was current then. -/
theorem Rotated.keys (h : Rotated hmac version material n chain) :
  ∀ written ∈ chain, ∃ m ≤ n, written.2 = material m
  := by
  induction h with
  | start => exact fun _ => (nomatch ·)
  | rotate _ ih =>
      intro written hwritten
      obtain ⟨m, hm, hkey⟩ := ih written hwritten
      exact ⟨m, by omega, hkey⟩
  | emit _ hn _ _ _ hrun hanswers ih =>
      obtain ⟨m, row, -, hlast, hnew, -⟩ := written_eq hrun hanswers
      intro written hwritten
      rcases List.mem_append.mp hwritten with hold | hwritten
      · obtain ⟨m, hm, hkey⟩ := ih written hold
        exact ⟨m, by omega, hkey⟩
      · rw [hnew] at hwritten
        obtain rfl := List.mem_singleton.mp hwritten
        exact ⟨m, hlast, rfl⟩

/-- Whatever emissions and rotations came before, the verifier reports ok if and only if the key
that is current when it runs gives each row that it reads the marker of the key that the row was
written under; where all rows are asked for, it reads all. -/
theorem verify_rotated (h : Rotated hmac version material n chain) (scanPage : Nat)
    (tenantId : String) (maxRecords : Option Nat) :
  ∃ rep, verify hmac (material n) scanPage tenantId maxRecords (chain.map Prod.fst) = some rep
    ∧ (rep.ok = true ↔ ∀ written ∈ chain.take rep.scanned, SameMarker hmac (material n) written)
    ∧ (0 < scanPage → maxRecords = none → rep.scanned = chain.length)
  := h.linked.verify (material n) scanPage tenantId maxRecords

/-- Where all versions up to the current one have one material, the verifier reports ok. -/
theorem verify_unrotated (h : Rotated hmac version material n chain)
    (hmaterial : ∀ m ≤ n, material m = material n) (scanPage : Nat) (tenantId : String)
    (maxRecords : Option Nat) :
  ∃ rep, verify hmac (material n) scanPage tenantId maxRecords (chain.map Prod.fst) = some rep
    ∧ rep.ok = true
  := by
  obtain ⟨rep, hrep, hok, -⟩ := h.linked.verify (material n) scanPage tenantId maxRecords
  refine ⟨rep, hrep, hok.mpr ?_⟩
  intro written hwritten
  obtain ⟨m, hm, hkey⟩ := h.keys written (List.mem_of_mem_take hwritten)
  rw [SameMarker, hkey, hmaterial m hm]

end Rotated

/-! ### One row and one rotation -/

/-- A digest that tells keys of different lengths apart. -/
def sampleDigest : Hmac := fun key _ => Nat.repr key.size

/-- Each version of the key is longer than the one before. -/
def sampleMaterial (n : Nat) : String := String.ofList (List.replicate (n + 1) 'k')

def sampleIntent : LineageIntent where
  eventType := "import"
  occurredAt := "2026-01-01T00:00:00+00:00"
  actorRef := "user:1"
  sourceRef := "startup:1"
  targetRef := "t1:startups:1"
  operation := "create"
  schemaVersion := "1"
  derivationRef := some "import:1"
  parentLineageRef := none
  correlationId := some "c-1"

/-- The first row, under the first version of the key. -/
def sampleRow : LineageRow where
  lineageId := "a1"
  seq := 1
  segmentId := 1
  eventType := "import"
  occurredAt := "2026-01-01T00:00:00+00:00"
  actorRef := "user:1"
  sourceRef := "startup:1"
  targetRef := "t1:startups:1"
  operation := "create"
  schemaVersion := "1"
  derivationRef := some "import:1"
  parentLineageRef := none
  correlationId := some "c-1"
  markerVersion := 1
  prevMarker := ""
  integrityMarker := "1"

/-- The calls of the emission of the first row. -/
def sampleEvents : List (Event tenantSignature ServiceError) :=
  [⟨.appendLineage sampleRow, .ok ()⟩, ⟨.resolve "lineage/t1/chainkey" "0", .ok "k"⟩,
    ⟨.currentVersion "lineage/t1/chainkey", .ok "0"⟩, ⟨.uuid4, .ok "a1"⟩,
    ⟨.latestLineage, .ok none⟩]

theorem sampleRow_rotated :
  Rotated sampleDigest Nat.repr sampleMaterial 1 [(sampleRow, "k")]
  := by
  have hreplay : (LineageEmit.emit ⟨"lineage", false, false⟩ sampleDigest "t1"
      sampleIntent).replay sampleEvents.reverse = some (.ret (.ok "a1")) := rfl
  have hafter := Program.After.of_replay hreplay
  have hanswers : ∀ e ∈ sampleEvents, Answers Nat.repr sampleMaterial 0 0 [] e := by
    simp only [sampleEvents, List.forall_mem_cons]
    refine ⟨trivial, ?_, ?_, trivial, rfl, fun _ => (nomatch ·)⟩
    · intro n _ hn _
      obtain rfl := Nat.le_zero.mp hn
      rfl
    · exact ⟨0, le_rfl, le_rfl, rfl⟩
  exact .rotate (.emit .start le_rfl ⟨"lineage", false, false⟩ "t1" sampleIntent hafter hanswers)

/-- After one rotation the verifier reports the untampered row of an emission. -/
theorem verify_rotated_reports :
  ∃ n chain rep, Rotated sampleDigest Nat.repr sampleMaterial n chain
    ∧ verify sampleDigest (sampleMaterial n) 500 "t1" none (chain.map Prod.fst) = some rep
    ∧ rep.ok = false
  := by
  refine ⟨1, [(sampleRow, "k")], _, sampleRow_rotated, rfl, ?_⟩
  decide +kernel

theorem verify_rotated_sample :
  ∃ rep, verify sampleDigest (sampleMaterial 1) 500 "t1" none [sampleRow] = some rep
    ∧ (rep.ok = true ↔ ∀ written ∈ [(sampleRow, "k")].take rep.scanned,
      SameMarker sampleDigest (sampleMaterial 1) written)
    ∧ (0 < 500 → (none : Option Nat) = none → rep.scanned = 1)
  := verify_rotated sampleRow_rotated 500 "t1" none

end Lineage
