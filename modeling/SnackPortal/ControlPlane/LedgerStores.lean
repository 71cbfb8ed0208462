import SnackPortal.Data.Delimited
import SnackPortal.ControlPlane.Distinctness

/-!
# The two ledgers

The distinctness ledger in memory compares the joined fingerprints of two pieces of evidence, and
the one in PostgreSQL has a unique index on the two columns that the fingerprint joins.  Given the
same calls they accept and refuse alike and hold the same entries as long as no call that the
database takes finds a fingerprint of another tenant that is the join of another pair, and as long
as the database takes the texts of the calls that the ledger in memory accepts.
-/

namespace ControlPlane

/-- A call that changes a ledger; `recordedAt` is the time of the call. -/
inductive LedgerCall where
  | record (tenantId : String) (evidence : DistinctnessEvidence) (recordedAt : String)
  | remove (tenantId : String)
deriving DecidableEq, Repr

/-- The exceptions of a ledger: a `DistinctnessCollisionError`, or one of the driver. -/
inductive LedgerError where
  | collision
  | driver
deriving DecidableEq, Repr

/-- Both pieces of evidence are of the same pair of identifiers. -/
def DistinctnessEvidence.samePair (e e' : DistinctnessEvidence) : Bool :=
  e.systemIdentifier == e'.systemIdentifier && e.databaseIdentity == e'.databaseIdentity

/-- A call on `InMemoryDistinctnessLedger`. -/
def InMemoryDistinctnessLedger.call (l : Ledger) :
    LedgerCall → Except LedgerError Unit × Ledger
  | .record tenantId evidence _ =>
      if l.holdsElsewhere tenantId evidence.fingerprint then
        (.error .collision, l)
      else
        (.ok (), l.insert tenantId evidence)
  | .remove tenantId => (.ok (), l.erase tenantId)

namespace PostgresDistinctnessLedger

/-- A row of `control_distinctness_ledger`. -/
structure Row where
  tenantId : String
  evidence : DistinctnessEvidence
  recordedAt : String
deriving DecidableEq, Repr

/-- The rows after the insertion of one, which goes over the row of the same tenant. -/
def upsert (rows : List Row) (row : Row) : List Row :=
  if rows.any fun old => old.tenantId == row.tenantId then
    rows.map fun old => if old.tenantId == row.tenantId then row else old
  else
    rows ++ [row]

/-- The unique index has the pair of the evidence for another tenant. -/
def violates (rows : List Row) (tenantId : String) (evidence : DistinctnessEvidence) : Bool :=
  rows.any fun row => row.tenantId != tenantId && row.evidence.samePair evidence

/-- A call on `PostgresDistinctnessLedger`, where `takes` says which calls have parameters that
the driver and the database take: texts without NUL and surrogates, and of a size that the
indexes hold. -/
def call (takes : LedgerCall → Bool) (rows : List Row) (c : LedgerCall) :
    Except LedgerError Unit × List Row :=
  if !takes c then
    (.error .driver, rows)
  else
    match c with
    | .record tenantId evidence recordedAt =>
        if violates rows tenantId evidence then
          (.error .collision, rows)
        else
          (.ok (), upsert rows ⟨tenantId, evidence, recordedAt⟩)
    | .remove tenantId => (.ok (), rows.filter fun row => row.tenantId != tenantId)

/-- The entry of a tenant. -/
def entry (rows : List Row) (tenantId : String) : Option DistinctnessEvidence :=
  (rows.find? fun row => row.tenantId == tenantId).map Row.evidence

end PostgresDistinctnessLedger

/-- The answers to a sequence of calls, and what they leave. -/
def replay {σ : Type} (call : σ → LedgerCall → Except LedgerError Unit × σ) :
    σ → List LedgerCall → List (Except LedgerError Unit) × σ
  | s, [] => ([], s)
  | s, c :: calls =>
      let (answer, s') := call s c
      let (answers, s'') := replay call s' calls
      (answer :: answers, s'')

open PostgresDistinctnessLedger

/-! ### Entries and rows -/

section Rows

variable {rows : List Row} {l : Ledger} {t : String} {e : DistinctnessEvidence}

/-- Every tenant has one row: the primary key. -/
def OneRow (rows : List Row) : Prop :=
  (rows.map Row.tenantId).Nodup

/-- Both ledgers hold the same entries. -/
def SameEntries (l : Ledger) (rows : List Row) : Prop :=
  ∀ t, l.lookup t = entry rows t

theorem entry_eq_some (h : OneRow rows) :
  entry rows t = some e ↔ ∃ row ∈ rows, row.tenantId = t ∧ row.evidence = e
  := by
  rw [entry, Option.map_eq_some_iff]
  constructor
  · intro hfound
    obtain ⟨row, hrow, he⟩ := hfound
    use row, List.mem_of_find?_eq_some hrow
    constructor
    · simpa using List.find?_some hrow
    · apply he
  · intro hmem
    obtain ⟨row, hrow, ht, he⟩ := hmem
    use row
    constructor
    · obtain ⟨front, back, rfl⟩ := List.append_of_mem hrow
      rw [OneRow, List.map_append, List.map_cons, List.nodup_middle, List.nodup_cons] at h
      apply List.find?_eq_some_iff_append.mpr
      use by simpa using ht
      use front, back, rfl
      intro row' hrow'
      have hne : row'.tenantId ≠ row.tenantId := by
        intro heq
        apply h.1
        rw [← heq]
        apply List.mem_append_left
        apply List.mem_map_of_mem hrow'
      simpa [ht] using hne
    · apply he

theorem mem_entries_iff :
  (⟨t, e⟩ : Sigma fun _ : String => DistinctnessEvidence) ∈ l.entries ↔ l.lookup t = some e
  := by
  apply AList.mem_lookup_iff.symm

/-- The index finds the pair exactly where an entry of another tenant has it. -/
theorem violates_iff (h : OneRow rows) (hsame : SameEntries l rows) :
  violates rows t e ↔ ∃ t' e', t' ≠ t ∧ l.lookup t' = some e' ∧ e'.samePair e
  := by
  rw [violates, List.any_eq_true]
  constructor
  · intro hany
    obtain ⟨row, hrow, hviolates⟩ := hany
    rw [Bool.and_eq_true, bne_iff_ne] at hviolates
    use row.tenantId, row.evidence, hviolates.1
    constructor
    · rw [hsame]
      apply (entry_eq_some h).mpr ⟨row, hrow, rfl, rfl⟩
    · apply hviolates.2
  · intro hentry
    obtain ⟨t', e', hne, he', hpair⟩ := hentry
    rw [hsame] at he'
    obtain ⟨row, hrow, rfl, rfl⟩ := (entry_eq_some h).mp he'
    use row, hrow
    rw [Bool.and_eq_true, bne_iff_ne]
    exact ⟨hne, hpair⟩

theorem holdsElsewhere_iff {f : String} :
  l.holdsElsewhere t f ↔ ∃ t' e', t' ≠ t ∧ l.lookup t' = some e' ∧ e'.fingerprint = f
  := by
  rw [Ledger.holdsElsewhere, List.any_eq_true]
  constructor
  · intro hany
    obtain ⟨⟨t', e'⟩, hmem, hholds⟩ := hany
    rw [Bool.and_eq_true, bne_iff_ne, beq_iff_eq] at hholds
    use t', e', hholds.1, mem_entries_iff.mp hmem
    apply hholds.2
  · intro hentry
    obtain ⟨t', e', hne, he', hf⟩ := hentry
    use ⟨t', e'⟩, mem_entries_iff.mpr he'
    rw [Bool.and_eq_true, bne_iff_ne, beq_iff_eq]
    exact ⟨hne, hf⟩

/-- The same pair has the same fingerprint. -/
theorem fingerprint_of_samePair {e e' : DistinctnessEvidence} (h : e.samePair e') :
  e.fingerprint = e'.fingerprint
  := by
  rw [DistinctnessEvidence.samePair, Bool.and_eq_true, beq_iff_eq, beq_iff_eq] at h
  apply DistinctnessEvidence.fingerprint_congr h.1 h.2

/-! ### Writes -/

theorem map_tenantId_upsert (row : Row) :
  (upsert rows row).map Row.tenantId
    = if rows.any fun old => old.tenantId == row.tenantId then rows.map Row.tenantId
      else rows.map Row.tenantId ++ [row.tenantId]
  := by
  rw [upsert]
  split
  · rw [List.map_map]
    apply List.map_congr_left
    intro old _
    simp only [Function.comp_apply]
    split
    · rename_i heq
      apply (beq_iff_eq.mp heq).symm
    · rfl
  · rw [List.map_append]
    rfl

theorem OneRow.upsert (h : OneRow rows) (row : Row) :
  OneRow (upsert rows row)
  := by
  rw [OneRow, map_tenantId_upsert]
  split
  · apply h
  · rename_i hnone
    apply List.nodup_append.mpr
    use h, List.nodup_singleton _
    intro t ht t' ht'
    obtain ⟨old, hold, rfl⟩ := List.mem_map.mp ht
    rw [List.mem_singleton.mp ht']
    intro heq
    apply hnone
    apply List.any_eq_true.mpr
    use old, hold
    apply beq_iff_eq.mpr heq

/-- The row that was inserted, and the rows of the other tenants. -/
theorem mem_upsert {row row' : Row} :
  row' ∈ upsert rows row ↔ row' = row ∨ row' ∈ rows ∧ row'.tenantId ≠ row.tenantId
  := by
  rw [upsert]
  split
  · rename_i hany
    obtain ⟨old, hold, heq⟩ := List.any_eq_true.mp hany
    rw [List.mem_map]
    constructor
    · intro hmem
      obtain ⟨old', hold', hrow'⟩ := hmem
      split at hrow'
      · left
        apply hrow'.symm
      · rename_i hne
        right
        subst hrow'
        use hold'
        simpa using hne
    · rintro (rfl | ⟨hrow', hne⟩)
      · use old, hold
        rw [if_pos heq]
      · use row', hrow'
        rw [if_neg (by simpa using hne)]
  · rename_i hnone
    rw [List.mem_append, List.mem_singleton]
    constructor
    · rintro (hrow' | rfl)
      · right
        use hrow'
        intro heq
        apply hnone
        apply List.any_eq_true.mpr
        use row', hrow'
        apply beq_iff_eq.mpr heq
      · left
        rfl
    · rintro (rfl | ⟨hrow', -⟩)
      · right
        rfl
      · left
        apply hrow'

theorem SameEntries.record (h : SameEntries l rows) (hrows : OneRow rows)
    (recordedAt : String) :
  SameEntries (l.insert t e) (upsert rows ⟨t, e, recordedAt⟩)
  := by
  intro t'
  apply Option.ext
  intro e'
  rw [entry_eq_some (hrows.upsert _)]
  by_cases ht : t' = t
  · subst ht
    rw [AList.lookup_insert, Option.some.injEq]
    constructor
    · rintro rfl
      use ⟨t', e, recordedAt⟩, mem_upsert.mpr (.inl rfl)
    · intro hentry
      obtain ⟨row, hrow, htenant, rfl⟩ := hentry
      rcases mem_upsert.mp hrow with rfl | ⟨-, hne⟩
      · rfl
      · contradiction
  · rw [AList.lookup_insert_ne ht, h t', entry_eq_some hrows]
    constructor
    · intro hentry
      obtain ⟨row, hrow, rfl, he⟩ := hentry
      use row, mem_upsert.mpr (.inr ⟨hrow, ht⟩)
    · intro hentry
      obtain ⟨row, hrow, rfl, he⟩ := hentry
      rcases mem_upsert.mp hrow with rfl | ⟨hrow, -⟩
      · exact absurd rfl ht
      · use row

theorem OneRow.remove (h : OneRow rows) (t : String) :
  OneRow (rows.filter fun row => row.tenantId != t)
  := h.sublist (List.filter_sublist.map _)

theorem SameEntries.remove (h : SameEntries l rows) (hrows : OneRow rows) (t : String) :
  SameEntries (l.erase t) (rows.filter fun row => row.tenantId != t)
  := by
  intro t'
  apply Option.ext
  intro e'
  rw [entry_eq_some (hrows.remove t)]
  by_cases ht : t' = t
  · subst ht
    rw [AList.lookup_erase]
    constructor
    · intro hnone
      cases hnone
    · intro hentry
      obtain ⟨row, hrow, htenant, -⟩ := hentry
      exact absurd htenant (by simpa using (List.mem_filter.mp hrow).2)
  · rw [AList.lookup_erase_ne ht, h t', entry_eq_some hrows]
    constructor
    · intro hentry
      obtain ⟨row, hrow, rfl, he⟩ := hentry
      use row, List.mem_filter.mpr ⟨hrow, by simpa using ht⟩
    · intro hentry
      obtain ⟨row, hrow, htenant, he⟩ := hentry
      use row, (List.mem_filter.mp hrow).1

end Rows

/-! ### The same calls -/

section Calls

variable (takes : LedgerCall → Bool)

/-- Another tenant holds the pair of the evidence. -/
def Ledger.holdsPairElsewhere (l : Ledger) (t : String) (e : DistinctnessEvidence) : Bool :=
  l.entries.any fun entry => entry.1 != t && entry.2.samePair e

/-- The database takes the call, and where the fingerprint is that of another tenant's entry, it
is the fingerprint of the pair of another tenant's entry. -/
def Clear (l : Ledger) (c : LedgerCall) : Prop :=
  takes c ∧ match c with
    | .record t e _ => l.holdsElsewhere t e.fingerprint → l.holdsPairElsewhere t e
    | .remove _ => True

/-- The database takes a call that the ledger in memory accepts, and one that it takes with the
fingerprint of another tenant's entry is of the pair of such an entry. -/
def Concurs (l : Ledger) (c : LedgerCall) : Prop :=
  match c with
  | .record t e _ =>
      if l.holdsElsewhere t e.fingerprint then takes c → l.holdsPairElsewhere t e else takes c
  | .remove _ => takes c

/-- Every call of the sequence meets the condition where the ledger in memory then stands. -/
def Along (P : Ledger → LedgerCall → Prop) (l : Ledger) : List LedgerCall → Prop
  | [] => True
  | c :: calls => P l c ∧ Along P (InMemoryDistinctnessLedger.call l c).2 calls

abbrev ClearAlong := Along (Clear takes)

abbrev ConcursAlong := Along (Concurs takes)

/-- What is observed of the answers of both ledgers is the same, and they hold the same entries
afterwards. -/
def AgreeOn {β : Type} (observe : Except LedgerError Unit → β) (l : Ledger) (rows : List Row)
    (calls : List LedgerCall) : Prop :=
  (replay InMemoryDistinctnessLedger.call l calls).1.map observe
      = (replay (PostgresDistinctnessLedger.call takes) rows calls).1.map observe
    ∧ SameEntries (replay InMemoryDistinctnessLedger.call l calls).2
      (replay (PostgresDistinctnessLedger.call takes) rows calls).2

/-- Both ledgers give the same answers to the calls, refusals of one kind included, and hold the
same entries afterwards. -/
def Agree : Ledger → List Row → List LedgerCall → Prop :=
  AgreeOn takes id

/-- Both ledgers accept the same calls and refuse the same calls, and hold the same entries
afterwards. -/
def AcceptAlike : Ledger → List Row → List LedgerCall → Prop :=
  AgreeOn takes Except.isOk

variable {takes} {l : Ledger} {rows : List Row} {c : LedgerCall}

theorem violates_eq (h : OneRow rows) (hsame : SameEntries l rows) (t : String)
    (e : DistinctnessEvidence) :
  violates rows t e = l.holdsPairElsewhere t e
  := by
  apply Bool.eq_iff_iff.mpr
  rw [violates_iff h hsame, Ledger.holdsPairElsewhere, List.any_eq_true]
  constructor
  · intro hentry
    obtain ⟨t', e', hne, he', hpair⟩ := hentry
    use ⟨t', e'⟩, mem_entries_iff.mpr he'
    rw [Bool.and_eq_true, bne_iff_ne]
    exact ⟨hne, hpair⟩
  · intro hany
    obtain ⟨⟨t', e'⟩, hmem, hholds⟩ := hany
    rw [Bool.and_eq_true, bne_iff_ne] at hholds
    use t', e', hholds.1, mem_entries_iff.mp hmem, hholds.2

/-- The pair of another tenant has its fingerprint. -/
theorem holdsElsewhere_of_pair {t : String} {e : DistinctnessEvidence}
    (h : l.holdsPairElsewhere t e) :
  l.holdsElsewhere t e.fingerprint
  := by
  obtain ⟨entry, hmem, hholds⟩ := List.any_eq_true.mp h
  rw [Bool.and_eq_true] at hholds
  apply List.any_eq_true.mpr
  use entry, hmem
  rw [Bool.and_eq_true, beq_iff_eq]
  exact ⟨hholds.1, fingerprint_of_samePair hholds.2⟩

/-- One call: the ledgers answer alike exactly where it is clear. -/
theorem answers_iff (h : OneRow rows) (hsame : SameEntries l rows) :
  (InMemoryDistinctnessLedger.call l c).1 = (PostgresDistinctnessLedger.call takes rows c).1
    ↔ Clear takes l c
  := by
  cases c with
  | record t e recordedAt =>
      rw [Clear, InMemoryDistinctnessLedger.call, PostgresDistinctnessLedger.call]
      simp only [violates_eq h hsame]
      cases htakes : takes (.record t e recordedAt) with
      | false => split <;> simp
      | true =>
          cases hpair : l.holdsPairElsewhere t e with
          | true => simp [holdsElsewhere_of_pair hpair]
          | false => cases hholds : l.holdsElsewhere t e.fingerprint <;> simp
  | remove t =>
      rw [Clear, InMemoryDistinctnessLedger.call, PostgresDistinctnessLedger.call]
      cases htakes : takes (.remove t) <;> simp

/-- One call: the ledgers accept and refuse it alike exactly where they concur. -/
theorem accepts_iff (h : OneRow rows) (hsame : SameEntries l rows) :
  (InMemoryDistinctnessLedger.call l c).1.isOk
      = (PostgresDistinctnessLedger.call takes rows c).1.isOk
    ↔ Concurs takes l c
  := by
  cases c with
  | record t e recordedAt =>
      rw [Concurs, InMemoryDistinctnessLedger.call, PostgresDistinctnessLedger.call]
      simp only [violates_eq h hsame]
      cases htakes : takes (.record t e recordedAt) with
      | false => split <;> simp [Except.toBool]
      | true =>
          cases hpair : l.holdsPairElsewhere t e with
          | true => simp [holdsElsewhere_of_pair hpair, Except.toBool]
          | false => cases hholds : l.holdsElsewhere t e.fingerprint <;> simp [Except.toBool]
  | remove t =>
      rw [Concurs, InMemoryDistinctnessLedger.call, PostgresDistinctnessLedger.call]
      cases htakes : takes (.remove t) <;> simp [Except.toBool]

theorem Clear.concurs (h : Clear takes l c) :
  Concurs takes l c
  := by
  cases c with
  | record t e recordedAt =>
      rw [Concurs]
      split
      · rename_i hholds
        exact fun _ => h.2 hholds
      · apply h.1
  | remove t => apply h.1

/-- One call in which the ledgers concur leaves the same entries. -/
theorem sameEntries_call (h : OneRow rows) (hsame : SameEntries l rows)
    (hconcurs : Concurs takes l c) :
  OneRow (PostgresDistinctnessLedger.call takes rows c).2
    ∧ SameEntries (InMemoryDistinctnessLedger.call l c).2
      (PostgresDistinctnessLedger.call takes rows c).2
  := by
  cases c with
  | record t e recordedAt =>
      rw [Concurs] at hconcurs
      rw [InMemoryDistinctnessLedger.call, PostgresDistinctnessLedger.call]
      simp only [violates_eq h hsame]
      split at hconcurs
      · rename_i hholds
        rw [if_pos hholds]
        split
        · exact ⟨h, hsame⟩
        · rename_i htakes
          rw [if_pos (hconcurs (by simpa using htakes))]
          exact ⟨h, hsame⟩
      · rename_i hholds
        have hpair : ¬ l.holdsPairElsewhere t e := fun hpair => hholds (holdsElsewhere_of_pair hpair)
        rw [if_neg hholds, hconcurs, Bool.not_true, if_neg Bool.false_ne_true, if_neg hpair]
        exact ⟨h.upsert _, hsame.record h recordedAt⟩
  | remove t =>
      have htakes : takes (.remove t) = true := hconcurs
      rw [PostgresDistinctnessLedger.call, htakes]
      exact ⟨h.remove t, hsame.remove h t⟩

/-- What is observed of all calls is the same exactly where it is for each of them, if a call for
which it is leaves the same entries. -/
theorem agreeOn_iff {β : Type} {observe : Except LedgerError Unit → β}
    {P : Ledger → LedgerCall → Prop}
    (hone : ∀ {l rows c}, OneRow rows → SameEntries l rows →
      (observe (InMemoryDistinctnessLedger.call l c).1
          = observe (PostgresDistinctnessLedger.call takes rows c).1 ↔ P l c))
    (hconcurs : ∀ {l c}, P l c → Concurs takes l c)
    (h : OneRow rows) (hsame : SameEntries l rows) (calls : List LedgerCall) :
  AgreeOn takes observe l rows calls ↔ Along P l calls
  := by
  induction calls generalizing l rows with
  | nil => exact iff_of_true ⟨rfl, hsame⟩ trivial
  | cons c calls ih =>
      rw [AgreeOn, Along]
      simp only [replay, List.map_cons, List.cons.injEq, hone h hsame, and_assoc]
      apply and_congr_right
      intro hP
      obtain ⟨h', hsame'⟩ := sameEntries_call h hsame (hconcurs hP)
      apply ih h' hsame'

theorem agree_iff (h : OneRow rows) (hsame : SameEntries l rows) (calls : List LedgerCall) :
  Agree takes l rows calls ↔ ClearAlong takes l calls
  := by
  apply agreeOn_iff answers_iff Clear.concurs h hsame

theorem acceptAlike_iff (h : OneRow rows) (hsame : SameEntries l rows)
    (calls : List LedgerCall) :
  AcceptAlike takes l rows calls ↔ ConcursAlong takes l calls
  := by
  apply agreeOn_iff accepts_iff id h hsame

end Calls

/-- Two empty ledgers accept and refuse the same calls and hold the same entries afterwards exactly
when the database takes every call that the ledger in memory accepts, and every call that it takes
with the joined fingerprint of another tenant's entry is of the pair of such an entry.  The
refusals are of one kind as well exactly when the database takes every call, and none has the
joined fingerprint of another tenant's entry without the pair of one. -/
theorem ledgers_agree_iff (takes : LedgerCall → Bool) (calls : List LedgerCall) :
  (AcceptAlike takes ∅ [] calls ↔ ConcursAlong takes ∅ calls)
    ∧ (Agree takes ∅ [] calls ↔ ClearAlong takes ∅ calls)
  := by
  have hnone : OneRow [] := List.nodup_nil
  have hsame : SameEntries ∅ [] := fun _ => rfl
  constructor
  · apply acceptAlike_iff hnone hsame
  · apply agree_iff hnone hsame

/-- Evidence whose identifiers are those given. -/
def identifiedBy (systemIdentifier databaseIdentity : String) : DistinctnessEvidence :=
  ⟨systemIdentifier, databaseIdentity, "target", "ref", "sentinel", some "token", true⟩

/-- The second pair joins to the fingerprint of the first. -/
theorem ledgers_disagree :
  ¬ AcceptAlike (fun _ => true) ∅ [] [.record "a" (identifiedBy "1" "2::3") "t0",
    .record "b" (identifiedBy "1::2" "3") "t1"]
  := by
  intro hagree
  have hanswers := hagree.1
  revert hanswers
  decide

/-! ### Plain identifiers -/

/-- The system identifier has no colon; PostgreSQL's are numbers. -/
def DistinctnessEvidence.Plain (e : DistinctnessEvidence) : Prop :=
  Delimited.Clean ':' e.systemIdentifier

/-- Plain evidence with the same fingerprint is of the same pair. -/
theorem samePair_of_plain {e e' : DistinctnessEvidence} (h : e.Plain) (h' : e'.Plain)
    (hf : e.fingerprint = e'.fingerprint) :
  e.samePair e'
  := by
  have hcut : e.systemIdentifier ++ String.singleton ':' ++ (":" ++ e.databaseIdentity)
      = e'.systemIdentifier ++ String.singleton ':' ++ (":" ++ e'.databaseIdentity) := by
    apply String.toList_injective
    have hlists := congrArg String.toList hf
    simpa [DistinctnessEvidence.fingerprint] using hlists
  obtain ⟨hsystem, hdatabase⟩ := Delimited.cut_inj h h' hcut
  have hidentity : e.databaseIdentity = e'.databaseIdentity := by
    apply String.toList_injective
    have hlists := congrArg String.toList hdatabase
    simpa using hlists
  rw [DistinctnessEvidence.samePair, hsystem, hidentity]
  simp

/-- Every call records plain evidence, or removes. -/
def LedgerCall.Plain : LedgerCall → Prop
  | .record _ e _ => e.Plain
  | .remove _ => True

theorem clearAlong_of_plain {takes : LedgerCall → Bool} {l : Ledger} {calls : List LedgerCall}
    (hl : ∀ t e, l.lookup t = some e → e.Plain)
    (hcalls : ∀ c ∈ calls, takes c ∧ c.Plain) :
  ClearAlong takes l calls
  := by
  induction calls generalizing l with
  | nil => trivial
  | cons c calls ih =>
      obtain ⟨⟨htakes, hplain⟩, hrest⟩ := List.forall_mem_cons.mp hcalls
      cases c with
      | record t e recordedAt =>
          constructor
          · use htakes
            intro hholds
            obtain ⟨t', e', hne, he', hf⟩ := holdsElsewhere_iff.mp hholds
            apply List.any_eq_true.mpr
            use ⟨t', e'⟩, mem_entries_iff.mpr he'
            rw [Bool.and_eq_true, bne_iff_ne]
            exact ⟨hne, samePair_of_plain (hl t' e' he') hplain hf⟩
          · apply ih _ hrest
            intro t' e' he'
            rw [InMemoryDistinctnessLedger.call] at he'
            split at he'
            · apply hl t' e' he'
            · by_cases ht : t' = t
              · subst ht
                rw [AList.lookup_insert] at he'
                rw [← Option.some.inj he']
                apply hplain
              · rw [AList.lookup_insert_ne ht] at he'
                apply hl t' e' he'
      | remove t =>
          constructor
          · exact ⟨htakes, trivial⟩
          · apply ih _ hrest
            intro t' e' he'
            by_cases ht : t' = t
            · subst ht
              rw [InMemoryDistinctnessLedger.call, AList.lookup_erase] at he'
              cases he'
            · rw [InMemoryDistinctnessLedger.call, AList.lookup_erase_ne ht] at he'
              apply hl t' e' he'

/-- On plain evidence that the database takes, the two ledgers agree. -/
theorem agree_of_plain {takes : LedgerCall → Bool} {calls : List LedgerCall}
    (h : ∀ c ∈ calls, takes c ∧ c.Plain) :
  Agree takes ∅ [] calls
  := by
  have hnone : OneRow [] := List.nodup_nil
  have hsame : SameEntries ∅ [] := fun _ => rfl
  apply (agree_iff hnone hsame calls).mpr
  apply clearAlong_of_plain _ h
  intro t e he
  cases he

end ControlPlane
