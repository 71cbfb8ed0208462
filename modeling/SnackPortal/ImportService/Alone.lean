import SnackPortal.ImportService.Completion

/-!
# Runs alone

A call of `start_import` that runs alone on a database, to its ending or to a crash.  It reads its
source at most once, and the rules for one worker at a time say what it leaves and how it returns
(`Ran.outcome`).
-/

namespace ImportService

open Lineage (Hmac)
open Machine Program TenantDatabase Discipline

/-! ### Sources are read once -/

section Reads

variable {ι : Type} {α β : Type}

/-- The call reads a source. -/
def isRead : TenantOp → Bool
  | .readSource _ _ => true
  | _ => false

/-- The call reads no source. -/
def NoRead (op : TenantOp) : Prop :=
  isRead op = false

theorem calls_perform {op : TenantOp} (h : isRead op = false) :
  (TenantDatabase.perform op).Calls NoRead
  := Calls.perform h

/-- A source is read only where none was read before. -/
def ReadsOnce (h : List (Event tenantSignature ServiceError)) (op : TenantOp) : Prop :=
  isRead op = true → h.any readsSource = false

/-- Calls that read no source leave the history without reads. -/
theorem guarded_unread {x : TenantProgram α} (hx : x.Calls NoRead)
    {h : List (Event tenantSignature ServiceError)} (hh : h.any readsSource = false) :
  Guarded ReadsOnce (fun _ h' => h'.any readsSource = false) x h
  := by
  have hok : ∀ h (op : TenantOp), isRead op = false → ReadsOnce h op := by
    intro h op hop hread
    cases hread.symm.trans hop
  apply (Guarded.of_calls hx hok h).mono
  rintro r _ ⟨events, rfl, hevents⟩
  rw [List.any_append, hh, Bool.or_false, List.any_eq_false]
  intro ⟨op, r⟩ he
  have hop := hevents _ he
  cases op with
  | readSource _ _ => cases hop
  | _ => exact Bool.false_ne_true

/-- Calls that read no source may come after a read. -/
theorem guarded_later {x : TenantProgram α} (hx : x.Calls NoRead)
    (h : List (Event tenantSignature ServiceError)) :
  Guarded ReadsOnce anyEnding x h
  := by
  have hok : ∀ h (op : TenantOp), isRead op = false → ReadsOnce h op := by
    intro h op hop hread
    cases hread.symm.trans hop
  apply (Guarded.of_calls hx hok h).mono
  exact fun _ _ _ => trivial

section Calls

variable {hmac : Hmac} {svc : Service} {req : ImportRequest}

theorem calls_upsertJob {row : JobRow} :
  (upsertJob row).Calls NoRead
  := by
  apply Calls.bind (calls_perform rfl)
  intro existing
  split
  · apply Calls.pure
  · apply Calls.bind (calls_perform rfl)
    intro _
    apply Calls.pure

theorem calls_upsertIdempotency {operationKey : String} {columns : IdempotencyColumns} :
  (upsertIdempotency operationKey columns).Calls NoRead
  := by
  apply Calls.bind (calls_perform rfl)
  intro existing
  split
  · apply Calls.pure
  · apply Calls.bind (calls_perform rfl)
    intro _
    apply Calls.pure

theorem calls_beginJob :
  (beginJob req).Calls NoRead
  := by
  apply Calls.bind (calls_perform rfl)
  intro _
  apply Calls.bind (calls_perform rfl)
  intro idem
  cases idem with
  | none =>
      apply Calls.bind (calls_perform rfl)
      intro jobId
      apply Calls.bind calls_upsertJob
      intro _
      apply Calls.bind calls_upsertIdempotency
      intro _
      apply Calls.bind (calls_perform rfl)
      intro _
      apply Calls.pure
  | some row =>
      apply Calls.bind (calls_perform rfl)
      intro _
      split
      · apply Calls.pure
      · apply Calls.pure

/-- A batch reads no source. -/
theorem noRead_of_inBatch {op : TenantOp} (h : inBatch op) :
  NoRead op
  := by
  cases op with
  | readSource _ _ => cases h
  | _ => rfl

theorem calls_failBatch {jobId : String} {applied noop : Nat} :
  (Service.failBatch req jobId applied noop).Calls NoRead
  := by
  apply Calls.bind (calls_perform rfl)
  intro _
  apply Calls.bind (calls_perform rfl)
  intro _
  apply Calls.bind calls_upsertIdempotency
  intro _
  apply Calls.bind (calls_perform rfl)
  intro _
  apply Calls.raise

theorem calls_applyFrom {jobId : String} {startSeq seq : Nat}
    {batches : List (List ImportRecord)} {applied noop : Nat} :
  (svc.applyFrom hmac req jobId startSeq seq batches applied noop).Calls
    NoRead
  := by
  induction batches generalizing seq applied noop with
  | nil => apply Calls.pure
  | cons batch rest ih =>
      rw [Service.applyFrom]
      split
      · apply ih
      · apply Calls.bind (calls_perform rfl)
        intro _
        have hbatch : (svc.applyOneBatch hmac req jobId seq batch).Calls NoRead :=
          applyOneBatch_inBatch.mono fun _ => noRead_of_inBatch
        apply Calls.bind (Calls.rescue hbatch fun _ => calls_failBatch)
        intro bApplied
        apply Calls.bind (calls_perform rfl)
        intro _
        apply ih

theorem calls_finalize {jobId : String} {applied noop rejected : Nat} :
  (Service.finalize req jobId applied noop rejected).Calls NoRead
  := by
  apply Calls.bind (calls_perform rfl)
  intro _
  apply Calls.bind calls_upsertJob
  intro _
  apply Calls.bind calls_upsertIdempotency
  intro _
  apply Calls.bind (calls_perform rfl)
  intro _
  apply Calls.bind (calls_perform rfl)
  intro _
  apply Calls.pure

end Calls

/-- A call of `start_import` reads a source at most once. -/
theorem startImport_readsOnce {hmac : Hmac} {svc : Service} {req : ImportRequest} :
  Guarded ReadsOnce anyEnding (svc.startImport hmac req) []
  := by
  have hsurface : ∀ e, (Service.surface req e).Calls NoRead := by
    intro e
    cases e with
    | importFailed code status =>
        apply Calls.bind (calls_perform rfl)
        intro _
        apply Calls.pure
    | _ => apply Calls.raise
  have hproceed : ∀ {h jobId resuming}, h.any readsSource = false →
      Guarded ReadsOnce anyEnding (svc.proceed hmac req jobId resuming) h := by
    intro h jobId resuming hh
    apply Guarded.bind (guarded_unread (calls_perform rfl) hh) _ fun _ _ _ => trivial
    intro _ h' hh'
    have hcollect : Guarded ReadsOnce anyEnding (svc.collect req) h' := by
      rw [Service.collect]
      split
      · trivial
      · exact Guarded.step (fun _ => hh') (fun _ => trivial) fun _ => trivial
    apply Guarded.bind hcollect _ fun _ _ _ => trivial
    intro collected h'' _
    apply guarded_later
    have hresume : (resumePoint jobId).Calls NoRead := by
      apply Calls.bind (calls_perform rfl)
      intro _
      apply Calls.bind (calls_perform rfl)
      intro cp
      apply Calls.bind (calls_perform rfl)
      intro _
      apply Calls.pure
    apply Calls.bind hresume
    intro startSeq
    have hbatches : (svc.applyBatches hmac req jobId collected.1 startSeq).Calls NoRead := by
      rw [Service.applyBatches]
      cases batches svc.batchSize collected.1 with
      | none => apply Calls.raise
      | some bs => apply calls_applyFrom
    apply Calls.bind hbatches
    intro counts
    apply calls_finalize
  have hbody : ∀ {h}, h.any readsSource = false →
      Guarded ReadsOnce anyEnding (svc.importBody hmac req) h := by
    intro h hh
    apply Guarded.bind (guarded_unread calls_beginJob hh) _ fun _ _ _ => trivial
    intro job h' hh'
    obtain ⟨jobId, resuming, replay⟩ := job
    cases replay with
    | none => apply hproceed hh'
    | some status =>
        apply guarded_later
        apply Calls.bind (calls_perform rfl)
        intro _
        apply Calls.pure
  apply Guarded.bind (guarded_unread (calls_perform rfl) rfl) _ fun _ _ _ => trivial
  intro _ h hh
  apply Guarded.bind (guarded_unread (calls_perform rfl) hh) _ fun _ _ _ => trivial
  intro _ h' hh'
  have hrescued : Guarded ReadsOnce anyEnding
      ((svc.importBody hmac req).rescue (Service.surface req)) h' := by
    apply Guarded.andThen (hbody hh')
    rintro (e | status) h'' _
    · apply guarded_later (hsurface e)
    · trivial
  apply Guarded.andThen hrescued
  intro r h'' _
  apply guarded_later
  apply Calls.andThen (calls_perform rfl)
  rintro (e | _)
  · apply Calls.raise
  · trivial

end Reads

/-! ### Runs alone -/

section Alone

variable {chainKey : String} {α : Type}

/-- A program that is about to run alone on a database. -/
def alone (chainKey : String) (s : TenantState Unit) (x : TenantProgram α) :
    (importMachine chainKey Unit).Config α :=
  ⟨⟨s, []⟩, fun _ => some x⟩

/-- A run of a program alone on a database: it ends, or it crashes somewhere.  The events are its
calls with their answers, the latest first. -/
inductive Ran (chainKey : String) (x : TenantProgram α) (s : TenantState Unit) :
    Option (Except ServiceError α) → List (Event tenantSignature ServiceError) →
      TenantState Unit → Prop where
  | ended {cfg : (importMachine chainKey Unit).Config α} {r : Except ServiceError α}
      (h : Reaches (anyCall _) (alone chainKey s x) cfg) (hr : cfg.threads () = some (.ret r)) :
      Ran chainKey x s (some r) (historyOf () cfg.state.journal) cfg.state.base
  | crashed {cfg cfg' : (importMachine chainKey Unit).Config α}
      (h : Reaches (anyCall _) (alone chainKey s x) cfg) (hs : cfg.step (.drop ()) = some cfg') :
      Ran chainKey x s none (historyOf () cfg'.state.journal) cfg'.state.base

variable {hmac : Hmac} {svc : Service} {req : ImportRequest} {k : String} {law : ImportLaw}
  {s s' : TenantState Unit} {events : List (Event tenantSignature ServiceError)}

/-- The sources that a run has read are one. -/
theorem Ran.reads_eq {r : Option (Except ServiceError ImportStatus)}
    (h : Ran chainKey (svc.startImport hmac req) s r events s')
    {e e' : Event tenantSignature ServiceError} (he : e ∈ events) (he' : e' ∈ events)
    (hread : readsSource e = true) (hread' : readsSource e' = true) :
  e = e'
  := by
  have hreaches : ∀ cfg, Reaches (anyCall _) (alone chainKey s (svc.startImport hmac req)) cfg →
      Guards (fun _ => ReadsOnce)
        (fun t => ((historyOf () t.journal).filter readsSource).length ≤ 1) cfg := by
    intro cfg hcfg
    apply Reaches.guarded hcfg
    · constructor
      · exact Nat.zero_le 1
      · intro i x _ hdrop
        cases hdrop
      · intro i x hx
        obtain rfl := Option.some.inj hx
        apply startImport_readsOnce
    · intro i op c r t t' ht _ hop _ _ hjournal
      rw [hjournal, history_call_self, List.filter_cons]
      split
      · rename_i hread
        have hnone : (historyOf () t.journal).any readsSource = false := by
          apply hop
          cases op with
          | readSource _ _ => rfl
          | _ => cases hread
        have hempty : (historyOf () t.journal).filter readsSource = [] := by
          rw [List.filter_eq_nil_iff]
          intro e he
          rw [List.any_eq_false] at hnone
          apply hnone e he
        rw [hempty]
        rfl
      · apply ht
    · intro i t ht
      apply ht
  have hone : (events.filter readsSource).length ≤ 1 := by
    cases h with
    | ended hcfg _ => exact (hreaches _ hcfg).inv
    | crashed hcfg hs => exact (hreaches _ (.move hcfg (.drop ()) trivial hs)).inv
  have hmem : e ∈ events.filter readsSource := List.mem_filter.mpr ⟨he, hread⟩
  have hmem' : e' ∈ events.filter readsSource := List.mem_filter.mpr ⟨he', hread'⟩
  cases hfilter : events.filter readsSource with
  | nil =>
      rw [hfilter] at hmem
      cases hmem
  | cons first rest =>
      rw [hfilter, List.length_cons] at hone
      have hnil : rest = [] := List.eq_nil_of_length_eq_zero (by omega)
      rw [hfilter, hnil] at hmem hmem'
      rw [List.mem_singleton.mp hmem, List.mem_singleton.mp hmem']

/-- Between two runs nothing is under way, and the law holds. -/
structure Restful (k : String) (law : ImportLaw) (s : TenantState Unit) : Prop where
  pending : s.db.pending () = []
  lawful : law.holds ⟨s.db.committed, s.db.changes⟩ s.issued

theorem Restful.orderly (h : Restful k law s) :
  Orderly k law (⟨s, []⟩ : (importMachine chainKey Unit).State)
  := by
  constructor
  · exact fun _ _ _ _ => rfl
  · exact fun _ _ => h.pending
  · apply h.lawful

theorem Restful.of_orderly {t : (importMachine chainKey Unit).State} (h : Orderly k law t)
    (hidle : Idle k () t) :
  Restful k law t.base
  := ⟨h.idle () hidle, h.lawful⟩

/-- A run alone, by a rule for its program. -/
theorem Ran.ending {x : TenantProgram α} {Q : α → (importMachine chainKey Unit).State → Prop}
    (hx : (exclusion k law (anyCall (importMachine chainKey Unit))).Triple ()
      (fun t => Waiting k () t ∧ Settled () ⟨s.db.committed, s.db.changes⟩ t) x
      (Ending (fun a t => Q a t ∧ Idle k () t) fun _ => Idle k ()))
    (hrest : Restful k law s) {r : Option (Except ServiceError α)}
    (h : Ran chainKey x s r events s') :
  Restful k law s' ∧ StaysApplied k s.db.committed s'.db.committed
    ∧ ∀ a, r = some (.ok a) → ∃ t : (importMachine chainKey Unit).State, t.base = s'
      ∧ historyOf () t.journal = events ∧ Q a t
  := by
  have hserial : ∀ t i op c, anyCall (importMachine chainKey Unit) t i op c →
      (exclusion k law (anyCall (importMachine chainKey Unit))).guard t i op c := by
    intro t i op c _
    exact ⟨fun _ _ _ j hj => absurd rfl hj, trivial⟩
  have hstart : Orderly k law (⟨s, []⟩ : (importMachine chainKey Unit).State) := hrest.orderly
  have hsafe : ∀ i y, (alone chainKey s x).threads i = some y →
      (exclusion k law (anyCall (importMachine chainKey Unit))).Safe i
        (Ending (fun a t => Q a t ∧ Idle k () t) fun _ => Idle k ()) y ⟨s, []⟩ := by
    intro i y hy
    obtain rfl := Option.some.inj hy
    apply hx _ hstart
    exact ⟨⟨rfl, rfl, rfl, rfl⟩, fun _ => rfl⟩
  cases h with
  | @ended cfg r hcfg hr =>
      have hcfg' := hcfg.imp hserial
      obtain ⟨hinv, hevolve, -⟩ := Safe.reaches hcfg' hstart hsafe
      have hend := Safe.ending hcfg' hstart hsafe hr
      have hidle : Idle k () cfg.state := by
        cases r with
        | error e => apply hend
        | ok a => apply hend.2
      refine ⟨Restful.of_orderly hinv hidle, hevolve.applied, ?_⟩
      rintro a ha
      obtain rfl := Option.some.inj ha
      exact ⟨cfg.state, rfl, rfl, hend.1⟩
  | @crashed cfg cfg' hcfg hs =>
      have hcfg' := Reaches.move (hcfg.imp hserial) (.drop ()) trivial hs
      obtain ⟨hinv, hevolve, -⟩ := Safe.reaches hcfg' hstart hsafe
      have hidle : Idle k () cfg'.state := by
        rcases Config.step_cases hs with ⟨i, c, op, y, r, hm, -⟩ | ⟨i, -, hstate, -⟩
        · cases hm
        · rw [Idle, hstate]
          apply working_drop_self
      refine ⟨Restful.of_orderly hinv hidle, hevolve.applied, ?_⟩
      intro a ha
      cases ha

/-- What a run of `start_import` alone leaves, and how it returns. -/
theorem Ran.outcome (hadmits : Admits law svc req fun _ => True)
    (hrest : Restful req.operationKey law s) {r : Option (Except ServiceError ImportStatus)}
    (h : Ran chainKey (svc.startImport hmac req) s r events s') :
  Restful req.operationKey law s' ∧ StaysApplied req.operationKey s.db.committed s'.db.committed
    ∧ ∀ status, r = some (.ok status) →
      ∃ t : (importMachine chainKey Unit).State, t.base = s' ∧ historyOf () t.journal = events
        ∧ Outcome req.operationKey svc req (fun _ => True) () ⟨s.db.committed, s.db.changes⟩ status t
  := by
  apply Ran.ending _ hrest h
  apply startImport_outcome hadmits rfl
  exact fun _ _ _ _ => trivial

/-- What a run of `get_status` alone leaves, and what it returns. -/
theorem Ran.polled {tenantId correlationId : String} (hrest : Restful k law s)
    {r : Option (Except ServiceError (Option ImportStatus))}
    (h : Ran chainKey (getStatus tenantId k correlationId) s r events s') :
  Restful k law s' ∧ StaysApplied k s.db.committed s'.db.committed
    ∧ ∀ status, r = some (.ok status) →
      status = (s.db.committed.idempotency.lookup k).map (storedStatus tenantId correlationId)
  := by
  obtain ⟨hrest', happlied, hreturned⟩ := Ran.ending getStatus_polled hrest h
  refine ⟨hrest', happlied, ?_⟩
  intro status hstatus
  obtain ⟨t, -, -, idem, hidem, hpolled⟩ := hreturned status hstatus
  rw [hidem, hpolled.1 fun _ => rfl]

end Alone

end ImportService
