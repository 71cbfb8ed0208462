import SnackPortal.SnackPortal2.PortalIsolation

/-!
# Runs of the portal

Any number of requests at once, over databases of any kind.  What the requests of one tenant do,
are answered, and leave in the databases of the tenant is the same without the requests of all
others, and whatever the databases of the others held.
-/

namespace SnackPortal2

open Machine

namespace Portal

variable {D E : Signature.{0}} {ι : Type} [DecidableEq ι] (portal : Portal D E)
  {N : Machine D Raised ι} (home : String → Option String)

/-- Where a grant is asked for, the databases that the registry names for the tenant are those
that `home` gives it. -/
def Assigns : (portal.machine N).Guard := fun _ _ op c =>
  match op with
  | .grantFor _ tenantRef => ∀ descriptor ∈ c.store.1.getTenant tenantRef,
      descriptor.lifecycleState = .active →
        ∀ dsn ∈ portal.secrets descriptor.databaseAssociationRef.storeRef
          descriptor.databaseAssociationRef.version, home dsn = some tenantRef
  | _ => True

/-- The references of the tenants stand for themselves where they are looked up. -/
def Exact (requests : ι → Request × Endpoint) : Prop :=
  ∀ i tenantRef, portal.activeTenant (requests i) = some tenantRef →
    TenantExact portal.dispatch portal.controlPlaneUrl tenantRef

variable {portal home}

/-! ### Answers -/

/-- A grant is for a database of the tenant. -/
theorem grant_home {κ : Type} {c : PortalChoice E κ} {credential tenantRef : String}
    {grant : TenantConnectionGrant}
    (hexact : TenantExact portal.dispatch portal.controlPlaneUrl tenantRef)
    (hassigns : ∀ descriptor ∈ c.store.1.getTenant tenantRef,
      descriptor.lifecycleState = .active →
        ∀ dsn ∈ portal.secrets descriptor.databaseAssociationRef.storeRef
          descriptor.databaseAssociationRef.version, home dsn = some tenantRef)
    (h : portal.grant c credential tenantRef = .ok grant) :
  home grant.dsn = some tenantRef
  := by
  rw [Portal.grant] at h
  split at h
  · rename_i granted hgranted
    obtain rfl := Except.ok.inj h
    obtain ⟨-, descriptor, hstored, hactive, -, hsecret⟩ :=
      hexact.grant c.store.1 c.store.2 _ _ _ _ _ _ hgranted
    exact hassigns descriptor hstored hactive _ hsecret
  · cases h

/-- What is answered to a call that is allowed. -/
theorem answered {u : Option String} {i : ι} {op : PortalOp D E}
    {c : PortalChoice E N.Choice} {r : Except Raised (PortalOp.Ans op)} {s s' : PortalState N}
    (hop : portal.Allowed home u op)
    (hexact : ∀ tenantRef, u = some tenantRef →
      TenantExact portal.dispatch portal.controlPlaneUrl tenantRef)
    (hassigns : portal.Assigns home s i op c)
    (ha : (portal.machine N).answer i op c s = some (r, s')) :
  portal.Answered home op r
  := by
  cases op with
  | authenticate credential carrier correlationId =>
      obtain ⟨hr, -⟩ := Prod.mk.inj (Option.some.inj ha)
      subst hr
      cases hauthenticated : Authentication.httpAuthenticate portal.verifier portal.library c.now
          c.reached credential carrier correlationId with
      | none => trivial
      | some result =>
          obtain ⟨identity, hverified, hcontext⟩ := Authentication.exists_verified hauthenticated
          show result.authContext.activeTenantRef = portal.claimed credential
          rw [hcontext]
          exact Authentication.verify_claimedTenant hverified
  | grantFor credential tenantRef =>
      obtain ⟨hr, -⟩ := Prod.mk.inj (Option.some.inj ha)
      cases r with
      | error e => trivial
      | ok grant => exact grant_home (hexact tenantRef hop) hassigns hr
  | _ => cases r <;> trivial

/-! ### What a tenant sees -/

/-- The two states are the same to the tenant: its databases and the connections of its requests,
which are all to its databases, as those of others are to theirs. -/
structure SameTo (portal : Portal D E) (home : String → Option String) (tenantRef : String)
    (requests : ι → Request × Endpoint) (s s₂ : PortalState N) : Prop where
  owned : ∀ i dsn, s.connections i = some dsn →
    ∃ u, portal.activeTenant (requests i) = some u ∧ home dsn = some u
  databases : ∀ dsn, home dsn = some tenantRef → s₂.databases dsn = s.databases dsn
  connections : ∀ i, portal.activeTenant (requests i) = some tenantRef →
    s₂.connections i = s.connections i

section SameTo

variable {tenantRef : String} {requests : ι → Request × Endpoint} {s s₂ : PortalState N} {i : ι}

omit [DecidableEq ι] in
/-- A database of the tenant changes in both. -/
theorem SameTo.database (h : SameTo portal home tenantRef requests s s₂) {dsn : String}
    {database : N.State} :
  SameTo portal home tenantRef requests (s.withDatabase dsn database)
    (s₂.withDatabase dsn database)
  := by
  constructor
  · exact h.owned
  · intro dsn' hdsn'
    by_cases heq : dsn' = dsn
    · subst heq
      rw [PortalState.withDatabase_self, PortalState.withDatabase_self]
    · rw [PortalState.withDatabase_of_ne _ heq, PortalState.withDatabase_of_ne _ heq]
      exact h.databases dsn' hdsn'
  · exact h.connections

omit [DecidableEq ι] in
/-- A database of another tenant changes in the first. -/
theorem SameTo.database_other (h : SameTo portal home tenantRef requests s s₂) {dsn : String}
    (hdsn : home dsn ≠ some tenantRef) {database : N.State} :
  SameTo portal home tenantRef requests (s.withDatabase dsn database) s₂
  := by
  constructor
  · exact h.owned
  · intro dsn' hdsn'
    have hne : dsn' ≠ dsn := by
      intro heq
      exact hdsn (heq ▸ hdsn')
    rw [PortalState.withDatabase_of_ne _ hne]
    exact h.databases dsn' hdsn'
  · exact h.connections

theorem owned_withConnection {connection : Option String}
    (h : ∀ j dsn, s.connections j = some dsn →
      ∃ u, portal.activeTenant (requests j) = some u ∧ home dsn = some u)
    (hconnection : ∀ dsn, connection = some dsn →
      ∃ u, portal.activeTenant (requests i) = some u ∧ home dsn = some u) :
  ∀ j dsn, (s.withConnection i connection).connections j = some dsn →
    ∃ u, portal.activeTenant (requests j) = some u ∧ home dsn = some u
  := by
  intro j dsn hj
  by_cases hji : j = i
  · subst hji
    rw [PortalState.withConnection_self] at hj
    exact hconnection dsn hj
  · rw [PortalState.withConnection_of_ne _ _ hji] at hj
    exact h j dsn hj

/-- The connection of a request changes in both. -/
theorem SameTo.connection (h : SameTo portal home tenantRef requests s s₂)
    {connection : Option String} (hconnection : ∀ dsn, connection = some dsn →
      ∃ u, portal.activeTenant (requests i) = some u ∧ home dsn = some u) :
  SameTo portal home tenantRef requests (s.withConnection i connection)
    (s₂.withConnection i connection)
  := by
  constructor
  · exact owned_withConnection h.owned hconnection
  · exact h.databases
  · intro j hj
    by_cases hji : j = i
    · subst hji
      rw [PortalState.withConnection_self, PortalState.withConnection_self]
    · rw [PortalState.withConnection_of_ne _ _ hji, PortalState.withConnection_of_ne _ _ hji]
      exact h.connections j hj

/-- The connection of a request of another tenant changes in the first. -/
theorem SameTo.connection_other (h : SameTo portal home tenantRef requests s s₂)
    (hi : portal.activeTenant (requests i) ≠ some tenantRef) {connection : Option String}
    (hconnection : ∀ dsn, connection = some dsn →
      ∃ u, portal.activeTenant (requests i) = some u ∧ home dsn = some u) :
  SameTo portal home tenantRef requests (s.withConnection i connection) s₂
  := by
  constructor
  · exact owned_withConnection h.owned hconnection
  · exact h.databases
  · intro j hj
    have hji : j ≠ i := by
      intro hji
      exact hi (hji ▸ hj)
    rw [PortalState.withConnection_of_ne _ _ hji]
    exact h.connections j hj

omit [DecidableEq ι] in
/-- The database that a request of another tenant is connected to is not one of the tenant. -/
theorem SameTo.not_home (h : SameTo portal home tenantRef requests s s₂)
    (hi : portal.activeTenant (requests i) ≠ some tenantRef) {dsn : String}
    (hconnected : s.connections i = some dsn) :
  home dsn ≠ some tenantRef
  := by
  obtain ⟨u, hu, hhome⟩ := h.owned i dsn hconnected
  rw [hhome, ← hu]
  exact hi

omit [DecidableEq ι] in
/-- The database that a request of the tenant is connected to is the same in both. -/
theorem SameTo.database_eq (h : SameTo portal home tenantRef requests s s₂)
    (hi : portal.activeTenant (requests i) = some tenantRef) {dsn : String}
    (hconnected : s.connections i = some dsn) :
  s₂.databases dsn = s.databases dsn
  := by
  obtain ⟨u, hu, hhome⟩ := h.owned i dsn hconnected
  exact h.databases dsn (hhome.trans (hu.symm.trans hi))

/-- A request of the tenant closes its connection. -/
theorem SameTo.release (h : SameTo portal home tenantRef requests s s₂)
    (hi : portal.activeTenant (requests i) = some tenantRef) :
  SameTo portal home tenantRef requests (s.release i) (s₂.release i)
  := by
  rw [PortalState.release, PortalState.release, h.connections i hi]
  cases hconnected : s.connections i with
  | none => exact h
  | some dsn =>
      dsimp only
      rw [h.database_eq hi hconnected]
      apply h.database.connection
      intro _ hnone
      cases hnone

/-- A request of another tenant closes its connection. -/
theorem SameTo.release_other (h : SameTo portal home tenantRef requests s s₂)
    (hi : portal.activeTenant (requests i) ≠ some tenantRef) :
  SameTo portal home tenantRef requests (s.release i) s₂
  := by
  rw [PortalState.release]
  cases hconnected : s.connections i with
  | none => exact h
  | some dsn =>
      apply (h.database_other (h.not_home hi hconnected)).connection_other hi
      intro _ hnone
      cases hnone

/-- What a call of a request of the tenant is answered with, and leaves, is the same in both. -/
theorem SameTo.answer (h : SameTo portal home tenantRef requests s s₂)
    (hi : portal.activeTenant (requests i) = some tenantRef) {op : PortalOp D E}
    {c : PortalChoice E N.Choice} {r : Except Raised (PortalOp.Ans op)} {s' : PortalState N}
    (hop : portal.Allowed home (portal.activeTenant (requests i)) op)
    (ha : (portal.machine N).answer i op c s = some (r, s')) :
  ∃ s₂', (portal.machine N).answer i op c s₂ = some (r, s₂')
    ∧ SameTo portal home tenantRef requests s' s₂'
  := by
  cases op with
  | statement o =>
      simp only [PortalState.statement] at ha
      simp only [PortalState.statement, h.connections i hi]
      cases hconnected : s.connections i with
      | none =>
          rw [hconnected] at ha
          obtain ⟨rfl, rfl⟩ := Prod.mk.inj (Option.some.inj ha)
          exact ⟨s₂, rfl, h⟩
      | some dsn =>
          rw [hconnected] at ha
          dsimp only at ha ⊢
          rw [h.database_eq hi hconnected]
          obtain ⟨⟨r', database⟩, hanswer, heq⟩ := Option.map_eq_some_iff.mp ha
          obtain ⟨rfl, rfl⟩ := Prod.mk.inj heq
          rw [hanswer]
          exact ⟨_, rfl, h.database⟩
  | connect dsn =>
      obtain ⟨rfl, hs⟩ := Prod.mk.inj (Option.some.inj ha)
      refine ⟨_, rfl, ?_⟩
      rw [← hs]
      split
      · apply (h.release hi).connection
        rintro _ ⟨⟩
        exact hop
      · exact h
  | close =>
      obtain ⟨rfl, rfl⟩ := Prod.mk.inj (Option.some.inj ha)
      exact ⟨_, rfl, h.release hi⟩
  | emit event =>
      obtain ⟨rfl, hs⟩ := Prod.mk.inj (Option.some.inj ha)
      refine ⟨_, rfl, ?_⟩
      rw [← hs]
      split
      · exact ⟨h.owned, h.databases, h.connections⟩
      · exact h
  | _ =>
      obtain ⟨rfl, rfl⟩ := Prod.mk.inj (Option.some.inj ha)
      exact ⟨s₂, rfl, h⟩

/-- A call of a request of another tenant leaves the tenant what it sees. -/
theorem SameTo.answer_other (h : SameTo portal home tenantRef requests s s₂)
    (hi : portal.activeTenant (requests i) ≠ some tenantRef) {op : PortalOp D E}
    {c : PortalChoice E N.Choice} {r : Except Raised (PortalOp.Ans op)} {s' : PortalState N}
    (hop : portal.Allowed home (portal.activeTenant (requests i)) op)
    (ha : (portal.machine N).answer i op c s = some (r, s')) :
  SameTo portal home tenantRef requests s' s₂
  := by
  cases op with
  | statement o =>
      simp only [PortalState.statement] at ha
      cases hconnected : s.connections i with
      | none =>
          rw [hconnected] at ha
          obtain ⟨rfl, rfl⟩ := Prod.mk.inj (Option.some.inj ha)
          exact h
      | some dsn =>
          rw [hconnected] at ha
          obtain ⟨⟨r', database⟩, hanswer, heq⟩ := Option.map_eq_some_iff.mp ha
          obtain ⟨rfl, rfl⟩ := Prod.mk.inj heq
          exact h.database_other (h.not_home hi hconnected)
  | connect dsn =>
      obtain ⟨rfl, hs⟩ := Prod.mk.inj (Option.some.inj ha)
      rw [← hs]
      split
      · apply (h.release_other hi).connection_other hi
        rintro _ ⟨⟩
        exact hop
      · exact h
  | close =>
      obtain ⟨rfl, rfl⟩ := Prod.mk.inj (Option.some.inj ha)
      exact h.release_other hi
  | emit event =>
      obtain ⟨rfl, hs⟩ := Prod.mk.inj (Option.some.inj ha)
      rw [← hs]
      split
      · exact ⟨h.owned, h.databases, h.connections⟩
      · exact h
  | _ =>
      obtain ⟨rfl, rfl⟩ := Prod.mk.inj (Option.some.inj ha)
      exact h

end SameTo

/-! ### Runs -/

section Runs

variable {requests : ι → Request × Endpoint} {tenantRef : String} {s₀ s₀' : PortalState N}

theorem served (s₀ : PortalState N) (requests : ι → Request × Endpoint) (i : ι) :
  (portal.serving s₀ requests fun _ => True).threads i = some (portal.serve (requests i))
  := portal.serving_threads trivial

theorem served_tenant (s₀ : PortalState N) {i : ι}
    (hi : portal.activeTenant (requests i) = some tenantRef) :
  (portal.serving s₀ requests fun i => portal.activeTenant (requests i) = some tenantRef).threads i
    = some (portal.serve (requests i))
  := by
  rw [serving]
  dsimp only
  rw [if_pos hi]

/-- At the start, both look alike to the requests of the tenant. -/
theorem alike_start (hclosed : ∀ i, s₀.connections i = none)
    (hclosed' : ∀ i, s₀'.connections i = none)
    (hsame : ∀ dsn, home dsn = some tenantRef → s₀'.databases dsn = s₀.databases dsn) :
  Alike (fun i => portal.activeTenant (requests i) = some tenantRef)
    (SameTo portal home tenantRef requests) (portal.serving s₀ requests fun _ => True)
    (portal.serving s₀' requests fun i => portal.activeTenant (requests i) = some tenantRef)
  := by
  constructor
  · constructor
    · intro i dsn hi
      cases (hclosed i).symm.trans hi
    · exact hsame
    · intro i _
      exact (hclosed' i).trans (hclosed i).symm
  · intro i hi
    rw [served, served_tenant s₀' hi]

/-- What the requests of a tenant do, are answered with and leave in its databases, they do, are
answered with and leave without the requests of all others, and on any other databases of these. -/
theorem tenants_apart (hexact : portal.Exact requests) (hclosed : ∀ i, s₀.connections i = none)
    (hclosed' : ∀ i, s₀'.connections i = none)
    (hsame : ∀ dsn, home dsn = some tenantRef → s₀'.databases dsn = s₀.databases dsn)
    {cfg : (portal.machine N).Config PortalDTO}
    (hreach : Reaches (portal.Assigns home) (portal.serving s₀ requests fun _ => True) cfg) :
  ∃ cfg' : (portal.machine N).Config PortalDTO,
    Reaches (portal.Assigns home) (portal.serving s₀' requests fun i =>
        portal.activeTenant (requests i) = some tenantRef) cfg'
      ∧ (∀ dsn, home dsn = some tenantRef → cfg'.state.databases dsn = cfg.state.databases dsn)
      ∧ ∀ i, portal.activeTenant (requests i) = some tenantRef →
        cfg'.threads i = cfg.threads i
  := by
  obtain ⟨cfg', hreach', halike⟩ := hreach.projected (alike_start hclosed hclosed' hsame)
    (P := fun i x => portal.Stays home (portal.activeTenant (requests i)) x fun _ => True)
    (by
      intro i x hx
      rw [served] at hx
      rw [← Option.some.inj hx]
      exact portal.serve_stays (requests i))
    (by
      intro i op k c r s s' hstays hassigns ha
      obtain ⟨hop, hk⟩ := Program.Abides.call_iff.mp hstays
      exact hk r (answered hop (fun t ht => hexact i t ht) hassigns ha))
    (by
      intro i hi op k c r s s' s₂ hstays hseen hassigns ha
      exact ⟨hassigns, hseen.answer hi (Program.Abides.call_iff.mp hstays).1 ha⟩)
    (by
      intro i hi op k c r s s' s₂ hstays hseen _ ha
      exact hseen.answer_other hi (Program.Abides.call_iff.mp hstays).1 ha)
    (by
      intro i s s₂ hseen
      exact ⟨fun hi => hseen.release hi, fun hi => hseen.release_other hi⟩)
  exact ⟨cfg', hreach', halike.state.databases, halike.threads⟩

end Runs

/-! ### Two tenants -/

instance (s : PortalState N) (i : ι) (op : PortalOp D E) (c : PortalChoice E N.Choice) :
    Decidable (portal.Assigns home s i op c) :=
  match op with
  | .grantFor _ tenantRef => by
      unfold Assigns
      exact inferInstance
  | .authenticate .. | .decide .. | .resolve .. | .listMemberships _ | .listDirectory _
  | .emit _ | .deliver .. | .connect _ | .statement _ | .close | .outside _ => .isTrue trivial

section Sample

/-- The statements on a table of records. -/
inductive TableOp where
  | insert (record : Record)
  | all

abbrev tableSignature : Signature where
  Op := TableOp
  Ans
    | .insert _ => Unit
    | .all => List Record

abbrev noSignature : Signature := ⟨Empty, fun _ => Unit⟩

abbrev sampleTable : Machine tableSignature Raised Bool where
  State := List Record
  Choice := Unit
  answer _ op _ records :=
    match op with
    | .insert record => some (.ok (), records ++ [record])
    | .all => some (.ok records, records)
  drop _ records := records

def samplePerform (op : ServiceOp tableSignature noSignature) :
    ServiceProgram tableSignature noSignature op.Ans :=
  Program.perform (S := serviceSignature tableSignature noSignature) op

/-- A service that lists its records, and creates one otherwise. -/
def sampleService (path : String) : ServiceProgram tableSignature noSignature Body := do
  let _ ← samplePerform .openTenantConnection
  if path = "/internal/startups/list" then
    let records : List Record ← samplePerform (.statement .all)
    let _ ← samplePerform .close
    pure (.listing "records" records)
  else
    let record : Record := [("record_ref", some "ref:beta:startup:1"), ("company_name", some "B")]
    let _ ← samplePerform (.statement (.insert record))
    let _ ← samplePerform .close
    pure (.object record)

def samplePortal : Portal tableSignature noSignature where
  baseDomain := ""
  verifier := .static [("tok", ⟨"user", .tenantAgent, some "acme"⟩),
    ("tok2", ⟨"other", .tenantAgent, some "beta"⟩)]
  library := Authentication.sampleLibrary
  dispatch := pathDispatch "http://cp"
  controlPlaneUrl := "http://cp"
  secrets := fun storeRef _ => some ("dsn:" ++ storeRef)
  allowlist := ⟨AList.insert "cred" "startups" ∅, by decide⟩
  credentialOf := fun _ => "cred"
  admits := fun _ _ _ => true
  services := fun _ path _ => sampleService path

/-- Two tenants, and a member of each. -/
def sampleRegistry : ControlStore :=
  let tenant (tenantRef : String) : TenantDescriptor :=
    ⟨tenantRef, "org", .active, "v1", ⟨tenantRef, "1"⟩⟩
  (((ControlStore.putTenant {} (tenant "acme")).putTenant (tenant "beta")).putMembership
    "user" "acme" .tenantAgent).putMembership "other" "beta" .tenantAgent

theorem recorded_sampleRegistry :
  sampleRegistry.Recorded
  := by
  apply ControlStore.Recorded.membership "other" "beta" .tenantAgent _ rfl
  apply ControlStore.Recorded.membership "user" "acme" .tenantAgent _ rfl
  apply ControlStore.Recorded.tenant ⟨"beta", "org", .active, "v1", ⟨"beta", "1"⟩⟩ _ rfl
  apply ControlStore.Recorded.tenant ⟨"acme", "org", .active, "v1", ⟨"acme", "1"⟩⟩ .empty rfl

def sampleHome (dsn : String) : Option String :=
  if dsn = "dsn:acme" then some "acme" else if dsn = "dsn:beta" then some "beta" else none

/-- One user lists, while one of the other tenant creates. -/
def sampleRequests : Bool → Request × Endpoint
  | true => (⟨[("authorization", "Bearer tok")], "c1", "m1"⟩, .listStartups 10)
  | false => (⟨[("authorization", "Bearer tok2")], "c2", "m2"⟩,
      .createStartup { (default : CreateStartupRequest) with displayName := "B" })

def sampleChoice : PortalChoice noSignature Unit :=
  ⟨0, true, ⟨sampleRegistry, recorded_sampleRegistry⟩, "", .ok [], (), fun _ => .ok ()⟩

/-- One record in one database, and the given ones in all others. -/
def sampleState (records : List Record) : PortalState sampleTable :=
  ⟨fun dsn => if dsn = "dsn:acme" then [[("record_ref", some "ref:acme:startup:1"),
    ("company_name", some "A")]] else records, fun _ => none, []⟩

/-- Both in turns, until both are answered. -/
def sampleMoves : List (Move Bool (PortalChoice noSignature Unit)) :=
  (List.replicate 9 [.call true sampleChoice, .call false sampleChoice]).flatten

theorem exact_sample :
  samplePortal.Exact sampleRequests
  := by
  have hplain : ∀ tenantRef, tenantRef = "acme" ∨ tenantRef = "beta" → PlainRef tenantRef := by
    unfold PlainRef
    rintro tenantRef (rfl | rfl) <;> decide +kernel
  have hclaims : samplePortal.activeTenant (sampleRequests true) = some "acme"
      ∧ samplePortal.activeTenant (sampleRequests false) = some "beta" := by decide +kernel
  intro i tenantRef htenant
  apply (lookups_exact_of_plain "http://cp" (hplain tenantRef _)).1
  cases i with
  | true => exact .inl (Option.some.inj (htenant.symm.trans hclaims.1))
  | false => exact .inr (Option.some.inj (htenant.symm.trans hclaims.2))

theorem tenants_apart_sample :
  ∃ cfg cfg' : (samplePortal.machine sampleTable).Config PortalDTO,
    Reaches (samplePortal.Assigns sampleHome)
        (samplePortal.serving (sampleState []) sampleRequests fun _ => True) cfg
      ∧ cfg.returned true = some (.startups [⟨"ref:acme:startup:1", "A", none, none, none⟩])
      ∧ cfg.state.databases "dsn:beta"
        = [[("record_ref", some "ref:beta:startup:1"), ("company_name", some "B")]]
      ∧ Reaches (samplePortal.Assigns sampleHome)
        (samplePortal.serving (sampleState [[]]) sampleRequests fun i =>
          samplePortal.activeTenant (sampleRequests i) = some "acme") cfg'
      ∧ cfg'.returned true = cfg.returned true
  := by
  have hrun : (((samplePortal.serving (sampleState []) sampleRequests fun _ => True).run
      (samplePortal.Assigns sampleHome) sampleMoves).map fun cfg =>
        (cfg.returned true, cfg.state.databases "dsn:beta"))
      = some (some (.startups [⟨"ref:acme:startup:1", "A", none, none, none⟩]),
        [[("record_ref", some "ref:beta:startup:1"), ("company_name", some "B")]]) := by
    decide +kernel
  obtain ⟨cfg, hreach, hresult⟩ := Reaches.of_map_run hrun
  obtain ⟨hreturned, hcreated⟩ := Prod.mk.inj hresult
  have hsame : ∀ dsn, sampleHome dsn = some "acme" →
      (sampleState [[]]).databases dsn = (sampleState []).databases dsn := by
    intro dsn hdsn
    have hacme : dsn = "dsn:acme" := by
      by_contra hne
      rw [sampleHome, if_neg hne] at hdsn
      split at hdsn
      · exact absurd (Option.some.inj hdsn) (by decide)
      · cases hdsn
    rw [hacme]
    rfl
  obtain ⟨cfg', hreach', -, hthreads⟩ := tenants_apart exact_sample (fun _ => rfl)
    (fun _ => rfl) hsame hreach
  refine ⟨cfg, cfg', hreach, hreturned, hcreated, hreach', ?_⟩
  have hclaim : samplePortal.activeTenant (sampleRequests true) = some "acme" := by
    decide +kernel
  rw [Config.returned, Config.returned, hthreads true hclaim]

end Sample

end Portal

end SnackPortal2
