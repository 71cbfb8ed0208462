import SnackPortal.ControlPlane.LifecycleOperations

/-!
# The isolation hold

A tenant in `Quarantined` leaves it only for `Decommissioned`, in every run in which each
registration writes over no record that a transition has written (`quarantined_held`).
Without that condition a registration that found no record can still write after the tenant
was registered and quarantined by others (`quarantined_overwritten`).
-/

namespace ControlPlane

/-- The registrations of a run write over no record that a transition has written: then a
tenant once quarantined stays in the isolation hold. -/
theorem quarantined_held {ι : Type} [DecidableEq ι] (gate : ProvisioningVerificationService)
    (requests : ι → Request) {s : ControlState} (hs : s.Coherent)
    {cfg cfg' : (controlPlane ι).Config Unit}
    (h : Machine.Reaches registersFresh (s.serving gate requests) cfg)
    (h' : Machine.Reaches registersFresh cfg cfg') {t : String} {r : TenantRecord}
    (hr : cfg.state.tenants.lookup t = some r) (hq : r.lifecycleState = .quarantined) :
  ∃ r', cfg'.state.tenants.lookup t = some r' ∧ r'.lifecycleState.Held
  := by
  obtain ⟨hcoherent, -, hsafe⟩ := lifecycle_reaches gate hs h
  obtain ⟨-, hevolves, -⟩ := Discipline.Safe.reaches (D := lifecycle ι) h' hcoherent hsafe
  obtain ⟨r', hr', -, hpath, -⟩ := hevolves t r hr
  use r'
  constructor
  · apply hr'
  · apply Edge.held_path hpath
    left
    apply hq

section Race

/-- A registration of one tenant. -/
def acme : TenantRegistry.Registration := ⟨"org", "1", ⟨"tenant/acme/dsn", "1"⟩, "fed"⟩

/-- Two registrations of one tenant, and the requests that quarantine it. -/
def registrationRace : Fin 4 → Request
  | 0 => ⟨.registerTenant "acme" acme, "ops", "c0"⟩
  | 1 => ⟨.registerTenant "acme" acme, "ops", "c1"⟩
  | 2 => ⟨.markProvisioning "acme", "ops", "c2"⟩
  | 3 => ⟨.quarantineTenant "acme", "ops", "c3"⟩

/-- The next call of a thread, with empty answers of the outside world. -/
def callOf {ι : Type} (i : ι) : Move ι ControlChoice := .call i default

/-- The stored lifecycle state of the tenant. -/
def storedState {ι : Type} (t : String) (cfg : (controlPlane ι).Config Unit) :
    Option TenantLifecycleState :=
  (cfg.state.tenants.lookup t).map TenantRecord.lifecycleState

/-- One registration, the requests that quarantine the tenant, and another registration, each
after the other: the hold lasts. -/
theorem quarantined_held_serial :
  ∃ cfg cfg' : (controlPlane (Fin 4)).Config Unit,
    Machine.Reaches registersFresh
      (ControlState.serving ⟨∅, [], ∅⟩ default registrationRace) cfg
    ∧ Machine.Reaches registersFresh cfg cfg'
    ∧ storedState "acme" cfg = some .quarantined
    ∧ ∃ r, cfg'.state.tenants.lookup "acme" = some r ∧ r.lifecycleState.Held
  := by
  have hrun : ((ControlState.serving ⟨∅, [], ∅⟩ default registrationRace).run registersFresh
      ([1, 1, 1, 1, 1, 2, 2, 2, 2, 2, 3, 3, 3, 3, 3].map callOf)).map
        (fun cfg => (storedState "acme" cfg,
          ((cfg.run registersFresh ([0].map callOf)).map (storedState "acme")).isSome))
      = some (some .quarantined, true) := by
    decide
  obtain ⟨cfg, hcfg, hf⟩ := Machine.Reaches.of_map_run hrun
  obtain ⟨hq, hf'⟩ := Prod.mk.inj hf
  obtain ⟨state, hstate'⟩ := Option.isSome_iff_exists.mp hf'
  obtain ⟨cfg', hcfg', -⟩ := Machine.Reaches.of_map_run hstate'
  obtain ⟨r, hr, hstate⟩ := Option.map_eq_some_iff.mp hq
  have hempty : (⟨∅, [], ∅⟩ : ControlState).Coherent := by
    constructor
    · rintro t r ⟨⟩
    · rintro t r ⟨⟩
  exact ⟨cfg, cfg', hcfg, hcfg', hq,
    quarantined_held default registrationRace hempty hcfg hcfg' hr hstate⟩

/-- The first registration finds no record, the second registers the tenant, it is
provisioned and quarantined, and then the first registration writes. -/
theorem quarantined_overwritten :
  ¬ ∀ cfg cfg' : (controlPlane (Fin 4)).Config Unit,
    Machine.Reaches (Machine.anyCall _)
      (ControlState.serving ⟨∅, [], ∅⟩ default registrationRace) cfg →
    Machine.Reaches (Machine.anyCall _) cfg cfg' →
    ∀ t r, cfg.state.tenants.lookup t = some r → r.lifecycleState = .quarantined →
      ∃ r', cfg'.state.tenants.lookup t = some r' ∧ r'.lifecycleState.Held
  := by
  intro hclaim
  have hrun : ((ControlState.serving ⟨∅, [], ∅⟩ default registrationRace).run
      (Machine.anyCall _)
      ([0, 1, 1, 1, 1, 1, 2, 2, 2, 2, 2, 3, 3, 3, 3, 3].map callOf)).map
        (fun cfg => (storedState "acme" cfg,
          (cfg.run (Machine.anyCall _) ([0, 0, 0, 0].map callOf)).map (storedState "acme")))
      = some (some .quarantined, some (some .registered)) := by
    decide
  obtain ⟨cfg, hcfg, hf⟩ := Machine.Reaches.of_map_run hrun
  obtain ⟨hq, hf'⟩ := Prod.mk.inj hf
  obtain ⟨cfg', hcfg', hregistered⟩ := Machine.Reaches.of_map_run hf'
  obtain ⟨r, hr, hstate⟩ := Option.map_eq_some_iff.mp hq
  obtain ⟨r', hr', hheld⟩ := hclaim cfg cfg' hcfg hcfg' "acme" r hr hstate
  obtain ⟨r'', hr'', hstate'⟩ := Option.map_eq_some_iff.mp hregistered
  rw [hr'] at hr''
  obtain rfl := Option.some.inj hr''
  rcases hheld with h | h
  · rw [hstate'] at h
    cases h
  · rw [hstate'] at h
    cases h

end Race

end ControlPlane
