import SnackPortal.Program.Machine
import SnackPortal.Program.History
import SnackPortal.ControlPlane.Distinctness

/-!
# The ports of the control plane

The calls the control-plane services make: on the control store, the audit trail, the
distinctness ledger, and the ports that reach tenant databases.  `controlPlane` is the machine
that answers them: the store, the trail and the ledger are shared state, what the outside
world answers is part of the choice, and any call on a port may fail before it takes effect.
-/

namespace ControlPlane

/-- The answer of the tenant-database probe. -/
structure ProbeResult where
  reachable : Bool
  observedSchemaVersion : Option String
deriving DecidableEq, Repr, Inhabited

/-- The physical inspection of one candidate database; `-1` is a count that is not safely
known. -/
structure DatabaseInspection where
  databaseName : String
  systemIdentifier : String
  databaseIdentity : String
  userTables : List (String × Int)
  agentsTotal : Int
  agentsSystemPrimary : Int
  schemaVersions : List String
deriving DecidableEq, Repr, Inhabited

/-- The fingerprint of the inspected database, of the shape of the recorded one. -/
def DatabaseInspection.fingerprint (d : DatabaseInspection) : String :=
  d.systemIdentifier ++ "::" ++ d.databaseIdentity

/-- The exceptions of the control plane.  `port` is every exception of a port that no service
tells apart. -/
inductive ControlError where
  | concurrency
  | collision
  | registry (message : String)
  | phaseFourDeferred
  | provisioning (message : String)
  | onboarding (message : String)
  | lifecycle (message : String)
  | port
deriving DecidableEq, Repr, Inhabited

/-- The calls on the ports of the control plane. -/
inductive ControlOp where
  | now
  | token
  | getTenant (tenantId : String)
  | putTenant (record : TenantRecord)
  | compareAndSwapTenant (updated : TenantRecord) (expectedVersion : Nat)
  | appendAudit (record : ControlAuditRecord)
  | listAudit
  | recordEvidence (tenantId : String) (evidence : DistinctnessEvidence)
  | evidenceExcluding (tenantId : String)
  | removeEvidence (tenantId : String)
  | probe (ref : SecretRef)
  | gather (ref : SecretRef) (sentinelToken sentinelNamespace : String)
  | invalidateTenant (tenantId correlationId : String)
  | provision (tenantId target : String)
  | applySchema (tenantId target : String) (ref : SecretRef)
  | controlDatabaseName
  | databaseExists (target : String)
  | inspectDatabase (target : String)
  | deprovision (target : String)
deriving DecidableEq

/-- The type of the answers to a call. -/
abbrev ControlOp.Ans : ControlOp → Type
  | .now => String
  | .token => String
  | .getTenant _ => Option TenantRecord
  | .putTenant _ => Unit
  | .compareAndSwapTenant _ _ => TenantRecord
  | .appendAudit _ => Unit
  | .listAudit => List ControlAuditRecord
  | .recordEvidence _ _ => Unit
  | .evidenceExcluding _ => List (String × DistinctnessEvidence)
  | .removeEvidence _ => Unit
  | .probe _ => ProbeResult
  | .gather _ _ _ => Option DistinctnessEvidence
  | .invalidateTenant _ _ => Unit
  | .provision _ _ => Unit
  | .applySchema _ _ _ => Unit
  | .controlDatabaseName => Option String
  | .databaseExists _ => Option Bool
  | .inspectDatabase _ => Option DatabaseInspection
  | .deprovision _ => Unit

/-- The signature of the control plane. -/
abbrev controlSignature : Signature := ⟨ControlOp, ControlOp.Ans⟩

/-- A call of the control plane with its answer. -/
abbrev ControlEvent := Event controlSignature ControlError

/-- A program of the control plane. -/
abbrev ControlProgram := Program controlSignature ControlError

/-! ### The calls -/

def nowIso : ControlProgram String := Program.perform (S := controlSignature) .now

def newToken : ControlProgram String := Program.perform (S := controlSignature) .token

def getTenant (tenantId : String) : ControlProgram (Option TenantRecord) :=
  Program.perform (S := controlSignature) (.getTenant tenantId)

def putTenant (record : TenantRecord) : ControlProgram Unit :=
  Program.perform (S := controlSignature) (.putTenant record)

def compareAndSwapTenant (updated : TenantRecord) (expectedVersion : Nat) :
    ControlProgram TenantRecord :=
  Program.perform (S := controlSignature) (.compareAndSwapTenant updated expectedVersion)

def appendAudit (record : ControlAuditRecord) : ControlProgram Unit :=
  Program.perform (S := controlSignature) (.appendAudit record)

def listAudit : ControlProgram (List ControlAuditRecord) :=
  Program.perform (S := controlSignature) .listAudit

def recordEvidence (tenantId : String) (evidence : DistinctnessEvidence) :
    ControlProgram Unit :=
  Program.perform (S := controlSignature) (.recordEvidence tenantId evidence)

def evidenceExcluding (tenantId : String) :
    ControlProgram (List (String × DistinctnessEvidence)) :=
  Program.perform (S := controlSignature) (.evidenceExcluding tenantId)

def removeEvidence (tenantId : String) : ControlProgram Unit :=
  Program.perform (S := controlSignature) (.removeEvidence tenantId)

def probeDatabase (ref : SecretRef) : ControlProgram ProbeResult :=
  Program.perform (S := controlSignature) (.probe ref)

def gatherEvidence (ref : SecretRef) (sentinelToken sentinelNamespace : String) :
    ControlProgram (Option DistinctnessEvidence) :=
  Program.perform (S := controlSignature) (.gather ref sentinelToken sentinelNamespace)

def invalidateTenant (tenantId correlationId : String) : ControlProgram Unit :=
  Program.perform (S := controlSignature) (.invalidateTenant tenantId correlationId)

def provisionDatabase (tenantId target : String) : ControlProgram Unit :=
  Program.perform (S := controlSignature) (.provision tenantId target)

def applySchema (tenantId target : String) (ref : SecretRef) : ControlProgram Unit :=
  Program.perform (S := controlSignature) (.applySchema tenantId target ref)

def controlDatabaseName : ControlProgram (Option String) :=
  Program.perform (S := controlSignature) .controlDatabaseName

def databaseExists (target : String) : ControlProgram (Option Bool) :=
  Program.perform (S := controlSignature) (.databaseExists target)

def inspectDatabase (target : String) : ControlProgram (Option DatabaseInspection) :=
  Program.perform (S := controlSignature) (.inspectDatabase target)

def deprovisionDatabase (target : String) : ControlProgram Unit :=
  Program.perform (S := controlSignature) (.deprovision target)

/-- The call writes nothing into the registry table. -/
def keepsTenants : ControlOp → Prop
  | .putTenant _ => False
  | .compareAndSwapTenant _ _ => False
  | _ => True

/-! ### The machine -/

/-- The registry table, the audit trail and the distinctness ledger. -/
structure ControlState where
  tenants : AList (fun _ : String => TenantRecord)
  audit : List ControlAuditRecord
  ledger : Ledger

/-- What one call leaves to the outside world. -/
structure ControlChoice where
  /-- The call fails before it takes effect. -/
  fault : Bool
  now : String
  token : String
  probe : ProbeResult
  gathered : Option DistinctnessEvidence
  controlName : Option String
  exists_ : Option Bool
  inspection : Option DatabaseInspection
deriving Inhabited

namespace ControlState

/-- The compare-and-swap of the registry table: a write only over the expected version. -/
def compareAndSwap (s : ControlState) (updated : TenantRecord) (expectedVersion : Nat) :
    Except ControlError TenantRecord × ControlState :=
  match s.tenants.lookup updated.tenantId with
  | none => (.error .concurrency, s)
  | some current =>
      if current.version = expectedVersion then
        let persisted := { updated with version := expectedVersion + 1 }
        (.ok persisted, { s with tenants := s.tenants.insert updated.tenantId persisted })
      else
        (.error .concurrency, s)

/-- A compare-and-swap either writes the updated record over one of the expected version, with
the next version, or changes nothing. -/
theorem compareAndSwap_cases (s : ControlState) (updated : TenantRecord) (expectedVersion : Nat) :
  (∃ current, s.tenants.lookup updated.tenantId = some current
      ∧ current.version = expectedVersion
      ∧ s.compareAndSwap updated expectedVersion =
          (.ok { updated with version := expectedVersion + 1 },
            { s with
              tenants := s.tenants.insert updated.tenantId
                { updated with version := expectedVersion + 1 } }))
    ∨ s.compareAndSwap updated expectedVersion = (.error .concurrency, s)
  := by
  rw [compareAndSwap]
  split
  · right
    rfl
  · rename_i current hcurrent
    split
    · rename_i hv
      left
      exact ⟨current, hcurrent, hv, rfl⟩
    · right
      rfl

/-- The upsert of the ledger, which refuses a fingerprint another tenant holds. -/
def recordEvidence (s : ControlState) (tenantId : String) (e : DistinctnessEvidence) :
    Except ControlError Unit × ControlState :=
  if s.ledger.holdsElsewhere tenantId e.fingerprint then
    (.error .collision, s)
  else
    (.ok (), { s with ledger := s.ledger.insert tenantId e })

/-- The answer to a call that does not fail. -/
def answer (s : ControlState) (c : ControlChoice) :
    (op : ControlOp) → Except ControlError op.Ans × ControlState
  | .now => (.ok c.now, s)
  | .token => (.ok c.token, s)
  | .getTenant t => (.ok (s.tenants.lookup t), s)
  | .putTenant r => (.ok (), { s with tenants := s.tenants.insert r.tenantId r })
  | .compareAndSwapTenant r v => s.compareAndSwap r v
  | .appendAudit a => (.ok (), { s with audit := s.audit ++ [a] })
  | .listAudit => (.ok s.audit, s)
  | .recordEvidence t e => s.recordEvidence t e
  | .evidenceExcluding t => (.ok (s.ledger.evidenceExcluding t), s)
  | .removeEvidence t => (.ok (), { s with ledger := s.ledger.erase t })
  | .probe _ => (.ok c.probe, s)
  | .gather _ _ _ => (.ok c.gathered, s)
  | .invalidateTenant _ _ => (.ok (), s)
  | .provision _ _ => (.ok (), s)
  | .applySchema _ _ _ => (.ok (), s)
  | .controlDatabaseName => (.ok c.controlName, s)
  | .databaseExists _ => (.ok c.exists_, s)
  | .inspectDatabase _ => (.ok c.inspection, s)
  | .deprovision _ => (.ok (), s)

end ControlState

/-- The control plane as a machine for the threads of `ι`. -/
abbrev controlPlane (ι : Type) : Machine controlSignature ControlError ι where
  State := ControlState
  Choice := ControlChoice
  answer _ op c s := some (if c.fault then (.error .port, s) else s.answer c op)
  drop _ s := s

end ControlPlane
