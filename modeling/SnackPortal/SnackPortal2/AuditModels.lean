import SnackPortal.Data.Text

/-!
# The vocabulary of the ingress audit

The classes and the outcomes of the events that the ingress emits and the audit service keeps,
with their texts.  The classes of sharing are in the vocabulary, and nothing emits them.
-/

namespace SnackPortal2

inductive AuditAction where
  | carrierMismatch
  | carrierOnControlAnomaly
  | routeDenied
  | isolationAnomaly
  | workspaceMembershipsRead
  | tenantStartupRead
  | tenantStartupUpdate
  | shareProposed
  | shareApproved
  | shareGranted
  | shareRead
  | shareRevoked
  | shareExpired
  | shareSuspended
  | shareDenied
  | forwardAttemptDenied
deriving DecidableEq, Repr, Inhabited

/-- The actions with their texts. -/
def AuditAction.value : AuditAction → String
  | .carrierMismatch => "CarrierMismatch"
  | .carrierOnControlAnomaly => "CarrierOnControlAnomaly"
  | .routeDenied => "RouteDenied"
  | .isolationAnomaly => "IsolationAnomaly"
  | .workspaceMembershipsRead => "workspace_memberships_read"
  | .tenantStartupRead => "tenant_startup_read"
  | .tenantStartupUpdate => "tenant_startup_update"
  | .shareProposed => "share_proposed"
  | .shareApproved => "share_approved"
  | .shareGranted => "share_granted"
  | .shareRead => "share_read"
  | .shareRevoked => "share_revoked"
  | .shareExpired => "share_expired"
  | .shareSuspended => "share_suspended"
  | .shareDenied => "share_denied"
  | .forwardAttemptDenied => "forward_attempt_denied"

def AuditAction.all : List AuditAction :=
  [.carrierMismatch, .carrierOnControlAnomaly, .routeDenied, .isolationAnomaly,
    .workspaceMembershipsRead, .tenantStartupRead, .tenantStartupUpdate, .shareProposed,
    .shareApproved, .shareGranted, .shareRead, .shareRevoked, .shareExpired, .shareSuspended,
    .shareDenied, .forwardAttemptDenied]

/-- The action of a text. -/
def AuditAction.ofValue (value : String) : Option AuditAction :=
  all.find? fun action => action.value = value

theorem AuditAction.ofValue_value (action : AuditAction) :
  ofValue action.value = some action
  := by
  cases action <;> decide

inductive AuditOutcome where
  | allowed
  | denied
  | anomaly
deriving DecidableEq, Repr, Inhabited

def AuditOutcome.value : AuditOutcome → String
  | .allowed => "allowed"
  | .denied => "denied"
  | .anomaly => "anomaly"

def AuditOutcome.all : List AuditOutcome := [.allowed, .denied, .anomaly]

/-- The outcome of a text. -/
def AuditOutcome.ofValue (value : String) : Option AuditOutcome :=
  all.find? fun outcome => outcome.value = value

theorem AuditOutcome.ofValue_value (outcome : AuditOutcome) :
  ofValue outcome.value = some outcome
  := by
  cases outcome <;> decide

end SnackPortal2
