import Mathlib.Data.List.Basic

/-!
# Startup imports

What a startup import reads and returns, and the key under which it is recorded.
-/

namespace StartupImport

/-- A record of the global directory, as reference data. -/
structure GlobalSourceRecord where
  recordRef : String
  displayName : String
  attributes : List (String × String)
deriving DecidableEq, Repr, Inhabited

/-- What an import produced, as references. -/
structure ImportRecord where
  importId : String
  tenantRecordRef : String
  lineageRef : String
deriving DecidableEq, Repr

/-- Who imports, and under which correlation. -/
structure ImportAttribution where
  actorRef : String
  correlationId : Option String
deriving DecidableEq, Repr

/-- The signed context of a request. -/
structure RequestContext where
  tenantContext : Option String
  principalRef : String
  correlationId : Option String
deriving DecidableEq, Repr

/-- `operation_key`, where `digest` is SHA-256 as a hexadecimal text. -/
def operationKey (digest : String → String) (tenantRef sourceRef : String) : String :=
  "imp-" ++ String.ofList ((digest (tenantRef ++ "\x00" ++ sourceRef)).toList.take 32)

end StartupImport
