import SnackPortal.Data.Fallible
import SnackPortal.Data.Regex

/-!
# Logical identities and references

The names that deployments of the platform keep, whatever host they run on: environments,
profiles and logical databases.  A name has a grammar, and none of the marks of a physical
handle.  Values that are no names are references; they hold no secret and no endpoint.
-/

namespace Portability

open Regex Fallible

/-! ### The grammars -/

def lowerDigit : Regex := set [('a', 'z'), ('0', '9')] ""
def upperDigit : Regex := set [('A', 'Z'), ('0', '9')] ""

/-- `LOGICAL_DATABASE_ID_RE`. -/
def logicalDatabaseIdRe : Regex :=
  inOrder [set [('a', 'z')] "", star lowerDigit, star (seq (literal "-") (plus lowerDigit))]

/-- `ENVIRONMENT_ID_RE`. -/
def environmentIdRe : Regex :=
  inOrder [literal "SP2-", plus upperDigit, star (seq (literal "-") (plus upperDigit))]

/-- `PROFILE_ID_RE`. -/
def profileIdRe : Regex :=
  inOrder [literal "sp2-", plus lowerDigit, star (seq (literal "-") (plus lowerDigit))]

/-- `_DIGIT_RUN_RE`. -/
def digitRunRe : Regex := atLeast 4 decimal

/-- `_DRIVE_PATH_RE`, and the `windows-path` of the endpoints. -/
def drivePathRe : Regex :=
  inOrder [set [('A', 'Z'), ('a', 'z')] "", literal ":",
    alt (between 1 2 (literal "\\")) (seq (literal "/") (notAhead (literal "/")))]

/-- `PHYSICAL_HANDLE_MARKERS`. -/
def physicalHandleMarkers : List String :=
  ["sp2_b3a_", "snackportal2-b3a", "snackportal2_", "b3a", "localhost", "127.0.0.1", "::1"]

/-- `str.lower` of a text in ASCII, which the value is when it has matched its grammar. -/
def lower (text : CodePoints) : CodePoints :=
  text.map fun n => if 0x41 ≤ n ∧ n ≤ 0x5a then n + 0x20 else n

/-- `is_physical_handle`. -/
def isPhysicalHandle (classes : CharacterClasses) (value : CodePoints) : Bool :=
  let lowered := lower value
  (physicalHandleMarkers.any fun marker => lowered.contains (CodePoints.ofString marker))
    || digitRunRe.search classes value || drivePathRe.search classes value

/-- `LogicalIdentityError`: what was to be named, and by which value. -/
inductive LogicalIdentityError where
  | grammar (what : String) (value : CodePoints)
  | physicalHandle (what : String) (value : CodePoints)
  | tooLong
deriving DecidableEq, Repr

/-- What the validators have in common. -/
def validateIdentity (classes : CharacterClasses) (grammar : Regex) (what : String)
    (value : CodePoints) : Except LogicalIdentityError Unit := do
  ensure (grammar.fullmatch classes value) (.grammar what value)
  ensure (!isPhysicalHandle classes value) (.physicalHandle what value)

/-- `validate_logical_database_id`. -/
def validateLogicalDatabaseId (classes : CharacterClasses) (value : CodePoints) :
    Except LogicalIdentityError Unit := do
  validateIdentity classes logicalDatabaseIdRe "logical database id" value
  ensure (value.length ≤ 63) .tooLong

/-- `validate_environment_id`. -/
def validateEnvironmentId (classes : CharacterClasses) (value : CodePoints) :
    Except LogicalIdentityError Unit :=
  validateIdentity classes environmentIdRe "environment id" value

/-- `validate_profile_id`. -/
def validateProfileId (classes : CharacterClasses) (value : CodePoints) :
    Except LogicalIdentityError Unit :=
  validateIdentity classes profileIdRe "profile id" value

/-! ### References -/

/-- `SECRET_REFERENCE_RE`. -/
def secretReferenceRe : Regex :=
  inOrder [literal "ref:", set [('A', 'Z'), ('a', 'z'), ('0', '9')] "",
    star (set [('A', 'Z'), ('a', 'z'), ('0', '9')] "/_-"), literal "@",
    plus (set [('A', 'Z'), ('a', 'z'), ('0', '9')] "._-")]

/-- `CONFIG_REFERENCE_RE`. -/
def configReferenceRe : Regex :=
  inOrder [literal "config://", set [('a', 'z')] "", star (set [('a', 'z'), ('0', '9')] "-"),
    star (seq (literal "/") (plus (set [('a', 'z'), ('0', '9')] "-")))]

/-- `SELECTOR_RE`. -/
def selectorRe : Regex :=
  seq (set [('a', 'z')] "") (star (set [('a', 'z'), ('0', '9')] "-"))

/-- `_RAW_SECRET_PATTERNS`. -/
def rawSecretPatterns : List (String × Regex) :=
  [("dsn", inOrder [literalIgnoreCase "postgres", optional (literalIgnoreCase "ql"),
      literal "://"]),
    ("url-credentials", inOrder [literal "://", plus (noneOfNorSpace "/@"), literal ":",
      plus (noneOfNorSpace "/@"), literal "@"]),
    ("password-assignment", inOrder [wordBoundary,
      anyOf [literalIgnoreCase "password", literalIgnoreCase "passwd", literalIgnoreCase "pwd"],
      star space, set [] "=:"]),
    ("aws-access-key", seq (literal "AKIA") (times 16 (set [('0', '9'), ('A', 'Z')] ""))),
    ("private-key", inOrder [literal "-----BEGIN ", star (set [('A', 'Z')] " "),
      literal "PRIVATE KEY-----"]),
    ("token", inOrder [literal "xox", set [] "baprs", literal "-",
      atLeast 10 (set [('0', '9'), ('A', 'Z'), ('a', 'z')] "-")]),
    ("bearer-token", inOrder [wordBoundary, literalIgnoreCase "bearer", plus space,
      atLeast 16 (set [('A', 'Z'), ('a', 'z'), ('0', '9')] "._-")])]

/-- `_PHYSICAL_ENDPOINT_PATTERNS`. -/
def physicalEndpointPatterns : List (String × Regex) :=
  [("ipv4-literal", inOrder [wordBoundary, between 1 3 decimal,
      times 3 (seq (literal ".") (between 1 3 decimal)), wordBoundary]),
    ("loopback-host", alt (inOrder [wordBoundary, literalIgnoreCase "localhost", wordBoundary])
      (literal "::1")),
    ("host-port", inOrder [literal ":", between 2 5 decimal, ahead (alt (literal "/") textEnd)]),
    ("windows-path", drivePathRe)]

/-- `assert_reference_safe`: the kind of the first pattern that is found in the value, and
whether it is one of a secret. -/
def assertReferenceSafe (classes : CharacterClasses) (value : CodePoints) :
    Option (Bool × String) :=
  match rawSecretPatterns.find? fun p => p.2.search classes value with
  | some p => some (true, p.1)
  | none =>
      (physicalEndpointPatterns.find? fun p => p.2.search classes value).map fun p => (false, p.1)

end Portability
