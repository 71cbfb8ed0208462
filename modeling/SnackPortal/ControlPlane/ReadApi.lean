import Mathlib.Data.Bool.AllAny
import SnackPortal.ControlPlane.Memberships
import SnackPortal.ControlPlane.Records
import SnackPortal.Data.Keyset
import SnackPortal.Data.Url

/-!
# The read API of the control plane

A dispatcher takes a request target apart and answers the reads of tenants, memberships, the
global directories and the federation of an issuer.  A client who follows the cursors of a
directory reads every record once in the order of the ids.  But the dispatcher does not answer
every target: a host that does not split, a text of digits that is no number and a text that the
store does not take make it raise (`reads_and_answers`).
-/

namespace ControlPlane

/-! ## What is stored -/

inductive DirectoryKind where
  | startup
  | investor
deriving DecidableEq, Repr

def DirectoryKind.value : DirectoryKind → String
  | .startup => "GlobalStartupDirectory"
  | .investor => "GlobalInvestorDirectory"

/-- A record of the global discovery platform. -/
structure DirectoryRecord where
  directory : DirectoryKind
  recordId : String
  displayName : String
  attributes : List (String × String)
deriving DecidableEq, Repr

/-- The configuration of a tenant's identity provider. -/
structure FederationConfig where
  tenantId : String
  oidcIssuer : String
  oidcAudience : String
  jwksRef : String
  claimToTenantRule : String
deriving DecidableEq, Repr

/-- The reads of a control store.  A read fails on a text that the store does not take, and on
no other; the ids of tenants and of the records of a directory are keys; a list has no more
items than a machine word counts. -/
structure ReadStore where
  takes : String → Bool
  getTenant : String → Except StoreError (Option TenantRecord)
  listTenantIds : List String
  listMemberships : ListMemberships
  getFederation : String → Except StoreError (Option FederationConfig)
  getDirectoryRecord : DirectoryKind → String → Except StoreError (Option DirectoryRecord)
  listDirectory : DirectoryKind → List DirectoryRecord
  getTenant_isOk : ∀ tenantId, (getTenant tenantId).isOk = takes tenantId
  listMemberships_isOk : ∀ principalRef tenantId,
    (listMemberships principalRef tenantId).isOk = (principalRef.all takes && tenantId.all takes)
  getFederation_isOk : ∀ tenantId, (getFederation tenantId).isOk = takes tenantId
  getDirectoryRecord_isOk : ∀ kind recordId,
    (getDirectoryRecord kind recordId).isOk = takes recordId
  tenantIds_taken : ∀ tenantId ∈ listTenantIds, takes tenantId
  directoryPk : ∀ kind, ((listDirectory kind).map DirectoryRecord.recordId).Nodup
  directorySize : ∀ kind, (listDirectory kind).length < 2 ^ 63

/-! ## Numbers in texts -/

/-- What the tables of Unicode say of a character: it is a digit, and the value of a decimal. -/
structure Digits where
  isDigit : Char → Bool
  decimal : Char → Option Nat

/-- The tables know the digits of ASCII. -/
structure Digits.Lawful (digits : Digits) : Prop where
  isDigit : ∀ c : Char, c.isDigit → digits.isDigit c
  decimal : ∀ c : Char, c.isDigit → digits.decimal c = some (c.toNat - '0'.toNat)

/-- What a request raises: the conversion of a text, or the store. -/
inductive Raised where
  | valueError
  | storeError (e : StoreError)
deriving DecidableEq, Repr

def Raised.ofStore {α : Type} : Except StoreError α → Except Raised α
  | .ok a => .ok a
  | .error e => .error (.storeError e)

def Raised.ofValue {α : Type} : Except Url.ValueError α → Except Raised α
  | .ok a => .ok a
  | .error _ => .error .valueError

/-- `sys.int_info.default_max_str_digits`. -/
def maxStrDigits : Nat := 4300

section Number

variable (digits : Digits)

/-- `str.isdigit`. -/
def isdigit (text : String) : Bool :=
  text ≠ "" && text.toList.all digits.isDigit

/-- The text is one that `int` converts, of those whose characters are digits. -/
def isNumber (text : String) : Bool :=
  text.toList.length ≤ maxStrDigits && text.toList.all fun c => (digits.decimal c).isSome

/-- `int`, of a text whose characters are digits. -/
def int (text : String) : Except Raised Nat :=
  if isNumber digits text then
    .ok (text.toList.foldl (fun n c => 10 * n + (digits.decimal c).getD 0) 0)
  else
    .error .valueError

/-- `int(text) if text.isdigit() else default`. -/
def intOr (default : Nat) (text : String) : Except Raised Nat :=
  if isdigit digits text then int digits text else .ok default

end Number

/-! ## The service -/

/-- The view of a directory record. -/
structure DirectoryView where
  directory : String
  recordId : String
  displayName : String
  attributes : List (String × String)
deriving DecidableEq, Repr

/-- The body of a response. -/
inductive Body where
  | error (error : String)
  | tenantState (tenantId lifecycleState : String) (ready : Bool)
  | routingView (tenantId lifecycleState : String) (ready : Bool)
      (databaseAssociationRef : SecretRef) (expectedSchemaVersion : String)
  | member (member : Bool)
  | role (role : String)
  | memberships (memberships : List (String × String))
  | federation (config : FederationConfig)
  | directoryRecord (record : DirectoryView)
  | directoryPage (records : List DirectoryView) (nextCursor : Option String)
deriving DecidableEq, Repr

namespace ControlPlaneReadService

variable (store : ReadStore)

def tenantState (tenantId : String) : Except StoreError (Option Body) := do
  let rec_ ← store.getTenant tenantId
  pure (rec_.map fun rec_ =>
    .tenantState rec_.tenantId rec_.lifecycleState.value (rec_.lifecycleState = .ready))

def routingView (tenantId : String) : Except StoreError (Option Body) := do
  let rec_ ← store.getTenant tenantId
  pure (rec_.map fun rec_ =>
    .routingView rec_.tenantId rec_.lifecycleState.value (rec_.lifecycleState = .ready)
      rec_.databaseAssociationRef rec_.expectedSchemaVersion)

/-- The configurations of the tenants, until one has the issuer. -/
def findIssuer (issuer : String) : List String → Except StoreError (Option FederationConfig)
  | [] => pure none
  | tenantId :: rest => do
      let config ← store.getFederation tenantId
      match config.filter fun config => config.oidcIssuer = issuer with
      | some config => pure (some config)
      | none => findIssuer issuer rest

def federationForIssuer (issuer : String) : Except StoreError (Option Body) := do
  let config ← findIssuer store issuer (store.listTenantIds.insertionSort (Keyset.Before id))
  pure (config.map .federation)

/-- `_DIR_ALIAS`. -/
def dirAlias (kindAlias : String) : Option DirectoryKind :=
  if kindAlias = "startup" then some .startup
  else if kindAlias = "investor" then some .investor
  else none

def directoryView (record : DirectoryRecord) : DirectoryView where
  directory := record.directory.value
  recordId := record.recordId
  displayName := record.displayName
  attributes := record.attributes

def directoryRecord (kindAlias recordId : String) : Except StoreError (Option Body) :=
  match dirAlias kindAlias with
  | none => pure none
  | some kind => do
      let record ← store.getDirectoryRecord kind recordId
      pure (record.map fun record => .directoryRecord (directoryView record))

/-- `_MAX_PAGE`. -/
def maxPage : Nat := 200

/-- `directory_page`: a page begins at the number that its cursor says. -/
def directoryPage (digits : Digits) (kindAlias cursor : String) (limit : Nat) :
    Except Raised (Option Body) :=
  match dirAlias kindAlias with
  | none => pure none
  | some kind => do
      let limit := max 1 (min limit maxPage)
      let records := (store.listDirectory kind).insertionSort
        (Keyset.Before DirectoryRecord.recordId)
      let offset ← intOr digits 0 cursor
      let page := (records.drop offset).take limit
      let nextCursor :=
        if offset + limit < records.length then some (offset + limit).repr else none
      pure (some (.directoryPage (page.map directoryView) nextCursor))

end ControlPlaneReadService

/-! ## The dispatcher -/

/-- What a path asks for. -/
inductive Route where
  | routing (tenantId : String)
  | tenantState (tenantId : String)
  | membership
  | role
  | memberships
  | directoryRecord (kindAlias recordId : String)
  | directoryPage (kindAlias : String)
  | federation
  | unknown
deriving DecidableEq, Repr

/-- The segments of a path that are not empty. -/
def segments (path : String) : List String :=
  (Text.split '/' path).filter (· ≠ "")

def route : List String → Route
  | [a, b, c, d] =>
      if a = "internal" ∧ b = "routing" ∧ c = "tenants" then .routing d else .unknown
  | [a, b, c] =>
      if a = "tenants" ∧ c = "state" then .tenantState b
      else if a = "directory" then .directoryRecord b c
      else .unknown
  | [a, b] => if a = "directory" then .directoryPage b else .unknown
  | [a] =>
      if a = "membership" then .membership
      else if a = "role" then .role
      else if a = "memberships" then .memberships
      else if a = "federation" then .federation
      else .unknown
  | _ => .unknown

/-- `_NOT_FOUND`. -/
def notFound : Nat × Body := (404, .error "not_found")

/-- `(query.get(name) or [default])[0]`. -/
def firstOr (default name query : String) : String :=
  (Url.valuesOf name (Url.parseQsl false query)).headD default

/-- A body that is there, or the refusal. -/
def found : Option Body → Nat × Body
  | some body => (200, body)
  | none => notFound

namespace ControlPlaneReadDispatcher

open ControlPlaneReadService

variable (digits : Digits) (store : ReadStore)

/-- The answer on a route. -/
def answer (query : String) : Route → Except Raised (Nat × Body)
  | .routing tenantId => found <$> Raised.ofStore (routingView store tenantId)
  | .tenantState tenantId => found <$> Raised.ofStore (tenantState store tenantId)
  | .membership =>
      (fun member => (200, .member member)) <$> Raised.ofStore
        (isMember store.listMemberships (firstOr "" "p" query) (firstOr "" "t" query))
  | .role =>
      (fun role => found (role.map .role)) <$> Raised.ofStore
        (getRole store.listMemberships (firstOr "" "p" query) (firstOr "" "t" query))
  | .memberships =>
      (fun memberships => (200, .memberships memberships)) <$> Raised.ofStore
        (membershipsForPrincipal store.listMemberships (firstOr "" "p" query))
  | .directoryRecord kindAlias recordId =>
      found <$> Raised.ofStore (directoryRecord store kindAlias recordId)
  | .directoryPage kindAlias => do
      let limit ← intOr digits 100 (firstOr "100" "limit" query)
      found <$> directoryPage store digits kindAlias (firstOr "" "cursor" query) limit
  | .federation =>
      match Url.valuesOf "issuer" (Url.parseQsl true query) with
      | [issuer] =>
          if issuer = "" then
            pure (400, .error "invalid_issuer")
          else
            found <$> Raised.ofStore (federationForIssuer store issuer)
      | _ => pure (400, .error "invalid_issuer")
  | .unknown => pure notFound

/-- `handle`. -/
def handle (nfkc : String → String) (method requestTarget : String) :
    Except Raised (Nat × Body) :=
  if method ≠ "GET" then
    pure (405, .error "method_not_allowed")
  else do
    let parts ← Raised.ofValue (Url.urlsplit nfkc requestTarget)
    answer digits store parts.query (route (segments parts.path))

/-! ### Which targets are answered -/

/-- The texts that a route looks up. -/
def lookups (query : String) : Route → List String
  | .routing tenantId => [tenantId]
  | .tenantState tenantId => [tenantId]
  | .membership => [firstOr "" "p" query, firstOr "" "t" query]
  | .role => [firstOr "" "p" query, firstOr "" "t" query]
  | .memberships => [firstOr "" "p" query]
  | .directoryRecord kindAlias recordId =>
      if (dirAlias kindAlias).isSome then [recordId] else []
  | _ => []

/-- The texts that a route takes for numbers. -/
def numerals (query : String) : Route → List String
  | .directoryPage kindAlias =>
      firstOr "100" "limit" query
        :: if (dirAlias kindAlias).isSome then [firstOr "" "cursor" query] else []
  | _ => []

/-- The target splits, the store takes the texts that it looks up, and the texts of digits that it
takes for numbers are numbers. -/
def Answerable (nfkc : String → String) (requestTarget : String) : Prop :=
  ∃ parts, Url.urlsplit nfkc requestTarget = .ok parts
    ∧ (∀ text ∈ lookups parts.query (route (segments parts.path)), store.takes text)
    ∧ ∀ text ∈ numerals parts.query (route (segments parts.path)),
      isdigit digits text → isNumber digits text

section Answers

variable {digits store}

theorem isOk_map {ε α β : Type} (f : α → β) (x : Except ε α) :
  (f <$> x).isOk = x.isOk
  := by
  cases x <;> rfl

theorem isOk_ofStore {α : Type} (x : Except StoreError α) :
  (Raised.ofStore x).isOk = x.isOk
  := by
  cases x <;> rfl

theorem isOk_bind_pure {ε α β : Type} (x : Except ε α) (f : α → β) :
  (x >>= fun a => pure (f a)).isOk = x.isOk
  := by
  cases x <;> rfl

theorem isOk_intOr {default : Nat} {text : String} :
  (intOr digits default text).isOk ↔ (isdigit digits text → isNumber digits text)
  := by
  rw [intOr]
  split
  · rename_i hdigit
    rw [int]
    split
    · rename_i hnumber
      simp [hnumber, Except.toBool]
    · rename_i hnumber
      simp [hnumber, hdigit, Except.toBool]
  · rename_i hdigit
    simp [hdigit, Except.toBool]

/-- The search for an issuer asks for ids that the store has. -/
theorem isOk_findIssuer {issuer : String} {tenantIds : List String}
    (h : ∀ tenantId ∈ tenantIds, store.takes tenantId) :
  (findIssuer store issuer tenantIds).isOk
  := by
  induction tenantIds with
  | nil => rfl
  | cons tenantId rest ih =>
      rw [List.forall_mem_cons] at h
      have hread := (store.getFederation_isOk tenantId).trans h.1
      rw [findIssuer]
      cases hconfig : store.getFederation tenantId with
      | error e =>
          rw [hconfig] at hread
          cases hread
      | ok config =>
          simp only [bind, Except.bind]
          split
          · rfl
          · apply ih h.2

theorem isOk_directoryPage {kindAlias cursor : String} {limit : Nat} :
  (directoryPage store digits kindAlias cursor limit).isOk
    ↔ ((dirAlias kindAlias).isSome → isdigit digits cursor → isNumber digits cursor)
  := by
  rw [directoryPage]
  cases dirAlias kindAlias with
  | none => simp [pure, Except.pure, Except.toBool]
  | some kind =>
      simp only [isOk_bind_pure, isOk_intOr, Option.isSome_some, forall_const]

/-- A route is answered if and only if the store takes what it looks up and its numerals are
numbers. -/
theorem isOk_answer {query : String} {r : Route} :
  (answer digits store query r).isOk
    ↔ (∀ text ∈ lookups query r, store.takes text)
      ∧ ∀ text ∈ numerals query r, isdigit digits text → isNumber digits text
  := by
  cases r with
  | routing tenantId =>
      simp [answer, lookups, numerals, isOk_map, isOk_ofStore, routingView,
        store.getTenant_isOk]
  | tenantState tenantId =>
      simp [answer, lookups, numerals, isOk_map, isOk_ofStore, tenantState,
        store.getTenant_isOk]
  | membership =>
      simp [answer, lookups, numerals, isOk_map, isOk_ofStore, isMember,
        store.listMemberships_isOk]
  | role =>
      simp [answer, lookups, numerals, isOk_map, isOk_ofStore, getRole,
        store.listMemberships_isOk]
  | memberships =>
      simp [answer, lookups, numerals, isOk_map, isOk_ofStore, membershipsForPrincipal,
        store.listMemberships_isOk]
  | directoryRecord kindAlias recordId =>
      cases hkind : dirAlias kindAlias with
      | none =>
          simp [answer, lookups, numerals, directoryRecord, hkind, isOk_map, isOk_ofStore,
            pure, Except.pure, Except.toBool]
      | some kind =>
          simp [answer, lookups, numerals, directoryRecord, hkind, isOk_map, isOk_ofStore,
            store.getDirectoryRecord_isOk]
  | directoryPage kindAlias =>
      have hlimit : (intOr digits 100 (firstOr "100" "limit" query)).isOk ↔ _ := isOk_intOr
      rw [answer]
      cases hvalue : intOr digits 100 (firstOr "100" "limit" query) with
      | error e =>
          rw [hvalue] at hlimit
          simp only [numerals, List.forall_mem_cons, ← hlimit]
          simp [bind, Except.bind, Except.toBool]
      | ok limit =>
          rw [hvalue] at hlimit
          change (found <$> directoryPage store digits kindAlias _ limit).isOk ↔ _
          rw [isOk_map, isOk_directoryPage]
          simp only [numerals, lookups, List.forall_mem_cons, ← hlimit]
          cases dirAlias kindAlias <;> simp [Except.toBool]
  | federation =>
      have hfound : ∀ issuer, (found <$> Raised.ofStore
          (federationForIssuer store issuer)).isOk := by
        intro issuer
        rw [isOk_map, isOk_ofStore, federationForIssuer, isOk_bind_pure]
        apply isOk_findIssuer
        intro tenantId htenant
        apply store.tenantIds_taken
        apply (List.perm_insertionSort _ _).mem_iff.mp htenant
      simp only [lookups, numerals, List.not_mem_nil, false_implies, implies_true, and_self,
        iff_true]
      rw [answer]
      split
      · split
        · rfl
        · apply hfound
      · rfl
  | unknown => simp [answer, lookups, numerals, Except.toBool, pure, Except.pure]

theorem isOk_handle {nfkc : String → String} {method requestTarget : String} :
  (handle digits store nfkc method requestTarget).isOk
    ↔ method ≠ "GET" ∨ Answerable digits store nfkc requestTarget
  := by
  rw [handle]
  split
  · rename_i hmethod
    simp [hmethod, pure, Except.pure, Except.toBool]
  · rename_i hmethod
    rw [Answerable]
    cases hparts : Url.urlsplit nfkc requestTarget with
    | error e => simp [hmethod, Raised.ofValue, bind, Except.bind, Except.toBool]
    | ok parts =>
        change (answer digits store parts.query (route (segments parts.path))).isOk ↔ _
        simp [isOk_answer, hmethod]

end Answers

/-! ### Following the cursors of a directory -/

/-- The alias of a directory in a path. -/
def aliasOf : DirectoryKind → String
  | .startup => "startup"
  | .investor => "investor"

/-- The fields of a page's query. -/
def pageFields (cursor : Option String) (limit : Nat) : List (String × String) :=
  ("limit", limit.repr) :: (cursor.toList.map fun cursor => ("cursor", cursor))

/-- The target that a client of the directory asks for: `HttpDirectoryRead.page`, with a cursor
that needs no quoting. -/
def pageTarget (kind : DirectoryKind) (cursor : Option String) (limit : Nat) : String :=
  "/directory/" ++ aliasOf kind ++ "?limit=" ++ limit.repr
    ++ (cursor.elim "" fun cursor => "&cursor=" ++ cursor)

variable (nfkc : String → String)

/-- The page that a response has. -/
def pageOf : Except Raised (Nat × Body) → Option (List DirectoryView × Option String)
  | .ok (status, .directoryPage records nextCursor) =>
      if status = 200 then some (records, nextCursor) else none
  | _ => none

/-- The records of a page and of those that follow, which `rest` reads from a cursor on. -/
def withRest (rest : String → Option (List DirectoryView)) :
    Option (List DirectoryView × Option String) → Option (List DirectoryView)
  | none => none
  | some (records, none) => some records
  | some (records, some next) => (rest next).map (records ++ ·)

/-- A client who passes every cursor on; the store may list its records in another order for
every page.  `none` where the fuel runs out or a response is no page. -/
def readPages (stores : Nat → ReadStore) (kind : DirectoryKind) (limit : Nat) :
    Nat → Nat → Option String → Option (List DirectoryView)
  | 0, _, _ => none
  | fuel + 1, n, cursor =>
      withRest (fun next => readPages stores kind limit fuel (n + 1) (some next))
        (pageOf (handle digits (stores n) nfkc "GET" (pageTarget kind cursor limit)))

section Pages

variable {digits store} (hdigits : digits.Lawful)

theorem isDigit_of_mem_repr {n : Nat} {c : Char} (h : c ∈ n.repr.toList) :
  c.isDigit
  := by
  rw [Nat.toList_repr] at h
  apply Nat.isDigit_of_mem_toDigits (by decide) (by decide) h

theorem toNat_of_isDigit {c : Char} (h : c.isDigit) :
  48 ≤ c.toNat ∧ c.toNat ≤ 57
  := by
  rw [Char.isDigit, Bool.and_eq_true, decide_eq_true_eq, decide_eq_true_eq] at h
  exact ⟨UInt32.le_iff_toNat_le.mp h.1, UInt32.le_iff_toNat_le.mp h.2⟩

/-- A digit stands for itself in a query. -/
theorem plain_of_isDigit {c : Char} (h : c.isDigit) :
  Url.Plain c
  := by
  obtain ⟨hlow, hhigh⟩ := toNat_of_isDigit h
  constructor
  · apply decide_eq_true
    omega
  · refine ⟨?_, ?_, ?_, ?_⟩ <;>
    · rintro rfl
      revert h
      decide

theorem visible_of_isDigit {c : Char} (h : c.isDigit) :
  0x20 < c.toNat ∧ c ≠ ':' ∧ c ≠ '#'
  := by
  obtain ⟨hlow, hhigh⟩ := toNat_of_isDigit h
  constructor
  · omega
  · constructor
    · rintro rfl
      revert h
      decide
    · rintro rfl
      revert h
      decide

include hdigits

/-- The text of a number that is not too long is read back. -/
theorem intOr_repr {default n : Nat} (hn : n.repr.length ≤ maxStrDigits) :
  intOr digits default n.repr = .ok n
  := by
  have hdigit : isdigit digits n.repr := by
    rw [isdigit, Bool.and_eq_true]
    constructor
    · apply decide_eq_true
      intro hempty
      have hpos := Nat.length_repr_pos (n := n)
      rw [hempty] at hpos
      cases hpos
    · apply List.all_eq_true.mpr
      intro c hc
      apply hdigits.isDigit c (isDigit_of_mem_repr hc)
  have hnumber : isNumber digits n.repr := by
    rw [isNumber, Bool.and_eq_true]
    constructor
    · apply decide_eq_true
      rw [String.length_toList]
      apply hn
    · apply List.all_eq_true.mpr
      intro c hc
      rw [hdigits.decimal c (isDigit_of_mem_repr hc)]
      rfl
  have hvalue : n.repr.toList.foldl (fun n c => 10 * n + (digits.decimal c).getD 0) 0 = n := by
    have hcongr : ∀ (chars : List Char), (∀ c ∈ chars, c.isDigit) → ∀ m : Nat,
        chars.foldl (fun n c => 10 * n + (digits.decimal c).getD 0) m
          = Nat.ofDigitChars 10 chars m := by
      intro chars
      induction chars with
      | nil => intro _ m; rfl
      | cons c chars ih =>
          intro h m
          rw [List.forall_mem_cons] at h
          rw [List.foldl_cons, ih h.2, Nat.ofDigitChars_cons, hdigits.decimal c h.1]
          rfl
    rw [hcongr _ fun c hc => isDigit_of_mem_repr hc, Nat.toList_repr,
      Nat.ofDigitChars_ten_toDigits]
  rw [intOr, if_pos hdigit, int, if_pos hnumber, hvalue]

omit hdigits in
theorem repr_ne_empty (n : Nat) :
  n.repr ≠ ""
  := by
  intro hempty
  have hpos := Nat.length_repr_pos (n := n)
  rw [hempty] at hpos
  cases hpos

omit hdigits in
/-- The query of a page's target has its fields. -/
theorem parseQsl_pageFields (cursor : Option Nat) (limit : Nat) :
  Url.parseQsl false (String.ofList (Url.unparsed (pageFields (cursor.map Nat.repr) limit)))
    = pageFields (cursor.map Nat.repr) limit
  := by
  have hrepr : ∀ n : Nat, ∀ c ∈ n.repr.toList, Url.Plain c := by
    intro n c hc
    apply plain_of_isDigit (isDigit_of_mem_repr hc)
  apply Url.parseQsl_unparsed
  · apply List.cons_ne_nil
  · intro field hfield
    rcases List.mem_cons.mp hfield with rfl | hcursor
    · refine ⟨?_, hrepr limit, repr_ne_empty limit⟩
      simp [Url.Plain, Url.isAscii]
    · obtain ⟨text, htext, rfl⟩ := List.mem_map.mp hcursor
      obtain ⟨offset, -, rfl⟩ := Option.map_eq_some_iff.mp (Option.mem_toList.mp htext)
      refine ⟨?_, hrepr offset, repr_ne_empty offset⟩
      simp [Url.Plain, Url.isAscii]

omit hdigits in
/-- The target of a page splits into the path of the directory and the fields. -/
theorem urlsplit_pageTarget (kind : DirectoryKind) (cursor : Option Nat) (limit : Nat) :
  Url.urlsplit nfkc (pageTarget kind (cursor.map Nat.repr) limit)
    = .ok ⟨"", "", "/directory/" ++ aliasOf kind,
        String.ofList (Url.unparsed (pageFields (cursor.map Nat.repr) limit)), ""⟩
  := by
  have htext : pageTarget kind (cursor.map Nat.repr) limit
      = String.ofList (("/directory/" ++ aliasOf kind).toList
        ++ '?' :: Url.unparsed (pageFields (cursor.map Nat.repr) limit)) := by
    apply String.toList_injective
    cases cursor <;> cases kind <;> simp [pageTarget, Url.unparsed, pageFields, aliasOf]
  rw [htext, Url.urlsplit_path_query]
  · rw [String.ofList_toList]
  · cases kind <;> simp [aliasOf]
  · cases kind <;> decide
  · have hrepr : ∀ n : Nat, ∀ c ∈ n.repr.toList, 0x20 < c.toNat ∧ c ≠ ':' ∧ c ≠ '#' := by
      intro n c hc
      apply visible_of_isDigit (isDigit_of_mem_repr hc)
    have hpath : ∀ c ∈ ("/directory/" ++ aliasOf kind).toList,
        0x20 < c.toNat ∧ c ≠ ':' ∧ c ≠ '#' := by
      cases kind <;> exact List.all_iff_forall_prop.mp (by decide)
    have hlimit : ∀ c ∈ "limit".toList, 0x20 < c.toNat ∧ c ≠ ':' ∧ c ≠ '#' :=
      List.all_iff_forall_prop.mp (by decide)
    have hcursor : ∀ c ∈ "cursor".toList, 0x20 < c.toNat ∧ c ≠ ':' ∧ c ≠ '#' :=
      List.all_iff_forall_prop.mp (by decide)
    intro c hc
    rcases List.mem_append.mp hc with hmem | hquery
    · apply hpath c hmem
    · rcases List.mem_cons.mp hquery with rfl | hfields
      · decide
      · rcases Url.mem_unparsed hfields with rfl | rfl | ⟨field, hfield, hchar⟩
        · decide
        · decide
        · rcases List.mem_cons.mp hfield with rfl | hrest
          · rcases hchar with hname | hvalue
            · apply hlimit c hname
            · apply hrepr limit c hvalue
          · obtain ⟨text, htext, rfl⟩ := List.mem_map.mp hrest
            obtain ⟨offset, -, rfl⟩ := Option.map_eq_some_iff.mp (Option.mem_toList.mp htext)
            rcases hchar with hname | hvalue
            · apply hcursor c hname
            · apply hrepr offset c hvalue

/-- The records of a directory in the order of their ids. -/
def sortedRecords (store : ReadStore) (kind : DirectoryKind) : List DirectoryRecord :=
  (store.listDirectory kind).insertionSort (Keyset.Before DirectoryRecord.recordId)

/-- The answer to a page's target: the records from the offset on, and the cursor of the page
that follows, if there is one. -/
theorem pageOf_pageTarget {kind : DirectoryKind} {cursor : Option Nat} {limit : Nat}
    (hcursor : ∀ offset ∈ cursor, offset.repr.length ≤ maxStrDigits)
    (hlimit : limit.repr.length ≤ maxStrDigits) :
  pageOf (handle digits store nfkc "GET" (pageTarget kind (cursor.map Nat.repr) limit))
    = some ((((sortedRecords store kind).drop (cursor.getD 0)).take
          (max 1 (min limit maxPage))).map directoryView,
        if cursor.getD 0 + max 1 (min limit maxPage) < (sortedRecords store kind).length then
          some (cursor.getD 0 + max 1 (min limit maxPage)).repr
        else none)
  := by
  have hroute : route (segments ("/directory/" ++ aliasOf kind))
      = .directoryPage (aliasOf kind) := by
    cases kind <;> decide
  have halias : dirAlias (aliasOf kind) = some kind := by
    cases kind <;> rfl
  have hlimitText : firstOr "100" "limit"
      (String.ofList (Url.unparsed (pageFields (cursor.map Nat.repr) limit))) = limit.repr := by
    rw [firstOr, parseQsl_pageFields]
    rfl
  have hoffset : intOr digits 0 (firstOr "" "cursor"
      (String.ofList (Url.unparsed (pageFields (cursor.map Nat.repr) limit))))
        = .ok (cursor.getD 0) := by
    rw [firstOr, parseQsl_pageFields]
    cases cursor with
    | none => rfl
    | some offset => apply intOr_repr hdigits (hcursor offset rfl)
  rw [handle, if_neg (by decide), urlsplit_pageTarget]
  change pageOf (answer digits store _ (route (segments ("/directory/" ++ aliasOf kind)))) = _
  rw [hroute, answer, hlimitText, intOr_repr hdigits hlimit]
  change pageOf (found <$> directoryPage store digits (aliasOf kind) _ limit) = _
  rw [directoryPage, halias]
  simp only [hoffset]
  rfl

omit hdigits in
/-- Records listed in another order are sorted alike. -/
theorem sortedRecords_of_perm {store' : ReadStore} {kind : DirectoryKind}
    (h : (store'.listDirectory kind).Perm (store.listDirectory kind)) :
  sortedRecords store' kind = sortedRecords store kind
  := by
  apply Keyset.insertionSort_eq_of_perm
  · apply h.trans (List.perm_insertionSort _ _).symm
  · apply Keyset.increasing_insertionSort (store.directoryPk kind)

omit hdigits in
/-- The place of a record is a number that is not too long. -/
theorem length_repr_place {kind : DirectoryKind} {offset : Nat}
    (h : offset < (sortedRecords store kind).length) :
  offset.repr.length ≤ maxStrDigits
  := by
  have hsize : (sortedRecords store kind).length < 10 ^ 20 := by
    rw [sortedRecords, (List.perm_insertionSort _ _).length_eq]
    apply Nat.lt_trans (store.directorySize kind)
    decide
  have hlength : offset.repr.length ≤ 20 :=
    (Nat.length_repr_le_iff (by decide)).mpr (Nat.lt_trans h hsize)
  apply Nat.le_trans hlength
  decide

/-- From a cursor on, the client reads the records that follow. -/
theorem readPages_eq {stores : Nat → ReadStore} {kind : DirectoryKind}
    (hstores : ∀ n, ((stores n).listDirectory kind).Perm (store.listDirectory kind))
    {limit : Nat} (hlimit : limit.repr.length ≤ maxStrDigits) {fuel n : Nat}
    {cursor : Option Nat} (hcursor : ∀ offset ∈ cursor, offset < (sortedRecords store kind).length)
    (hfuel : (sortedRecords store kind).length - cursor.getD 0 < fuel) :
  readPages digits nfkc stores kind limit fuel n (cursor.map Nat.repr)
    = some (((sortedRecords store kind).drop (cursor.getD 0)).map directoryView)
  := by
  induction fuel generalizing n cursor with
  | zero => exact absurd hfuel (Nat.not_lt_zero _)
  | succ fuel ih =>
      have hplace : ∀ offset ∈ cursor, offset.repr.length ≤ maxStrDigits := by
        intro offset hoffset
        apply length_repr_place (hcursor offset hoffset)
      have hpage := @pageOf_pageTarget digits (stores n) nfkc hdigits kind cursor limit hplace
        hlimit
      rw [sortedRecords_of_perm (hstores n)] at hpage
      rw [readPages, hpage]
      by_cases hmore : cursor.getD 0 + max 1 (min limit maxPage)
          < (sortedRecords store kind).length
      · have hrest : readPages digits nfkc stores kind limit fuel (n + 1)
            ((some (cursor.getD 0 + max 1 (min limit maxPage))).map Nat.repr) = _ := ih
          (by intro offset hoffset; obtain rfl := Option.some.inj hoffset; apply hmore)
          (by rw [Option.getD_some]; omega)
        rw [Option.map_some, Option.getD_some] at hrest
        rw [if_pos hmore, withRest, hrest, Option.map_some, ← List.map_append, ← List.drop_drop,
          List.take_append_drop]
      · rw [if_neg hmore, withRest, List.take_of_length_le]
        rw [List.length_drop]
        omega

variable (store) in
/-- A client who follows the cursors of a directory, with a limit whose text is not too long,
reads every record once and in the order of the ids; and the dispatcher returns a response if and
only if the method is refused or the target is answerable. -/
theorem reads_and_answers :
  (∀ (kind : DirectoryKind) (stores : Nat → ReadStore),
      (∀ n, ((stores n).listDirectory kind).Perm (store.listDirectory kind)) →
      ∀ limit : Nat, limit.repr.length ≤ maxStrDigits →
        ∃ (fuel : Nat) (records : List DirectoryRecord),
          readPages digits nfkc stores kind limit fuel 0 none
              = some (records.map directoryView)
            ∧ records.Perm (store.listDirectory kind)
            ∧ records.Pairwise fun record record' => record.recordId < record'.recordId)
    ∧ ∀ method requestTarget : String,
      (handle digits store nfkc method requestTarget).isOk
        ↔ method ≠ "GET" ∨ Answerable digits store nfkc requestTarget
  := by
  constructor
  · intro kind stores hstores limit hlimit
    use (sortedRecords store kind).length + 1, sortedRecords store kind
    constructor
    · have hread : readPages digits nfkc stores kind limit
          ((sortedRecords store kind).length + 1) 0 ((none : Option Nat).map Nat.repr) = _ :=
        readPages_eq nfkc hdigits hstores hlimit (fun offset hoffset => nomatch hoffset)
          (Nat.lt_succ_of_le (Nat.sub_le _ _))
      apply hread
    · constructor
      · apply List.perm_insertionSort
      · apply Keyset.increasing_insertionSort (store.directoryPk kind)
  · intro method requestTarget
    apply isOk_handle

end Pages

/-- The digits of Latin 1, which has three that are no decimals. -/
def latinDigits : Digits where
  isDigit c := c.isDigit || ['²', '³', '¹'].contains c
  decimal c := if c.isDigit then some (c.toNat - '0'.toNat) else none

theorem latinDigits_lawful :
  latinDigits.Lawful
  := by
  constructor
  · intro c hc
    apply Bool.or_eq_true_iff.mpr (Or.inl hc)
  · intro c hc
    apply if_pos hc

/-- A store in memory with two startups. -/
def twoStartups : ReadStore where
  takes _ := true
  getTenant _ := .ok none
  listTenantIds := []
  listMemberships := InMemoryControlStore.listMemberships []
  getFederation _ := .ok none
  getDirectoryRecord _ _ := .ok none
  listDirectory
    | .startup => [⟨.startup, "g2", "S2", []⟩, ⟨.startup, "g1", "S1", [("sector", "ai")]⟩]
    | .investor => []
  getTenant_isOk _ := rfl
  listMemberships_isOk principalRef tenantId := by cases principalRef <;> cases tenantId <;> rfl
  getFederation_isOk _ := rfl
  getDirectoryRecord_isOk _ _ := rfl
  tenantIds_taken _ h := nomatch h
  directoryPk kind := by cases kind <;> decide
  directorySize kind := by cases kind <;> decide

theorem reads_and_answers_twoStartups :
  ((∀ n : Nat, (((fun _ => twoStartups : Nat → ReadStore) n).listDirectory .startup).Perm
        (twoStartups.listDirectory .startup))
      ∧ (1 : Nat).repr.length ≤ maxStrDigits
      ∧ ∃ (fuel : Nat) (records : List DirectoryRecord),
        readPages latinDigits id (fun _ => twoStartups) .startup 1 fuel 0 none
            = some (records.map directoryView)
          ∧ records.Perm (twoStartups.listDirectory .startup)
          ∧ records.Pairwise fun record record' => record.recordId < record'.recordId)
    ∧ ((handle latinDigits twoStartups id "GET" "/role?p=a&t=b").isOk
      ↔ "GET" ≠ "GET" ∨ Answerable latinDigits twoStartups id "/role?p=a&t=b")
  := by
  have hperm : ∀ n : Nat, (((fun _ => twoStartups : Nat → ReadStore) n).listDirectory
      .startup).Perm (twoStartups.listDirectory .startup) := fun _ => List.Perm.refl _
  have hlimit : (1 : Nat).repr.length ≤ maxStrDigits := by decide
  have hreads := reads_and_answers twoStartups id latinDigits_lawful
  exact ⟨⟨hperm, hlimit, hreads.1 .startup _ hperm 1 hlimit⟩, hreads.2 "GET" _⟩

/-- A limit of one superscript digit is no number, and the dispatcher raises. -/
theorem handle_raises :
  ¬ ∀ (digits : Digits) (store : ReadStore) (requestTarget : String), digits.Lawful →
    (handle digits store id "GET" requestTarget).isOk
  := by
  intro h
  have hanswer := h latinDigits twoStartups "/directory/startup?limit=%C2%B2" latinDigits_lawful
  revert hanswer
  decide +kernel

example :
  (handle latinDigits twoStartups id "GET" "//[/x").isOk = false
    ∧ (handle latinDigits twoStartups id "GET" "/directory/startup?limit=1&cursor=1").isOk = true
  := by decide +kernel

end ControlPlaneReadDispatcher

end ControlPlane
