import SnackPortal.Data.Wire

/-!
# Audit ingest

What the ingest edges of the three audits share: the envelope of a request, and the reading of a
field of its event.  Whatever is wrong with a request has the same answer, so that a reading
either has a result or none.
-/

namespace ControlPlane.Ingest

open Wire (Entries item)

/-- What the text of a secret, a token or a data source has in it. -/
def secretShapes : List String :=
  ["eyJ", "-----BEGIN", "AKIA", "ghp_", "xox", "://"]

def maxRefLength : ℕ := 512

/-- A text that an event may carry. -/
def Admitted (text : CodePoints) : Prop :=
  text.length ≤ maxRefLength
    ∧ ∀ marker ∈ secretShapes, ¬ CodePoints.contains text (CodePoints.ofString marker)

instance : DecidablePred Admitted :=
  fun text => inferInstanceAs (Decidable (text.length ≤ maxRefLength
    ∧ ∀ marker ∈ secretShapes, ¬ CodePoints.contains text (CodePoints.ofString marker)))

/-- `_checked_string`. -/
def checkedString : Wire → Option CodePoints
  | .text s => if Admitted s then some s else none
  | _ => none

/-- `_required_string`. -/
def requiredString (event : Entries) (key : String) : Option CodePoints := do
  let value ← checkedString (← item key event)
  guard (value ≠ [])
  return value

/-- `_optional_string`. -/
def optionalString (event : Entries) (key : String) : Option (Option CodePoints) := do
  match ← item key event with
  | .null => return none
  | value => return some (← checkedString value)

def topLevelKeys : List String :=
  ["version", "event"]

/-- The event of an envelope with exactly these keys, in the only version there is. -/
def parseEnvelope (eventKeys forbiddenEventKeys : List String) (body : Wire) :
    Option Entries := do
  let envelope ← body.asObject
  guard (Wire.hasExactly topLevelKeys envelope)
  guard ((← item "version" envelope).equalsInt 1)
  let event ← (← item "event" envelope).asObject
  guard (∀ key ∈ forbiddenEventKeys, item key event = none)
  guard (Wire.hasExactly eventKeys event)
  guard ((← (← item "event_version" event).asInt) = 1)
  return event

/-! ## What is read -/

/-- The event has this text in a field that has to have one. -/
def Required (event : Entries) (key : String) (text : CodePoints) : Prop :=
  item key event = some (.text text) ∧ Admitted text ∧ text ≠ []

/-- The event has this text, or null, in a field. -/
def Nullable (event : Entries) (key : String) : Option CodePoints → Prop
  | none => item key event = some .null
  | some text => item key event = some (.text text) ∧ Admitted text

theorem Required.nullable {event : Entries} {key : String} {text : CodePoints}
    (h : Required event key text) :
  Nullable event key (some text)
  := ⟨h.1, h.2.1⟩

theorem Nullable.required {event : Entries} {key : String} {text : CodePoints}
    (h : Nullable event key (some text)) (hne : text ≠ []) :
  Required event key text
  := ⟨h.1, h.2, hne⟩

/-- A field with a text has one text. -/
theorem Required.unique {event : Entries} {key : String} {s text : CodePoints}
    (h : Required event key s) (hitem : item key event = some (.text text)) :
  s = text
  := by
  rw [h.1] at hitem
  apply Wire.text.inj (Option.some.inj hitem)

theorem Nullable.unique {event : Entries} {key : String} {s : Option CodePoints}
    {text : CodePoints} (h : Nullable event key s) (hitem : item key event = some (.text text)) :
  s = some text
  := by
  cases s with
  | none =>
      rw [h] at hitem
      cases hitem
  | some s =>
      rw [h.1] at hitem
      rw [Wire.text.inj (Option.some.inj hitem)]

/-- The body is an envelope around an event with these keys, its version being as asked. -/
structure Envelope (IsVersion : Wire → Prop) (eventKeys : List String) (body : Wire)
    (event : Entries) : Prop where
  envelope : ∃ entries version, body = .object entries ∧ Wire.hasExactly topLevelKeys entries
    ∧ item "version" entries = some version ∧ IsVersion version
    ∧ item "event" entries = some (.object event)
  keys : Wire.hasExactly eventKeys event
  eventVersion : item "event_version" event = some (.int 1)

section Read

variable {event : Entries} {key : String} {text : CodePoints}

/-- What comes behind a guard that holds. -/
theorem guard_bind_eq_some_iff {α : Type} {p : Prop} [Decidable p] {f : Unit → Option α} {a : α} :
  ((guard p : Option Unit) >>= f) = some a ↔ p ∧ f () = some a
  := by
  by_cases hp : p
  · simp [guard, hp]
  · simp [guard, hp]

theorem checkedString_eq_some_iff {value : Wire} :
  checkedString value = some text ↔ value = .text text ∧ Admitted text
  := by
  cases value with
  | text s =>
      rw [checkedString]
      constructor
      · intro h
        split at h
        · rename_i hadmitted
          obtain rfl := Option.some.inj h
          exact ⟨rfl, hadmitted⟩
        · cases h
      · intro ⟨htext, hadmitted⟩
        obtain rfl := Wire.text.inj htext
        rw [if_pos hadmitted]
  | null | bool _ | int _ | float _ | list _ | object _ =>
      constructor
      · nofun
      · nofun

theorem requiredString_eq_some_iff :
  requiredString event key = some text ↔ Required event key text
  := by
  rw [requiredString]
  constructor
  · intro h
    obtain ⟨value, hitem, h⟩ := Option.bind_eq_some_iff.mp h
    obtain ⟨text', hchecked, h⟩ := Option.bind_eq_some_iff.mp h
    obtain ⟨hne, h⟩ := guard_bind_eq_some_iff.mp h
    obtain rfl := Option.some.inj h
    obtain ⟨rfl, hadmitted⟩ := checkedString_eq_some_iff.mp hchecked
    exact ⟨hitem, hadmitted, hne⟩
  · intro ⟨hitem, hadmitted, hne⟩
    apply Option.bind_eq_some_iff.mpr ⟨_, hitem, _⟩
    apply Option.bind_eq_some_iff.mpr ⟨text, checkedString_eq_some_iff.mpr ⟨rfl, hadmitted⟩, _⟩
    apply guard_bind_eq_some_iff.mpr
    exact ⟨hne, rfl⟩

theorem optionalString_eq_some_iff {text : Option CodePoints} :
  optionalString event key = some text ↔ Nullable event key text
  := by
  rw [optionalString]
  constructor
  · intro h
    obtain ⟨value, hitem, h⟩ := Option.bind_eq_some_iff.mp h
    split at h
    · obtain rfl := Option.some.inj h
      apply hitem
    · obtain ⟨text', hchecked, h⟩ := Option.bind_eq_some_iff.mp h
      obtain rfl := Option.some.inj h
      obtain ⟨rfl, hadmitted⟩ := checkedString_eq_some_iff.mp hchecked
      exact ⟨hitem, hadmitted⟩
  · intro h
    cases text with
    | none =>
        apply Option.bind_eq_some_iff.mpr ⟨_, h, _⟩
        rfl
    | some text =>
        obtain ⟨hitem, hadmitted⟩ := h
        apply Option.bind_eq_some_iff.mpr ⟨_, hitem, _⟩
        have hchecked : checkedString (.text text) = some text :=
          checkedString_eq_some_iff.mpr ⟨rfl, hadmitted⟩
        simp only [hchecked]
        rfl

/-- The keys of an event with exactly some names. -/
theorem item_eq_none {names : List String} {entries : Entries}
    (h : Wire.hasExactly names entries) {key : String} (hkey : key ∉ names) :
  item key entries = none
  := by
  rw [Wire.hasExactly, Bool.and_eq_true, List.all_eq_true] at h
  rw [item, List.lookup_eq_none_iff]
  intro e he
  obtain ⟨name, hname, heq⟩ := List.any_eq_true.mp (h.1 e he)
  apply bne_iff_ne.mpr
  intro hsame
  rw [of_decide_eq_true heq] at hsame
  rw [CodePoints.ofString_injective hsame] at hkey
  apply hkey hname

/-- The keys of an event are not forbidden where they are exactly others. -/
theorem parseEnvelope_eq_some_iff {eventKeys forbiddenEventKeys : List String} {body : Wire}
    (hdisjoint : ∀ key ∈ forbiddenEventKeys, key ∉ eventKeys) :
  parseEnvelope eventKeys forbiddenEventKeys body = some event
    ↔ Envelope (fun version => version.equalsInt 1) eventKeys body event
  := by
  have hobject : ∀ {value : Wire} {entries : Entries}, value.asObject = some entries ↔
      value = .object entries := by
    intro value entries
    cases value <;> simp [Wire.asObject]
  have hint : ∀ {value : Wire} {n : ℤ}, value.asInt = some n ↔ value = .int n := by
    intro value n
    cases value <;> simp [Wire.asInt]
  rw [parseEnvelope]
  constructor
  · intro h
    obtain ⟨entries, hentries, h⟩ := Option.bind_eq_some_iff.mp h
    obtain ⟨htop, h⟩ := guard_bind_eq_some_iff.mp h
    obtain ⟨version, hversion, h⟩ := Option.bind_eq_some_iff.mp h
    obtain ⟨hone, h⟩ := guard_bind_eq_some_iff.mp h
    obtain ⟨value, hvalue, h⟩ := Option.bind_eq_some_iff.mp h
    obtain ⟨event', hevent, h⟩ := Option.bind_eq_some_iff.mp h
    obtain ⟨-, h⟩ := guard_bind_eq_some_iff.mp h
    obtain ⟨hkeys, h⟩ := guard_bind_eq_some_iff.mp h
    obtain ⟨number, hnumber, h⟩ := Option.bind_eq_some_iff.mp h
    obtain ⟨n, hn, h⟩ := Option.bind_eq_some_iff.mp h
    obtain ⟨rfl, h⟩ := guard_bind_eq_some_iff.mp h
    obtain rfl := Option.some.inj h
    obtain rfl := hobject.mp hevent
    obtain rfl := hint.mp hn
    constructor
    · exact ⟨entries, version, hobject.mp hentries, htop, hversion, hone, hvalue⟩
    · apply hkeys
    · apply hnumber
  · intro ⟨⟨entries, version, hentries, htop, hversion, hone, hvalue⟩, hkeys, hnumber⟩
    apply Option.bind_eq_some_iff.mpr ⟨entries, hobject.mpr hentries, _⟩
    apply guard_bind_eq_some_iff.mpr ⟨htop, _⟩
    apply Option.bind_eq_some_iff.mpr ⟨version, hversion, _⟩
    apply guard_bind_eq_some_iff.mpr ⟨hone, _⟩
    apply Option.bind_eq_some_iff.mpr ⟨_, hvalue, _⟩
    apply Option.bind_eq_some_iff.mpr ⟨event, rfl, _⟩
    apply guard_bind_eq_some_iff.mpr ⟨_, _⟩
    · intro key hkey
      apply item_eq_none hkeys (hdisjoint key hkey)
    · apply guard_bind_eq_some_iff.mpr ⟨hkeys, _⟩
      apply Option.bind_eq_some_iff.mpr ⟨_, hnumber, _⟩
      apply Option.bind_eq_some_iff.mpr ⟨1, rfl, _⟩
      rfl

end Read

end ControlPlane.Ingest
